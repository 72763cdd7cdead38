import Trivariate.Proofs.Number.Literal
import Trivariate.Proofs.Polish.Language
import Trivariate.Proofs.Scan.Lossless

namespace Trivariate.Polish

open Token

structure Fits (ts : List (Token Float)) (e : Expr Float) : Prop where
  balanced : Balanced ts
  spells : symbols ts = e.preorder
  bare : ¬ ((∃ t ∈ ts, t.isParen = true) ∧ e = .var .x)

structure SameTokens (text text' : String) : Prop where
  complete : (Scan.ofText text).stop = none
  complete' : (Scan.ofText text').stop = none
  tokens : (Scan.ofText text).tokens = (Scan.ofText text').tokens

/-- The texts consist of the same lexemes in the same order, each behind a number of spaces of its
own, and no token takes up the character behind it in either of them. -/
def Respaced (text text' : String) : Prop :=
  ∃ ls ls' : List (Lexeme Float), Laid 0 text.toList ls none ∧ Laid 0 text'.toList ls' none ∧
    ls.map (fun l => (l.text, l.token)) = ls'.map fun l => (l.text, l.token)

theorem respaced_iff (text text' : String) :
    Respaced text text' ↔ (Scan.ofText text).stop = none ∧ (Scan.ofText text').stop = none ∧
      (Scan.ofText text).lexemes.map (fun l => (l.text, l.token)) =
        (Scan.ofText text').lexemes.map fun l => (l.text, l.token) := by
  constructor
  · rintro ⟨ls, ls', laid, laid', same⟩
    have scan : Scan.ofText text = ⟨ls, none⟩ := laid.ofChars_eq
    have scan' : Scan.ofText text' = ⟨ls', none⟩ := laid'.ofChars_eq
    rw [scan, scan']
    exact ⟨rfl, rfl, same⟩
  · rintro ⟨complete, complete', same⟩
    refine ⟨_, _, ?_, ?_, same⟩
    · rw [← complete]
      exact Scan.laid_ofChars 0 text.toList
    · rw [← complete']
      exact Scan.laid_ofChars 0 text'.toList

theorem Respaced.sameTokens {text text' : String} (respaced : Respaced text text') :
    SameTokens text text' := by
  obtain ⟨complete, complete', same⟩ := (respaced_iff text text').mp respaced
  have tokens := congrArg (List.map Prod.snd) same
  rw [List.map_map, List.map_map] at tokens
  exact ⟨complete, complete', tokens⟩

theorem parse_eq_ok_iff_fits {text : String} (complete : (Scan.ofText text).stop = none)
    (e : Expr Float) :
    parse text = .ok e ↔ text ≠ "(0)" ∧ Fits (Scan.ofText text).tokens e := by
  rw [parse_eq_ok_iff]
  constructor
  · intro reads
    exact ⟨reads.accepted.2, reads.balanced, reads.spells, reads.bare⟩
  · rintro ⟨accepted, balanced, spells, bare⟩
    refine ⟨?_, ⟨?_, accepted⟩, complete, balanced, spells, bare⟩
    · rintro rfl
      have nothing : Scan.ofText "" = ⟨[], none⟩ := Scan.ofChars_nil 0
      rw [nothing] at spells
      exact e.preorder_ne_nil spells.symm
    · rintro rfl
      rw [tokens_refused.1] at spells bare
      have leaf : (Expr.var .x : Expr Float).preorder = e.preorder := spells
      exact bare ⟨⟨.opening, by simp, rfl⟩, (Expr.preorder_injective leaf).symm⟩

/-- Two texts of the same tokens are read alike unless one of them is `(0)`, which is refused while
any other text of its tokens is read as zero. Spaces before, between and behind tokens that stay
apart do not change the tokens. -/
theorem parse_eq_ok_iff_of_tokens {text text' : String}
    (same : SameTokens text text' ∨ Respaced text text') :
    (text ≠ "(0)" → text' ≠ "(0)" → ∀ e, parse text = .ok e ↔ parse text' = .ok e) ∧
      (text = "(0)" → text' ≠ "(0)" →
        (∀ e, parse text ≠ .ok e) ∧ parse text' = .ok (.const 0)) := by
  obtain ⟨complete, complete', tokens⟩ := same.elim id Respaced.sameTokens
  constructor
  · intro accepted accepted' e
    rw [parse_eq_ok_iff_fits complete, parse_eq_ok_iff_fits complete', tokens]
    simp only [ne_eq, accepted, accepted', not_false_eq_true]
  · rintro rfl accepted'
    refine ⟨fun e read => ((parse_eq_ok_iff_fits complete e).mp read).1 rfl, ?_⟩
    rw [tokens_refused.2] at tokens
    have zero : Number.ofDigits false ['0'] = 0 := by decide +kernel
    rw [parse_eq_ok_iff_fits complete', ← tokens, zero]
    refine ⟨accepted', Balanced.enclosed (.plain rfl), rfl, ?_⟩
    rintro ⟨-, leaf⟩
    cases leaf

theorem sum_parse_eq_ok_iff_of_tokens :
    Respaced "(+ x 1)" " ( +x  1)" ∧ SameTokens "(+ x 1)" "(+ x 01)" ∧
      (∀ e, parse "(+ x 1)" = .ok e ↔ parse " ( +x  1)" = .ok e) ∧
      ∀ e, parse "(+ x 1)" = .ok e ↔ parse "(+ x 01)" = .ok e := by
  have respaced : Respaced "(+ x 1)" " ( +x  1)" := by
    rw [respaced_iff]
    decide +kernel
  have same : SameTokens "(+ x 1)" "(+ x 01)" := by
    constructor <;> decide +kernel
  exact ⟨respaced, same,
    (parse_eq_ok_iff_of_tokens (Or.inr respaced)).1 (by decide) (by decide),
    (parse_eq_ok_iff_of_tokens (Or.inl same)).1 (by decide) (by decide)⟩

theorem zero_spaced :
    ¬ ∀ (text text' : String) (e : Expr Float), SameTokens text text' →
      (parse text = .ok e ↔ parse text' = .ok e) := by
  intro alike
  have same : SameTokens "( 0 )" "(0)" := by
    constructor <;> decide +kernel
  have read : parse "( 0 )" = .ok (.const 0) := by decide +kernel
  have refused : parse "(0)" ≠ .ok (.const 0) := by decide +kernel
  exact refused ((alike "( 0 )" "(0)" _ same).mp read)

end Trivariate.Polish
