import Trivariate.Proofs.ReversePolish.Language

namespace Trivariate

variable {κ : Type}

namespace Expr

open Token

def reversePolishLayout (gap : Nat) : Expr κ → List (Piece κ)
  | .const k => [⟨gap, .number k⟩]
  | .var v => [⟨gap, .var v⟩]
  | .unary op a => a.reversePolishLayout gap ++ [⟨1, .unary op⟩]
  | .binary op l r =>
    l.reversePolishLayout gap ++ (r.reversePolishLayout 1 ++ [⟨1, .binary op⟩])

theorem text_reversePolishLayout (numeral : κ → String) (gap : Nat) (e : Expr κ) :
    Layout.text numeral (e.reversePolishLayout gap) =
      List.replicate gap ' ' ++ (e.reversePolish numeral).toList := by
  induction e generalizing gap with
  | const k => simp [reversePolishLayout, Layout.text, Token.write, reversePolish]
  | var v => simp [reversePolishLayout, Layout.text, Token.write, reversePolish, Variable.name]
  | unary op a ih =>
    simp [reversePolishLayout, Layout.text_append, Layout.text_cons, ih, Token.write, reversePolish]
  | binary op l r ihl ihr =>
    simp [reversePolishLayout, Layout.text_append, Layout.text_cons, ihl, ihr, Token.write,
      reversePolish]

theorem toList_reversePolish (numeral : κ → String) (e : Expr κ) :
    (e.reversePolish numeral).toList = Layout.text numeral (e.reversePolishLayout 0) := by
  rw [text_reversePolishLayout, List.replicate_zero, List.nil_append]

theorem tokens_reversePolishLayout (gap : Nat) (e : Expr κ) :
    (e.reversePolishLayout gap).map Piece.token = e.postorder := by
  induction e generalizing gap with
  | const k => rfl
  | var v => rfl
  | unary op a ih => simp [reversePolishLayout, postorder, ih]
  | binary op l r ihl ihr => simp [reversePolishLayout, postorder, ihl, ihr]

theorem integral_reversePolishLayout_iff (gap : Nat) (e : Expr Float) :
    (∀ piece ∈ e.reversePolishLayout gap, piece.token.Integral) ↔
      ∀ k ∈ e.constants, Number.Integral k := by
  simp only [Layout.integral_iff, tokens_reversePolishLayout, mem_postorder_iff, mem_constants_iff]

theorem spaced_reversePolishLayout (numeral : κ → String) (gap : Nat) (e : Expr κ)
    {rest : List Char} (clear : Clear rest) :
    Layout.Spaced numeral (e.reversePolishLayout gap) rest := by
  have space : ∀ cs, Clear (' ' :: cs) := fun cs => clear_cons rfl cs
  induction e generalizing gap rest with
  | const k => exact ⟨apart_of_clear _ clear, trivial⟩
  | var v => exact ⟨apart_of_clear _ clear, trivial⟩
  | unary op a ih =>
    apply (Layout.spaced_append ..).mpr
    exact ⟨ih gap (space _), apart_of_clear _ clear, trivial⟩
  | binary op l r ihl ihr =>
    have second : Clear
        (Layout.text numeral (r.reversePolishLayout 1 ++ [⟨1, .binary op⟩]) ++ rest) := by
      rw [Layout.text_append, text_reversePolishLayout]
      exact space _
    apply (Layout.spaced_append ..).mpr
    refine ⟨ihl gap second, ?_⟩
    apply (Layout.spaced_append ..).mpr
    exact ⟨ihr 1 (space _), apart_of_clear _ clear, trivial⟩

end Expr

namespace ReversePolish

theorem ofText_reversePolish {e : Expr Float} (integral : ∀ k ∈ e.constants, Number.Integral k) :
    Scan.ofText (e.reversePolish Number.write) =
      ⟨Layout.lexemes Number.write 0 (e.reversePolishLayout 0), none⟩ := by
  apply Scan.ofText_layout (e.toList_reversePolish Number.write)
  · exact (e.integral_reversePolishLayout_iff 0).mpr integral
  · exact e.spaced_reversePolishLayout Number.write 0 clear_nil

theorem tokens_reversePolish {e : Expr Float} (integral : ∀ k ∈ e.constants, Number.Integral k) :
    (Scan.ofText (e.reversePolish Number.write)).tokens = e.postorder := by
  rw [ofText_reversePolish integral, Scan.tokens, Layout.tokens_lexemes,
    e.tokens_reversePolishLayout]

theorem reads_reversePolish {e : Expr Float} (integral : ∀ k ∈ e.constants, Number.Integral k) :
    Reads (e.reversePolish Number.write) e := by
  have tokens := tokens_reversePolish integral
  refine ⟨?_, ?_, [], tokens⟩
  · rw [ofText_reversePolish integral]
  · intro t member
    rw [tokens] at member
    exact Expr.not_isParen_of_mem_postorder member

theorem parse_reversePolish_other {e : Expr Float}
    (other : ¬ ∀ k ∈ e.constants, Number.Integral k) :
    ∃ refusal, parse (e.reversePolish Number.write) = .error refusal := by
  rw [← e.integral_reversePolishLayout_iff 0] at other
  have spaced : Layout.Spaced Number.write (e.reversePolishLayout 0) [] :=
    e.spaced_reversePolishLayout Number.write 0 clear_nil
  obtain ⟨k, start, first⟩ := Layout.exists_firstOther other
  obtain ⟨_, _, _, _, symbol, position, -, scan, -⟩ := Scan.ofChars_firstOther spaced first
  rw [← Expr.toList_reversePolish, ← Scan.ofText] at scan
  cases read : parse (e.reversePolish Number.write) with
  | error refusal => exact ⟨refusal, rfl⟩
  | ok tree =>
    have complete := ((parse_eq_ok_iff _ tree).mp read).complete
    rw [scan] at complete
    cases complete

theorem parse_reversePolish_eq_ok_iff (e : Expr Float) :
    parse (e.reversePolish Number.write) = .ok e ↔ ∀ k ∈ e.constants, Number.Integral k := by
  refine ⟨fun read => ?_, fun integral => (parse_eq_ok_iff _ e).mpr (reads_reversePolish integral)⟩
  by_contra other
  obtain ⟨refusal, refused⟩ := parse_reversePolish_other other
  rw [refused] at read
  cases read

/-- A tree is read back from its text just when its constants are whole numbers, and the text of any
other tree is not read at all. -/
theorem parse_reversePolish (e : Expr Float) :
    (parse (e.reversePolish Number.write) = .ok e ↔ ∀ k ∈ e.constants, Number.Integral k) ∧
      ((∃ k ∈ e.constants, ¬ Number.Integral k) →
        ∃ refusal, parse (e.reversePolish Number.write) = .error refusal) := by
  refine ⟨parse_reversePolish_eq_ok_iff e, ?_⟩
  rintro ⟨k, member, other⟩
  exact parse_reversePolish_other fun integral => other (integral k member)

end ReversePolish

end Trivariate
