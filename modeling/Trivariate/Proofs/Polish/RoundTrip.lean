import Trivariate.Proofs.Polish.Printed

namespace Trivariate.Polish

open Token

variable {κ : Type}

theorem ofText_polish {e : Expr Float} (integral : ∀ k ∈ e.constants, Number.Integral k) :
    Scan.ofText (e.polish Number.write) =
      ⟨Layout.lexemes Number.write 0 (e.polishLayout 0), none⟩ := by
  apply Scan.ofText_layout (e.toList_polish Number.write)
  · exact (e.integral_polishLayout_iff 0).mpr integral
  · exact e.spaced_polishLayout Number.write 0 clear_nil

theorem tokens_polish {e : Expr Float} (integral : ∀ k ∈ e.constants, Number.Integral k) :
    (Scan.ofText (e.polish Number.write)).tokens = (e.polishLayout 0).map Piece.token := by
  rw [ofText_polish integral]
  exact Layout.tokens_lexemes ..

theorem reads_polish {e : Expr Float} (integral : ∀ k ∈ e.constants, Number.Integral k) :
    Reads (e.polish Number.write) e := by
  have tokens := tokens_polish integral
  constructor
  · intro empty
    have nothing : Scan.ofText "" = ⟨[], none⟩ := Scan.ofChars_nil 0
    have symbols := e.symbols_polishLayout 0
    rw [← tokens, empty, nothing] at symbols
    exact e.preorder_ne_nil symbols.symm
  · constructor
    · intro refused
      rw [refused, tokens_refused.1] at tokens
      exact e.polishLayout_ne_leaf 0 rfl tokens.symm
    · intro refused
      rw [refused, tokens_refused.2] at tokens
      exact e.polishLayout_ne_leaf 0 rfl tokens.symm
  · rw [ofText_polish integral]
  · rw [tokens]
    exact e.balanced_polishLayout 0
  · rw [tokens]
    exact e.symbols_polishLayout 0
  · rintro ⟨⟨t, member, paren⟩, rfl⟩
    rw [tokens] at member
    cases List.mem_singleton.mp member
    cases paren

/-- Up to a place in the tokens of a tree, and with any symbol there, the reader finds no fault. -/
theorem clean_before {before after us : List (Token κ)} {k : κ} {e : Expr κ}
    (balanced : Balanced (before ++ .number k :: after))
    (spells : symbols (before ++ .number k :: after) = e.preorder)
    (symbol : us = [] ∨ ∃ t, us = [t] ∧ t.isParen = false) :
    (∀ vs, vs <+: before ++ us → closes vs ≤ opens vs) ∧ ¬ Begins 2 (symbols (before ++ us)) := by
  have covered : ∀ vs, vs <+: before → closes vs ≤ opens vs := by
    intro vs beginning
    exact balanced.covered vs (beginning.trans (List.prefix_append ..))
  have single : ¬ Begins 2 (symbols before ++ [.number k]) := by
    intro two
    have whole := two.append (symbols after)
    rw [List.append_assoc, List.singleton_append] at whole
    have operand : symbols (.number k :: after) = .number k :: symbols after := rfl
    rw [symbols_append, operand] at spells
    rw [spells, begins_preorder_iff] at whole
    omega
  rcases symbol with rfl | ⟨t, rfl, plain⟩
  · rw [List.append_nil]
    exact ⟨covered, fun two => single (two.append _)⟩
  · constructor
    · intro vs beginning
      rcases List.prefix_concat_iff.mp beginning with rfl | inside
      · have cover := covered before (List.prefix_refl _)
        rw [opens_append, closes_append, opens_plain plain, closes_plain plain]
        exact cover
      · exact covered vs inside
    · -- The constant in place of the symbol would complete the two trees as well.
      intro two
      rw [symbols_append, symbols_cons, plain] at two
      exact single (two.of_last k)

theorem not_refused {text : String} {place : Char × Nat}
    (stop : (Scan.ofText text).stop = some place) : text ∉ ["", "(x)", "(0)"] := by
  have complete : ∀ text ∈ ["", "(x)", "(0)"], (Scan.ofText text).stop = none := by
    decide +kernel
  intro refused
  rw [complete text refused] at stop
  cases stop

theorem parse_polish_other {e : Expr Float} {k : Float} {start : Nat}
    (first : Layout.FirstOther (e.polishLayout 0) k start) :
    ∃ symbol position, symbol ∈ ['.', 'i', 'N'] ∧ start ≤ position ∧
      position < start + (Number.write k).utf8ByteSize ∧
      parse (e.polish Number.write) = .error (.illegalSymbol symbol position) := by
  have spaced : Layout.Spaced Number.write (e.polishLayout 0) [] :=
    e.spaced_polishLayout Number.write 0 clear_nil
  obtain ⟨before, gap, after, ls, symbol, position, layout, scan, few, listed, low, high⟩ :=
    Scan.ofChars_firstOther spaced first
  refine ⟨symbol, position, listed, low, high, ?_⟩
  rw [← Expr.toList_polish, ← Scan.ofText] at scan
  have balanced := e.balanced_polishLayout 0
  have spells := e.symbols_polishLayout 0
  rw [layout, List.map_append, List.map_cons] at balanced spells
  have symbol : ls.map Lexeme.token = [] ∨ ∃ t, ls.map Lexeme.token = [t] ∧ t.isParen = false := by
    rcases few with rfl | ⟨l, rfl, plain⟩
    · exact Or.inl rfl
    · exact Or.inr ⟨l.token, rfl, plain⟩
  have clean := clean_before balanced spells symbol
  have read := not_refused (congrArg Scan.stop scan)
  rw [parse_eq_run read, scan]
  apply (Reading.start.run_eq_iff _ _ _).mpr
  rw [← Layout.tokens_lexemes Number.write 0, ← List.map_append] at clean
  exact verdict_of_clean clean.1 clean.2 (.lexical rfl)

theorem parse_polish_refused {e : Expr Float} (other : ¬ ∀ k ∈ e.constants, Number.Integral k) :
    ∃ refusal, parse (e.polish Number.write) = .error refusal := by
  rw [← e.integral_polishLayout_iff 0] at other
  obtain ⟨k, start, first⟩ := Layout.exists_firstOther other
  obtain ⟨_, _, -, -, -, refused⟩ := parse_polish_other first
  exact ⟨_, refused⟩

theorem parse_polish_eq_ok_iff (e : Expr Float) :
    parse (e.polish Number.write) = .ok e ↔ ∀ k ∈ e.constants, Number.Integral k := by
  refine ⟨fun read => ?_, fun integral => (parse_eq_ok_iff _ e).mpr (reads_polish integral)⟩
  by_contra other
  obtain ⟨refusal, refused⟩ := parse_polish_refused other
  rw [refused] at read
  cases read

/-- A tree of whole numbers is read back from its text. The text of any other tree is refused at a
symbol inside the first constant that is no whole number. -/
theorem parse_polish (e : Expr Float) :
    ((∀ k ∈ e.constants, Number.Integral k) → parse (e.polish Number.write) = .ok e) ∧
      ((∃ k ∈ e.constants, ¬ Number.Integral k) → ∃ k start symbol position,
        Layout.FirstOther (e.polishLayout 0) k start ∧ symbol ∈ ['.', 'i', 'N'] ∧
          start ≤ position ∧ position < start + (Number.write k).utf8ByteSize ∧
          parse (e.polish Number.write) = .error (.illegalSymbol symbol position)) := by
  constructor
  · intro integral
    exact (parse_eq_ok_iff _ e).mpr (reads_polish integral)
  · rintro ⟨k, member, other⟩
    have some : ¬ ∀ piece ∈ e.polishLayout 0, piece.token.Integral := by
      intro all
      exact other ((e.integral_polishLayout_iff 0).mp all k member)
    obtain ⟨k, start, first⟩ := Layout.exists_firstOther some
    obtain ⟨symbol, position, refused⟩ := parse_polish_other first
    exact ⟨k, start, symbol, position, first, refused⟩

example : parse ((.var .x + .const 0.5 : Expr Float).polish Number.write) =
    .error (.illegalSymbol '.' 6) := by
  decide +kernel

end Trivariate.Polish
