import Trivariate.Proofs.Polish.Language

namespace Trivariate

variable {κ : Type}

namespace Expr

open Polish Token

def polishLayout (gap : Nat) : Expr κ → List (Piece κ)
  | .const k => [⟨gap, .number k⟩]
  | .var v => [⟨gap, .var v⟩]
  | .unary op a => ⟨gap, .opening⟩ :: ⟨0, .unary op⟩ :: (a.polishLayout 1 ++ [⟨0, .closing⟩])
  | .binary op l r =>
    ⟨gap, .opening⟩ :: ⟨0, .binary op⟩ ::
      (l.polishLayout 1 ++ (r.polishLayout 1 ++ [⟨0, .closing⟩]))

theorem text_polishLayout (numeral : κ → String) (gap : Nat) (e : Expr κ) :
    Layout.text numeral (e.polishLayout gap) =
      List.replicate gap ' ' ++ (e.polish numeral).toList := by
  induction e generalizing gap with
  | const k => simp [polishLayout, Layout.text, Token.write, polish]
  | var v => simp [polishLayout, Layout.text, Token.write, polish, Variable.name]
  | unary op a ih =>
    simp [polishLayout, Layout.text_cons, Layout.text_append, ih, Token.write, polish]
  | binary op l r ihl ihr =>
    simp [polishLayout, Layout.text_cons, Layout.text_append, ihl, ihr, Token.write, polish]

theorem toList_polish (numeral : κ → String) (e : Expr κ) :
    (e.polish numeral).toList = Layout.text numeral (e.polishLayout 0) := by
  rw [text_polishLayout, List.replicate_zero, List.nil_append]

theorem symbols_polishLayout (gap : Nat) (e : Expr κ) :
    symbols ((e.polishLayout gap).map Piece.token) = e.preorder := by
  induction e generalizing gap with
  | const k => rfl
  | var v => rfl
  | unary op a ih =>
    simp [polishLayout, symbols_cons, symbols_append, isParen, ih, preorder]
  | binary op l r ihl ihr =>
    simp [polishLayout, symbols_cons, symbols_append, isParen, ihl, ihr, preorder]

theorem balanced_polishLayout (gap : Nat) (e : Expr κ) :
    Balanced ((e.polishLayout gap).map Piece.token) := by
  induction e generalizing gap with
  | const k => exact .plain rfl
  | var v => exact .plain rfl
  | unary op a ih =>
    have operator : Balanced [(.unary op : Token κ)] := .plain rfl
    simpa [polishLayout] using (operator.append (ih 1)).enclosed
  | binary op l r ihl ihr =>
    have operator : Balanced [(.binary op : Token κ)] := .plain rfl
    simpa [polishLayout] using ((operator.append (ihl 1)).append (ihr 1)).enclosed

theorem polishLayout_ne_leaf (gap : Nat) (e : Expr κ) {leaf : Token κ}
    (operand : leaf.isOperand = true) :
    (e.polishLayout gap).map Piece.token ≠ [.opening, leaf, .closing] := by
  intro same
  cases e with
  | const k => simp [polishLayout] at same
  | var v => simp [polishLayout] at same
  | unary op a =>
    obtain ⟨rfl, -⟩ : .unary op = leaf ∧ _ := by simpa [polishLayout] using same
    cases operand
  | binary op l r =>
    obtain ⟨rfl, -⟩ : .binary op = leaf ∧ _ := by simpa [polishLayout] using same
    cases operand

theorem integral_polishLayout_iff (gap : Nat) (e : Expr Float) :
    (∀ piece ∈ e.polishLayout gap, piece.token.Integral) ↔
      ∀ k ∈ e.constants, Number.Integral k := by
  have number : ∀ k, .number k ∈ (e.polishLayout gap).map Piece.token ↔ k ∈ e.constants := by
    intro k
    rw [mem_constants_iff, ← e.symbols_polishLayout gap, symbols, List.mem_filter]
    exact (and_iff_left rfl).symm
  simp only [Layout.integral_iff, number]

theorem clear_layout (numeral : κ → String) (e : Expr κ) (ps : List (Piece κ)) (rest : List Char) :
    Clear (Layout.text numeral (e.polishLayout 1 ++ ps) ++ rest) := by
  rw [Layout.text_append, text_polishLayout]
  exact @clear_cons ' ' rfl _

theorem clear_closing (numeral : κ → String) (rest : List Char) :
    Clear (Layout.text numeral [⟨0, .closing⟩] ++ rest) :=
  @clear_cons ')' rfl rest

theorem spaced_polishLayout (numeral : κ → String) (gap : Nat) (e : Expr κ) {rest : List Char}
    (clear : Clear rest) : Layout.Spaced numeral (e.polishLayout gap) rest := by
  induction e generalizing gap rest with
  | const k => exact ⟨apart_of_clear _ clear, trivial⟩
  | var v => exact ⟨apart_of_clear _ clear, trivial⟩
  | unary op a ih =>
    refine ⟨nofun, apart_of_clear _ (clear_layout numeral a _ _), ?_⟩
    apply (Layout.spaced_append ..).mpr
    exact ⟨ih 1 (clear_closing numeral rest), nofun, trivial⟩
  | binary op l r ihl ihr =>
    refine ⟨nofun, apart_of_clear _ (clear_layout numeral l _ _), ?_⟩
    apply (Layout.spaced_append ..).mpr
    refine ⟨ihl 1 (clear_layout numeral r _ _), ?_⟩
    apply (Layout.spaced_append ..).mpr
    exact ⟨ihr 1 (clear_closing numeral rest), nofun, trivial⟩

end Expr

end Trivariate
