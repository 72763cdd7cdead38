import Mathlib
import Trivariate.Notation
import Trivariate.Proofs.Growth
import Trivariate.Proofs.Polish.RoundTrip
import Trivariate.Proofs.ReversePolish.RoundTrip

namespace Trivariate

variable {κ : Type}

namespace Expr

open Token

def operators : Expr κ → Nat
  | .const _ => 0
  | .var _ => 0
  | .unary _ a => 1 + a.operators
  | .binary _ l r => 1 + l.operators + r.operators

theorem length_preorder (e : Expr κ) : e.preorder.length = e.nodes := by
  induction e with
  | const k => rfl
  | var v => rfl
  | unary op a ih =>
    simp only [preorder, nodes, List.length_cons, ih]
    omega
  | binary op l r ihl ihr =>
    simp only [preorder, nodes, List.length_cons, List.length_append, ihl, ihr]
    omega

theorem length_postorder (e : Expr κ) : e.postorder.length = e.nodes := by
  induction e with
  | const k => rfl
  | var v => rfl
  | unary op a ih =>
    simp only [postorder, nodes, List.length_append, List.length_singleton, ih]
    omega
  | binary op l r ihl ihr =>
    simp only [postorder, nodes, List.length_append, List.length_singleton, ihl, ihr]
    omega

theorem mem_vars_iff {e : Expr κ} {v : Variable} : v ∈ e.vars ↔ .var v ∈ e.preorder := by
  simp only [mem_vars]
  induction e with
  | const k => simp [mentions, preorder]
  | var w => simp [mentions, preorder, eq_comm]
  | unary op a ih => simp [mentions, preorder, ih]
  | binary op l r ihl ihr => simp [mentions, preorder, ihl, ihr]

end Expr

namespace Polish

open Token

/-- How many parentheses are open after the tokens, or below zero how many too many were closed. -/
def excess (ts : List (Token κ)) : ℤ :=
  opens ts - closes ts

def excesses (ts : List (Token κ)) : Set ℤ :=
  {n | ∃ us, us <+: ts ∧ excess us = n}

theorem excess_append (ts us : List (Token κ)) : excess (ts ++ us) = excess ts + excess us := by
  unfold excess
  simp only [opens_append, closes_append]
  omega

theorem excess_plain {t : Token κ} (plain : t.isParen = false) : excess [t] = 0 := by
  simp [excess, opens_plain plain, closes_plain plain]

theorem Balanced.excess_eq_zero {ts : List (Token κ)} (balanced : Balanced ts) :
    excess ts = 0 := by
  have equal := balanced.equal
  unfold excess
  omega

theorem zero_mem_excesses (ts : List (Token κ)) : 0 ∈ excesses ts :=
  ⟨[], List.nil_prefix, rfl⟩

theorem mem_excesses_singleton {t : Token κ} {n : ℤ} :
    n ∈ excesses [t] ↔ n = 0 ∨ n = excess [t] := by
  constructor
  · rintro ⟨us, beginning, rfl⟩
    rcases List.prefix_cons_iff.mp beginning with rfl | ⟨vs, rfl, nothing⟩
    · exact Or.inl rfl
    · obtain rfl := List.prefix_nil.mp nothing
      exact Or.inr rfl
  · rintro (rfl | rfl)
    · exact zero_mem_excesses _
    · exact ⟨[t], List.prefix_refl _, rfl⟩

theorem mem_excesses_append {ts us : List (Token κ)} {n : ℤ} :
    n ∈ excesses (ts ++ us) ↔ n ∈ excesses ts ∨ n - excess ts ∈ excesses us := by
  simp only [excesses, Set.mem_ofPred_eq, prefix_append_iff]
  constructor
  · rintro ⟨vs, inside | ⟨ws, later, rfl⟩, rfl⟩
    · exact Or.inl ⟨vs, inside, rfl⟩
    · refine Or.inr ⟨ws, later, ?_⟩
      rw [excess_append, add_sub_cancel_left]
  · rintro (⟨vs, inside, rfl⟩ | ⟨ws, later, height⟩)
    · exact ⟨vs, Or.inl inside, rfl⟩
    · refine ⟨ts ++ ws, Or.inr ⟨ws, later, rfl⟩, ?_⟩
      rw [excess_append, height, add_sub_cancel]

theorem Balanced.excesses_append {ts : List (Token κ)} (balanced : Balanced ts)
    (us : List (Token κ)) : excesses (ts ++ us) = excesses ts ∪ excesses us := by
  ext n
  simp only [mem_excesses_append, balanced.excess_eq_zero, sub_zero, Set.mem_union]

theorem Balanced.mem_excesses_enclosed {ts : List (Token κ)} (balanced : Balanced ts) {n : ℤ} :
    n ∈ excesses (.opening :: (ts ++ [.closing])) ↔ n = 0 ∨ n - 1 ∈ excesses ts := by
  have opening : excess [(.opening : Token κ)] = 1 := rfl
  have closing : excess [(.closing : Token κ)] = -1 := rfl
  have bottom := zero_mem_excesses ts
  rw [← List.singleton_append, mem_excesses_append, balanced.excesses_append, Set.mem_union,
    mem_excesses_singleton, mem_excesses_singleton, opening, closing]
  constructor
  · rintro ((rfl | rfl) | inside | first | last)
    · exact Or.inl rfl
    · exact Or.inr bottom
    · exact Or.inr inside
    · exact Or.inr (first ▸ bottom)
    · exact Or.inl (by omega)
  · rintro (rfl | inside)
    · exact Or.inl (Or.inl rfl)
    · exact Or.inr (Or.inl inside)

theorem isGreatest_plain {t : Token κ} (plain : t.isParen = false) :
    IsGreatest (excesses [t]) 0 := by
  constructor
  · exact zero_mem_excesses _
  · intro n member
    rcases mem_excesses_singleton.mp member with rfl | rfl
    · exact le_refl 0
    · exact le_of_eq (excess_plain plain)

theorem Balanced.isGreatest_append {ts us : List (Token κ)} (balanced : Balanced ts) {m n : ℤ}
    (left : IsGreatest (excesses ts) m) (right : IsGreatest (excesses us) n) :
    IsGreatest (excesses (ts ++ us)) (max m n) := by
  rw [balanced.excesses_append]
  exact left.union right

theorem Balanced.isGreatest_enclosed {ts : List (Token κ)} (balanced : Balanced ts) {m : ℤ}
    (inner : IsGreatest (excesses ts) m) :
    IsGreatest (excesses (.opening :: (ts ++ [.closing]))) (m + 1) := by
  have bottom := inner.2 (zero_mem_excesses ts)
  constructor
  · apply balanced.mem_excesses_enclosed.mpr
    rw [add_sub_cancel_right]
    exact Or.inr inner.1
  · intro n member
    rcases balanced.mem_excesses_enclosed.mp member with rfl | inside
    · omega
    · have below := inner.2 inside
      omega

theorem Balanced.isGreatest_applied {t : Token κ} (plain : t.isParen = false)
    {ts : List (Token κ)} (balanced : Balanced ts) {m : ℤ} (operands : IsGreatest (excesses ts) m) :
    IsGreatest (excesses (.opening :: t :: (ts ++ [.closing]))) (m + 1) := by
  have operator : Balanced [t] := .plain plain
  have bottom := operands.2 (zero_mem_excesses ts)
  have inner := operator.isGreatest_append (isGreatest_plain plain) operands
  rw [max_eq_right bottom] at inner
  exact (operator.append balanced).isGreatest_enclosed inner

end Polish

namespace Expr

open Polish Token

theorem opens_polishLayout (gap : Nat) (e : Expr κ) :
    opens ((e.polishLayout gap).map Piece.token) = e.operators := by
  induction e generalizing gap with
  | const k => rfl
  | var v => rfl
  | unary op a ih =>
    have pair : opens (((unary op a).polishLayout gap).map Piece.token) =
        1 + opens ((a.polishLayout 1).map Piece.token) := by
      simp [polishLayout, opens, Nat.add_comm]
    rw [pair, ih, operators]
  | binary op l r ihl ihr =>
    have pair : opens (((binary op l r).polishLayout gap).map Piece.token) =
        1 + (opens ((l.polishLayout 1).map Piece.token) +
          opens ((r.polishLayout 1).map Piece.token)) := by
      simp [polishLayout, opens, Nat.add_comm]
    rw [pair, ihl, ihr, operators, Nat.add_assoc]

theorem isGreatest_excesses_polishLayout (gap : Nat) (e : Expr κ) :
    IsGreatest (excesses ((e.polishLayout gap).map Piece.token)) (e.depth - 1) := by
  induction e generalizing gap with
  | const k => exact isGreatest_plain rfl
  | var v => exact isGreatest_plain rfl
  | unary op a ih =>
    have peak := (a.balanced_polishLayout 1).isGreatest_applied
      (show (Token.unary op).isParen = false from rfl) (ih 1)
    have height : (a.depth : ℤ) - 1 + 1 = (unary op a).depth - 1 := by
      simp only [depth]
      omega
    rw [height] at peak
    simpa [polishLayout] using peak
  | binary op l r ihl ihr =>
    have left := l.balanced_polishLayout 1
    have right := r.balanced_polishLayout 1
    have peak := (left.append right).isGreatest_applied
      (show (Token.binary op).isParen = false from rfl) (left.isGreatest_append (ihl 1) (ihr 1))
    have height : max ((l.depth : ℤ) - 1) (r.depth - 1) + 1 = (binary op l r).depth - 1 := by
      simp only [depth]
      omega
    rw [height] at peak
    simpa [polishLayout] using peak

end Expr

structure ReversePolish.Measures (s : Scan κ) (e : Expr κ) : Prop where
  complete : s.stop = none
  nodes : s.tokens.length = e.nodes
  plain : ∀ t ∈ s.tokens, t.isParen = false
  vars : ∀ v, v ∈ e.vars ↔ .var v ∈ s.tokens

/-- The tokens of a text with parentheses show the size of a tree and its variables by the symbols,
and how many operators it has and how deep it is by the parentheses. -/
structure Polish.Measures (s : Scan κ) (e : Expr κ) : Prop where
  complete : s.stop = none
  nodes : (Token.symbols s.tokens).length = e.nodes
  opens : opens s.tokens = e.operators
  closes : closes s.tokens = e.operators
  depth : IsGreatest (excesses s.tokens) (e.depth - 1)
  vars : ∀ v, v ∈ e.vars ↔ .var v ∈ s.tokens

theorem ReversePolish.measures_reversePolish {e : Expr Float}
    (integral : ∀ k ∈ e.constants, Number.Integral k) :
    Measures (Scan.ofText (e.reversePolish Number.write)) e := by
  have tokens := tokens_reversePolish integral
  constructor
  · rw [ofText_reversePolish integral]
  · rw [tokens]
    exact e.length_postorder
  · intro t member
    rw [tokens] at member
    exact Expr.not_isParen_of_mem_postorder member
  · intro v
    rw [tokens, Expr.mem_postorder_iff]
    exact Expr.mem_vars_iff

theorem Polish.measures_polish {e : Expr Float}
    (integral : ∀ k ∈ e.constants, Number.Integral k) :
    Measures (Scan.ofText (e.polish Number.write)) e := by
  have tokens := tokens_polish integral
  have symbols := e.symbols_polishLayout 0
  have pairs := e.opens_polishLayout 0
  constructor
  · rw [ofText_polish integral]
  · rw [tokens, symbols]
    exact e.length_preorder
  · rw [tokens]
    exact pairs
  · rw [tokens, (e.balanced_polishLayout 0).equal]
    exact pairs
  · rw [tokens]
    exact e.isGreatest_excesses_polishLayout 0
  · intro v
    have symbol : .var v ∈ Token.symbols ((e.polishLayout 0).map Piece.token) ↔
        .var v ∈ (e.polishLayout 0).map Piece.token :=
      List.mem_filter.trans (and_iff_left rfl)
    rw [tokens, ← symbol, symbols]
    exact Expr.mem_vars_iff

def Expr.wave : Expr Float :=
  .var .x + .unary .sinh (.const (-2) * .var .y)

end Trivariate
