import Mathlib
import Trivariate.Formula
import Trivariate.Proofs.Equality
import Trivariate.Proofs.Preorder

namespace Trivariate

namespace Expr

variable {κ : Type}

namespace Corresponds

variable {rel : κ → κ → Prop} {a b c : Expr κ}

theorem symm (symmetric : ∀ j k, rel j k → rel k j) (corresponds : a.Corresponds rel b) :
    b.Corresponds rel a := by
  induction corresponds with
  | const related => exact .const (symmetric _ _ related)
  | var v => exact .var v
  | unary op _ ih => exact .unary op ih
  | binary op _ _ ihl ihr => exact .binary op ihl ihr

theorem trans (transitive : ∀ i j k, rel i j → rel j k → rel i k) (first : a.Corresponds rel b)
    (second : b.Corresponds rel c) : a.Corresponds rel c := by
  induction first generalizing c with
  | const related =>
    cases second with
    | const related' => exact .const (transitive _ _ _ related related')
  | var v => exact second
  | unary op _ ih =>
    cases second with
    | unary _ operand => exact .unary op (ih operand)
  | binary op _ _ ihl ihr =>
    cases second with
    | binary _ left right => exact .binary op (ihl left) (ihr right)

theorem self_iff : a.Corresponds rel a ↔ ∀ k ∈ a.constants, rel k k := by
  constructor
  · intro corresponds
    induction a with
    | const k =>
      cases corresponds with
      | const related => simpa [constants] using related
    | var v => simp [constants]
    | unary op a ih =>
      cases corresponds with
      | unary _ operand => exact ih operand
    | binary op l r ihl ihr =>
      cases corresponds with
      | binary _ left right =>
        intro k member
        rcases List.mem_append.mp member with inside | inside
        · exact ihl left k inside
        · exact ihr right k inside
  · intro related
    induction a with
    | const k => exact .const (related k (List.mem_singleton_self k))
    | var v => exact .var v
    | unary op a ih => exact .unary op (ih related)
    | binary op l r ihl ihr =>
      exact .binary op (ihl fun k inside => related k (List.mem_append_left _ inside))
        (ihr fun k inside => related k (List.mem_append_right _ inside))

theorem nodes_eq (corresponds : a.Corresponds rel b) : a.nodes = b.nodes := by
  induction corresponds with
  | const _ => rfl
  | var v => rfl
  | unary op _ ih => simp only [nodes, ih]
  | binary op _ _ ihl ihr => simp only [nodes, ihl, ihr]

theorem depth_eq (corresponds : a.Corresponds rel b) : a.depth = b.depth := by
  induction corresponds with
  | const _ => rfl
  | var v => rfl
  | unary op _ ih => simp only [depth, ih]
  | binary op _ _ ihl ihr => simp only [depth, ihl, ihr]

theorem collect_eq (corresponds : a.Corresponds rel b) (found : List Variable) :
    a.collect found = b.collect found := by
  induction corresponds generalizing found with
  | const _ => rfl
  | var v => rfl
  | unary op _ ih => exact ih found
  | binary op _ _ ihl ihr => rw [collect, collect, ihl, ihr]

theorem vars_eq (corresponds : a.Corresponds rel b) : a.vars = b.vars :=
  corresponds.collect_eq []

end Corresponds

instance [BEq κ] [PartialEquivBEq κ] : PartialEquivBEq (Expr κ) where
  symm equal := by
    rw [beq_iff_corresponds] at equal ⊢
    exact equal.symm fun _ _ => PartialEquivBEq.symm
  trans first second := by
    rw [beq_iff_corresponds] at first second ⊢
    exact first.trans (fun _ _ _ => PartialEquivBEq.trans) second

theorem beq_self_iff [BEq κ] {a : Expr κ} :
    (a == a) = true ↔ ∀ k ∈ a.constants, (k == k) = true :=
  beq_iff_corresponds.trans Corresponds.self_iff

end Expr

/-- Equality of trees is symmetric and transitive, and reflexive on the trees without a NaN. Equal
trees have equal derivatives of every order and the same measures. -/
theorem Expr.beq_congruence :
    (∀ a b : Expr Float, (a == b) = true → (b == a) = true) ∧
      (∀ a b c : Expr Float, (a == b) = true → (b == c) = true → (a == c) = true) ∧
      (∀ a : Expr Float, (a == a) = true ↔ ∀ k ∈ a.constants, k.isNaN = false) ∧
      ∀ a b : Expr Float, (a == b) = true →
        (∀ v, (a.derivative v == b.derivative v) = true) ∧
        (∀ (source source' : String) (form form' : Notation) (vs : List Variable),
          ((Formula.ofExpr source form a).deriveAll vs ==
            (Formula.ofExpr source' form' b).deriveAll vs) = true) ∧
        a.nodes = b.nodes ∧ a.depth = b.depth ∧ a.vars = b.vars := by
  refine ⟨fun _ _ => PartialEquivBEq.symm, fun _ _ _ => PartialEquivBEq.trans, fun a => ?_,
    fun a b equal => ?_⟩
  · rw [beq_self_iff]
    simp only [Float.beq_self_iff, Float.isNaN_eq_decide_eq_nan, decide_eq_false_iff_not]
  · have corresponds := beq_iff_corresponds.mp equal
    refine ⟨fun v => beq_deriveAll equal [v], fun _ _ _ _ vs => beq_deriveAll equal vs, ?_⟩
    exact ⟨corresponds.nodes_eq, corresponds.depth_eq, corresponds.vars_eq⟩

theorem Expr.quotients_beq_congruence :
    (.var .x / .const 0 : Expr Float) ≠ .var .x / .const (-0) ∧
      ((.var .x / .const 0 : Expr Float) == .var .x / .const (-0)) = true ∧
      ((.var .x / .const (-0) : Expr Float) == .var .x / .const 0) = true ∧
      ((.var .x / .const (-0) : Expr Float) == .var .x / .const (-0)) = true ∧
      ((.var .x / .const .nan : Expr Float) == .var .x / .const .nan) = false ∧
      ((Formula.ofExpr "x 0 /" .reversePolish (.var .x / .const 0 : Expr Float)).deriveAll
          [.x, .y] ==
        (Formula.ofExpr "(/ x -0)" .polish (.var .x / .const (-0) : Expr Float)).deriveAll
          [.x, .y]) = true := by
  have other : (.var .x / .const 0 : Expr Float) ≠ .var .x / .const (-0) := by decide +kernel
  have equal : ((.var .x / .const 0 : Expr Float) == .var .x / .const (-0)) = true := by
    decide +kernel
  have nan : ¬ ∀ k ∈ (.var .x / .const .nan : Expr Float).constants, k.isNaN = false := by
    decide +kernel
  obtain ⟨symmetric, transitive, reflexive, congruent⟩ := beq_congruence
  have turned := symmetric _ _ equal
  refine ⟨other, equal, turned, transitive _ _ _ turned equal, ?_, ?_⟩
  · exact Bool.eq_false_iff.mpr fun self => nan ((reflexive _).mp self)
  · exact (congruent _ _ equal).2.1 ..

end Trivariate
