import Mathlib.Algebra.DualNumber
import Mathlib.Tactic.FieldSimp
import Mathlib.Tactic.Ring
import Trivariate.Expr.Derivative
import Trivariate.Proofs.Exact.Arithmetic

/-! Expressions over the dual numbers of a field. Every function is lifted along with its slope, so
the second component of a value is a derivative by construction. Main statement: the derivative
tree evaluates to that component when the slope of `cosh` is `-sinh`. -/
namespace Trivariate

open TrivSqZeroExt

namespace ExactArithmetic

variable {κ K : Type} [OfNat κ 0] [OfNat κ 1] [Field K]

def lift (f slope : K → K) (a : DualNumber K) : DualNumber K :=
  inl (f a.fst) + inr (a.snd * slope a.fst)

def liftAtan2 (f : K → K → K) (a b : DualNumber K) : DualNumber K :=
  inl (f a.fst b.fst) + inr ((b.fst * a.snd - a.fst * b.snd) / (a.fst ^ 2 + b.fst ^ 2))

/-- The slope of `cosh` is a parameter, and that of the others is the one of calculus. -/
def dualsWith (E : ExactArithmetic κ K) (coshSlope : K → K) : Interpretation κ (DualNumber K) where
  const k := inl (E.const k)
  unary
    | .negate => fun a => -a
    | .sinh => lift E.sinh E.cosh
    | .cosh => lift E.cosh coshSlope
    | .atan => lift E.atan fun a => 1 / (1 + a ^ 2)
  binary
    | .add => fun a b => a + b
    | .sub => fun a b => a - b
    | .mul => fun a b => a * b
    | .div => fun a b => a * b⁻¹
    | .atan2 => liftAtan2 E.atan2

def duals (E : ExactArithmetic κ K) : Interpretation κ (DualNumber K) :=
  E.dualsWith E.sinh

end ExactArithmetic

def Triple.towards {K : Type} [Field K] (p : Triple K) (v : Variable) : Triple (DualNumber K) :=
  .ofFn fun w => inl (p.get w) + if w = v then DualNumber.eps else 0

namespace ExactArithmetic

variable {κ K : Type} [OfNat κ 0] [OfNat κ 1] [Field K]

theorem fst_unary (E : ExactArithmetic κ K) (slope : K → K) (op : UnaryOp) (a : DualNumber K) :
    ((E.dualsWith slope).unary op a).fst = E.values.unary op a.fst := by
  cases op <;> simp [dualsWith, values, lift]

theorem fst_binary (E : ExactArithmetic κ K) (slope : K → K) (op : BinaryOp)
    (a b : DualNumber K) :
    ((E.dualsWith slope).binary op a b).fst = E.values.binary op a.fst b.fst := by
  cases op <;> simp [dualsWith, values, liftAtan2, div_eq_mul_inv]

end ExactArithmetic

namespace Expr

variable {κ K : Type} [OfNat κ 0] [OfNat κ 1] [Field K]

theorem fst_eval_duals (E : ExactArithmetic κ K) (slope : K → K) (e : Expr κ) (v : Variable)
    (p : Triple K) : (e.eval (E.dualsWith slope) (p.towards v)).fst = e.eval E.values p := by
  induction e with
  | const k => rfl
  | var w =>
    by_cases same : w = v
    · simp [eval, Triple.towards, same]
    · simp [eval, Triple.towards, same]
  | unary op a ih => rw [eval, eval, E.fst_unary, ih]
  | binary op l r ihl ihr => rw [eval, eval, E.fst_binary, ihl, ihr]

theorem eval_derivative_unary (E : ExactArithmetic κ K) (op : UnaryOp) (a : Expr κ) (v : Variable)
    (p : Triple K) (A : DualNumber K) (first : a.eval E.values p = A.fst)
    (second : (a.derivative v).eval E.values p = A.snd) :
    ((unary op a).derivative v).eval E.values p =
      ((E.dualsWith fun x => -E.sinh x).unary op A).snd := by
  have one := E.const_one
  cases op with
  | negate =>
    simp only [derivative, eval_neg, second]
    simp [ExactArithmetic.values, ExactArithmetic.dualsWith]
  | sinh =>
    simp only [derivative, eval_mul, eval, first, second]
    simp [ExactArithmetic.values, ExactArithmetic.dualsWith, ExactArithmetic.lift, mul_comm]
  | cosh =>
    simp only [derivative, eval_mul, eval, first, second]
    simp [ExactArithmetic.values, ExactArithmetic.dualsWith, ExactArithmetic.lift, mul_comm]
  | atan =>
    simp only [derivative, eval_mul, eval_div, eval, first, second]
    simp [ExactArithmetic.values, ExactArithmetic.dualsWith, ExactArithmetic.lift, one]
    ring

theorem eval_derivative_binary (E : ExactArithmetic κ K) (op : BinaryOp) (l r : Expr κ)
    (v : Variable) (p : Triple K) (L R : DualNumber K)
    (firstL : l.eval E.values p = L.fst) (secondL : (l.derivative v).eval E.values p = L.snd)
    (firstR : r.eval E.values p = R.fst) (secondR : (r.derivative v).eval E.values p = R.snd)
    (defined : op.DefinedOn L.fst R.fst) :
    ((binary op l r).derivative v).eval E.values p =
      ((E.dualsWith fun x => -E.sinh x).binary op L R).snd := by
  cases op with
  | add =>
    simp only [derivative, eval_add, secondL, secondR]
    simp [ExactArithmetic.values, ExactArithmetic.dualsWith]
  | sub =>
    simp only [derivative, eval_sub, secondL, secondR]
    simp [ExactArithmetic.values, ExactArithmetic.dualsWith]
  | mul =>
    simp only [derivative, eval_add, eval_mul, firstL, secondL, firstR, secondR]
    simp [ExactArithmetic.values, ExactArithmetic.dualsWith]
    ring
  | div =>
    have divisor : R.fst ≠ 0 := defined
    simp only [derivative, eval_div, eval_sub, eval_mul, firstL, secondL, firstR, secondR]
    simp [ExactArithmetic.values, ExactArithmetic.dualsWith]
    field_simp
    ring
  | atan2 =>
    have divisor : L.fst ^ 2 + R.fst ^ 2 ≠ 0 := defined
    simp only [derivative, eval_add, eval_div, eval_mul, eval_neg, firstL, secondL, firstR,
      secondR]
    simp [ExactArithmetic.values, ExactArithmetic.dualsWith, ExactArithmetic.liftAtan2]
    field_simp
    ring

theorem eval_derivative (E : ExactArithmetic κ K) (e : Expr κ) (v : Variable) (p : Triple K)
    (defined : e.DefinedAt E.values p) :
    (e.derivative v).eval E.values p =
      (e.eval (E.dualsWith fun x => -E.sinh x) (p.towards v)).snd := by
  have first := fun e => fst_eval_duals E (fun x => -E.sinh x) e v p
  induction e with
  | const k => exact E.const_zero
  | var w =>
    by_cases same : w = v
    · simp [derivative, eval, Triple.towards, ExactArithmetic.values, same, E.const_one]
    · simp [derivative, eval, Triple.towards, ExactArithmetic.values, same, E.const_zero]
  | unary op a ih => exact eval_derivative_unary E op a v p _ (first a).symm (ih defined.1)
  | binary op l r ihl ihr =>
    refine eval_derivative_binary E op l r v p _ _ (first l).symm (ihl defined.1) (first r).symm
      (ihr defined.2.1) ?_
    rw [first l, first r]
    exact defined.2.2

def usesCosh : Expr κ → Bool
  | .const _ => false
  | .var _ => false
  | .unary op a => op = .cosh || a.usesCosh
  | .binary _ l r => l.usesCosh || r.usesCosh

/-- The slope of `cosh` matters to no tree without it. -/
theorem eval_dualsWith_congr (E : ExactArithmetic κ K) (slope slope' : K → K) {e : Expr κ}
    (none : e.usesCosh = false) (q : Triple (DualNumber K)) :
    e.eval (E.dualsWith slope) q = e.eval (E.dualsWith slope') q := by
  induction e with
  | const k => rfl
  | var w => rfl
  | unary op a ih =>
    simp only [usesCosh, Bool.or_eq_false_iff, decide_eq_false_iff_not] at none
    rw [eval, eval, ih none.2]
    cases op with
    | cosh => exact absurd rfl none.1
    | _ => rfl
  | binary op l r ihl ihr =>
    simp only [usesCosh, Bool.or_eq_false_iff] at none
    rw [eval, eval, ihl none.1, ihr none.2]
    rfl

/-- Where no divisor vanishes, a derivative tree has the value of the partial derivative of a
function whose `cosh` has the slope `-sinh`. Without `cosh` in the tree that is the partial
derivative of calculus. -/
theorem derivative_eq_dual_part (E : ExactArithmetic κ K) (e : Expr κ) (v : Variable)
    (p : Triple K) (defined : e.DefinedAt E.values p) :
    (e.derivative v).eval E.values p =
        (e.eval (E.dualsWith fun a => -E.sinh a) (p.towards v)).snd ∧
      (e.usesCosh = false →
        (e.derivative v).eval E.values p = (e.eval E.duals (p.towards v)).snd) := by
  have value := eval_derivative E e v p defined
  refine ⟨value, fun none => ?_⟩
  rw [value, ExactArithmetic.duals, eval_dualsWith_congr E _ E.sinh none]

def firstTerms : ExactArithmetic ℚ ℚ where
  const := id
  const_zero := rfl
  const_one := rfl
  sinh a := a
  cosh _ := 1
  atan a := a
  atan2 a b := a / b

def sample : Expr ℚ :=
  .binary .div (.binary .atan2 (.unary .sinh (.var .x)) (.var .y)) (.var .x)

theorem sample_derivative_eq_dual_part :
    sample.DefinedAt firstTerms.values ⟨1, 2, 0⟩ ∧ sample.usesCosh = false ∧
      (sample.derivative .x).eval firstTerms.values ⟨1, 2, 0⟩ =
        (sample.eval firstTerms.duals (Triple.towards ⟨1, 2, 0⟩ .x)).snd := by
  have defined : sample.DefinedAt firstTerms.values ⟨1, 2, 0⟩ := by
    simp [sample, DefinedAt, UnaryOp.DefinedOn, BinaryOp.DefinedOn, eval, Triple.get,
      ExactArithmetic.values, firstTerms]
    norm_num
  have none : sample.usesCosh = false := by decide
  exact ⟨defined, none, (derivative_eq_dual_part firstTerms sample .x ⟨1, 2, 0⟩ defined).2 none⟩

/-- The derivative tree of `cosh` does not have the value of the partial derivative of calculus. -/
theorem derivative_cosh_ne_dual_part :
    ¬ ∀ (E : ExactArithmetic ℚ ℚ) (e : Expr ℚ) (v : Variable) (p : Triple ℚ),
      e.DefinedAt E.values p →
        (e.derivative v).eval E.values p = (e.eval E.duals (p.towards v)).snd := by
  intro calculus
  have wrong := calculus firstTerms (.unary .cosh (.var .x)) .x ⟨1, 0, 0⟩ ⟨trivial, trivial⟩
  simp [derivative, eval, Triple.get, Triple.towards, Triple.ofFn, firstTerms,
    ExactArithmetic.values, ExactArithmetic.duals, ExactArithmetic.dualsWith,
    ExactArithmetic.lift] at wrong
  exact absurd wrong (by decide)

end Expr

end Trivariate
