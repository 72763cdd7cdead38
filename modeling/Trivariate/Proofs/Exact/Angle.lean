import Mathlib
import Trivariate.Proofs.Exact.Mixed

/-! The angle of two operands. Away from one of the axes it is the inverse tangent of a quotient, up
to a constant, and its derivative is that of the inverse tangent: by the ratio `l / r` where `r` is
not zero, and by the negated ratio `r / l` where `l` is not zero. -/
namespace Trivariate.Expr

variable {κ K : Type} [OfNat κ 0] [OfNat κ 1] [Field K]

section Turning

variable (E : ExactArithmetic κ K) (p : Triple K) (v : Variable)

def turning (l r : Expr κ) : K :=
  ((l.derivative v).eval E.values p * r.eval E.values p -
      l.eval E.values p * (r.derivative v).eval E.values p) /
    (l.eval E.values p ^ 2 + r.eval E.values p ^ 2)

theorem turning_swap (l r : Expr κ) : turning E p v r l = -turning E p v l r := by
  unfold turning
  ring

theorem eval_derivative_atan (a : Expr κ) :
    ((unary .atan a).derivative v).eval E.values p =
      (a.derivative v).eval E.values p / (1 + a.eval E.values p ^ 2) := by
  calc ((unary .atan a).derivative v).eval E.values p
    _ = E.const 1 / (E.const 1 + a.eval E.values p * a.eval E.values p) *
        (a.derivative v).eval E.values p := rfl
    _ = (a.derivative v).eval E.values p / (1 + a.eval E.values p ^ 2) := by
      rw [E.const_one, one_div_mul_eq_div, pow_two]

theorem eval_derivative_div (l r : Expr κ) :
    ((l / r).derivative v).eval E.values p =
      ((l.derivative v).eval E.values p * r.eval E.values p -
          l.eval E.values p * (r.derivative v).eval E.values p) / r.eval E.values p ^ 2 := by
  rw [pow_two]
  rfl

theorem eval_derivative_atan2 (l r : Expr κ) :
    ((binary .atan2 l r).derivative v).eval E.values p = turning E p v l r := by
  calc ((binary .atan2 l r).derivative v).eval E.values p
    _ = -l.eval E.values p * (r.derivative v).eval E.values p /
          (l.eval E.values p * l.eval E.values p + r.eval E.values p * r.eval E.values p) +
        r.eval E.values p * (l.derivative v).eval E.values p /
          (l.eval E.values p * l.eval E.values p + r.eval E.values p * r.eval E.values p) := rfl
    _ = turning E p v l r := by
      unfold turning
      ring

theorem eval_derivative_atan_div (l : Expr κ) {r : Expr κ} (off : r.eval E.values p ≠ 0) :
    ((unary .atan (l / r)).derivative v).eval E.values p = turning E p v l r := by
  have ratio : (l / r).eval E.values p = l.eval E.values p / r.eval E.values p := rfl
  have norm : r.eval E.values p ^ 2 * (1 + (l.eval E.values p / r.eval E.values p) ^ 2) =
      l.eval E.values p ^ 2 + r.eval E.values p ^ 2 := by
    field_simp
    ring
  rw [eval_derivative_atan, eval_derivative_div, ratio, div_div, norm, turning]

theorem eval_derivative_neg_atan_div {l : Expr κ} (r : Expr κ) (off : l.eval E.values p ≠ 0) :
    ((-(unary .atan (r / l))).derivative v).eval E.values p = turning E p v l r := by
  have value := eval_derivative_atan_div E p v r off
  calc ((-(unary .atan (r / l))).derivative v).eval E.values p
    _ = -((unary .atan (r / l)).derivative v).eval E.values p := rfl
    _ = turning E p v l r := by rw [value, turning_swap, neg_neg]

end Turning

section Ordered

variable [LinearOrder K] [IsStrictOrderedRing K] {E : ExactArithmetic κ K} {p : Triple K}
  {l r : Expr κ}

theorem DefinedAt.atan {a : Expr κ} (defined : a.DefinedAt E.values p) :
    (unary .atan a).DefinedAt E.values p := by
  refine ⟨defined, ?_⟩
  have positive : 0 < 1 + a.eval E.values p ^ 2 := by positivity
  exact positive.ne'

theorem DefinedAt.atan2 (left : l.DefinedAt E.values p) (right : r.DefinedAt E.values p)
    (off : l.eval E.values p ≠ 0 ∨ r.eval E.values p ≠ 0) :
    (binary .atan2 l r).DefinedAt E.values p := by
  refine ⟨left, right, ?_⟩
  have positive : 0 < l.eval E.values p ^ 2 + r.eval E.values p ^ 2 := by
    rcases off with nonzero | nonzero
    · positivity
    · positivity
  exact positive.ne'

/-- Off the one axis the derivative of the angle has the value of that of `atan (l / r)`, and off
the other the value of that of `-(atan (r / l))`. Where no divisor of the operands vanishes, neither
derivative divides by zero. -/
theorem eval_derivative_atan2_eq (E : ExactArithmetic κ K) (l r : Expr κ) (v : Variable)
    (p : Triple K) :
    (r.eval E.values p ≠ 0 →
      ((binary .atan2 l r).derivative v).eval E.values p =
          ((unary .atan (l / r)).derivative v).eval E.values p ∧
        (l.DefinedAt E.values p → r.DefinedAt E.values p →
          ((binary .atan2 l r).derivative v).DefinedAt E.values p ∧
            ((unary .atan (l / r)).derivative v).DefinedAt E.values p)) ∧
    (l.eval E.values p ≠ 0 →
      ((binary .atan2 l r).derivative v).eval E.values p =
          ((-(unary .atan (r / l))).derivative v).eval E.values p ∧
        (l.DefinedAt E.values p → r.DefinedAt E.values p →
          ((binary .atan2 l r).derivative v).DefinedAt E.values p ∧
            ((-(unary .atan (r / l))).derivative v).DefinedAt E.values p)) := by
  constructor
  · intro off
    constructor
    · rw [eval_derivative_atan2, eval_derivative_atan_div E p v l off]
    · intro left right
      have angle := left.atan2 right (Or.inr off)
      have ratio : (l / r).DefinedAt E.values p := ⟨left, right, off⟩
      exact ⟨angle.derivative v, ratio.atan.derivative v⟩
  · intro off
    constructor
    · rw [eval_derivative_atan2, eval_derivative_neg_atan_div E p v r off]
    · intro left right
      have angle := left.atan2 right (Or.inl off)
      have ratio : (r / l).DefinedAt E.values p := ⟨right, left, off⟩
      have negated : (-(unary .atan (r / l))).DefinedAt E.values p := ⟨ratio.atan, trivial⟩
      exact ⟨angle.derivative v, negated.derivative v⟩

end Ordered

theorem quotient_eval_derivative_atan2_eq :
    (.var .y : Expr ℚ).eval firstTerms.values ⟨3, 2, 5⟩ ≠ 0 ∧
      (.var .x / .var .z : Expr ℚ).DefinedAt firstTerms.values ⟨3, 2, 5⟩ ∧
      ((binary .atan2 (.var .x / .var .z) (.var .y) : Expr ℚ).derivative .z).eval
          firstTerms.values ⟨3, 2, 5⟩ =
        ((unary .atan (.var .x / .var .z / .var .y) : Expr ℚ).derivative .z).eval
          firstTerms.values ⟨3, 2, 5⟩ ∧
      ((binary .atan2 (.var .x / .var .z) (.var .y) : Expr ℚ).derivative .z).DefinedAt
        firstTerms.values ⟨3, 2, 5⟩ ∧
      (.var .y : Expr ℚ).eval firstTerms.values ⟨3, 0, 5⟩ = 0 ∧
      (.var .x / .var .z : Expr ℚ).eval firstTerms.values ⟨3, 0, 5⟩ ≠ 0 ∧
      ((binary .atan2 (.var .x / .var .z) (.var .y) : Expr ℚ).derivative .z).eval
          firstTerms.values ⟨3, 0, 5⟩ =
        ((-(unary .atan (.var .y / (.var .x / .var .z))) : Expr ℚ).derivative .z).eval
          firstTerms.values ⟨3, 0, 5⟩ := by
  have right : (.var .y : Expr ℚ).eval firstTerms.values ⟨3, 2, 5⟩ ≠ 0 := by
    change (2 : ℚ) ≠ 0
    norm_num
  have defined : (.var .x / .var .z : Expr ℚ).DefinedAt firstTerms.values ⟨3, 2, 5⟩ := by
    refine ⟨trivial, trivial, ?_⟩
    change (5 : ℚ) ≠ 0
    norm_num
  have left : (.var .x / .var .z : Expr ℚ).eval firstTerms.values ⟨3, 0, 5⟩ ≠ 0 := by
    change (3 / 5 : ℚ) ≠ 0
    norm_num
  have off := (eval_derivative_atan2_eq firstTerms (.var .x / .var .z) (.var .y) .z
    ⟨3, 2, 5⟩).1 right
  have on := (eval_derivative_atan2_eq firstTerms (.var .x / .var .z) (.var .y) .z
    ⟨3, 0, 5⟩).2 left
  exact ⟨right, defined, off.1, (off.2 defined trivial).1, rfl, left, on.1⟩

end Trivariate.Expr
