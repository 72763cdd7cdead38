import Mathlib
import Trivariate.Proofs.Exact.Dual

/-! Rational expressions along an axis. Over an ordered field a function has a tangent if it differs
from a line by a remainder that is at most a multiple of the square of the way. Sums, products and
quotients of such functions have one again. Main statement: the value of the derivative tree is the
slope of a tangent of the tree, and near the point the tree stays defined. -/
namespace Trivariate

open Filter Topology

section Field

variable {K : Type} [Field K] [LinearOrder K]

theorem abs_mul_le_mul [IsStrictOrderedRing K] {x y m n : K} (left : |x| ≤ m) (right : |y| ≤ n) :
    |x * y| ≤ m * n := by
  rw [abs_mul]
  exact mul_le_mul left right (abs_nonneg y) ((abs_nonneg x).trans left)

variable [TopologicalSpace K]

/-- Near zero the function is a line up to a remainder of second order. -/
def Tangent (f : K → K) (value slope : K) : Prop :=
  ∃ C, ∀ᶠ h in 𝓝 0, |f h - (value + h * slope)| ≤ C * h ^ 2

namespace Tangent

variable {f g : K → K} {a b s t : K}

theorem neg (tangent : Tangent f a s) : Tangent (fun h => -f h) (-a) (-s) := by
  obtain ⟨C, near⟩ := tangent
  refine ⟨C, near.mono fun h remainder => ?_⟩
  have same : -f h - (-a + h * -s) = -(f h - (a + h * s)) := by ring
  rwa [same, abs_neg]

variable [IsStrictOrderedRing K]

theorem line (a s : K) : Tangent (fun h => a + h * s) a s :=
  ⟨0, Eventually.of_forall fun h => by simp⟩

theorem const (a : K) : Tangent (fun _ => a) a 0 := by
  simpa using line a 0

theorem add (left : Tangent f a s) (right : Tangent g b t) :
    Tangent (fun h => f h + g h) (a + b) (s + t) := by
  obtain ⟨C, nearL⟩ := left
  obtain ⟨D, nearR⟩ := right
  refine ⟨C + D, ?_⟩
  filter_upwards [nearL, nearR] with h remL remR
  have split : f h + g h - (a + b + h * (s + t)) =
      (f h - (a + h * s)) + (g h - (b + h * t)) := by ring
  calc |f h + g h - (a + b + h * (s + t))|
    _ ≤ |f h - (a + h * s)| + |g h - (b + h * t)| := split ▸ abs_add_le ..
    _ ≤ C * h ^ 2 + D * h ^ 2 := add_le_add remL remR
    _ = (C + D) * h ^ 2 := (add_mul ..).symm

theorem sub (left : Tangent f a s) (right : Tangent g b t) :
    Tangent (fun h => f h - g h) (a - b) (s - t) := by
  simpa only [sub_eq_add_neg] using left.add right.neg

variable [OrderTopology K]

theorem near_value (tangent : Tangent f a s) {ε : K} (positive : 0 < ε) :
    ∀ᶠ h in 𝓝 0, |f h - a| < ε := by
  obtain ⟨C, near⟩ := tangent
  have small : Tendsto (fun h => C * h ^ 2 + |h * s|) (𝓝 0) (𝓝 0) :=
    Continuous.tendsto' (by fun_prop) 0 0 (by simp)
  filter_upwards [near, small.eventually_lt_const positive] with h remainder less
  have split : f h - a = (f h - (a + h * s)) + h * s := by ring
  calc |f h - a|
    _ ≤ |f h - (a + h * s)| + |h * s| := by rw [split]; exact abs_add_le ..
    _ ≤ C * h ^ 2 + |h * s| := add_le_add_left remainder _
    _ < ε := less

theorem abs_le_near (tangent : Tangent f a s) : ∀ᶠ h in 𝓝 0, |f h| ≤ |a| + 1 := by
  filter_upwards [tangent.near_value one_pos] with h close
  have split : f h = (f h - a) + a := by ring
  calc |f h|
    _ = |f h - a + a| := by rw [← split]
    _ ≤ |f h - a| + |a| := abs_add_le ..
    _ ≤ |a| + 1 := by linarith

theorem mul (left : Tangent f a s) (right : Tangent g b t) :
    Tangent (fun h => f h * g h) (a * b) (s * b + a * t) := by
  have boundG := right.abs_le_near
  have boundL := (line a s).abs_le_near
  obtain ⟨C, nearL⟩ := left
  obtain ⟨D, nearR⟩ := right
  refine ⟨C * (|b| + 1) + (|a| + 1) * D + |s * t|, ?_⟩
  filter_upwards [nearL, nearR, boundG, boundL] with h remL remR smallG smallL
  have split : f h * g h - (a * b + h * (s * b + a * t)) =
      (f h - (a + h * s)) * g h + (a + h * s) * (g h - (b + h * t)) + s * t * h ^ 2 := by ring
  have first : |(f h - (a + h * s)) * g h| ≤ C * h ^ 2 * (|b| + 1) := abs_mul_le_mul remL smallG
  have second : |(a + h * s) * (g h - (b + h * t))| ≤ (|a| + 1) * (D * h ^ 2) :=
    abs_mul_le_mul smallL remR
  have third : |s * t * h ^ 2| = |s * t| * h ^ 2 := by rw [abs_mul, abs_of_nonneg (sq_nonneg h)]
  calc |f h * g h - (a * b + h * (s * b + a * t))|
    _ ≤ |(f h - (a + h * s)) * g h| + |(a + h * s) * (g h - (b + h * t))| + |s * t * h ^ 2| := by
      rw [split]
      exact abs_add_three ..
    _ ≤ C * h ^ 2 * (|b| + 1) + (|a| + 1) * (D * h ^ 2) + |s * t| * h ^ 2 := by
      rw [third]
      exact add_le_add_left (add_le_add first second) _
    _ = (C * (|b| + 1) + (|a| + 1) * D + |s * t|) * h ^ 2 := by ring

theorem le_abs_near (tangent : Tangent f a s) (nonzero : a ≠ 0) :
    ∀ᶠ h in 𝓝 0, |a| / 2 ≤ |f h| := by
  have half : 0 < |a| / 2 := half_pos (abs_pos.mpr nonzero)
  filter_upwards [tangent.near_value half] with h close
  have back : |a| - |f h| ≤ |f h - a| := abs_sub_comm a (f h) ▸ abs_sub_abs_le_abs_sub a (f h)
  linarith

theorem ne_zero_near (tangent : Tangent f a s) (nonzero : a ≠ 0) : ∀ᶠ h in 𝓝 0, f h ≠ 0 := by
  filter_upwards [tangent.le_abs_near nonzero] with h large
  exact abs_pos.mp (lt_of_lt_of_le (half_pos (abs_pos.mpr nonzero)) large)

theorem inv (tangent : Tangent g b t) (nonzero : b ≠ 0) :
    Tangent (fun h => (g h)⁻¹) b⁻¹ (-t / (b * b)) := by
  have away := tangent.le_abs_near nonzero
  have inside := tangent.ne_zero_near nonzero
  have boundL := (line b (-t)).abs_le_near
  obtain ⟨C, near⟩ := tangent
  refine ⟨((|b| + 1) * C + t ^ 2) / (b * b * (|b| / 2)), ?_⟩
  filter_upwards [near, away, inside, boundL] with h remainder large other smallL
  have split : (g h)⁻¹ - (b⁻¹ + h * (-t / (b * b))) =
      ((h * t) ^ 2 - (b + h * -t) * (g h - (b + h * t))) / (b * b * g h) := by
    field_simp
    ring
  have top : |(h * t) ^ 2 - (b + h * -t) * (g h - (b + h * t))| ≤
      ((|b| + 1) * C + t ^ 2) * h ^ 2 := by
    calc |(h * t) ^ 2 - (b + h * -t) * (g h - (b + h * t))|
      _ ≤ |(h * t) ^ 2| + |(b + h * -t) * (g h - (b + h * t))| := abs_sub ..
      _ ≤ (h * t) ^ 2 + (|b| + 1) * (C * h ^ 2) :=
        add_le_add (abs_of_nonneg (sq_nonneg _)).le (abs_mul_le_mul smallL remainder)
      _ = ((|b| + 1) * C + t ^ 2) * h ^ 2 := by ring
  have square : 0 < b * b := mul_self_pos.mpr nonzero
  have bottom : b * b * (|b| / 2) ≤ |b * b * g h| := by
    rw [abs_mul, abs_of_pos square]
    exact mul_le_mul_of_nonneg_left large square.le
  have positive : 0 < b * b * (|b| / 2) := mul_pos square (half_pos (abs_pos.mpr nonzero))
  calc |(g h)⁻¹ - (b⁻¹ + h * (-t / (b * b)))|
    _ = |(h * t) ^ 2 - (b + h * -t) * (g h - (b + h * t))| / |b * b * g h| := by
      rw [split, abs_div]
    _ ≤ ((|b| + 1) * C + t ^ 2) * h ^ 2 / (b * b * (|b| / 2)) :=
      div_le_div₀ ((abs_nonneg _).trans top) top positive bottom
    _ = ((|b| + 1) * C + t ^ 2) / (b * b * (|b| / 2)) * h ^ 2 := by ring

theorem div (left : Tangent f a s) (right : Tangent g b t) (nonzero : b ≠ 0) :
    Tangent (fun h => f h / g h) (a / b) ((s * b - a * t) / (b * b)) := by
  have slope : (s * b - a * t) / (b * b) = s * b⁻¹ + a * (-t / (b * b)) := by
    field_simp
    ring
  rw [slope]
  simpa only [← div_eq_mul_inv] using left.mul (right.inv nonzero)

end Tangent

end Field

def Triple.moved {K : Type} [Field K] (p : Triple K) (v : Variable) (h : K) : Triple K :=
  .ofFn fun w => p.get w + if w = v then h else 0

namespace Expr

def rational {κ : Type} : Expr κ → Bool
  | .const _ => true
  | .var _ => true
  | .unary op a => op = .negate && a.rational
  | .binary op l r => op ≠ .atan2 && (l.rational && r.rational)

section Topology

variable {κ K : Type} [OfNat κ 0] [OfNat κ 1] [Field K] [LinearOrder K] [IsStrictOrderedRing K]
  [TopologicalSpace K]

theorem tangent_var (E : ExactArithmetic κ K) (w v : Variable) (p : Triple K) :
    Tangent (fun h => (var w : Expr κ).eval E.values (p.moved v h))
      ((var w : Expr κ).eval E.values p) (((var w : Expr κ).derivative v).eval E.values p) := by
  have coordinate := Tangent.line (p.get w) (if w = v then (1 : K) else 0)
  by_cases same : w = v
  · simpa [eval, derivative, Triple.moved, same, ExactArithmetic.values, E.const_one]
      using coordinate
  · simpa [eval, derivative, Triple.moved, same, ExactArithmetic.values, E.const_zero]
      using coordinate

variable [OrderTopology K]

/-- Near the point the tree stays defined, and its derivative is the slope of a tangent there. -/
theorem tangent_eval (E : ExactArithmetic κ K) {e : Expr κ} (rational : e.rational = true)
    (v : Variable) (p : Triple K) (defined : e.DefinedAt E.values p) :
    (∀ᶠ h in 𝓝 0, e.DefinedAt E.values (p.moved v h)) ∧
      Tangent (fun h => e.eval E.values (p.moved v h)) (e.eval E.values p)
        ((e.derivative v).eval E.values p) := by
  induction e with
  | const k =>
    refine ⟨Eventually.of_forall fun h => trivial, ?_⟩
    have zero : ((const k : Expr κ).derivative v).eval E.values p = 0 := E.const_zero
    rw [zero]
    exact Tangent.const (E.const k)
  | var w => exact ⟨Eventually.of_forall fun h => trivial, tangent_var E w v p⟩
  | unary op a ih =>
    simp only [Expr.rational, Bool.and_eq_true, decide_eq_true_eq] at rational
    obtain ⟨rfl, inner⟩ := rational
    obtain ⟨near, tangent⟩ := ih inner defined.1
    exact ⟨near.mono fun h inside => ⟨inside, trivial⟩, tangent.neg⟩
  | binary op l r ihl ihr =>
    simp only [Expr.rational, Bool.and_eq_true, decide_eq_true_eq] at rational
    obtain ⟨arithmetic, innerL, innerR⟩ := rational
    obtain ⟨definedL, definedR, here⟩ := defined
    obtain ⟨nearL, tangentL⟩ := ihl innerL definedL
    obtain ⟨nearR, tangentR⟩ := ihr innerR definedR
    cases op with
    | add =>
      refine ⟨?_, tangentL.add tangentR⟩
      filter_upwards [nearL, nearR] with h left right using ⟨left, right, trivial⟩
    | sub =>
      refine ⟨?_, tangentL.sub tangentR⟩
      filter_upwards [nearL, nearR] with h left right using ⟨left, right, trivial⟩
    | mul =>
      refine ⟨?_, tangentL.mul tangentR⟩
      filter_upwards [nearL, nearR] with h left right using ⟨left, right, trivial⟩
    | div =>
      refine ⟨?_, tangentL.div tangentR here⟩
      filter_upwards [nearL, nearR, tangentR.ne_zero_near here] with h left right other
        using ⟨left, right, other⟩
    | atan2 => exact absurd rfl arithmetic

end Topology

variable {κ K : Type} [OfNat κ 0] [OfNat κ 1] [Field K] [LinearOrder K] [IsStrictOrderedRing K]

/-- Up to some distance along the axis of a variable a rational tree stays defined, and there the
derivative tree predicts its value with an error of second order. -/
theorem exists_remainder_le (E : ExactArithmetic κ K) {e : Expr κ} (rational : e.rational = true)
    (v : Variable) (p : Triple K) (defined : e.DefinedAt E.values p) :
    ∃ d C : K, 0 < d ∧ ∀ h, |h| ≤ d → e.DefinedAt E.values (p.moved v h) ∧
      |e.eval E.values (p.moved v h) - e.eval E.values p -
        h * (e.derivative v).eval E.values p| ≤ C * h ^ 2 := by
  let _ : TopologicalSpace K := Preorder.topology K
  have _ : OrderTopology K := ⟨rfl⟩
  obtain ⟨near, C, remainder⟩ := tangent_eval E rational v p defined
  obtain ⟨d, positive, both⟩ :=
    (nhds_basis_abs_sub_lt (0 : K)).eventually_iff.mp (near.and remainder)
  refine ⟨d / 2, C, half_pos positive, fun h close => ?_⟩
  have within : |h - 0| < d := by
    rw [sub_zero]
    exact lt_of_le_of_lt close (half_lt_self positive)
  obtain ⟨inside, small⟩ := both within
  refine ⟨inside, ?_⟩
  rwa [sub_sub]

theorem quotient_exists_remainder_le :
    (.var .x * .var .x / .var .y : Expr ℚ).rational = true ∧
      (.var .x * .var .x / .var .y : Expr ℚ).DefinedAt firstTerms.values ⟨3, 2, 0⟩ ∧
      ∃ d C : ℚ, 0 < d ∧ ∀ h, |h| ≤ d →
        (.var .x * .var .x / .var .y : Expr ℚ).DefinedAt firstTerms.values
          (Triple.moved ⟨3, 2, 0⟩ .y h) ∧
        |(.var .x * .var .x / .var .y : Expr ℚ).eval firstTerms.values
            (Triple.moved ⟨3, 2, 0⟩ .y h) -
          (.var .x * .var .x / .var .y : Expr ℚ).eval firstTerms.values ⟨3, 2, 0⟩ -
          h * ((.var .x * .var .x / .var .y : Expr ℚ).derivative .y).eval firstTerms.values
            ⟨3, 2, 0⟩| ≤ C * h ^ 2 := by
  have defined : (.var .x * .var .x / .var .y : Expr ℚ).DefinedAt firstTerms.values ⟨3, 2, 0⟩ :=
    ⟨⟨trivial, trivial, trivial⟩, trivial, two_ne_zero⟩
  exact ⟨rfl, defined, exists_remainder_le firstTerms rfl .y ⟨3, 2, 0⟩ defined⟩

end Expr

end Trivariate
