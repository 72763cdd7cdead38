import Mathlib
import Trivariate.Expr.Derivative

namespace Trivariate.Expr

variable {κ : Type}

theorem nodes_pos (e : Expr κ) : 0 < e.nodes := by
  cases e <;> simp [nodes]

theorem depth_pos (e : Expr κ) : 0 < e.depth := by
  cases e <;> simp [depth]

variable [OfNat κ 0] [OfNat κ 1]

theorem nodes_derivative_unary_le (v : Variable) (op : UnaryOp) (a : Expr κ) :
    ((unary op a).derivative v).nodes ≤ (a.derivative v).nodes + 2 * a.nodes + 6 := by
  cases op
  all_goals
    simp only [derivative, neg_def, add_def, mul_def, div_def, nodes]
    omega

theorem nodes_derivative_binary_le (v : Variable) (op : BinaryOp) (l r : Expr κ) :
    ((binary op l r).derivative v).nodes ≤
      (l.derivative v).nodes + (r.derivative v).nodes + 5 * (l.nodes + r.nodes) + 12 := by
  cases op
  all_goals
    simp only [derivative, neg_def, add_def, sub_def, mul_def, div_def, nodes]
    omega

theorem nodes_derivative_le (v : Variable) (e : Expr κ) :
    (e.derivative v).nodes + 2 ≤ 3 * e.nodes ^ 2 := by
  induction e with
  | const k => exact Nat.le_refl _
  | var w => exact Nat.le_refl _
  | unary op a ih =>
    have rule := nodes_derivative_unary_le v op a
    have some := a.nodes_pos
    have square : 3 * (1 + a.nodes) ^ 2 = 3 * a.nodes ^ 2 + 6 * a.nodes + 3 := by ring
    rw [nodes, square]
    omega
  | binary op l r ihl ihr =>
    have rule := nodes_derivative_binary_le v op l r
    have left := l.nodes_pos
    have right := r.nodes_pos
    -- What the rule adds is paid for by the mixed product of the square.
    have mixed : l.nodes + r.nodes ≤ l.nodes * r.nodes + 1 := by nlinarith
    have square : 3 * (1 + l.nodes + r.nodes) ^ 2 = 3 * l.nodes ^ 2 + 3 * r.nodes ^ 2 +
        6 * (l.nodes + r.nodes) + 6 * (l.nodes * r.nodes) + 3 := by ring
    rw [nodes, square]
    omega

theorem depth_derivative_unary_le (v : Variable) (op : UnaryOp) (a : Expr κ) :
    ((unary op a).derivative v).depth ≤ 3 + max (a.derivative v).depth (1 + a.depth) := by
  cases op
  all_goals
    simp only [derivative, neg_def, add_def, mul_def, div_def, depth]
    omega

theorem depth_derivative_binary_le (v : Variable) (op : BinaryOp) (l r : Expr κ) :
    ((binary op l r).derivative v).depth ≤
      3 + max (max (l.derivative v).depth (r.derivative v).depth) (1 + max l.depth r.depth) := by
  cases op
  all_goals
    simp only [derivative, neg_def, add_def, sub_def, mul_def, div_def, depth]
    omega

theorem depth_derivative_le (v : Variable) (e : Expr κ) :
    (e.derivative v).depth ≤ 3 * e.depth - 1 := by
  induction e with
  | const k => exact Nat.le_succ 1
  | var w => exact Nat.le_succ 1
  | unary op a ih =>
    have rule := depth_derivative_unary_le v op a
    have some := a.depth_pos
    rw [depth]
    omega
  | binary op l r ihl ihr =>
    have rule := depth_derivative_binary_le v op l r
    have left := l.depth_pos
    have right := r.depth_pos
    rw [depth]
    omega

/-- No tree makes its derivative more than quadratic in size, or more than three times as deep. -/
theorem nodes_and_depth_derivative_le (e : Expr κ) (v : Variable) :
    (e.derivative v).nodes + 2 ≤ 3 * e.nodes ^ 2 ∧ (e.derivative v).depth ≤ 3 * e.depth - 1 :=
  ⟨nodes_derivative_le v e, depth_derivative_le v e⟩

example : ((.var .x : Expr Nat).derivative .x).nodes + 2 = 3 * 1 ^ 2 ∧
    ((.binary .atan2 (.var .x) (.var .y) : Expr Nat).derivative .x).depth = 3 * 2 - 1 := by
  decide

end Trivariate.Expr
