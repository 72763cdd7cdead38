import Mathlib.Algebra.Field.Basic
import Trivariate.Expr.Evaluation

namespace Trivariate

structure ExactArithmetic (κ K : Type) [OfNat κ 0] [OfNat κ 1] [Field K] where
  const : κ → K
  const_zero : const 0 = 0
  const_one : const 1 = 1
  sinh : K → K
  cosh : K → K
  atan : K → K
  atan2 : K → K → K

namespace ExactArithmetic

variable {κ K : Type} [OfNat κ 0] [OfNat κ 1] [Field K]

def values (E : ExactArithmetic κ K) : Interpretation κ K where
  const := E.const
  unary
    | .negate => fun a => -a
    | .sinh => E.sinh
    | .cosh => E.cosh
    | .atan => E.atan
  binary
    | .add => fun a b => a + b
    | .sub => fun a b => a - b
    | .mul => fun a b => a * b
    | .div => fun a b => a / b
    | .atan2 => E.atan2

end ExactArithmetic

section Defined

variable {κ K : Type} [Field K]

def UnaryOp.DefinedOn (a : K) : UnaryOp → Prop
  | .atan => 1 + a ^ 2 ≠ 0
  | _ => True

def BinaryOp.DefinedOn (l r : K) : BinaryOp → Prop
  | .div => r ≠ 0
  | .atan2 => l ^ 2 + r ^ 2 ≠ 0
  | _ => True

/-- No divisor in the tree vanishes at the point, where the two inverse tangents divide by the
squares in their derivatives. -/
def Expr.DefinedAt (I : Interpretation κ K) (p : Triple K) : Expr κ → Prop
  | .const _ => True
  | .var _ => True
  | .unary op a => a.DefinedAt I p ∧ op.DefinedOn (a.eval I p)
  | .binary op l r =>
    l.DefinedAt I p ∧ r.DefinedAt I p ∧ op.DefinedOn (l.eval I p) (r.eval I p)

end Defined

namespace Expr

variable {κ α : Type} (I : Interpretation κ α) (p : Triple α) (a b : Expr κ)

@[simp] theorem eval_neg : (-a).eval I p = I.unary .negate (a.eval I p) := rfl

@[simp] theorem eval_add : (a + b).eval I p = I.binary .add (a.eval I p) (b.eval I p) := rfl

@[simp] theorem eval_sub : (a - b).eval I p = I.binary .sub (a.eval I p) (b.eval I p) := rfl

@[simp] theorem eval_mul : (a * b).eval I p = I.binary .mul (a.eval I p) (b.eval I p) := rfl

@[simp] theorem eval_div : (a / b).eval I p = I.binary .div (a.eval I p) (b.eval I p) := rfl

end Expr

end Trivariate
