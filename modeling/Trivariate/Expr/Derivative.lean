import Trivariate.Expr

/-! Symbolic partial derivatives. A derivative is built by one rule per operator and is never
simplified, so its size and shape are functions of the tree alone. -/
namespace Trivariate.Expr

variable {κ : Type} [OfNat κ 0] [OfNat κ 1]

/-- The partial derivative by `v`. The rule for `cosh` carries the sign of the circular
cosine: `cosh a` becomes `-(sinh a) * a'`. -/
def derivative (v : Variable) : Expr κ → Expr κ
  | .const _ => .const 0
  | .var w => .const (if w = v then 1 else 0)
  | .unary .negate a => -a.derivative v
  | .unary .sinh a => .unary .cosh a * a.derivative v
  | .unary .cosh a => (-.unary .sinh a) * a.derivative v
  | .unary .atan a => (.const 1 / (.const 1 + a * a)) * a.derivative v
  | .binary .add l r => l.derivative v + r.derivative v
  | .binary .sub l r => l.derivative v - r.derivative v
  | .binary .mul l r => l.derivative v * r + l * r.derivative v
  | .binary .div l r => (l.derivative v * r - l * r.derivative v) / (r * r)
  | .binary .atan2 l r =>
    (-l) * r.derivative v / (l * l + r * r) + r * l.derivative v / (l * l + r * r)

def deriveAll (e : Expr κ) (vs : List Variable) : Expr κ :=
  vs.foldl (fun d v => d.derivative v) e

@[simp] theorem deriveAll_nil (e : Expr κ) : e.deriveAll [] = e := rfl

@[simp] theorem deriveAll_cons (e : Expr κ) (v : Variable) (vs : List Variable) :
    e.deriveAll (v :: vs) = (e.derivative v).deriveAll vs := rfl

theorem deriveAll_append (e : Expr κ) (vs ws : List Variable) :
    e.deriveAll (vs ++ ws) = (e.deriveAll vs).deriveAll ws :=
  List.foldl_append

end Trivariate.Expr
