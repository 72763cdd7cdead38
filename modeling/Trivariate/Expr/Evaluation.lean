import Trivariate.Expr

namespace Trivariate

/-- A meaning in `α` for the constants `κ` and for every operator. -/
structure Interpretation (κ α : Type) where
  const : κ → α
  unary : UnaryOp → α → α
  binary : BinaryOp → α → α → α

structure Functions where
  sinh : Float → Float
  cosh : Float → Float
  atan : Float → Float
  atan2 : Float → Float → Float

/-- Double precision: arithmetic rounds once per operation, the functions are a parameter. -/
def doublesWith (fs : Functions) : Interpretation Float Float where
  const := id
  unary
    | .negate => fun a => -a
    | .sinh => fs.sinh
    | .cosh => fs.cosh
    | .atan => fs.atan
  binary
    | .add => fun a b => a + b
    | .sub => fun a b => a - b
    | .mul => fun a b => a * b
    | .div => fun a b => a / b
    | .atan2 => fs.atan2

def doubles : Interpretation Float Float :=
  doublesWith ⟨Float.sinh, Float.cosh, Float.atan, Float.atan2⟩

def Expr.eval {κ α : Type} (I : Interpretation κ α) (p : Triple α) : Expr κ → α
  | .const k => I.const k
  | .var v => p.get v
  | .unary op a => I.unary op (a.eval I p)
  | .binary op l r => I.binary op (l.eval I p) (r.eval I p)

end Trivariate
