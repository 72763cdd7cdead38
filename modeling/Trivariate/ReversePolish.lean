import Trivariate.Expr
import Trivariate.Scan

/-! Reading operator-last text with a stack of finished expressions. The last expression
finished is the result, and expressions under it are dropped. -/
namespace Trivariate.ReversePolish

variable {κ : Type}

def step (stack : List (Expr κ)) (l : Lexeme κ) : Except ParseError (List (Expr κ)) :=
  match l.token, stack with
  | .var v, below => .ok (.var v :: below)
  | .number k, below => .ok (.const k :: below)
  | .unary op, a :: below => .ok (.unary op a :: below)
  | .unary op, _ => .error (.missingOperand (.unary op) l.position)
  | .binary op, right :: left :: below => .ok (.binary op left right :: below)
  | .binary op, _ => .error (.missingOperand (.binary op) l.position)
  | .opening, _ => .error (.illegalSymbol '(' l.position)
  | .closing, _ => .error (.illegalSymbol ')' l.position)

def finish : List (Expr κ) → Except ParseError (Expr κ)
  | [] => .error .empty
  | e :: _ => .ok e

def parse (text : String) : Except ParseError (Expr Float) :=
  (Scan.ofText text).run step [] >>= finish

end Trivariate.ReversePolish
