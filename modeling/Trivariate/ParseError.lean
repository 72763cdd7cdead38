import Trivariate.Operator

namespace Trivariate

inductive Degenerate where
  | refused (text : String)
  | bareBinary (op : BinaryOp)
  | bareUnary (op : UnaryOp)
  | nothing
  | parenthesizedVariable
deriving DecidableEq, Repr

def Degenerate.message : Degenerate → String
  | .refused text => text ++ " is not a valid expression"
  | .bareBinary op => "operator '" ++ op.symbol ++ "' has no operands"
  | .bareUnary op => "operator '" ++ op.symbol ++ "' has no operand"
  | .nothing => "no expression found"
  | .parenthesizedVariable => "parenthesized variable without an operator"

/-- Positions are byte offsets into the text. -/
inductive ParseError where
  | empty
  | unmatchedClosing (position : Nat)
  | missingClosing (count : Nat)
  | illegalSymbol (symbol : Char) (position : Nat)
  | illegalExpression (position : Nat)
  | unreduced (entries : Nat)
  | degenerate (reason : Degenerate)
  | missingOperand (op : Operator) (position : Nat)
deriving DecidableEq, Repr

def ParseError.message : ParseError → String
  | .empty => "Empty input: nothing to parse"
  | .unmatchedClosing p => "Unmatched ')' at position " ++ toString p ++ ": no opening '('"
  | .missingClosing n => "Missing closing ')': " ++ toString n ++ " parenthesis left open"
  | .illegalSymbol c p =>
    "Illegal symbol '" ++ String.singleton c ++ "' at position " ++ toString p
  | .illegalExpression p =>
    "Illegal expression: operands at position " ++ toString p ++ " have no operator to apply"
  | .unreduced n => "Mismatch in number of arguments: " ++ toString n ++ " entries left unreduced"
  | .degenerate reason => "Incorrect input: " ++ reason.message
  | .missingOperand op p =>
    "Operator '" ++ op.symbol ++ "' at position " ++ toString p ++ " is missing an operand"

end Trivariate
