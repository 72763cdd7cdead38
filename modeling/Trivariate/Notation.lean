import Trivariate.Expr.Derivative
import Trivariate.Number.Text
import Trivariate.Polish
import Trivariate.Quoted
import Trivariate.ReversePolish

namespace Trivariate

inductive Notation where
  | polish
  | reversePolish
deriving DecidableEq, Repr

instance : Inhabited Notation := ⟨.polish⟩

namespace Notation

def name : Notation → String
  | .polish => "prefix"
  | .reversePolish => "postfix"

def ofName? (name : String) : Option Notation :=
  match name.toLower with
  | "prefix" => some .polish
  | "lisp" => some .polish
  | "postfix" => some .reversePolish
  | "rpn" => some .reversePolish
  | _ => none

def parse : Notation → String → Except ParseError (Expr Float)
  | .polish => Polish.parse
  | .reversePolish => ReversePolish.parse

def print : Notation → Expr Float → String
  | .polish => Expr.polish Number.write
  | .reversePolish => Expr.reversePolish Number.write

end Notation

inductive LookupError where
  | unknownVariable (name : String)
  | unknownNotation (name : String)
deriving DecidableEq, Repr

def LookupError.message : LookupError → String
  | .unknownVariable name =>
    "Unknown variable: " ++ Text.quoted name ++ " (expected x, y or z)"
  | .unknownNotation name =>
    "unknown notation " ++ Text.quoted name.toLower ++ ", expected prefix or postfix"

def Variable.lookup (name : String) : Except LookupError Variable :=
  match ofName? name with
  | some v => .ok v
  | none => .error (.unknownVariable name)

def Expr.derivativeByName {κ : Type} [OfNat κ 0] [OfNat κ 1] (e : Expr κ) (name : String) :
    Except LookupError (Expr κ) :=
  (Variable.lookup name).map fun v => e.derivative v

def Notation.lookup (name : String) : Except LookupError Notation :=
  match ofName? name with
  | some form => .ok form
  | none => .error (.unknownNotation name)

end Trivariate
