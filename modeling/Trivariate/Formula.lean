import Trivariate.Expr.Derivative
import Trivariate.Expr.Evaluation
import Trivariate.Notation

namespace Trivariate

/-- How a heading is set. The identity sets it plain. -/
abbrev Style := String → String

def headed (style : Style) (heading body : String) : String :=
  style heading ++ ": " ++ body

def bracketed (items : List String) : String :=
  "[" ++ ", ".intercalate items ++ "]"

structure Formula (κ : Type) where
  source : String
  form : Notation
  tree : Expr κ
  first : Triple (Expr κ)
  second : Triple (Triple (Expr κ))

inductive FormulaError where
  | parse (cause : ParseError)
  | inputLength (got : Nat)
deriving DecidableEq, Repr

def FormulaError.message : FormulaError → String
  | .parse _ => "Failed to parse formula"
  | .inputLength got => "Invalid input length: expected 3, got " ++ toString got

namespace Formula

variable {κ α : Type}

/-- Row `v` of the second derivatives holds the derivatives of the first derivative by `v`. -/
def ofExpr [OfNat κ 0] [OfNat κ 1] (source : String) (form : Notation) (tree : Expr κ) :
    Formula κ :=
  let first := Triple.ofFn fun v => tree.derivative v
  let second := first.map fun d => Triple.ofFn fun w => d.derivative w
  { source, form, tree, first, second }

def parse (source : String) (form : Notation) : Except FormulaError (Formula Float) :=
  match form.parse source with
  | .ok tree => .ok (ofExpr source form tree)
  | .error cause => .error (.parse cause)

def eval (I : Interpretation κ α) (f : Formula κ) (p : Triple α) : α :=
  f.tree.eval I p

def evalList (I : Interpretation κ α) (f : Formula κ) (values : List α) :
    Except FormulaError α :=
  match Triple.ofList? values with
  | some p => .ok (f.eval I p)
  | none => .error (.inputLength values.length)

def evalBatch (I : Interpretation κ α) (f : Formula κ) (ps : List (Triple α)) : List α :=
  ps.map (f.eval I)

def derivative (f : Formula κ) (v : Variable) : Expr κ :=
  f.first.get v

def secondDerivative (f : Formula κ) (v w : Variable) : Expr κ :=
  (f.second.get v).get w

def gradient (I : Interpretation κ α) (f : Formula κ) (p : Triple α) : Triple α :=
  f.first.map fun d => d.eval I p

def hessian (I : Interpretation κ α) (f : Formula κ) (p : Triple α) : Triple (Triple α) :=
  f.second.map fun row => row.map fun d => d.eval I p

def deriveAll [OfNat κ 0] [OfNat κ 1] (f : Formula κ) (vs : List Variable) : Expr κ :=
  f.tree.deriveAll vs

def rebase [OfNat κ 0] [OfNat κ 1] (f : Formula κ) (vs : List Variable) (source : String)
    (form : Notation) : Formula κ :=
  ofExpr source form (f.deriveAll vs)

def display (style : Style) (f : Formula Float) : String :=
  let line (heading body : String) := "    " ++ headed style heading body ++ "\n"
  "\x7b\n"
    ++ line "Formula" f.source
    ++ line "Notation" f.form.name
    ++ line "Prefix" (Notation.polish.print f.tree)
    ++ line "Variables" (bracketed (f.tree.vars.map Variable.name))
    ++ "\x7d"

end Formula

end Trivariate
