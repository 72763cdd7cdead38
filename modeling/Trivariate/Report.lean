import Trivariate.CommandLine
import Trivariate.Formula

namespace Trivariate

inductive ReportError where
  | formula (cause : FormulaError)
  | pointSize
deriving DecidableEq, Repr

def ReportError.message : ReportError → String
  | .formula cause => cause.message
  | .pointSize => "could not convert slice to array"

namespace Report

def numbers (t : Triple Float) : String :=
  bracketed (t.toList.map Number.write)

/-- The lines about a point. The value is that of the tree on the lines above; gradient and
Hessian are those of the formula before it was differentiated. -/
def pointLines (style : Style) (c : CommandLine) (f : Formula Float) (tree : Expr Float)
    (p : Triple Float) : List String :=
  [headed style "Value" (Number.write (tree.eval doubles p))]
    ++ (if c.gradient then [headed style "Gradient" (numbers (f.gradient doubles p))] else [])
    ++ (if c.hessian then
        [headed style "Hessian" (bracketed ((f.hessian doubles p).toList.map numbers))]
      else [])

def treeLines (style : Style) (c : CommandLine) (tree : Expr Float) : List String :=
  (if c.diff = [] then []
    else [headed style "Derivative" ("d/d" ++ " d/d".intercalate (c.diff.map Variable.name))])
    ++ [headed style "Postfix" (Notation.reversePolish.print tree),
      headed style "Prefix" (Notation.polish.print tree)]

def lines (style : Style) (c : CommandLine) : Except ReportError (List String) :=
  match Formula.parse c.expression c.form with
  | .error cause => .error (.formula cause)
  | .ok f =>
    let tree := f.deriveAll c.diff
    match c.point with
    | none => .ok (treeLines style c tree)
    | some values =>
      match Triple.ofList? values with
      | none => .error .pointSize
      | some p => .ok (treeLines style c tree ++ pointLines style c f tree p)

def render (style : Style) (c : CommandLine) : Except ReportError String :=
  (lines style c).map ("\n".intercalate ·)

end Report

end Trivariate
