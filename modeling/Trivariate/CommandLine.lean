import Trivariate.Notation

namespace Trivariate

structure CommandLine where
  expression : String
  form : Notation
  /-- The coordinates of all `--at` options in a row. -/
  point : Option (List Float)
  diff : List Variable
  gradient : Bool
  hessian : Bool

namespace CommandLine

inductive Item where
  | expression (text : String)
  | form (f : Notation)
  | coordinates (values : List Float)
  | diff (v : Variable)
  | gradient
  | hessian

inductive Key where
  | form
  | point
  | diff
  | gradient
  | hessian
deriving DecidableEq, Repr

namespace Key

def ofLong? : String → Option Key
  | "notation" => some .form
  | "at" => some .point
  | "diff" => some .diff
  | "gradient" => some .gradient
  | "hessian" => some .hessian
  | _ => none

def ofShort? : Char → Option Key
  | 'n' => some .form
  | 'a' => some .point
  | 'd' => some .diff
  | _ => none

end Key

inductive Shape where
  | plain (text : String)
  | separator
  | option (key : Key) (attached : Option String)
  | unknown

/-- A value may be attached to a long option by an equals sign, and to a short one directly or
by an equals sign. A minus alone is no option. -/
def Shape.ofText (arg : String) : Shape :=
  match arg.toList with
  | ['-'] => .plain arg
  | ['-', '-'] => .separator
  | '-' :: '-' :: cs =>
    let name := cs.takeWhile (· ≠ '=')
    let attached := match cs.dropWhile (· ≠ '=') with
      | [] => none
      | _ :: value => some (String.ofList value)
    match Key.ofLong? (String.ofList name) with
    | some key => .option key attached
    | none => .unknown
  | '-' :: c :: cs =>
    let attached := match cs with
      | [] => none
      | '=' :: value => some (String.ofList value)
      | value => some (String.ofList value)
    match Key.ofShort? c with
    | some key => .option key attached
    | none => .unknown
  | _ => .plain arg

/-- Negative numbers that are told from options: digits, then perhaps a point and digits, then
perhaps an exponent without a sign. -/
def isNegativeNumber (arg : String) : Bool :=
  match arg.toList with
  | '-' :: cs =>
    let (whole, rest) := cs.span Char.isDigit
    let (_, rest) := Number.fraction rest
    whole ≠ [] && match rest with
      | [] => true
      | c :: digits => (c = 'e' || c = 'E') && digits ≠ [] && digits.all Char.isDigit
  | _ => false

def isValue (arg : String) : Bool :=
  match Shape.ofText arg with
  | .plain _ => true
  | _ => false

def splitCommas : List Char → List (List Char)
  | [] => [[]]
  | c :: cs =>
    match splitCommas cs with
    | [] => [[c]]
    | word :: words => if c = ',' then [] :: word :: words else (c :: word) :: words

def numbers? (arg : String) : Option (List Float) :=
  (splitCommas arg.toList).mapM fun cs => Number.read? (String.ofList cs)

def coordinates? (args : List String) : Option (List Float) :=
  if args.all fun arg => isValue arg || isNegativeNumber arg then
    (args.mapM numbers?).map List.flatten
  else none

def valued? (key : Key) (value : String) : Option Item :=
  match key with
  | .form => (Notation.ofName? value).map .form
  | .diff => (Variable.ofName? value).map .diff
  | _ => none

def items? : List String → Option (List Item)
  | [] => some []
  | arg :: rest =>
    match Shape.ofText arg with
    | .plain text => (items? rest).map (.expression text :: ·)
    | .separator => some (rest.map .expression)
    | .unknown => none
    | .option .gradient none => (items? rest).map (.gradient :: ·)
    | .option .hessian none => (items? rest).map (.hessian :: ·)
    | .option .point none =>
      match rest with
      | a :: b :: c :: rest => do
        let values ← coordinates? [a, b, c]
        (items? rest).map (.coordinates values :: ·)
      | _ => none
    | .option key (some value) => do
      let item ← valued? key value
      (items? rest).map (item :: ·)
    | .option key none =>
      match rest with
      | value :: rest =>
        if isValue value then do
          let item ← valued? key value
          (items? rest).map (item :: ·)
        else none
      | [] => none

namespace Item

def expression? : Item → Option String
  | .expression text => some text
  | _ => none

def form? : Item → Option Notation
  | .form f => some f
  | _ => none

def coordinates? : Item → Option (List Float)
  | .coordinates values => some values
  | _ => none

def diff? : Item → Option Variable
  | .diff v => some v
  | _ => none

def isGradient : Item → Bool
  | .gradient => true
  | _ => false

def isHessian : Item → Bool
  | .hessian => true
  | _ => false

end Item

def ofItems? (items : List Item) : Option CommandLine := do
  let [expression] := items.filterMap Item.expression? | none
  let forms := items.filterMap Item.form?
  let points := items.filterMap Item.coordinates?
  let gradients := items.countP Item.isGradient
  let hessians := items.countP Item.isHessian
  guard (forms.length ≤ 1 ∧ gradients ≤ 1 ∧ hessians ≤ 1)
  guard (gradients + hessians = 0 ∨ points ≠ [])
  some {
    expression
    form := forms.headD default
    point := if points = [] then none else some points.flatten
    diff := items.filterMap Item.diff?
    gradient := gradients = 1
    hessian := hessians = 1 }

def parse? (args : List String) : Option CommandLine := do
  ofItems? (← items? args)

end CommandLine

end Trivariate
