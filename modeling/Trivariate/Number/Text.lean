import Trivariate.Number.Shortest

namespace Trivariate.Number

def Decimal.digits (d : Decimal) : List Char :=
  let whole := Nat.toDigits 10 (d.coefficient / tenTo d.places)
  if d.places = 0 then whole
  else whole ++ '.' :: (Nat.toDigits 10 (d.coefficient % tenTo d.places)).leftpad d.places '0'

def write (x : Float) : String :=
  let n := rung x
  if top < n then "NaN"
  else
    let magnitude := if n = top then ['i', 'n', 'f'] else (shortest n).digits
    String.ofList (if isNegative x then '-' :: magnitude else magnitude)

/-- The double nearest to `coefficient * 10^exponent`. All exponents above 400 overflow alike
unless the coefficient is zero, and all that leave the product below 10^-399 round to zero
alike, so the exponent is first brought within those bounds. -/
def ofDecimal (negative : Bool) (coefficient : Nat) (exponent : Int) : Float :=
  let e := max (-(coefficient.log2 + 400 : Int)) (min exponent 400)
  ofRung negative (nearest ((coefficient * tenTo e.toNat) <<< 1074) (tenTo (-e).toNat))

def ofDigits (negative : Bool) (digits : List Char) : Float :=
  ofDecimal negative (Nat.ofDigitChars 10 digits 0) 0

def signed : List Char → Bool × List Char
  | '-' :: cs => (true, cs)
  | '+' :: cs => (false, cs)
  | cs => (false, cs)

def exponent? : List Char → Option Int
  | [] => some 0
  | c :: cs =>
    let (negative, digits) := signed cs
    if (c = 'e' ∨ c = 'E') ∧ digits ≠ [] ∧ digits.all Char.isDigit then
      let magnitude : Int := Nat.ofDigitChars 10 digits 0
      some (if negative then -magnitude else magnitude)
    else none

def fraction : List Char → List Char × List Char
  | '.' :: cs => cs.span Char.isDigit
  | cs => ([], cs)

def ofText? (negative : Bool) (cs : List Char) : Option Float :=
  let (whole, rest) := cs.span Char.isDigit
  let (places, rest) := fraction rest
  if whole = [] ∧ places = [] then none
  else
    (exponent? rest).map fun e =>
      ofDecimal negative (Nat.ofDigitChars 10 (whole ++ places) 0) (e - places.length)

def read? (text : String) : Option Float :=
  let (negative, cs) := signed text.toList
  let word := cs.map Char.toLower
  if word = "inf".toList ∨ word = "infinity".toList then some (ofRung negative top)
  else if word = "nan".toList then some nan
  else ofText? negative cs

end Trivariate.Number
