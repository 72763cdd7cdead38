import Trivariate.Number.Ladder

/-! The shortest decimal that identifies a double. Every finite double is a whole number of
parts, one part being 10^-1074, so a decimal with at most that many places and the numbers that
round to a double compare as whole numbers. -/
namespace Trivariate.Number

def tenTo (n : Nat) : Nat := Nat.pow 10 n

def parts (n : Nat) : Nat :=
  height n * Nat.pow 5 1074

/-- Whether `v` parts round to rung `n`: they lie between the midpoints to the two neighbouring
rungs, the midpoints themselves included when `n` is even. -/
def roundsTo (n v : Nat) : Bool :=
  let low := parts (n - 1) + parts n
  let high := parts n + parts (n + 1)
  if n % 2 = 0 then low ≤ 2 * v && 2 * v ≤ high else low < 2 * v && 2 * v < high

structure Decimal where
  coefficient : Nat
  places : Nat
deriving DecidableEq, Repr

/-- Of the two multiples of 10^j next to rung `n`, the nearer one that rounds to it, in units of
10^j. When both are equally near, the greater is taken. -/
def onGrid? (n j : Nat) : Option Nat :=
  let c := parts n / tenTo j
  match roundsTo n (c * tenTo j), roundsTo n ((c + 1) * tenTo j) with
  | true, true => some (if 2 * parts n < (2 * c + 1) * tenTo j then c else c + 1)
  | true, false => some c
  | false, true => some (c + 1)
  | false, false => none

def coarsest (n : Nat) : Nat → Decimal
  | 0 => ⟨parts n, 1074⟩
  | j + 1 =>
    match onGrid? n (j + 1) with
    | some c => ⟨c * tenTo (j + 1 - 1074), 1074 - (j + 1)⟩
    | none => coarsest n j

def shortest (n : Nat) : Decimal :=
  if n = 0 then ⟨0, 0⟩ else coarsest n (((parts n).log2 + 1) * 28 / 93 + 1)

end Trivariate.Number
