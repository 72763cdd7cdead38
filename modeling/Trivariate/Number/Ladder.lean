/-! The magnitudes of the doubles as a ladder of whole numbers. Rung `n` is the magnitude whose
bits, the sign aside, spell `n`. Its height is its value in units of 2^-1074, the least positive
double, of which every finite double is a whole multiple. -/
namespace Trivariate.Number

def stretch : Nat := 0x10000000000000

/-- The rung of infinity, one above the greatest finite magnitude. The rungs above it hold no
number. -/
def top : Nat := 2047 * stretch

/-- The first two stretches climb one unit a rung, and every further stretch twice as much as
the one before it. -/
def height (n : Nat) : Nat :=
  if n < stretch then n else (stretch + n % stretch) <<< (n / stretch - 1)

def divNearest (num den : Nat) : Nat :=
  let q := num / den
  let r := num % den
  if 2 * r < den ∨ (2 * r = den ∧ q % 2 = 0) then q else q + 1

/-- The rung nearest to `num / den` units; halfway cases go to the even neighbour. Divided by
the step of its stretch, the quotient has 53 bits and counts rungs, and a carry out of the
stretch lands on the first rung of the next. -/
def nearest (num den : Nat) : Nat :=
  let shift := (num / den).log2 - 52
  min (shift * stretch + divNearest num (den <<< shift)) top

def signBit : Nat := 0x8000000000000000

def rung (x : Float) : Nat :=
  x.toBits.toNat % signBit

def isNegative (x : Float) : Bool :=
  signBit ≤ x.toBits.toNat

def ofRung (negative : Bool) (n : Nat) : Float :=
  Float.ofBits (UInt64.ofNat (if negative then signBit + n else n))

def nan : Float :=
  ofRung false (top + stretch / 2)

end Trivariate.Number
