/-!
Numbers of double precision.

A finite number of double precision is a multiple of the smallest positive one, 2^-1074, and is
kept as its sign and that multiple, so magnitudes are counted in units of 2^-1074. A magnitude has
at most 53 binary digits in front of its last zeros. To round a real number is then to divide
natural numbers: the step between neighbours follows from the size of the quotient, and below 2^53
units it is a single unit.
-/

namespace LintReport

/-- A finite number of double precision. Zero has a sign, too. -/
structure Double where
  negative : Bool
  /-- The magnitude, in units of 2^-1074. -/
  units : Nat
deriving DecidableEq

namespace Double

def one : Nat :=
  Nat.pow 2 1074

/-- The least power of two beyond double precision, 2^1024, in units. -/
def bound : Nat :=
  Nat.pow 2 2098

/-- The step between the magnitudes around a number of units, which leaves 53 binary digits. -/
def step (units : Nat) : Nat :=
  Nat.pow 2 (units.log2 - 52)

/-- The multiple of `unit` that is nearest to a quotient, a tie going to the even multiple. -/
def nearestMultiple (unit numerator denominator : Nat) : Nat :=
  let count := numerator / (denominator * unit)
  let excess := numerator % (denominator * unit)
  if 2 * excess < denominator * unit ∨ (2 * excess = denominator * unit ∧ count % 2 = 0) then
    count * unit
  else (count + 1) * unit

def round (numerator denominator : Nat) : Nat :=
  nearestMultiple (step (numerator / denominator)) numerator denominator

def ofNat (n : Nat) : Nat :=
  round (n * one) 1

def largestPower : Nat := 308

def powerOfTen (exponent : Nat) : Nat :=
  ofNat (Nat.pow 10 exponent)

def raise? (units exponent : Nat) : Option Nat :=
  if units = 0 then some 0
  else if largestPower < exponent then none
  else
    let product := round (units * powerOfTen exponent) one
    if product < bound then some product else none

/-- Divides a magnitude by a power of ten. What lies beyond the largest power is taken in several
divisions, each of them rounded. -/
def lower (units exponent : Nat) : Nat :=
  if units = 0 then 0
  else if _beyond : largestPower < exponent then
    lower (round (units * one) (powerOfTen largestPower)) (exponent - largestPower)
  else round (units * one) (powerOfTen exponent)
termination_by exponent
decreasing_by
  have hpositive : 0 < largestPower := by decide
  omega

/-- The magnitude of a natural number times a power of ten, unless double precision cannot hold it.
The number and the power are rounded before they meet. -/
def scale? (n : Nat) (exponent : Int) : Option Nat :=
  if exponent ≤ 0 then some (lower (ofNat n) (-exponent).toNat)
  else raise? (ofNat n) exponent.toNat

end Double

end LintReport
