import LintReport.Double.Basic

/-!
The fewest decimal digits that read back.

Among all decimals that round to a given magnitude, one with the fewest digits is taken, and of
those the nearest. All decimals in question are whole numbers of grains, where a grain is 10^-341:
the smallest positive magnitude has eighteen digits in grains, and seventeen digits always
suffice. The coarser grids are tried before the finer ones, and on each grid only the two
neighbours of the magnitude, since no other point of the grid is nearer.
-/

namespace LintReport.Double

/-- A positive decimal in scientific terms. -/
structure Scientific where
  /-- The digits, none of those at either end a zero. -/
  digits : List Char
  /-- The power of ten that the first digit counts. -/
  exponent : Int
deriving DecidableEq

def grainPlaces : Nat := 341

def oneInGrains : Nat :=
  Nat.pow 10 grainPlaces

def wholeGrains (units : Nat) : Nat :=
  units * oneInGrains / one

def ofGrains (grains : Nat) : Nat :=
  round (grains * one) oneInGrains

/-- The multiple of `grid` grains next to a magnitude that reads back. If the multiples on both
sides do, it is the nearer one, and of two equally near ones the even one. -/
def neighbour? (units grid : Nat) : Option Nat :=
  let count := wholeGrains units / grid
  let below := count * grid
  let above := (count + 1) * grid
  let twice := 2 * units * oneInGrains
  let middle := (below + above) * one
  let ordered :=
    if twice < middle ∨ (twice = middle ∧ count % 2 = 0) then [below, above] else [above, below]
  ordered.find? fun grains => ofGrains grains = units

def shortestGrains (units : Nat) : Nat :=
  let length := (Nat.toDigits 10 (wholeGrains units)).length
  let found := (List.range length).findSome? fun more =>
    neighbour? units (Nat.pow 10 (length - 1 - more))
  found.getD (wholeGrains units)

/-- The decimal with the fewest digits that reads back as a positive magnitude. -/
def shortest (units : Nat) : Scientific :=
  let written := Nat.toDigits 10 (shortestGrains units)
  ⟨(written.reverse.dropWhile (· = '0')).reverse, (written.length : Int) - 1 - grainPlaces⟩

end LintReport.Double
