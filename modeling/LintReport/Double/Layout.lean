import LintReport.Double.Shortest

/-!
Numbers of double precision as text.

A number is written with the fewest digits that read back. They stand around a point if the first
digit counts a power of ten from 10^-5 to 10^15, and before an exponent otherwise. A point has
digits on both sides, so whole numbers end in `.0` unless they have an exponent; an exponent has a
sign. Zero keeps its sign.
-/

namespace LintReport.Double

namespace Scientific

def isPlain (decimal : Scientific) : Bool :=
  -5 ≤ decimal.exponent && decimal.exponent ≤ 15

def plain (decimal : Scientific) : List Char :=
  if decimal.exponent < 0 then
    ['0', '.'] ++ List.replicate (decimal.exponent.natAbs - 1) '0' ++ decimal.digits
  else
    let places := decimal.exponent.toNat + 1
    let after := decimal.digits.drop places
    decimal.digits.take places ++ List.replicate (places - decimal.digits.length) '0' ++
      '.' :: (if after = [] then ['0'] else after)

/-- A decimal before an exponent, with a point after the first of several digits. -/
def exponential (decimal : Scientific) : List Char :=
  let significand := match decimal.digits with
    | first :: second :: more => first :: '.' :: second :: more
    | digits => digits
  significand ++ 'e' :: (if decimal.exponent < 0 then '-' else '+') ::
    Nat.toDigits 10 decimal.exponent.natAbs

def text (decimal : Scientific) : List Char :=
  if decimal.isPlain then decimal.plain else decimal.exponential

end Scientific

def magnitudeText (units : Nat) : List Char :=
  if units = 0 then ['0', '.', '0'] else (shortest units).text

def text (value : Double) : String :=
  String.ofList ((if value.negative then ['-'] else []) ++ magnitudeText value.units)

end LintReport.Double
