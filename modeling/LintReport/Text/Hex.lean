/-!
Hexadecimal digits: numerals of the least length, fields of a fixed length, and the value of a
digit. All are written in lowercase; a digit is read in either case.
-/

namespace LintReport.Text

def hexDigit (n : Nat) : Char :=
  Nat.digitChar (n % 16)

def hexNumeral (n : Nat) : List Char :=
  Nat.toDigits 16 n

/-- The last `width` hexadecimal digits of a number. -/
def hexField : Nat → Nat → List Char
  | 0, _ => []
  | width + 1, n => hexField width (n / 16) ++ [hexDigit n]

def hexValue? (c : Char) : Option Nat :=
  if '0' ≤ c ∧ c ≤ '9' then some (c.toNat - '0'.toNat)
  else if 'a' ≤ c ∧ c ≤ 'f' then some (c.toNat - 'a'.toNat + 10)
  else if 'A' ≤ c ∧ c ≤ 'F' then some (c.toNat - 'A'.toNat + 10)
  else none

def hexBytes (bytes : List UInt8) : String :=
  String.ofList (bytes.flatMap fun b => hexField 2 b.toNat)

end LintReport.Text
