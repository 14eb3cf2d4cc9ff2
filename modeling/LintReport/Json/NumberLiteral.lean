import LintReport.Double.Basic
import LintReport.Json.Basic

/-!
Number literals of JSON.

A literal has a sign, digits, and perhaps a fraction and an exponent. It denotes an integer if it
is written with digits alone and fits in 64 bits, signed if it is negative. Every literal denotes a
number of double precision, unless it is out of range. That number is taken from the leading digits
as far as 64 bits reach, rounded once, and scaled by a rounded power of ten.
-/

namespace LintReport.Json

structure NumberLiteral where
  negative : Bool
  whole : List Char
  /-- The digits after the point, if there is one. -/
  fraction : Option (List Char)
  /-- Whether the exponent is negative, and its digits, if there is one. -/
  exponent : Option (Bool × List Char)
deriving DecidableEq

def spanDigits (s : List Char) : List Char × List Char :=
  (s.takeWhile Char.isDigit, s.dropWhile Char.isDigit)

/-- Reads one digit or more. If the text ends before the first of them, `short` is the fault. -/
def readDigits (short : Fault) (s : List Char) : Reading (List Char) :=
  match s with
  | [] => .error short
  | c :: rest =>
    if c.isDigit then .ok (c :: (spanDigits rest).1, (spanDigits rest).2) else .error .malformed

/-- Reads the digits in front of the point. No digit follows a leading zero. -/
def readWhole (short : Fault) (s : List Char) : Reading (List Char) :=
  match readDigits short s with
  | .ok ('0' :: _ :: _, _) => .error .malformed
  | answer => answer

def readFraction (short : Fault) (s : List Char) : Reading (Option (List Char)) :=
  match s with
  | '.' :: rest => mapRead some (readDigits short rest)
  | s => .ok (none, s)

def readSign (s : List Char) : Bool × List Char :=
  match s with
  | '-' :: rest => (true, rest)
  | '+' :: rest => (false, rest)
  | s => (false, s)

def readExponent (short : Fault) (s : List Char) : Reading (Option (Bool × List Char)) :=
  match s with
  | [] => .ok (none, [])
  | c :: rest =>
    if c = 'e' ∨ c = 'E' then
      mapRead (fun digits => some ((readSign rest).1, digits))
        (readDigits short (readSign rest).2)
    else .ok (none, c :: rest)

def readMinus (s : List Char) : Bool × List Char :=
  match s with
  | '-' :: rest => (true, rest)
  | s => (false, s)

/-- Reads a number literal. If the text ends inside it, `short` is the fault. -/
def readNumber (short : Fault) (s : List Char) : Reading NumberLiteral :=
  match readWhole short (readMinus s).2 with
  | .error fault => .error fault
  | .ok (whole, rest) =>
    match readFraction short rest with
    | .error fault => .error fault
    | .ok (fraction, rest) =>
      match readExponent short rest with
      | .error fault => .error fault
      | .ok (exponent, rest) => .ok (⟨(readMinus s).1, whole, fraction, exponent⟩, rest)

def ofDigits (digits : List Char) : Nat :=
  Nat.ofDigitChars 10 digits 0

/-- A number as 64 bits hold it while it is read: some of its leading digits, and a power of
ten. -/
structure Scaled where
  significand : Nat
  exponent : Int
deriving DecidableEq

namespace Scaled

def extend? (significand : Nat) (digit : Char) : Option Nat :=
  let longer := significand * 10 + (digit.toNat - '0'.toNat)
  if longer < UInt64.size then some longer else none

theorem extend?_of_lt {significand : Nat} {digit : Char}
    (h : significand * 10 + (digit.toNat - '0'.toNat) < UInt64.size) :
    extend? significand digit = some (significand * 10 + (digit.toNat - '0'.toNat)) := by
  simp only [extend?, h, if_true]

-- Where it is opened inside a `match`, its bound of 64 bits would be counted down one by one.
attribute [irreducible] extend?

/-- Takes in digits in front of the point. From the first that does not fit on, each only moves
the point. -/
def addWhole (significand : Nat) : List Char → Scaled
  | [] => ⟨significand, 0⟩
  | digit :: more =>
    match extend? significand digit with
    | some longer => addWhole longer more
    | none => ⟨significand, (digit :: more).length⟩

/-- Takes in digits after the point. From the first that does not fit on, all are dropped. -/
def addFraction (scaled : Scaled) : List Char → Scaled
  | [] => scaled
  | digit :: more =>
    match extend? scaled.significand digit with
    | some longer => addFraction ⟨longer, scaled.exponent - 1⟩ more
    | none => scaled

end Scaled

namespace NumberLiteral

def scaled (literal : NumberLiteral) : Scaled :=
  let mantissa := (Scaled.addWhole 0 literal.whole).addFraction (literal.fraction.getD [])
  match literal.exponent with
  | none => mantissa
  | some (true, digits) => { mantissa with exponent := mantissa.exponent - ofDigits digits }
  | some (false, digits) => { mantissa with exponent := mantissa.exponent + ofDigits digits }

def double? (literal : NumberLiteral) : Option Double :=
  (Double.scale? literal.scaled.significand literal.scaled.exponent).map
    (Double.mk literal.negative)

def inRange (literal : NumberLiteral) : Bool :=
  literal.double?.isSome

def isWhole (literal : NumberLiteral) : Bool :=
  literal.fraction.isNone && literal.exponent.isNone

/-- The number a literal denotes if it is written with digits alone and fits in 64 bits. -/
def count? (literal : NumberLiteral) : Option UInt64 :=
  if literal.isWhole ∧ ¬ literal.negative ∧ ofDigits literal.whole < UInt64.size then
    some (UInt64.ofNat (ofDigits literal.whole))
  else none

/-- The integer a literal denotes if it is written with digits alone, behind a minus or not, and
fits in 64 bits. Zero behind a minus is no integer, as it keeps its sign. -/
def integer? (literal : NumberLiteral) : Option Int :=
  if literal.negative then
    let size := ofDigits literal.whole
    if literal.isWhole ∧ 0 < size ∧ 2 * size ≤ UInt64.size then some (-(size : Int)) else none
  else literal.count?.map fun n => (n.toNat : Int)

end NumberLiteral

/-! ### What is left of the text -/

theorem length_lt_of_readDigits {short : Fault} {s r digits : List Char} :
    readDigits short s = .ok (digits, r) → r.length < s.length := by
  fun_cases readDigits short s with
  | case2 c rest hdigit =>
    rintro ⟨⟩
    exact Nat.lt_succ_of_le (List.dropWhile_suffix Char.isDigit).length_le
  | _ => rintro ⟨⟩

theorem length_lt_of_readWhole {short : Fault} {s r digits : List Char} :
    readWhole short s = .ok (digits, r) → r.length < s.length := by
  fun_cases readWhole short s with
  | case1 => rintro ⟨⟩
  | case2 => exact length_lt_of_readDigits

theorem length_le_of_readFraction {short : Fault} {s r : List Char}
    {digits : Option (List Char)} :
    readFraction short s = .ok (digits, r) → r.length ≤ s.length := by
  fun_cases readFraction short s with
  | case1 rest =>
    intro h
    obtain ⟨read, hread, -⟩ := mapRead_eq_ok_iff.mp h
    exact Nat.le_succ_of_le (Nat.le_of_lt (length_lt_of_readDigits hread))
  | case2 =>
    rintro ⟨⟩
    exact Nat.le_refl _

theorem length_readSign_le (s : List Char) : (readSign s).2.length ≤ s.length := by
  fun_cases readSign s with
  | case1 rest | case2 rest => exact Nat.le_succ _
  | case3 => exact Nat.le_refl _

theorem length_le_of_readExponent {short : Fault} {s r : List Char}
    {digits : Option (Bool × List Char)} :
    readExponent short s = .ok (digits, r) → r.length ≤ s.length := by
  fun_cases readExponent short s with
  | case2 c rest hmark =>
    intro h
    obtain ⟨read, hread, -⟩ := mapRead_eq_ok_iff.mp h
    have hdigits : r.length < (readSign rest).2.length := length_lt_of_readDigits hread
    exact Nat.le_succ_of_le (Nat.le_trans (Nat.le_of_lt hdigits) (length_readSign_le rest))
  | _ =>
    rintro ⟨⟩
    exact Nat.le_refl _

theorem length_readMinus_le (s : List Char) : (readMinus s).2.length ≤ s.length := by
  fun_cases readMinus s with
  | case1 rest => exact Nat.le_succ _
  | case2 => exact Nat.le_refl _

theorem length_lt_of_readNumber {short : Fault} {s r : List Char} {literal : NumberLiteral} :
    readNumber short s = .ok (literal, r) → r.length < s.length := by
  fun_cases readNumber short s with
  | case4 whole afterWhole hwhole fraction afterFraction hfraction exponent rest hexponent =>
    rintro ⟨⟩
    calc r.length
      _ ≤ afterFraction.length := length_le_of_readExponent hexponent
      _ ≤ afterWhole.length := length_le_of_readFraction hfraction
      _ < (readMinus s).2.length := length_lt_of_readWhole hwhole
      _ ≤ s.length := length_readMinus_le s
  | _ => rintro ⟨⟩

/-- Reads a number that is asked for. One that is out of range is no JSON. -/
def readLiteral (s : List Char) : Reading NumberLiteral :=
  match readNumber .truncated s with
  | .error fault => .error fault
  | .ok (literal, rest) => if literal.inRange then .ok (literal, rest) else .error .malformed

theorem length_lt_of_readLiteral {s r : List Char} {literal : NumberLiteral} :
    readLiteral s = .ok (literal, r) → r.length < s.length := by
  fun_cases readLiteral s with
  | case2 literal rest hnumber hrange =>
    rintro ⟨⟩
    exact length_lt_of_readNumber hnumber
  | _ => rintro ⟨⟩

end LintReport.Json
