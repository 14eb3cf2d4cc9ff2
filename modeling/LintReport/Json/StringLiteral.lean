import LintReport.Json.Basic
import LintReport.Text.Hex
import LintReport.Text.Utf8

/-!
String literals of JSON.

A literal is written with as few escapes as possible: quotes, backslashes and control characters
have one, all else stands for itself. It is read in one of two ways. `readString` asks that every
escape denotes a character, so surrogates have to come in pairs; `skipString` passes over a
literal whose text nobody asks for and only asks that it is spelt correctly.
-/

namespace LintReport.Json

open Text

def escaped (c : Char) : List Char :=
  if c = '"' then ['\\', '"']
  else if c = '\\' then ['\\', '\\']
  else if c = '\x08' then ['\\', 'b']
  else if c = '\x0c' then ['\\', 'f']
  else if c = '\n' then ['\\', 'n']
  else if c = '\r' then ['\\', 'r']
  else if c = '\t' then ['\\', 't']
  else if c.toNat < 0x20 then ['\\', 'u'] ++ hexField 4 c.toNat
  else [c]

def writeString (text : List Char) : List Char :=
  '"' :: text.flatMap escaped ++ ['"']

/-- Reads four hexadecimal digits. The text counts as too short for them by its bytes. -/
def readHexQuad (s : List Char) : Reading Nat :=
  match s with
  | a :: b :: c :: d :: rest =>
    match hexValue? a, hexValue? b, hexValue? c, hexValue? d with
    | some a, some b, some c, some d => .ok (((a * 16 + b) * 16 + c) * 16 + d, rest)
    | _, _, _, _ => .error .malformed
  | few => if utf8Length few < 4 then .error .truncated else .error .malformed

def isHighSurrogate (n : Nat) : Bool :=
  0xd800 ≤ n && n < 0xdc00

def isLowSurrogate (n : Nat) : Bool :=
  0xdc00 ≤ n && n < 0xe000

def ofSurrogates (high low : Nat) : Char :=
  Char.ofNat (0x10000 + (high - 0xd800) * 0x400 + (low - 0xdc00))

/-- Reads what follows `\u`: the number of a character, or the two halves of a pair. -/
def readNumberedChar (s : List Char) : Reading Char :=
  match readHexQuad s with
  | .error fault => .error fault
  | .ok (n, rest) =>
    if isLowSurrogate n then .error .malformed
    else if isHighSurrogate n then
      match readExactly ['\\', 'u'] rest with
      | .error fault => .error fault
      | .ok rest =>
        match readHexQuad rest with
        | .error fault => .error fault
        | .ok (low, rest) =>
          if isLowSurrogate low then .ok (ofSurrogates n low, rest) else .error .malformed
    else .ok (Char.ofNat n, rest)

def letterEscape? (c : Char) : Option Char :=
  if c = '"' then some '"'
  else if c = '\\' then some '\\'
  else if c = '/' then some '/'
  else if c = 'b' then some '\x08'
  else if c = 'f' then some '\x0c'
  else if c = 'n' then some '\n'
  else if c = 'r' then some '\r'
  else if c = 't' then some '\t'
  else none

def readEscape (s : List Char) : Reading Char :=
  match s with
  | [] => .error .truncated
  | 'u' :: rest => readNumberedChar rest
  | c :: rest =>
    match letterEscape? c with
    | some c => .ok (c, rest)
    | none => .error .malformed

def skipEscape (s : List Char) : Except Fault (List Char) :=
  match s with
  | [] => .error .truncated
  | 'u' :: rest => (readHexQuad rest).map Prod.snd
  | c :: rest => if (letterEscape? c).isSome then .ok rest else .error .malformed

theorem length_lt_of_readHexQuad {s r : List Char} {n : Nat} :
    readHexQuad s = .ok (n, r) → r.length < s.length := by
  fun_cases readHexQuad s with
  | case1 a b c d rest =>
    rintro ⟨⟩
    simp only [List.length_cons]
    omega
  | _ => rintro ⟨⟩

theorem length_lt_of_readNumberedChar {s r : List Char} {c : Char} :
    readNumberedChar s = .ok (c, r) → r.length < s.length := by
  fun_cases readNumberedChar s with
  | case5 n afterHigh hhigh _ _ afterMark hmark low rest hlow =>
    simp only [Except.ok.injEq, Prod.mk.injEq]
    rintro ⟨-, rfl⟩
    calc rest.length
      _ < afterMark.length := length_lt_of_readHexQuad hlow
      _ ≤ afterHigh.length := length_le_of_readExactly hmark
      _ < s.length := length_lt_of_readHexQuad hhigh
  | case7 n rest hquad =>
    rintro ⟨⟩
    exact length_lt_of_readHexQuad hquad
  | _ => rintro ⟨⟩

theorem length_lt_of_readEscape {s r : List Char} {c : Char} :
    readEscape s = .ok (c, r) → r.length < s.length := by
  fun_cases readEscape s with
  | case2 rest => exact fun h => Nat.lt_succ_of_lt (length_lt_of_readNumberedChar h)
  | case3 letter rest =>
    rintro ⟨⟩
    exact Nat.lt_succ_self _
  | _ => rintro ⟨⟩

theorem length_lt_of_skipEscape {s r : List Char} :
    skipEscape s = .ok r → r.length < s.length := by
  fun_cases skipEscape s with
  | case2 rest =>
    intro h
    cases hquad : readHexQuad rest with
    | error fault =>
      rw [hquad] at h
      cases h
    | ok read =>
      rw [hquad] at h
      cases h
      exact Nat.lt_succ_of_lt (length_lt_of_readHexQuad hquad)
  | case3 letter rest =>
    rintro ⟨⟩
    exact Nat.lt_succ_self _
  | _ => rintro ⟨⟩

/-- Reads the text of a literal whose opening quote has been read, up to its closing quote. -/
def readString (s : List Char) : Reading (List Char) :=
  match s with
  | [] => .error .truncated
  | c :: rest =>
    if c = '"' then .ok ([], rest)
    else if c = '\\' then
      match _escape : readEscape rest with
      | .error fault => .error fault
      | .ok (c, rest) => mapRead (c :: ·) (readString rest)
    else if c.toNat < 0x20 then .error .malformed
    else mapRead (c :: ·) (readString rest)
termination_by s.length
decreasing_by
  · exact Nat.lt_succ_of_lt (length_lt_of_readEscape _escape)
  · exact Nat.lt_succ_self _

def skipString (s : List Char) : Except Fault (List Char) :=
  match s with
  | [] => .error .truncated
  | c :: rest =>
    if c = '"' then .ok rest
    else if c = '\\' then
      match _escape : skipEscape rest with
      | .error fault => .error fault
      | .ok rest => skipString rest
    else if c.toNat < 0x20 then .error .malformed
    else skipString rest
termination_by s.length
decreasing_by
  · exact Nat.lt_succ_of_lt (length_lt_of_skipEscape _escape)
  · exact Nat.lt_succ_self _

theorem length_lt_of_readString {s r text : List Char} (h : readString s = .ok (text, r)) :
    r.length < s.length := by
  fun_induction readString s generalizing text r with
  | case2 rest =>
    cases h
    exact Nat.lt_succ_self _
  | case4 rest c afterEscape hescape _ ih =>
    obtain ⟨tail, htail, -⟩ := mapRead_eq_ok_iff.mp h
    exact Nat.lt_succ_of_lt (Nat.lt_trans (ih htail) (length_lt_of_readEscape hescape))
  | case6 c rest _ _ _ ih =>
    obtain ⟨tail, htail, -⟩ := mapRead_eq_ok_iff.mp h
    exact Nat.lt_succ_of_lt (ih htail)
  | _ => cases h

theorem length_lt_of_skipString {s r : List Char} (h : skipString s = .ok r) :
    r.length < s.length := by
  fun_induction skipString s with
  | case2 rest =>
    cases h
    exact Nat.lt_succ_self _
  | case4 rest afterEscape hescape _ ih =>
    exact Nat.lt_succ_of_lt (Nat.lt_trans (ih h) (length_lt_of_skipEscape hescape))
  | case6 c rest _ _ _ ih => exact Nat.lt_succ_of_lt (ih h)
  | _ => cases h

end LintReport.Json
