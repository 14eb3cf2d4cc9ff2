import LintReport.Json.NumberLiteral
import LintReport.Json.StringLiteral

/-!
Passing over JSON values that nobody asks for.

A value is passed over without being built. What is open around the current place is kept in a
list of frames, so nesting may be as deep as it likes. Nobody needs the values, so nothing is
asked of them beyond their spelling: a number may be of any size, and a string may hold half a
surrogate pair.
-/

namespace LintReport.Json

inductive Frame where
  | array
  | object
deriving DecidableEq

def Frame.closing : Frame → Char
  | .array => ']'
  | .object => '}'

inductive Phase where
  | due
  | ended
deriving DecidableEq

def skipScalar (s : List Char) : Except Fault (List Char) :=
  match s with
  | [] => .error .truncated
  | c :: rest =>
    match wordAfter? c with
    | some word => readExactly word rest
    | none =>
      if c = '"' then skipString rest
      else if c = '-' ∨ c.isDigit then
        match readNumber .malformed (c :: rest) with
        | .error fault => .error fault
        | .ok (_, rest) => .ok rest
      else .error .malformed

def skipName (s : List Char) : Except Fault (List Char) :=
  match skipBlanks s with
  | [] => .error .truncated
  | '"' :: rest =>
    match skipString rest with
    | .error fault => .error fault
    | .ok rest => readColon rest
  | _ :: _ => .error .malformed

theorem length_lt_of_skipScalar {s r : List Char} :
    skipScalar s = .ok r → r.length < s.length := by
  fun_cases skipScalar s with
  | case2 c rest word => exact fun h => Nat.lt_succ_of_le (length_le_of_readExactly h)
  | case3 c rest => exact fun h => Nat.lt_succ_of_lt (length_lt_of_skipString h)
  | case5 c rest _ _ _ literal afterNumber hnumber =>
    rintro ⟨⟩
    exact length_lt_of_readNumber hnumber
  | _ => rintro ⟨⟩

theorem length_lt_of_skipName {s r : List Char} : skipName s = .ok r → r.length < s.length := by
  fun_cases skipName s with
  | case3 afterQuote hquote afterName hname =>
    intro h
    calc r.length
      _ < afterName.length := length_lt_of_readColon h
      _ < afterQuote.length := length_lt_of_skipString hname
      _ < s.length := length_lt_of_skipBlanks_eq_cons hquote
  | _ => rintro ⟨⟩

/-- A place inside a value: what comes next, and the brackets that are open, innermost first. -/
structure Place where
  phase : Phase
  frames : List Frame
deriving DecidableEq

/-- Goes on from a place after a value, inside a frame. A comma makes the next value due, after
its name in an object, and the closing bracket ends the value that is the frame. -/
def leaveValue (frame : Frame) (outer : List Frame) (s : List Char) : Reading Place :=
  match skipBlanks s with
  | [] => .error .truncated
  | c :: rest =>
    if c = ',' then
      match frame with
      | .array => .ok (⟨.due, .array :: outer⟩, rest)
      | .object => giving ⟨.due, .object :: outer⟩ (skipName rest)
    else if c = frame.closing then .ok (⟨.ended, outer⟩, rest)
    else .error .malformed

/-- Goes on after an opening bracket, which may be closed at once. -/
def enterFrame (frame : Frame) (outer : List Frame) (s : List Char) : Reading Place :=
  match skipBlanks s with
  | [] => .error .truncated
  | c :: rest =>
    if c = frame.closing then .ok (⟨.ended, outer⟩, rest)
    else
      match frame with
      | .array => .ok (⟨.due, .array :: outer⟩, c :: rest)
      | .object => giving ⟨.due, .object :: outer⟩ (skipName (c :: rest))

def enterValue (frames : List Frame) (s : List Char) : Reading Place :=
  match skipBlanks s with
  | [] => .error .truncated
  | c :: rest =>
    if c = '[' then enterFrame .array frames rest
    else if c = '{' then enterFrame .object frames rest
    else giving ⟨.ended, frames⟩ (skipScalar (c :: rest))

theorem length_lt_of_leaveValue {frame : Frame} {outer : List Frame} {s r : List Char}
    {place : Place} : leaveValue frame outer s = .ok (place, r) → r.length < s.length := by
  fun_cases leaveValue frame outer s with
  | case2 rest hnext =>
    rintro ⟨⟩
    exact length_lt_of_skipBlanks_eq_cons hnext
  | case3 rest hnext =>
    intro h
    have hname : r.length < rest.length := length_lt_of_skipName (giving_eq_ok_iff.mp h).2
    exact Nat.lt_trans hname (length_lt_of_skipBlanks_eq_cons hnext)
  | case4 c rest hnext =>
    rintro ⟨⟩
    exact length_lt_of_skipBlanks_eq_cons hnext
  | _ => rintro ⟨⟩

theorem length_le_of_enterFrame {frame : Frame} {outer : List Frame} {s r : List Char}
    {place : Place} : enterFrame frame outer s = .ok (place, r) → r.length ≤ s.length := by
  fun_cases enterFrame frame outer s with
  | case2 c rest hnext =>
    rintro ⟨⟩
    exact Nat.le_of_lt (length_lt_of_skipBlanks_eq_cons hnext)
  | case3 c rest hnext =>
    rintro ⟨⟩
    exact length_le_of_skipBlanks_eq hnext
  | case4 c rest hnext =>
    intro h
    have hname : r.length < (c :: rest).length := length_lt_of_skipName (giving_eq_ok_iff.mp h).2
    exact Nat.le_of_lt (Nat.lt_of_lt_of_le hname (length_le_of_skipBlanks_eq hnext))
  | _ => rintro ⟨⟩

theorem length_lt_of_enterValue {frames : List Frame} {s r : List Char} {place : Place} :
    enterValue frames s = .ok (place, r) → r.length < s.length := by
  fun_cases enterValue frames s with
  | case2 rest hnext | case3 rest hnext =>
    intro h
    exact Nat.lt_of_le_of_lt (length_le_of_enterFrame h) (length_lt_of_skipBlanks_eq_cons hnext)
  | case4 c rest hnext =>
    intro h
    have hscalar : r.length < (c :: rest).length :=
      length_lt_of_skipScalar (giving_eq_ok_iff.mp h).2
    exact Nat.lt_of_lt_of_le hscalar (length_le_of_skipBlanks_eq hnext)
  | _ => rintro ⟨⟩

/-- Goes on from a place to the end of the outermost value. -/
def skipFrom (place : Place) (s : List Char) : Except Fault (List Char) :=
  match place with
  | ⟨.ended, []⟩ => .ok s
  | ⟨.ended, frame :: outer⟩ =>
    match _left : leaveValue frame outer s with
    | .error fault => .error fault
    | .ok (next, rest) => skipFrom next rest
  | ⟨.due, frames⟩ =>
    match _entered : enterValue frames s with
    | .error fault => .error fault
    | .ok (next, rest) => skipFrom next rest
termination_by s.length
decreasing_by
  · exact length_lt_of_leaveValue _left
  · exact length_lt_of_enterValue _entered

theorem length_le_of_skipFrom {place : Place} {s r : List Char} (h : skipFrom place s = .ok r) :
    r.length ≤ s.length := by
  fun_induction skipFrom place s with
  | case1 s =>
    cases h
    exact Nat.le_refl _
  | case3 s frame outer next rest hleft ih =>
    exact Nat.le_trans (ih h) (Nat.le_of_lt (length_lt_of_leaveValue hleft))
  | case5 s frames next rest hentered ih =>
    exact Nat.le_trans (ih h) (Nat.le_of_lt (length_lt_of_enterValue hentered))
  | _ => cases h

def skipValue (s : List Char) : Except Fault (List Char) :=
  skipFrom ⟨.due, []⟩ s

theorem length_lt_of_skipValue {s r : List Char} (h : skipValue s = .ok r) :
    r.length < s.length := by
  rw [skipValue, skipFrom] at h
  split at h
  case h_1 => cases h
  case h_2 next rest hentered =>
    exact Nat.lt_of_le_of_lt (length_le_of_skipFrom h) (length_lt_of_enterValue hentered)

end LintReport.Json
