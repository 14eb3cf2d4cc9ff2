import LintReport.Json.NumberLiteral
import LintReport.Json.StringLiteral
import LintReport.Json.Value

/-!
Putting JSON values together from text.

A value is read piece by piece. The arrays and objects that are open around the current place are
kept in a list of levels, each with what it holds so far, so nesting may be as deep as it likes.
The members of an object are kept in the order of their names, and of two with one name the later
counts.
-/

namespace LintReport.Json

inductive Level where
  /-- An array, with its elements so far, last first. -/
  | array (items : List Value)
  /-- An object, with its members so far and the name of the one that is due. -/
  | object (members : List (String × Value)) (name : String)

/-- How far the reading of a value has come, and the levels that are open, innermost first. -/
inductive Progress where
  | due (levels : List Level)
  | done (value : Value) (levels : List Level)

/-- Members in the order of their names, with one more. It takes the place of a member of the same
name. -/
def insertMember (name : String) (value : Value) :
    List (String × Value) → List (String × Value)
  | [] => [(name, value)]
  | (other, held) :: more =>
    if name = other then (name, value) :: more
    else if name < other then (name, value) :: (other, held) :: more
    else (other, held) :: insertMember name value more

def wordValue (c : Char) : Value :=
  if c = 'n' then .null else .flag (c = 't')

/-- The value of a literal: an integer, or else a number of double precision if one can hold it. -/
def NumberLiteral.value? (literal : NumberLiteral) : Option Value :=
  match literal.integer? with
  | some n => some (.integer n)
  | none => literal.double?.map .floating

def readNumberValue (s : List Char) : Reading Value :=
  match readNumber .truncated s with
  | .error fault => .error fault
  | .ok (literal, rest) =>
    match literal.value? with
    | some value => .ok (value, rest)
    | none => .error .malformed

def readScalar (s : List Char) : Reading Value :=
  match s with
  | [] => .error .truncated
  | c :: rest =>
    match wordAfter? c with
    | some word => giving (wordValue c) (readExactly word rest)
    | none =>
      if c = '"' then mapRead (fun text => .string (String.ofList text)) (readString rest)
      else if c = '-' ∨ c.isDigit then readNumberValue (c :: rest)
      else .error .malformed

def readName (s : List Char) : Reading String :=
  match skipBlanks s with
  | [] => .error .truncated
  | '"' :: rest =>
    match readString rest with
    | .error fault => .error fault
    | .ok (name, rest) => giving (String.ofList name) (readColon rest)
  | _ :: _ => .error .malformed

theorem length_lt_of_readNumberValue {s r : List Char} {value : Value} :
    readNumberValue s = .ok (value, r) → r.length < s.length := by
  fun_cases readNumberValue s with
  | case2 literal rest hnumber =>
    rintro ⟨⟩
    exact length_lt_of_readNumber hnumber
  | _ => rintro ⟨⟩

theorem length_lt_of_readScalar {s r : List Char} {value : Value} :
    readScalar s = .ok (value, r) → r.length < s.length := by
  fun_cases readScalar s with
  | case2 c rest word =>
    intro h
    exact Nat.lt_succ_of_le (length_le_of_readExactly (giving_eq_ok_iff.mp h).2)
  | case3 c rest =>
    intro h
    obtain ⟨text, htext, -⟩ := mapRead_eq_ok_iff.mp h
    exact Nat.lt_succ_of_lt (length_lt_of_readString htext)
  | case4 c rest => exact length_lt_of_readNumberValue
  | _ => rintro ⟨⟩

theorem length_lt_of_readName {s r : List Char} {name : String} :
    readName s = .ok (name, r) → r.length < s.length := by
  fun_cases readName s with
  | case3 afterQuote hquote text afterName hname =>
    intro h
    calc r.length
      _ < afterName.length := length_lt_of_readColon (giving_eq_ok_iff.mp h).2
      _ < afterQuote.length := length_lt_of_readString hname
      _ < s.length := length_lt_of_skipBlanks_eq_cons hquote
  | _ => rintro ⟨⟩

def leaveElement (items : List Value) (outer : List Level) (s : List Char) : Reading Progress :=
  match skipBlanks s with
  | [] => .error .truncated
  | c :: rest =>
    if c = ',' then .ok (.due (.array items :: outer), rest)
    else if c = ']' then .ok (.done (.array items.reverse) outer, rest)
    else .error .malformed

def leaveMember (members : List (String × Value)) (outer : List Level) (s : List Char) :
    Reading Progress :=
  match skipBlanks s with
  | [] => .error .truncated
  | c :: rest =>
    if c = ',' then mapRead (fun name => .due (.object members name :: outer)) (readName rest)
    else if c = '}' then .ok (.done (.object members) outer, rest)
    else .error .malformed

def leaveLevel (value : Value) (level : Level) (outer : List Level) (s : List Char) :
    Reading Progress :=
  match level with
  | .array items => leaveElement (value :: items) outer s
  | .object members name => leaveMember (insertMember name value members) outer s

/-- Goes on after the bracket that opens an array, which may be closed at once. -/
def openArray (levels : List Level) (s : List Char) : Reading Progress :=
  match skipBlanks s with
  | ']' :: rest => .ok (.done (.array []) levels, rest)
  | other => .ok (.due (.array [] :: levels), other)

def openObject (levels : List Level) (s : List Char) : Reading Progress :=
  match skipBlanks s with
  | '}' :: rest => .ok (.done (.object []) levels, rest)
  | other => mapRead (fun name => .due (.object [] name :: levels)) (readName other)

def startValue (levels : List Level) (s : List Char) : Reading Progress :=
  match skipBlanks s with
  | [] => .error .truncated
  | c :: rest =>
    if c = '[' then openArray levels rest
    else if c = '{' then openObject levels rest
    else mapRead (fun value => .done value levels) (readScalar (c :: rest))

theorem length_lt_of_leaveElement {items : List Value} {outer : List Level} {s r : List Char}
    {next : Progress} : leaveElement items outer s = .ok (next, r) → r.length < s.length := by
  fun_cases leaveElement items outer s with
  | case2 rest hnext | case3 rest hnext =>
    rintro ⟨⟩
    exact length_lt_of_skipBlanks_eq_cons hnext
  | _ => rintro ⟨⟩

theorem length_lt_of_leaveMember {members : List (String × Value)} {outer : List Level}
    {s r : List Char} {next : Progress} :
    leaveMember members outer s = .ok (next, r) → r.length < s.length := by
  fun_cases leaveMember members outer s with
  | case2 rest hnext =>
    intro h
    obtain ⟨name, hname, -⟩ := mapRead_eq_ok_iff.mp h
    exact Nat.lt_trans (length_lt_of_readName hname) (length_lt_of_skipBlanks_eq_cons hnext)
  | case3 rest hnext =>
    rintro ⟨⟩
    exact length_lt_of_skipBlanks_eq_cons hnext
  | _ => rintro ⟨⟩

theorem length_lt_of_leaveLevel {value : Value} {level : Level} {outer : List Level}
    {s r : List Char} {next : Progress} (h : leaveLevel value level outer s = .ok (next, r)) :
    r.length < s.length := by
  cases level with
  | array => exact length_lt_of_leaveElement h
  | object => exact length_lt_of_leaveMember h

theorem length_le_of_openArray {levels : List Level} {s r : List Char} {next : Progress} :
    openArray levels s = .ok (next, r) → r.length ≤ s.length := by
  fun_cases openArray levels s with
  | case1 rest hnext =>
    rintro ⟨⟩
    exact Nat.le_of_lt (length_lt_of_skipBlanks_eq_cons hnext)
  | case2 =>
    rintro ⟨⟩
    exact length_skipBlanks_le s

theorem length_le_of_openObject {levels : List Level} {s r : List Char} {next : Progress} :
    openObject levels s = .ok (next, r) → r.length ≤ s.length := by
  fun_cases openObject levels s with
  | case1 rest hnext =>
    rintro ⟨⟩
    exact Nat.le_of_lt (length_lt_of_skipBlanks_eq_cons hnext)
  | case2 =>
    intro h
    obtain ⟨name, hname, -⟩ := mapRead_eq_ok_iff.mp h
    exact Nat.le_of_lt (Nat.lt_of_lt_of_le (length_lt_of_readName hname) (length_skipBlanks_le s))

theorem length_lt_of_startValue {levels : List Level} {s r : List Char} {next : Progress} :
    startValue levels s = .ok (next, r) → r.length < s.length := by
  fun_cases startValue levels s with
  | case2 rest hnext =>
    intro h
    exact Nat.lt_of_le_of_lt (length_le_of_openArray h) (length_lt_of_skipBlanks_eq_cons hnext)
  | case3 rest hnext =>
    intro h
    exact Nat.lt_of_le_of_lt (length_le_of_openObject h) (length_lt_of_skipBlanks_eq_cons hnext)
  | case4 c rest hnext =>
    intro h
    obtain ⟨value, hvalue, -⟩ := mapRead_eq_ok_iff.mp h
    exact Nat.lt_of_lt_of_le (length_lt_of_readScalar hvalue) (length_le_of_skipBlanks_eq hnext)
  | _ => rintro ⟨⟩

def assemble (progress : Progress) (s : List Char) : Reading Value :=
  match progress with
  | .done value [] => .ok (value, s)
  | .done value (level :: outer) =>
    match _left : leaveLevel value level outer s with
    | .error fault => .error fault
    | .ok (next, rest) => assemble next rest
  | .due levels =>
    match _started : startValue levels s with
    | .error fault => .error fault
    | .ok (next, rest) => assemble next rest
termination_by s.length
decreasing_by
  · exact length_lt_of_leaveLevel _left
  · exact length_lt_of_startValue _started

/-- The value that a JSON text holds. Only blanks may follow it. -/
def Value.ofText (text : String) : Except Fault Value :=
  match assemble (.due []) text.toList with
  | .error fault => .error fault
  | .ok (value, rest) => if skipBlanks rest = [] then .ok value else .error .malformed

def Value.member? (name : String) : Value → Option Value
  | object members => members.lookup name
  | _ => none

end LintReport.Json
