import LintReport.Json.Draft
import LintReport.Json.Skip
import LintReport.Text.Decimal

/-!
Parse failures as JSON text.

`encode` writes an object with the fields in their order and no blanks. `decode` reads any object
that has the required members, in any order and among others, or an array of the five values. It
reads from the left and answers with the first fault, so a member that occurs twice or has a value
of the wrong type is found before whatever is wrong further on.
-/

namespace LintReport.Json

open Text

def writeCount (n : UInt64) : List Char :=
  (decimal n.toNat).toList

def writeOptionalCount : Option UInt64 → List Char
  | none => ['n', 'u', 'l', 'l']
  | some n => writeCount n

def writeField (failure : ParseFailure) : Field → List Char
  | .file => writeString failure.file.toList
  | .message => writeString failure.message.toList
  | .line => writeCount failure.line
  | .offset => writeOptionalCount failure.offset
  | .text => writeString failure.text.toList

def writeMember (failure : ParseFailure) (field : Field) : List Char :=
  writeString field.name.toList ++ ':' :: writeField failure field

def encode (failure : ParseFailure) : String :=
  String.ofList
    ('{' :: (List.intersperse [','] (Field.all.map (writeMember failure))).flatten ++ ['}'])

/-- The fault of a text that starts with a value of a type not asked for. A word, a number or a
string is read to its end first, as the text may turn out to be no JSON; a bracket is enough to
tell. -/
def wrongType (s : List Char) : Fault :=
  match s with
  | [] => .truncated
  | c :: rest =>
    match wordAfter? c with
    | some word =>
      match readExactly word rest with
      | .error fault => fault
      | .ok _ => .mismatched
    | none =>
      if c = '"' then
        match readString rest with
        | .error fault => fault
        | .ok _ => .mismatched
      else if c = '-' ∨ c.isDigit then
        match readLiteral (c :: rest) with
        | .error fault => fault
        | .ok _ => .mismatched
      else if c = '[' ∨ c = '{' then .mismatched
      else .malformed

def readText (s : List Char) : Reading String :=
  match skipBlanks s with
  | '"' :: rest => mapRead String.ofList (readString rest)
  | other => .error (wrongType other)

def readCount (s : List Char) : Reading UInt64 :=
  match skipBlanks s with
  | [] => .error .truncated
  | c :: rest =>
    if c = '-' ∨ c.isDigit then
      match readLiteral (c :: rest) with
      | .error fault => .error fault
      | .ok (literal, rest) =>
        match literal.count? with
        | none => .error .mismatched
        | some n => .ok (n, rest)
    else .error (wrongType (c :: rest))

def readOptionalCount (s : List Char) : Reading (Option UInt64) :=
  match skipBlanks s with
  | 'n' :: rest => giving none (readExactly ['u', 'l', 'l'] rest)
  | other => mapRead some (readCount other)

def readField (draft : Draft) (field : Field) (s : List Char) : Reading Draft :=
  match field with
  | .file => mapRead (fun value => { draft with file := some value }) (readText s)
  | .message => mapRead (fun value => { draft with message := some value }) (readText s)
  | .line => mapRead (fun value => { draft with line := some value }) (readCount s)
  | .offset => mapRead (fun value => { draft with offset := some value }) (readOptionalCount s)
  | .text => mapRead (fun value => { draft with text := some value }) (readText s)

/-- Reads a member of an object whose name has been opened. A known field may occur once. Members
of other names are passed over. -/
def readMember (draft : Draft) (s : List Char) : Reading Draft :=
  match readString s with
  | .error fault => .error fault
  | .ok (name, rest) =>
    match Field.ofName? (String.ofList name) with
    | some field =>
      if draft.has field then .error .mismatched
      else
        match readColon rest with
        | .error fault => .error fault
        | .ok rest => readField draft field rest
    | none =>
      match readColon rest with
      | .error fault => .error fault
      | .ok rest => giving draft (skipValue rest)

theorem length_lt_of_readText {s r : List Char} {text : String} :
    readText s = .ok (text, r) → r.length < s.length := by
  fun_cases readText s with
  | case1 rest hquote =>
    intro h
    obtain ⟨cs, hcs, -⟩ := mapRead_eq_ok_iff.mp h
    exact Nat.lt_trans (length_lt_of_readString hcs) (length_lt_of_skipBlanks_eq_cons hquote)
  | case2 => rintro ⟨⟩

theorem length_lt_of_readCount {s r : List Char} {n : UInt64} :
    readCount s = .ok (n, r) → r.length < s.length := by
  fun_cases readCount s with
  | case4 c rest hnext _ literal afterLiteral hliteral =>
    rintro ⟨⟩
    exact Nat.lt_of_lt_of_le (length_lt_of_readLiteral hliteral) (length_le_of_skipBlanks_eq hnext)
  | _ => rintro ⟨⟩

theorem length_lt_of_readOptionalCount {s r : List Char} {n : Option UInt64} :
    readOptionalCount s = .ok (n, r) → r.length < s.length := by
  fun_cases readOptionalCount s with
  | case1 rest hnext =>
    intro h
    have hword : r.length ≤ rest.length := length_le_of_readExactly (giving_eq_ok_iff.mp h).2
    exact Nat.lt_of_le_of_lt hword (length_lt_of_skipBlanks_eq_cons hnext)
  | case2 =>
    intro h
    obtain ⟨count, hcount, -⟩ := mapRead_eq_ok_iff.mp h
    exact Nat.lt_of_lt_of_le (length_lt_of_readCount hcount) (length_skipBlanks_le s)

theorem length_lt_of_readField {draft next : Draft} {field : Field} {s r : List Char}
    (h : readField draft field s = .ok (next, r)) : r.length < s.length := by
  cases field with
  | file | message | text =>
    obtain ⟨text, htext, -⟩ := mapRead_eq_ok_iff.mp h
    exact length_lt_of_readText htext
  | line =>
    obtain ⟨count, hcount, -⟩ := mapRead_eq_ok_iff.mp h
    exact length_lt_of_readCount hcount
  | offset =>
    obtain ⟨count, hcount, -⟩ := mapRead_eq_ok_iff.mp h
    exact length_lt_of_readOptionalCount hcount

theorem length_lt_of_readMember {draft next : Draft} {s r : List Char} :
    readMember draft s = .ok (next, r) → r.length < s.length := by
  fun_cases readMember draft s with
  | case4 name afterName hname field hfield _ afterColon hcolon =>
    intro h
    calc r.length
      _ < afterColon.length := length_lt_of_readField h
      _ < afterName.length := length_lt_of_readColon hcolon
      _ < s.length := length_lt_of_readString hname
  | case6 name afterName hname hfield afterColon hcolon =>
    intro h
    calc r.length
      _ < afterColon.length := length_lt_of_skipValue (giving_eq_ok_iff.mp h).2
      _ < afterName.length := length_lt_of_readColon hcolon
      _ < s.length := length_lt_of_readString hname
  | _ => rintro ⟨⟩

def readMembers (draft : Draft) (s : List Char) : Reading Draft :=
  match _name : skipBlanks s with
  | [] => .error .truncated
  | '"' :: rest =>
    match _member : readMember draft rest with
    | .error fault => .error fault
    | .ok (draft, rest) =>
      match _next : skipBlanks rest with
      | [] => .error .truncated
      | ',' :: rest => readMembers draft rest
      | '}' :: rest => .ok (draft, rest)
      | _ :: _ => .error .malformed
  | _ :: _ => .error .malformed
termination_by s.length
decreasing_by
  exact Nat.lt_trans (length_lt_of_skipBlanks_eq_cons _next)
    (Nat.lt_trans (length_lt_of_readMember _member) (length_lt_of_skipBlanks_eq_cons _name))

def readObject (s : List Char) : Reading Draft :=
  match skipBlanks s with
  | '}' :: rest => .ok (.empty, rest)
  | other => readMembers .empty other

/-- Reads an element where one is due. `early` is the fault if the array is closed instead. -/
def readElement (early : Fault) (draft : Draft) (field : Field) (s : List Char) : Reading Draft :=
  match skipBlanks s with
  | ']' :: _ => .error early
  | other => readField draft field other

/-- Reads the elements of an array for the given fields, each after a comma, and the closing
bracket. An array that is closed too early has the wrong shape, one that goes on is no JSON of any
use. -/
def readElements (draft : Draft) (fields : List Field) (s : List Char) : Reading Draft :=
  match fields, skipBlanks s with
  | _, [] => .error .truncated
  | [], ']' :: rest => .ok (draft, rest)
  | [], _ :: _ => .error .malformed
  | _ :: _, ']' :: _ => .error .mismatched
  | field :: more, ',' :: rest =>
    match readElement .malformed draft field rest with
    | .error fault => .error fault
    | .ok (draft, rest) => readElements draft more rest
  | _ :: _, _ :: _ => .error .malformed

def readArray (s : List Char) : Reading Draft :=
  match readElement .mismatched .empty .file s with
  | .error fault => .error fault
  | .ok (draft, rest) => readElements draft [.message, .line, .offset, .text] rest

def readDraft (s : List Char) : Reading Draft :=
  match skipBlanks s with
  | '{' :: rest => readObject rest
  | '[' :: rest => readArray rest
  | other => .error (wrongType other)

/-- Reads a parse failure from JSON text. Only blanks may follow it. -/
def decode (text : String) : Except Fault ParseFailure :=
  match readDraft text.toList with
  | .error fault => .error fault
  | .ok (draft, rest) =>
    match draft.complete with
    | .error _ => .error .mismatched
    | .ok failure => if skipBlanks rest = [] then .ok failure else .error .malformed

end LintReport.Json
