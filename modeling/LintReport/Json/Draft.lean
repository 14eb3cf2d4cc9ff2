import LintReport.ParseFailure

/-!
Parse failures put together field by field.

In JSON a parse failure is an object with five named members, or an array of the five values in
their order. Members of an object come in any order, so they are collected in a draft, which
becomes a parse failure once all that is required is there.
-/

namespace LintReport.Json

inductive Field where
  | file
  | message
  | line
  | offset
  | text
deriving DecidableEq

namespace Field

def all : List Field :=
  [file, message, line, offset, text]

def name : Field → String
  | file => "filename"
  | message => "message"
  | line => "lineno"
  | offset => "offset"
  | text => "text"

def ofName? (name : String) : Option Field :=
  all.find? fun field => field.name == name

theorem ofName?_name (field : Field) : ofName? field.name = some field := by
  cases field <;> decide

end Field

structure Draft where
  file : Option String
  message : Option String
  line : Option UInt64
  /-- The offset, which may be known to be absent. -/
  offset : Option (Option UInt64)
  text : Option String
deriving DecidableEq

namespace Draft

def empty : Draft :=
  ⟨none, none, none, none, none⟩

def has (draft : Draft) : Field → Bool
  | .file => draft.file.isSome
  | .message => draft.message.isSome
  | .line => draft.line.isSome
  | .offset => draft.offset.isSome
  | .text => draft.text.isSome

/-- The value of a field, or the field if its value is missing. -/
def required {α : Type} (field : Field) : Option α → Except Field α
  | none => .error field
  | some value => .ok value

/-- The parse failure a draft amounts to, or the first field it lacks. An offset that was never
mentioned is absent. -/
def complete (draft : Draft) : Except Field ParseFailure := do
  let file ← required .file draft.file
  let message ← required .message draft.message
  let line ← required .line draft.line
  let text ← required .text draft.text
  return ⟨file, message, line, draft.offset.join, text⟩

end Draft

end LintReport.Json
