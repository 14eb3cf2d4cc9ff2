import LintReport.Double.Layout
import LintReport.Json.Draft
import LintReport.Text.Decimal
import LintReport.Text.Quoted

/-!
Parse failures from JSON values.

A value that was read before is looked at piece by piece, and what does not fit is told in words:
the value that was found and the one that was asked for.
-/

namespace LintReport.Json

open Text

inductive Value where
  | null
  | flag (value : Bool)
  | integer (value : Int)
  /-- A number that is not written as an integer of 64 bits. -/
  | floating (value : Double)
  | string (text : String)
  | array (items : List Value)
  /-- An object, with its members in the order they are looked at. -/
  | object (members : List (String × Value))
deriving Inhabited

inductive Expected where
  | text
  | count
  | failure
deriving DecidableEq

def Expected.words : Expected → String
  | .text => "a string"
  | .count => "usize"
  | .failure => "struct SyntaxErrorInfo"

def Value.words : Value → String
  | null => "null"
  | flag value => "boolean \x60" ++ (if value then "true" else "false") ++ "\x60"
  | integer value => "integer \x60" ++ signedDecimal value ++ "\x60"
  | floating value => "floating point \x60" ++ value.text ++ "\x60"
  | string text => "string " ++ quoted text
  | array _ => "sequence"
  | object _ => "map"

inductive Mismatch where
  /-- A value of another type was asked for. -/
  | wrongType (found : Value) (expected : Expected)
  /-- A value of the right type is out of bounds. -/
  | wrongValue (found : Value) (expected : Expected)
  /-- An array has too few elements. -/
  | tooShort (length : Nat)
  /-- An array has elements left over. -/
  | tooLong (length : Nat)
  /-- A required member is missing. -/
  | missing (field : Field)

def Mismatch.message : Mismatch → String
  | wrongType found expected =>
    "invalid type: " ++ found.words ++ ", expected " ++ expected.words
  | wrongValue found expected =>
    "invalid value: " ++ found.words ++ ", expected " ++ expected.words
  | tooShort length =>
    "invalid length " ++ decimal length ++ ", expected " ++ Expected.failure.words ++ " with " ++
      decimal Field.all.length ++ " elements"
  | tooLong length =>
    "invalid length " ++ decimal length ++ ", expected fewer elements in array"
  | missing field => "missing field \x60" ++ field.name ++ "\x60"

namespace Value

def text : Value → Except Mismatch String
  | string shown => .ok shown
  | other => .error (.wrongType other .text)

def count : Value → Except Mismatch UInt64
  | integer value =>
    if 0 ≤ value ∧ value.toNat < UInt64.size then .ok (UInt64.ofNat value.toNat)
    else .error (.wrongValue (integer value) .count)
  | other => .error (.wrongType other .count)

def optionalCount : Value → Except Mismatch (Option UInt64)
  | null => .ok none
  | other => other.count.map some

def intoField (value : Value) (draft : Draft) : Field → Except Mismatch Draft
  | .file => value.text.map fun shown => { draft with file := some shown }
  | .message => value.text.map fun shown => { draft with message := some shown }
  | .line => value.count.map fun n => { draft with line := some n }
  | .offset => value.optionalCount.map fun n => { draft with offset := some n }
  | .text => value.text.map fun shown => { draft with text := some shown }

/-- Takes the members of an object into a draft. Those of unknown names are passed over. -/
def intoDraft (draft : Draft) : List (String × Value) → Except Mismatch Draft
  | [] => .ok draft
  | (name, value) :: more =>
    match Field.ofName? name with
    | none => intoDraft draft more
    | some field => do intoDraft (← value.intoField draft field) more

/-- Takes the elements of an array into a draft, in the order of the fields. `length` is the
number of elements of the whole array, and `taken` counts those taken before. -/
def elementsIntoDraft (length : Nat) (draft : Draft) (taken : Nat) :
    List Field → List Value → Except Mismatch Draft
  | [], [] => .ok draft
  | [], _ :: _ => .error (.tooLong length)
  | _ :: _, [] => .error (.tooShort taken)
  | field :: fields, value :: values => do
    elementsIntoDraft length (← value.intoField draft field) (taken + 1) fields values

def failure (value : Value) : Except Mismatch ParseFailure := do
  let draft ← match value with
    | array items => elementsIntoDraft items.length .empty 0 Field.all items
    | object members => intoDraft .empty members
    | other => .error (.wrongType other .failure)
  match draft.complete with
  | .error field => .error (.missing field)
  | .ok failure => .ok failure

end Value

end LintReport.Json
