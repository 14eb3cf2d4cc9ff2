import LintReport.Text.Quoted

/-!
Values laid out for inspection. A value is a tree of named records, tuples, lists and leaves, and
the tree can be written on one line or spread over several.
-/

namespace LintReport

open Text

inductive Inspect where
  /-- A leaf that is shown as it is: a number or a bare name. -/
  | atom (shown : String)
  | quoted (shown : String)
  /-- A name with named parts. -/
  | record (name : String) (parts : List (String × Inspect))
  | tuple (name : String) (parts : List Inspect)
  | list (items : List Inspect)

namespace Inspect

def ofOption : Option Inspect → Inspect
  | none => atom "None"
  | some value => tuple "Some" [value]

mutual

def compact : Inspect → String
  | atom shown => shown
  | quoted shown => Text.quoted shown
  | record name parts => name ++ " \x7b " ++ ", ".intercalate (compactParts parts) ++ " \x7d"
  | tuple name parts => name ++ "(" ++ ", ".intercalate (compactItems parts) ++ ")"
  | list items => "[" ++ ", ".intercalate (compactItems items) ++ "]"

def compactItems : List Inspect → List String
  | [] => []
  | item :: more => item.compact :: compactItems more

def compactParts : List (String × Inspect) → List String
  | [] => []
  | (name, part) :: more => (name ++ ": " ++ part.compact) :: compactParts more

end

def indent (depth : Nat) : String :=
  String.ofList (List.replicate (4 * depth) ' ')

def spread (depth : Nat) (lines : List String) : String :=
  "".intercalate (lines.map fun line => indent depth ++ line ++ ",\n")

mutual

/-- The tree over several lines, with the outermost line at a given depth. Every part has a line
of its own; an empty list stays on one line. -/
def prettyAt (depth : Nat) : Inspect → String
  | atom shown => shown
  | quoted shown => Text.quoted shown
  | record name parts =>
    name ++ " \x7b\n" ++ spread (depth + 1) (prettyParts (depth + 1) parts) ++ indent depth ++
      "\x7d"
  | tuple name parts =>
    name ++ "(\n" ++ spread (depth + 1) (prettyItems (depth + 1) parts) ++ indent depth ++ ")"
  | list [] => "[]"
  | list (item :: more) =>
    "[\n" ++ spread (depth + 1) (prettyItems (depth + 1) (item :: more)) ++ indent depth ++ "]"

def prettyItems (depth : Nat) : List Inspect → List String
  | [] => []
  | item :: more => item.prettyAt depth :: prettyItems depth more

def prettyParts (depth : Nat) : List (String × Inspect) → List String
  | [] => []
  | (name, part) :: more => (name ++ ": " ++ part.prettyAt depth) :: prettyParts depth more

end

def pretty (value : Inspect) : String :=
  value.prettyAt 0

end Inspect

end LintReport
