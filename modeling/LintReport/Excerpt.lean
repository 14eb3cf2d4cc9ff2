import LintReport.Fault
import LintReport.Text.Line

/-!
The block that shows where a text could not be parsed: a header, the line at fault, and a caret
under the column when one is known.

The text handed over reaches up to the failure, so the line shown is its last physical line.
Offsets count characters of the whole text; `columnOn?` moves one onto the line shown, and
everything that can be wrong is found while the block is laid out.
-/

namespace LintReport

open Text

structure Excerpt where
  header : String
  /-- The line at fault, as it stands in the text. -/
  source : String
  /-- Spaces up to the column and a caret. -/
  caret : Option String
deriving DecidableEq

namespace Excerpt

/-- The line under the line at fault: a caret below the character in the given column. One more
space than the column goes in front of it. -/
def caretUnder (column : Nat) : String :=
  String.ofList (List.replicate (column + 1) ' ' ++ ['^'])

def headerOf (file : String) (line : UInt64) (message : String) : String :=
  file ++ ":" ++ decimal line.toNat ++ ": " ++ message

def shownLine (file text : String) : Except Fault String :=
  match finalLine? text.toList with
  | none => .error (.emptySource file)
  | some line => .ok (String.ofList line)

/-- Moves an offset into a text of `textLength` characters onto its last line, which has
`lineLength` of them. What stands in the text besides the line is subtracted, a closing terminator
too. A column may be one past the end of the line, where a parser points when the input ends
early. -/
def columnOn? (textLength lineLength offset : Nat) : Option Nat :=
  let before := textLength - lineLength
  if before ≤ offset ∧ offset - before ≤ lineLength then some (offset - before) else none

def columnOf (file text shown : String) (offset : UInt64) : Except Fault Nat :=
  match columnOn? text.length shown.length offset.toNat with
  | none => .error (.columnOutside file offset shown.length)
  | some column => .ok column

/-- Lays out the block of a parse failure. An empty text is a fault, whatever the offset. -/
def layOut (file message : String) (line : UInt64) (offset : Option UInt64) (text : String) :
    Except Fault Excerpt := do
  let source ← shownLine file text
  match offset with
  | none => return ⟨headerOf file line message, source, none⟩
  | some offset =>
    let column ← columnOf file text source offset
    return ⟨headerOf file line message, source, some (caretUnder column)⟩

/-- The pieces a block is written in. The line at fault is handed over as it is, its end on its
own. -/
def fragments (excerpt : Excerpt) : List String :=
  [excerpt.header ++ "\n", excerpt.source, "\n"] ++
    match excerpt.caret with
    | none => []
    | some caret => [caret ++ "\n"]

def text (excerpt : Excerpt) : String :=
  match excerpt.caret with
  | none => excerpt.header ++ "\n" ++ excerpt.source ++ "\n"
  | some caret => excerpt.header ++ "\n" ++ excerpt.source ++ "\n" ++ caret ++ "\n"

theorem join_fragments (excerpt : Excerpt) : String.join excerpt.fragments = excerpt.text := by
  cases found : excerpt.caret with
  | none => simp [fragments, text, found, String.join, String.append_assoc]
  | some caret => simp [fragments, text, found, String.join, String.append_assoc]

end Excerpt

end LintReport
