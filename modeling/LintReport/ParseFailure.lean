import LintReport.Excerpt

/-!
A parse failure as an analyser hands it over, and the questions that can be asked of it before it
is reported.
-/

namespace LintReport

structure ParseFailure where
  file : String
  message : String
  /-- The line number to show, counted from one. -/
  line : UInt64
  /-- Where the parser stopped, in characters of the whole text, counted from zero. -/
  offset : Option UInt64
  /-- The text up to and with the line at fault. -/
  text : String
deriving DecidableEq

namespace ParseFailure

def shownLine (failure : ParseFailure) : Except Fault String :=
  Excerpt.shownLine failure.file failure.text

def caretColumn (failure : ParseFailure) : Except Fault (Option Nat) := do
  let shown ← failure.shownLine
  match failure.offset with
  | none => return none
  | some offset => return some (← Excerpt.columnOf failure.file failure.text shown offset)

def excerpt (failure : ParseFailure) : Except Fault Excerpt :=
  Excerpt.layOut failure.file failure.message failure.line failure.offset failure.text

/-- Whether two failures are shown alike; there is no answer when one of them cannot be shown. -/
def shownAlike? (a b : ParseFailure) : Option Bool :=
  match a.excerpt, b.excerpt with
  | .ok blockA, .ok blockB => some (blockA = blockB)
  | _, _ => none

end ParseFailure

end LintReport
