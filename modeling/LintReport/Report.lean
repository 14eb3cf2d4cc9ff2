import LintReport.Event

/-!
Reports: what can be asked to be put out, on which channel it goes, and the pieces it is written
in.

A report becomes an `Entry` once it is known that it can be shown at all. Findings and unexpected
errors always can; a parse failure cannot without a text, or with an offset beside the line shown.
-/

namespace LintReport

inductive Report where
  /-- A file could not be processed, for a reason other than a parse failure. -/
  | unexpected (file message : String)
  /-- A file could not be parsed; the parts of the failure are given one by one. -/
  | parseFailure (file message : String) (line : UInt64) (offset : Option UInt64) (text : String)
  /-- A file could not be parsed; the failure was put together before. -/
  | payload (failure : ParseFailure)
  | finding (diagnostic : Diagnostic)
deriving DecidableEq

/-- A report that can be shown. -/
inductive Entry where
  | unexpected (file message : String)
  | excerpt (block : Excerpt)
  | finding (text : String)
deriving DecidableEq

namespace Entry

def fragments : Entry → List String
  | unexpected file message => [file ++ ": " ++ message ++ "\n"]
  | excerpt block => block.fragments
  | finding text => [text, "\n"]

def text : Entry → String
  | unexpected file message => file ++ ": " ++ message ++ "\n"
  | excerpt block => block.text
  | finding found => found ++ "\n"

theorem join_fragments (entry : Entry) : String.join entry.fragments = entry.text := by
  cases entry with
  | unexpected file message => simp [fragments, text, String.join]
  | excerpt block => exact block.join_fragments
  | finding found => simp [fragments, text, String.join]

end Entry

namespace Report

/-- Findings have a channel to themselves. -/
def channel : Report → Channel
  | unexpected _ _ => .errors
  | parseFailure _ _ _ _ _ => .errors
  | payload _ => .errors
  | finding _ => .findings

/-- The record made of a report before anything else is done with it. -/
def announcement : Report → Event
  | unexpected file _ => .unexpected file
  | parseFailure file _ line offset _ => .parseFailure file line offset
  | payload failure => .payload failure.file failure.line
  | finding diagnostic => .finding diagnostic.render

def entry : Report → Except Fault Entry
  | unexpected file message => .ok (.unexpected file message)
  | parseFailure file message line offset text =>
    (Excerpt.layOut file message line offset text).map .excerpt
  | payload failure => failure.excerpt.map .excerpt
  | finding diagnostic => .ok (.finding diagnostic.render)

end Report

end LintReport
