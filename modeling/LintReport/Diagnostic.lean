import LintReport.ParseFailure

/-!
What a lint has to say: anything that can be shown as a text. The values that a report quotes most
often have a form of their own here; whatever else has a text is handed over as that text.
-/

namespace LintReport

open Text

inductive Diagnostic where
  | text (shown : String)
  | number (value : Int)
  | flag (value : Bool)
  | letter (c : Char)
  /-- A remark about a line of a file. -/
  | remark (file : String) (line : UInt64) (shown : String)
  | channel (which : Channel)
  | fault (found : Fault)
  | excerpt (block : Excerpt)
deriving DecidableEq

namespace Diagnostic

/-- The text of a finding. No line end is added to it. -/
def render : Diagnostic → String
  | .text shown => shown
  | .number value => signedDecimal value
  | .flag value => if value then "true" else "false"
  | .letter c => String.singleton c
  | .remark file line shown => file ++ ":" ++ decimal line.toNat ++ ": " ++ shown
  | .channel which => which.text
  | .fault found => found.message
  | .excerpt block => block.text

end Diagnostic

end LintReport
