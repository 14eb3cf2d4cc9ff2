import LintReport.IoError
import LintReport.Text.Decimal

/-!
What can go wrong with a report. A destination may reject a write, or a parse failure may be
handed over without a text to show or with an offset that does not land on the line shown. The
last two are found before anything is written.
-/

namespace LintReport

open Text

inductive Channel where
  | findings
  | errors
deriving DecidableEq

namespace Channel

def text : Channel → String
  | findings => "findings"
  | errors => "error"

end Channel

/-- Why a report was not made in full. -/
inductive Fault where
  /-- The destination of a channel rejected a write. -/
  | rejected (channel : Channel) (cause : IoError)
  /-- A parse failure came without any source text. -/
  | emptySource (file : String)
  /-- An offset does not land on the line that would be shown. -/
  | columnOutside (file : String) (offset : UInt64) (lineLength : Nat)
deriving DecidableEq

namespace Fault

def message : Fault → String
  | rejected channel cause =>
    "failed to write to " ++ channel.text ++ " destination: " ++ cause.text
  | emptySource file => "syntax error in " ++ file ++ " has no source text to display"
  | columnOutside file offset lineLength =>
    "column offset " ++ decimal offset.toNat ++ " in " ++ file ++
      " is outside the displayed line of " ++ decimal lineLength ++ " characters"

/-- Whether the fault lies with a destination and not with what was to be reported. -/
def isRejection : Fault → Bool
  | rejected _ _ => true
  | emptySource _ => false
  | columnOutside _ _ _ => false

def cause? : Fault → Option IoError
  | rejected _ cause => some cause
  | emptySource _ => none
  | columnOutside _ _ _ => none

theorem isRejection_iff {fault : Fault} :
    fault.isRejection = true ↔ ∃ channel cause, fault = rejected channel cause := by
  cases fault <;> simp [isRejection]

end Fault

end LintReport
