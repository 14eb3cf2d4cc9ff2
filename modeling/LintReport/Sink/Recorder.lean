import LintReport.Sink.Basic

/-!
A destination that keeps every piece it is handed apart, and may close after a number of them. It
shows how a report was cut into pieces and how far a report got before its destination closed.
-/

namespace LintReport

/-- Keeps each write as one fragment, the empty ones too. -/
structure Recorder where
  fragments : List String
  /-- How many more writes are accepted; without a number, all of them are. -/
  allowance : Option Nat
  /-- How a write beyond the allowance fails. -/
  refusal : IoError
deriving DecidableEq

namespace Recorder

def blank (allowance : Option Nat) (refusal : IoError) : Recorder :=
  ⟨[], allowance, refusal⟩

/-- Records a fragment, or fails and records nothing when the allowance is used up. -/
def write (recorder : Recorder) (text : String) : Except IoError Unit × Recorder :=
  match recorder.allowance with
  | none => (.ok (), { recorder with fragments := recorder.fragments ++ [text] })
  | some 0 => (.error recorder.refusal, recorder)
  | some (left + 1) =>
    (.ok (), { recorder with fragments := recorder.fragments ++ [text], allowance := some left })

end Recorder

instance : Sink Recorder where
  write := Recorder.write

@[simp] theorem write_recorder (recorder : Recorder) (text : String) :
    Sink.write recorder text = recorder.write text := rfl

end LintReport
