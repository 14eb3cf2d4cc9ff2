import LintReport.Sink.Bytes

/-!
A byte device that follows a script: what it does at each of its next writes is laid down in
advance. With it any pattern of short writes, interruptions and failures can be played.
-/

namespace LintReport

inductive Act where
  /-- Takes at most so many bytes. -/
  | accept (limit : Nat)
  /-- Takes nothing and fails. -/
  | fail (failure : IoError)
deriving DecidableEq

/-- A device that follows its acts, one per write, and takes everything once they are used up. -/
structure Script where
  accepted : List UInt8
  acts : List Act
  calls : Nat
  flushes : Nat
deriving DecidableEq

namespace Script

def start (acts : List Act) : Script :=
  ⟨[], acts, 0, 0⟩

def write (script : Script) (bytes : List UInt8) : Except IoError Nat × Script :=
  match script.acts with
  | [] =>
    (.ok bytes.length,
      { script with accepted := script.accepted ++ bytes, calls := script.calls + 1 })
  | .accept limit :: later =>
    (.ok (min limit bytes.length),
      { script with
        accepted := script.accepted ++ bytes.take limit, acts := later, calls := script.calls + 1 })
  | .fail failure :: later =>
    (.error failure, { script with acts := later, calls := script.calls + 1 })

/-- A flush passes nothing on, as nothing is held back; it is counted. -/
def flush (script : Script) : Except IoError Unit × Script :=
  (.ok (), { script with flushes := script.flushes + 1 })

theorem length_acts_lt_of_error {script : Script} {bytes : List UInt8} {failure : IoError}
    (failed : (script.write bytes).1 = .error failure) :
    (script.write bytes).2.acts.length < script.acts.length := by
  unfold write at failed ⊢
  split at failed <;> simp_all

end Script

/-- Each interruption of a scripted device is an act of its script. -/
instance : ByteDevice Script where
  write := Script.write
  flush := Script.flush
  patience script := script.acts.length
  patience_lt failed _ := Script.length_acts_lt_of_error failed

end LintReport
