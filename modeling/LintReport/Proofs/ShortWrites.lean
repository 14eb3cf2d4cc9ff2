import LintReport.Proofs.Capture
import LintReport.Proofs.Simulation

/-!
Short writes and interruptions do not show.

A device whose acts all take something or are interrupted takes every text in the end, in as many
writes as it likes. What it has taken is then the encoding of what a captured text would hold, so
the device cannot be told apart from a captured text nor from a buffer of bytes. Main statement: a
session on such devices is observed as it is on captured texts and on buffers, after each call.
-/

namespace LintReport

open Text

/-! ### Willing devices -/

theorem Act.Stops.not_proceeds {act : Act} {cause : IoError} (h : act.Stops cause) :
    ¬act.Proceeds := by
  cases h with
  | nothingTaken => simp
  | failed hfailure => simp [hfailure]

/-- A device that was never flushed, and none of whose acts ends a delivery. -/
structure Script.Willing (script : Script) : Prop where
  proceeds : ∀ act ∈ script.acts, act.Proceeds
  flushes : script.flushes = 0

namespace Script

theorem willing_start {acts : List Act} (h : ∀ act ∈ acts, act.Proceeds) : (start acts).Willing :=
  ⟨h, rfl⟩

theorem Willing.takes {script after : Script} {bytes : List UInt8} (h : script.Willing)
    (htakes : script.Takes bytes after) : after.Willing where
  proceeds := by
    obtain ⟨count, -, hacts, -⟩ := htakes.writes
    intro act hact
    rw [hacts] at hact
    exact h.proceeds act (List.mem_of_mem_drop hact)
  flushes := htakes.flushes.trans h.flushes

theorem Willing.deliver {script : Script} (h : script.Willing) (bytes : List UInt8) :
    ∃ after, ByteDevice.deliver script bytes = (.ok (), after) ∧ after.Willing ∧
      after.accepted = script.accepted ++ bytes := by
  rcases script.delivers bytes with ⟨after, htakes, hend⟩ | ⟨cause, after, hbreaks, -⟩
  · exact ⟨after, hend, h.takes htakes, htakes.accepted⟩
  · -- A delivery breaks off at an act that does not go on, and there is none.
    obtain ⟨used, last, hacts, -, -, hlast⟩ := hbreaks.writes
    have hproceeds : last.Proceeds := h.proceeds last (by simp [hacts])
    exact absurd hproceeds hlast.not_proceeds

end Script

/-! ### The two simulations -/

/-- The device has taken the encoding of what a captured text has gained. -/
structure Echoes (start captured : String) (sink : Utf8Sink Script) : Prop where
  gained : ∃ gained, captured = start ++ gained ∧ sink.device.accepted = utf8 gained
  willing : sink.device.Willing

theorem simulates_echoes (start : String) : Simulates (Echoes start) := by
  rintro captured ⟨script⟩ text ⟨⟨gained, hcaptured, haccepted⟩, hwilling⟩
  obtain ⟨after, hend, hafter, hadded⟩ := hwilling.deliver (utf8 text)
  rw [write_string, write_utf8Sink, hend]
  refine ⟨rfl, ⟨gained ++ text, ?_, ?_⟩, hafter⟩
  · rw [hcaptured, String.append_assoc]
  · rw [hadded, haccepted, utf8_append]

structure Mirrors (buffer : Utf8Sink ByteBuffer) (sink : Utf8Sink Script) : Prop where
  accepted : sink.device.accepted = buffer.device.bytes
  willing : sink.device.Willing

theorem simulates_mirrors : Simulates Mirrors := by
  rintro ⟨buffer⟩ ⟨script⟩ text ⟨haccepted, hwilling⟩
  obtain ⟨after, hend, hafter, hadded⟩ := hwilling.deliver (utf8 text)
  rw [write_utf8Sink, write_utf8Sink, deliver_byteBuffer, hend]
  refine ⟨rfl, ?_, hafter⟩
  rw [hadded, haccepted]

/-! ### What can be seen -/

/-- A captured text beside a device that was never flushed and has taken the encoding of all that
the text has gained. -/
def Snapshot.Echoes (start : String) (seen seen' : Snapshot) : Prop :=
  ∃ gained calls acts, seen = .text (start ++ gained) ∧ seen' = .device (utf8 gained) calls 0 acts

def Snapshot.Mirrors (seen seen' : Snapshot) : Prop :=
  ∃ bytes calls acts, seen = .bytes bytes ∧ seen' = .device bytes calls 0 acts

theorem snapshot_of_willing {script : Script} (h : script.Willing) :
    Store.snapshot (Utf8Sink.mk script) =
      .device script.accepted script.calls 0 script.acts.length := by
  rw [← h.flushes]
  rfl

theorem Echoes.snapshot {start captured : String} {sink : Utf8Sink Script}
    (h : Echoes start captured sink) :
    Snapshot.Echoes start (Store.snapshot captured) (Store.snapshot sink) := by
  obtain ⟨⟨gained, rfl, haccepted⟩, hwilling⟩ := h
  exact ⟨gained, _, _, rfl, haccepted ▸ snapshot_of_willing hwilling⟩

theorem Mirrors.snapshot {buffer : Utf8Sink ByteBuffer} {sink : Utf8Sink Script}
    (h : Mirrors buffer sink) :
    Snapshot.Mirrors (Store.snapshot buffer) (Store.snapshot sink) := by
  obtain ⟨haccepted, hwilling⟩ := h
  exact ⟨buffer.device.bytes, _, _, rfl, haccepted ▸ snapshot_of_willing hwilling⟩

theorem Stage.length_run {τ : Type} [Stage τ] (steps : List Step) (stage : τ) :
    (Stage.run steps stage).1.length = steps.length := by
  induction steps generalizing stage with
  | nil => rfl
  | cons step more ih => simp only [run, List.length_cons, ih]

/-- A session of calls on devices whose acts only take bytes or are interrupted is observed as the
same session is on captured texts. Each call has the same answer and leaves the same records, and
after it each device has taken the encoding of what its text has gained, and nothing was flushed.
That is also what buffers of bytes hold after the same calls. -/
theorem Stage.run_of_proceeds {steps : List Step} (hsteps : ∀ step ∈ steps, step.isCall = true)
    {findingsActs errorsActs : List Act} (hfindings : ∀ act ∈ findingsActs, act.Proceeds)
    (herrors : ∀ act ∈ errorsActs, act.Proceeds) (f e : String) :
    let texts := (Stage.run steps (Owned.start f e)).1
    let buffers := (Stage.run steps (Owned.start (Utf8Sink.mk (ByteBuffer.mk []))
      (Utf8Sink.mk (ByteBuffer.mk [])))).1
    let devices := (Stage.run steps (Owned.start (Utf8Sink.mk (Script.start findingsActs))
      (Utf8Sink.mk (Script.start errorsActs)))).1
    devices.length = steps.length ∧
    List.Forall₂ (Observation.Related (Snapshot.Echoes f) (Snapshot.Echoes e)) texts devices ∧
    List.Forall₂ (Observation.Related Snapshot.Mirrors Snapshot.Mirrors) buffers devices := by
  have hf := Script.willing_start hfindings
  have he := Script.willing_start herrors
  refine ⟨Stage.length_run steps _, ?_, ?_⟩
  · refine Stage.run_related (simulates_echoes f) (simulates_echoes e) (fun _ _ h => h.snapshot)
      (fun _ _ h => h.snapshot) hsteps ⟨⟨⟨"", ?_, rfl⟩, hf⟩, ⟨"", ?_, rfl⟩, he⟩
    · exact String.append_empty.symm
    · exact String.append_empty.symm
  · exact Stage.run_related simulates_mirrors simulates_mirrors (fun _ _ h => h.snapshot)
      (fun _ _ h => h.snapshot) hsteps ⟨⟨rfl, hf⟩, ⟨rfl, he⟩⟩

/-- A failure whose line is a character of two bytes, cut between them, then an empty text, and a
finding. -/
theorem Stage.run_of_cut_character :
    let steps := [Step.post (.ok (.payload ⟨"a.py", "bad", 1, some 0, "λ"⟩)), .write .findings "",
      .post (.ok (.finding (.text "é")))]
    let findingsActs := [Act.fail ⟨.interrupted, some (.custom "signal")⟩, .accept 1]
    let errorsActs := [Act.accept 12, .accept 1, .fail ⟨.interrupted, none⟩, .accept 9]
    let texts := (Stage.run steps (Owned.start "" "e")).1
    let devices := (Stage.run steps (Owned.start (Utf8Sink.mk (Script.start findingsActs))
      (Utf8Sink.mk (Script.start errorsActs)))).1
    (∀ step ∈ steps, step.isCall = true) ∧ (∀ act ∈ findingsActs, act.Proceeds) ∧
    (∀ act ∈ errorsActs, act.Proceeds) ∧
    List.Forall₂ (Observation.Related (Snapshot.Echoes "") (Snapshot.Echoes "e")) texts
      devices := by
  intro steps findingsActs errorsActs texts devices
  have hsteps : ∀ step ∈ steps, step.isCall = true := by decide
  have hfindings : ∀ act ∈ findingsActs, act.Proceeds := by
    simp [findingsActs, IoError.isInterruption]
  have herrors : ∀ act ∈ errorsActs, act.Proceeds := by
    simp [errorsActs, IoError.isInterruption]
  obtain ⟨-, hechoes, -⟩ := Stage.run_of_proceeds hsteps hfindings herrors "" "e"
  exact ⟨hsteps, hfindings, herrors, hechoes⟩

end LintReport
