import LintReport.Proofs.Delivery
import LintReport.Proofs.Offering

/-!
What a report leaves on a device that takes its bytes bit by bit.

The pieces of a report go to a scripted device one delivery after the other. As deliveries in a row
behave like a single one, what the device has taken at the end of a report is a prefix of the bytes
of the whole report: there is no gap in it, and nothing follows a failure. Main statement: how that
prefix, the result of the report and the last write of the device belong together.
-/

namespace LintReport

open Text

universe u

theorem utf8_join (pieces : List String) : utf8 (String.join pieces) = pieces.flatMap utf8 := by
  induction pieces with
  | nil => rfl
  | cons piece more ih => rw [String.join_cons, utf8_append, ih, List.flatMap_cons]

/-! ### One piece after the other -/

theorem takes_of_write {sink after : Utf8Sink Script} {piece : String}
    (h : Sink.write sink piece = (.ok (), after)) :
    sink.device.Takes (utf8 piece) after.device := by
  obtain ⟨script⟩ := sink
  rw [write_utf8Sink] at h
  rcases script.delivers (utf8 piece) with ⟨final, htakes, hend⟩ | ⟨cause, final, -, hend⟩
  · rw [hend] at h
    obtain ⟨-, rfl⟩ := Prod.mk.inj h
    exact htakes
  · rw [hend] at h
    simp at h

theorem breaksOff_of_write {sink after : Utf8Sink Script} {piece : String} {cause : IoError}
    (h : Sink.write sink piece = (.error cause, after)) :
    sink.device.BreaksOff (utf8 piece) cause after.device := by
  obtain ⟨script⟩ := sink
  rw [write_utf8Sink] at h
  rcases script.delivers (utf8 piece) with ⟨final, -, hend⟩ | ⟨cause', final, hbreaks, hend⟩
  · rw [hend] at h
    simp at h
  · rw [hend] at h
    obtain ⟨hcause, rfl⟩ := Prod.mk.inj h
    obtain rfl := Except.error.inj hcause
    exact hbreaks

theorem Accepts.takes {sink after : Utf8Sink Script} {pieces : List String}
    (h : Accepts sink pieces after) :
    sink.device.Takes (pieces.flatMap utf8) after.device := by
  induction h with
  | nil sink => exact .refl sink.device
  | cons hpiece hmore ih =>
      rw [List.flatMap_cons]
      exact (takes_of_write hpiece).trans ih

/-- What a rejected piece breaks off is broken off for all that was to follow it. -/
theorem Rejects.breaksOff {sink after : Utf8Sink Script} {before : List String} {piece : String}
    {cause : IoError} (h : Rejects sink before piece cause after) (later : List String) :
    sink.device.BreaksOff ((before ++ piece :: later).flatMap utf8) cause after.device := by
  obtain ⟨middle, hbefore, hpiece⟩ := h
  rw [List.flatMap_append, List.flatMap_cons]
  exact hbefore.takes.breaksOff ((breaksOff_of_write hpiece).append (later.flatMap utf8))

/-! ### A whole report -/

/-- What a report on a channel that was to put out some bytes leaves on a scripted device. -/
structure LeavesPrefix (bytes : List UInt8) (channel : Channel) (script : Script)
    (result : Except Fault Unit) (after : Script) : Prop where
  /-- The bytes that were added are a prefix of those that were asked for, and the report was made
  exactly if they are all of them. -/
  accepted : ∃ added, after.accepted = script.accepted ++ added ∧ added <+: bytes ∧
    (result = .ok () ↔ added = bytes)
  /-- A fault is the one of the last write that the device played. No write before it failed but
  those that were interrupted. -/
  rejected : ∀ fault, result = .error fault → ∃ cause used last,
    fault = .rejected channel cause ∧ script.acts = used ++ last :: after.acts ∧
      after.calls = script.calls + used.length + 1 ∧ (∀ act ∈ used, act.Proceeds) ∧
      last.Stops cause

theorem Report.leavesPrefix {report : Report} (hwell : report.WellFormed)
    (sink : Utf8Sink Script) :
    LeavesPrefix (utf8 report.formatted) report.channel sink.device (report.post sink).1.result
      (report.post sink).2.device := by
  rw [← join_pieces, utf8_join]
  rcases accepts_or_rejects sink report.pieces with
    ⟨after, haccepts⟩ | ⟨before, piece, later, cause, after, hsplit, hrejects⟩
  · rw [post_of_accepts hwell haccepts]
    refine ⟨⟨_, haccepts.takes.accepted, List.prefix_rfl, by simp⟩, ?_⟩
    intro fault hfault
    cases hfault
  · rw [post_of_rejects hwell hsplit hrejects, hsplit]
    -- The pieces before the rejected one were taken, so the report as a whole is broken off.
    have hbreaks := hrejects.breaksOff later
    obtain ⟨added, rest, hadded, hrest, haccepted⟩ := hbreaks.accepted
    obtain ⟨used, last, hacts, hcalls, hused, hlast⟩ := hbreaks.writes
    refine ⟨⟨added, haccepted, ⟨rest, hadded.symm⟩, ?_⟩, ?_⟩
    · rw [hadded]
      simpa using hrest
    · intro fault hfault
      obtain rfl := Except.error.inj hfault
      exact ⟨cause, used, last, rfl, hacts, hcalls, hused, hlast⟩

/-- On a scripted device every well-formed report leaves a prefix of its text, whatever the acts of
the device are, and the destination of the other channel stays as it is. The text of a report is
that of the entry it is laid out as. -/
theorem Outputs.post_script {τ : Type u} [Sink τ] {report : Report} (hwell : report.WellFormed)
    (script : Script) (other : τ) :
    (∃ entry, report.entry = .ok entry ∧ entry.text = report.formatted) ∧
    match report with
    | .finding _ =>
      let (outcome, after) := Outputs.post report ⟨Utf8Sink.mk script, other⟩
      LeavesPrefix (utf8 report.formatted) .findings script outcome.result after.findings.device ∧
        after.errors = other
    | _ =>
      let (outcome, after) := Outputs.post report ⟨other, Utf8Sink.mk script⟩
      LeavesPrefix (utf8 report.formatted) .errors script outcome.result after.errors.device ∧
        after.findings = other := by
  have hleaves := Report.leavesPrefix hwell ⟨script⟩
  obtain ⟨entry, hentry, hpieces⟩ := Report.entry_of_wellFormed hwell
  refine ⟨⟨entry, hentry, ?_⟩, ?_⟩
  · rw [← entry.join_fragments, hpieces, Report.join_pieces]
  cases report with
  | finding diagnostic =>
      rw [post_of_findings rfl]
      exact ⟨hleaves, rfl⟩
  | _ =>
      rw [post_of_errors rfl]
      exact ⟨hleaves, rfl⟩

/-- A device that takes three bytes, is interrupted, takes six more, up to the middle of a
character, and is then found closed. -/
theorem Outputs.post_script_of_closed :
    let report := Report.payload ⟨"a.py", "λ", 1, some 0, "x"⟩
    let script := Script.start
      [.accept 3, .fail ⟨.interrupted, none⟩, .accept 6, .fail .closed]
    let (outcome, after) := Outputs.post report ⟨"", Utf8Sink.mk script⟩
    report.WellFormed ∧
      LeavesPrefix (utf8 report.formatted) .errors script outcome.result after.errors.device ∧
        after.findings = "" := by
  have hwell : (Report.payload ⟨"a.py", "λ", 1, some 0, "x"⟩).WellFormed := by decide
  exact ⟨hwell, (Outputs.post_script hwell _ "").2⟩

end LintReport
