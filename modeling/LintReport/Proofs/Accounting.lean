import LintReport.Proofs.Delivery
import LintReport.Proofs.Isolation
import LintReport.Proofs.Watching

/-!
What the writes of a delivery cost a scripted device.

A delivery is followed write by write, with the answer of the device to each (`ByteDevice.Writes`).
There is such a record of every delivery, so each comes to an end; and from the record the device
can be told: which acts it has left, and how many bytes it took. A write either uses up an act or
is the last one, so with every delivery that is not empty the writes made and the acts left grow by
one at most in sum. Main statement: the account of a delivery, and that of all the writes in a run
of reports.
-/

namespace LintReport

open Text

universe u v w

/-! ### Write by write -/

namespace ByteDevice

variable {ω : Type u} [ByteDevice ω]

/-- How the loop that writes all of the given bytes goes: the answers of the device to the writes
one after the other, what comes of it, and where the device ends. -/
inductive Writes : ω → List UInt8 → List (Except IoError Nat) → Except IoError Unit → ω → Prop
  | finished (device : ω) : Writes device [] [] (.ok ()) device
  | noneTaken {device next : ω} {bytes : List UInt8} (hbytes : bytes ≠ [])
      (h : write device bytes = (.ok 0, next)) :
      Writes device bytes [.ok 0] (.error .nothingTaken) next
  | taken {device next after : ω} {bytes : List UInt8} {count : Nat}
      {answers : List (Except IoError Nat)} {result : Except IoError Unit} (hbytes : bytes ≠ [])
      (h : write device bytes = (.ok (count + 1), next))
      (hmore : Writes next (bytes.drop (count + 1)) answers result after) :
      Writes device bytes (.ok (count + 1) :: answers) result after
  | interrupted {device next after : ω} {bytes : List UInt8} {failure : IoError}
      {answers : List (Except IoError Nat)} {result : Except IoError Unit} (hbytes : bytes ≠ [])
      (h : write device bytes = (.error failure, next)) (hfailure : failure.isInterruption = true)
      (hmore : Writes next bytes answers result after) :
      Writes device bytes (.error failure :: answers) result after
  | failed {device next : ω} {bytes : List UInt8} {failure : IoError} (hbytes : bytes ≠ [])
      (h : write device bytes = (.error failure, next))
      (hfailure : failure.isInterruption = false) :
      Writes device bytes [.error failure] (.error failure) next

variable {device after : ω} {bytes : List UInt8} {answers : List (Except IoError Nat)}
  {result : Except IoError Unit}

theorem Writes.deliver_eq (h : Writes device bytes answers result after) :
    deliver device bytes = (result, after) := by
  induction h with
  | finished device => exact deliver_nil device
  | noneTaken hbytes h => exact deliver_of_none_taken hbytes h
  | taken hbytes h hmore ih => exact (deliver_of_taken hbytes h).trans ih
  | interrupted hbytes h hfailure hmore ih =>
      exact (deliver_of_interrupted hbytes h hfailure).trans ih
  | failed hbytes h hfailure => exact deliver_of_failed hbytes h hfailure

/-- Every delivery ends, whatever the device is: the induction is that of the loop itself. -/
theorem exists_writes (device : ω) (bytes : List UInt8) :
    ∃ answers result after, Writes device bytes answers result after := by
  induction device, bytes using deliver.induct with
  | case1 device => exact ⟨[], _, device, .finished device⟩
  | case2 device bytes hbytes hanswer =>
      exact ⟨_, _, _, .noneTaken hbytes (Prod.ext hanswer rfl)⟩
  | case3 device bytes hbytes count hanswer ih =>
      obtain ⟨answers, result, after, hmore⟩ := ih
      exact ⟨_, result, after, .taken hbytes (Prod.ext hanswer rfl) hmore⟩
  | case4 device bytes hbytes failure hanswer hfailure ih =>
      obtain ⟨answers, result, after, hmore⟩ := ih
      exact ⟨_, result, after, .interrupted hbytes (Prod.ext hanswer rfl) hfailure hmore⟩
  | case5 device bytes hbytes failure hanswer hfailure =>
      exact ⟨_, _, _, .failed hbytes (Prod.ext hanswer rfl) (Bool.not_eq_true _ ▸ hfailure)⟩

end ByteDevice

/-! ### The account of a delivery -/

def takenBy : Except IoError Nat → Nat
  | .ok count => count
  | .error _ => 0

def takenAt : List (Except IoError Nat) → Nat
  | [] => 0
  | answer :: more => takenBy answer + takenAt more

namespace Script

/-- What a scripted device has done after writes that were answered so, where the given bytes were
to be written. -/
structure Accounts (script : Script) (bytes : List UInt8) (answers : List (Except IoError Nat))
    (after : Script) : Prop where
  calls : after.calls = script.calls + answers.length
  /-- A write plays an act, but for one that finds none left and takes all. -/
  length_le : answers.length ≤ script.acts.length + 1
  acts : after.acts = script.acts.drop answers.length
  length_acts : after.acts.length + min answers.length script.acts.length = script.acts.length
  accepted : after.accepted = script.accepted ++ bytes.take (takenAt answers)
  length_accepted : after.accepted.length = script.accepted.length + takenAt answers
  taken_le : takenAt answers ≤ bytes.length
  flushes : after.flushes = script.flushes

theorem Accounts.refl (script : Script) (bytes : List UInt8) : script.Accounts bytes [] script := by
  constructor <;> simp [takenAt]

/-- What comes of one write. A device with no act left takes all. -/
structure Plays (script : Script) (bytes : List UInt8) (answer : Except IoError Nat)
    (next : Script) : Prop where
  eq_played : next = script.played (bytes.take (takenBy answer))
  taken_le : takenBy answer ≤ bytes.length
  taken_eq : script.acts = [] → answer = .ok bytes.length

theorem plays_of_write {script next : Script} {bytes : List UInt8} {answer : Except IoError Nat}
    (h : ByteDevice.write script bytes = (answer, next)) : script.Plays bytes answer next := by
  match hacts : script.acts with
  | [] =>
      rw [write_of_nil hacts] at h
      obtain ⟨rfl, rfl⟩ := Prod.mk.inj h
      exact ⟨by rw [takenBy, List.take_length], Nat.le_refl _, fun _ => rfl⟩
  | .accept limit :: later =>
      rw [write_of_accept hacts] at h
      obtain ⟨rfl, rfl⟩ := Prod.mk.inj h
      exact ⟨by rw [takenBy, ← List.take_eq_take_min], Nat.min_le_right _ _, by simp [hacts]⟩
  | .fail failure :: later =>
      rw [write_of_fail hacts] at h
      obtain ⟨rfl, rfl⟩ := Prod.mk.inj h
      exact ⟨rfl, Nat.zero_le _, by simp [hacts]⟩

theorem Plays.accounts {script next after : Script} {bytes : List UInt8}
    {answer : Except IoError Nat} {answers : List (Except IoError Nat)}
    (hwrite : script.Plays bytes answer next) (hlast : script.acts = [] → answers = [])
    (hmore : next.Accounts (bytes.drop (takenBy answer)) answers after) :
    script.Accounts bytes (answer :: answers) after := by
  obtain ⟨rfl, htaken, -⟩ := hwrite
  have hacts : (script.played (bytes.take (takenBy answer))).acts = script.acts.tail := rfl
  have hdrop : after.acts = script.acts.drop (answers.length + 1) := by
    rw [hmore.acts, hacts, List.drop_tail]
  have hle := hmore.taken_le
  have haccepted := hmore.accepted
  rw [List.length_drop] at hle
  have hsum : takenAt (answer :: answers) = takenBy answer + takenAt answers := rfl
  constructor
  · rw [hmore.calls, List.length_cons]
    simp only [played]
    omega
  · have hlength := hmore.length_le
    rw [hacts, List.length_tail] at hlength
    rw [List.length_cons]
    by_cases hnil : script.acts = []
    · simp [hlast hnil]
    · have hacts : 0 < script.acts.length := List.length_pos_iff.mpr hnil
      omega
  · exact hdrop
  · rw [hdrop, List.length_drop, List.length_cons]
    omega
  · rw [haccepted, played, hsum, List.take_add, List.append_assoc]
  · rw [hmore.length_accepted, played, hsum, List.length_append, List.length_take]
    omega
  · omega
  · exact hmore.flushes

end Script

theorem ByteDevice.Writes.answers_eq_nil_iff {ω : Type u} [ByteDevice ω] {device after : ω}
    {bytes : List UInt8} {answers : List (Except IoError Nat)} {result : Except IoError Unit}
    (h : Writes device bytes answers result after) : answers = [] ↔ bytes = [] := by
  cases h with
  | finished device => simp
  | noneTaken hbytes | taken hbytes | interrupted hbytes | failed hbytes => simp [hbytes]

theorem ByteDevice.Writes.accounts {script after : Script} {bytes : List UInt8}
    {answers : List (Except IoError Nat)} {result : Except IoError Unit}
    (h : Writes script bytes answers result after) : script.Accounts bytes answers after := by
  induction h with
  | finished script => exact .refl script []
  | noneTaken hbytes h =>
      exact (Script.plays_of_write h).accounts (fun _ => rfl) (.refl _ _)
  | @taken _ _ _ bytes count _ _ hbytes h hmore ih =>
      have hplays := Script.plays_of_write h
      refine hplays.accounts (fun hnil => ?_) ih
      have hall : count + 1 = bytes.length := Except.ok.inj (hplays.taken_eq hnil)
      exact hmore.answers_eq_nil_iff.mpr (by rw [hall, List.drop_length])
  | interrupted hbytes h hfailure hmore ih =>
      have hplays := Script.plays_of_write h
      refine hplays.accounts (fun hnil => ?_) ih
      cases hplays.taken_eq hnil
  | failed hbytes h hfailure =>
      exact (Script.plays_of_write h).accounts (fun _ => rfl) (.refl _ _)

/-! ### The account of a run -/

theorem utf8_eq_nil_iff {text : String} : utf8 text = [] ↔ text = "" := by
  constructor
  · intro h
    rw [← String.toList_eq_nil_iff]
    cases htext : text.toList with
    | nil => rfl
    | cons c more =>
        simp [utf8, htext] at h
  · rintro rfl
    rfl

/-- The writes a device has made and the acts it has left. -/
def Script.tally (script : Script) : Nat :=
  script.calls + script.acts.length

def countNonEmpty (texts : List String) : Nat :=
  texts.countP fun text => text ≠ ""

theorem tally_write_le (sink : Utf8Sink Script) (text : String) :
    (Sink.write sink text).2.device.tally ≤ sink.device.tally + countNonEmpty [text] := by
  obtain ⟨script⟩ := sink
  obtain ⟨answers, result, after, h⟩ := ByteDevice.exists_writes script (utf8 text)
  rw [write_utf8Sink, h.deliver_eq]
  have hcalls := h.accounts.calls
  have hacts := h.accounts.length_acts
  have hle := h.accounts.length_le
  simp only [Script.tally]
  by_cases htext : text = ""
  · have hnil : answers = [] := h.answers_eq_nil_iff.mpr (utf8_eq_nil_iff.mpr htext)
    simp only [hnil, List.length_nil, Nat.zero_min] at hcalls hacts
    omega
  · have hone : countNonEmpty [text] = 1 := by simp [countNonEmpty, htext]
    omega

/-- A watched device that began as the given script is the one of the same run without a watch, and
its tally has not grown by more than was handed to it. -/
structure Script.Affords (script : Script) (watched : Watched (Utf8Sink Script))
    (sink : Utf8Sink Script) : Prop where
  inner : watched.inner = sink
  tally_le : sink.device.tally ≤ script.tally + countNonEmpty watched.handed

theorem Script.simulates_affords (script : Script) : Simulates script.Affords := by
  rintro ⟨sink, handed⟩ _ text ⟨rfl, htally⟩
  have hbefore : sink.device.tally ≤ script.tally + countNonEmpty handed := htally
  have hwrite := tally_write_le sink text
  have hhanded : countNonEmpty (handed ++ [text]) = countNonEmpty handed + countNonEmpty [text] :=
    List.countP_append
  refine ⟨rfl, rfl, ?_⟩
  simp only [write_watched, hhanded]
  omega

namespace Outputs

/-- Two runs of the same reports end in related states on a side on which they began in related
states, whatever happens on the other one. -/
theorem IsSide.run_related {φ φ' : Type u} {ε ε' : Type v} [Sink φ] [Sink φ'] [Sink ε] [Sink ε']
    {σ τ : Type w} [Sink σ] [Sink τ] {R : σ → τ → Prop} (hR : Simulates R)
    {belongs : Report → Bool} {destination : Outputs φ ε → σ} {destination' : Outputs φ' ε' → τ}
    (h : IsSide belongs destination) (h' : IsSide belongs destination') (reports : List Report)
    (outputs : Outputs φ ε) (outputs' : Outputs φ' ε')
    (hstart : R (destination outputs) (destination' outputs')) :
    R (destination (run reports outputs).2) (destination' (run reports outputs').2) := by
  induction reports generalizing outputs outputs' with
  | nil => exact hstart
  | cons report more ih =>
      refine ih (outputs.post report).2 (outputs'.post report).2 ?_
      cases hside : belongs report with
      | true =>
          rw [h.destination_eq report outputs hside, h'.destination_eq report outputs' hside]
          exact (hR.post hstart report).2
      | false =>
          rwa [h.destination_other report outputs hside, h'.destination_other report outputs' hside]

/-- The account of all the writes to a scripted device. Whatever its acts are, the writes that a
text is delivered with come to an end: none is made for the empty text only, each plays an act as
long as there are any, with at most one more, the bytes that were taken are as many as the writes
were answered with, and the device is not flushed. So the writes in a run of reports are at most the
acts that the device had at its start, and one for each fragment handed over that is not empty, on
whichever channel it is and whatever the destination of the other channel does. -/
theorem writes_accounted {τ : Type u} [Sink τ] (script : Script) (other : τ) :
    (∀ text : String,
      (∃ answers result after, ByteDevice.Writes script (utf8 text) answers result after) ∧
      ∀ answers result after, ByteDevice.Writes script (utf8 text) answers result after →
        Sink.write (Utf8Sink.mk script) text = (result, ⟨after⟩) ∧
        (answers.length = 0 ↔ text = "") ∧ script.Accounts (utf8 text) answers after) ∧
    ∀ reports : List Report,
      (let after := (run reports ⟨Utf8Sink.mk script, other⟩).2.findings
        let watched := (run reports ⟨Watched.mk (Utf8Sink.mk script) [], other⟩).2.findings
        watched.inner = after ∧ after.device.calls ≤
          script.calls + script.acts.length + countNonEmpty watched.handed) ∧
      (let after := (run reports ⟨other, Utf8Sink.mk script⟩).2.errors
        let watched := (run reports ⟨other, Watched.mk (Utf8Sink.mk script) []⟩).2.errors
        watched.inner = after ∧ after.device.calls ≤
          script.calls + script.acts.length + countNonEmpty watched.handed) := by
  refine ⟨fun text => ⟨ByteDevice.exists_writes script (utf8 text), ?_⟩, fun reports => ?_⟩
  · intro answers result after h
    refine ⟨?_, ?_, h.accounts⟩
    · rw [write_utf8Sink, h.deliver_eq]
    · rw [List.length_eq_zero_iff, h.answers_eq_nil_iff, utf8_eq_nil_iff]
  · have hstart : script.Affords ⟨⟨script⟩, []⟩ ⟨script⟩ := ⟨rfl, Nat.le_refl _⟩
    have hfindings := isSide_findings.run_related script.simulates_affords isSide_findings reports
      ⟨Watched.mk (Utf8Sink.mk script) [], other⟩ ⟨Utf8Sink.mk script, other⟩ hstart
    have herrors := isSide_errors.run_related script.simulates_affords isSide_errors reports
      ⟨other, Watched.mk (Utf8Sink.mk script) []⟩ ⟨other, Utf8Sink.mk script⟩ hstart
    refine ⟨⟨hfindings.inner, ?_⟩, herrors.inner, ?_⟩
    · exact (Nat.le_add_right _ _).trans hfindings.tally_le
    · exact (Nat.le_add_right _ _).trans herrors.tally_le

/-- A device that takes two bytes, is interrupted, and then takes none. -/
theorem writes_accounted_of_none_taken :
    let script := Script.start [.accept 2, .fail ⟨.interrupted, none⟩, .accept 0]
    let answers := [.ok 2, .error ⟨.interrupted, none⟩, .ok 0]
    let after := Script.mk [97, 98] [] 3 0
    ByteDevice.Writes script (utf8 "abc") answers (.error .nothingTaken) after ∧
      Sink.write (Utf8Sink.mk script) "abc" = (.error .nothingTaken, ⟨after⟩) ∧
      script.Accounts (utf8 "abc") answers after := by
  intro script answers after
  have hwrites : ByteDevice.Writes script (utf8 "abc") answers (.error .nothingTaken) after :=
    .taken (by decide) rfl (.interrupted (by decide) rfl rfl (.noneTaken (by decide) rfl))
  obtain ⟨hwrite, -, haccounts⟩ :=
    ((writes_accounted script "").1 "abc").2 answers _ after hwrites
  exact ⟨hwrites, hwrite, haccounts⟩

end Outputs

end LintReport
