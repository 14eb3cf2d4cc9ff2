import LintReport.Proofs.Offering
import Mathlib.Data.List.Forall2

/-!
The log mirrors what comes of reports.

A report is announced by one debug record before anything else is done, and a rejected write is
recorded deep inside the writing of its pieces. As the first rejected write ends a report, its
records are determined by its result alone (`Report.mirrored_post`): the announcement, and a warning
if and only if the result is a rejection. Main statement: what the log of a whole run says.
-/

namespace LintReport

universe u v u' v'

/-! ### Records and results -/

namespace Event

def field? (name : String) (event : Event) : Option String :=
  event.fields.lookup name

/-- A warning that a channel rejected a write, with the text of the failure behind it. -/
structure WarnsOf (channel : Channel) (cause : IoError) (event : Event) : Prop where
  level : event.level = .warning
  names : event.field? "channel" = some channel.text
  shows : event.field? "error" = some cause.text

theorem warnsOf_rejected (channel : Channel) (cause : IoError) :
    (rejected channel cause).WarnsOf channel cause :=
  ⟨rfl, rfl, rfl⟩

end Event

theorem Report.level_announcement (report : Report) : report.announcement.level = .debug := by
  cases report <;> rfl

namespace Outcome

/-- The report ended because its destination rejected a write. -/
def IsRejected (outcome : Outcome) (channel : Channel) (cause : IoError) : Prop :=
  outcome.result = .error (.rejected channel cause)

def isRejected : Outcome → Bool
  | ⟨.ok (), _⟩ => false
  | ⟨.error fault, _⟩ => fault.isRejection

def warnings : Except Fault Unit → List Event
  | .error (.rejected channel cause) => [.rejected channel cause]
  | _ => []

theorem isRejected_iff {outcome : Outcome} :
    outcome.isRejected = true ↔ ∃ channel cause, outcome.IsRejected channel cause := by
  obtain ⟨result, events⟩ := outcome
  cases result with
  | ok done => simp [isRejected, IsRejected]
  | error fault => simp [isRejected, IsRejected, Fault.isRejection_iff]

theorem isRejected_eq_false_iff {outcome : Outcome} :
    outcome.isRejected = false ↔ ∀ channel cause, ¬outcome.IsRejected channel cause := by
  rw [← Bool.not_eq_true, isRejected_iff]
  simp only [not_exists]

theorem isRejected_of_ok {outcome : Outcome} (h : outcome.result = .ok ()) :
    outcome.isRejected = false := by
  rw [isRejected_eq_false_iff]
  intro channel cause hrejected
  rw [IsRejected, h] at hrejected
  cases hrejected

theorem warnings_of_not_isRejected {outcome : Outcome} (h : outcome.isRejected = false) :
    warnings outcome.result = [] := by
  obtain ⟨result, events⟩ := outcome
  match result, h with
  | .ok (), _ => rfl
  | .error (.emptySource _), _ => rfl
  | .error (.columnOutside _ _ _), _ => rfl

theorem level_of_mem_warnings {result : Except Fault Unit} {event : Event}
    (h : event ∈ warnings result) : event.level = .warning := by
  unfold warnings at h
  split at h
  · rw [List.mem_singleton.mp h]
    rfl
  · cases h

def recordsOn (level : Level) (outcome : Outcome) : List Event :=
  outcome.events.filter fun event => event.level = level

/-- The records of several outcomes on one level, in the order in which they were made. -/
def recordsAt (level : Level) (outcomes : List Outcome) : List Event :=
  (outcomes.flatMap events).filter fun event => event.level = level

theorem recordsAt_cons (level : Level) (outcome : Outcome) (more : List Outcome) :
    recordsAt level (outcome :: more) = outcome.recordsOn level ++ recordsAt level more := by
  rw [recordsAt, List.flatMap_cons, List.filter_append, ← recordsAt, recordsOn]

end Outcome

/-! ### One report -/

/-- The records of a report are its announcement and the warnings that its result calls for. -/
def Mirrored (report : Report) (outcome : Outcome) : Prop :=
  outcome.events = report.announcement :: Outcome.warnings outcome.result

/-- Nothing is recorded beside the announcement unless a write is rejected, and then no other write
is tried. -/
theorem Report.mirrored_post {σ : Type u} [Sink σ] (report : Report) (s : σ) :
    Mirrored report (report.post s).1 := by
  rcases report.post_cases s with ⟨fault, hfault⟩ |
    ⟨hwell, ⟨t, haccepts⟩ | ⟨before, piece, later, cause, t, hsplit, hrejects⟩⟩
  · rw [post_of_malformed hfault]
    cases hfault <;> rfl
  · rw [post_of_accepts hwell haccepts]
    rfl
  · rw [post_of_rejects hwell hsplit hrejects]
    rfl

/-- What the log says about a report and what came of it. -/
structure Logged (report : Report) (outcome : Outcome) : Prop where
  /-- The report is announced first, by one debug record. -/
  announced : ∃ later, outcome.events = report.announcement :: later
  level : report.announcement.level = .debug
  /-- A rejected write is recorded once, as it was returned, and ends the records. -/
  warned : ∀ channel cause, outcome.IsRejected channel cause →
    ∃ warning, outcome.events.tail = [warning] ∧ warning.WarnsOf channel cause
  /-- Nothing else is ever recorded. -/
  silent : (∀ channel cause, ¬outcome.IsRejected channel cause) → outcome.events.tail = []
  /-- A malformed report and one that is made leave nothing but their announcement. -/
  quiet : ¬report.WellFormed ∨ outcome.result = .ok () → outcome.events = [report.announcement]

theorem Mirrored.recordsOn_debug {report : Report} {outcome : Outcome}
    (h : Mirrored report outcome) : outcome.recordsOn .debug = [report.announcement] := by
  have hnone : (Outcome.warnings outcome.result).filter (fun event => event.level = .debug) =
      [] := by
    rw [List.filter_eq_nil_iff]
    intro event hevent
    simp [Outcome.level_of_mem_warnings hevent]
  rw [Outcome.recordsOn, h, List.filter_cons_of_pos (by simp [report.level_announcement]), hnone]

theorem Mirrored.recordsOn_warning {report : Report} {outcome : Outcome}
    (h : Mirrored report outcome) :
    outcome.recordsOn .warning = Outcome.warnings outcome.result := by
  rw [Outcome.recordsOn, h, List.filter_cons_of_neg (by simp [report.level_announcement]),
    List.filter_eq_self]
  intro event hevent
  simp [Outcome.level_of_mem_warnings hevent]

theorem Mirrored.warned {report : Report} {outcome : Outcome} (h : Mirrored report outcome)
    {channel : Channel} {cause : IoError} (hrejected : outcome.IsRejected channel cause) :
    outcome.events.tail = [.rejected channel cause] := by
  rw [h, hrejected]
  rfl

theorem Mirrored.silent {report : Report} {outcome : Outcome} (h : Mirrored report outcome)
    (hrejected : outcome.isRejected = false) : outcome.events = [report.announcement] := by
  rw [h, Outcome.warnings_of_not_isRejected hrejected]

section

variable {φ : Type u} {ε : Type v} [Sink φ] [Sink ε]

namespace Outputs

theorem mirrored_post (report : Report) (outputs : Outputs φ ε) :
    Mirrored report (outputs.post report).1 := by
  cases hchannel : report.channel with
  | findings =>
      rw [post_of_findings hchannel]
      exact report.mirrored_post outputs.findings
  | errors =>
      rw [post_of_errors hchannel]
      exact report.mirrored_post outputs.errors

theorem isRejected_post_of_malformed {report : Report} (h : ¬report.WellFormed)
    (outputs : Outputs φ ε) : (outputs.post report).1.isRejected = false := by
  obtain ⟨fault, hfault⟩ := report.wellFormed_or_malformed.resolve_left h
  rw [post_of_malformed hfault]
  cases hfault <;> rfl

theorem logged_post (report : Report) (outputs : Outputs φ ε) :
    Logged report (outputs.post report).1 := by
  have h := mirrored_post report outputs
  constructor
  · exact ⟨_, h⟩
  · exact report.level_announcement
  · intro channel cause hrejected
    exact ⟨_, h.warned hrejected, Event.warnsOf_rejected channel cause⟩
  · intro hrejected
    rw [h.silent (Outcome.isRejected_eq_false_iff.mpr hrejected), List.tail_cons]
  · rintro (hwell | hok)
    · exact h.silent (isRejected_post_of_malformed hwell outputs)
    · exact h.silent (Outcome.isRejected_of_ok hok)

/-! ### A run of reports -/

/-- What holds of every report that is posted holds of each report of a run. -/
theorem forall₂_run {R : Report → Outcome → Prop}
    (hR : ∀ report (outputs : Outputs φ ε), R report (outputs.post report).1)
    (reports : List Report) (outputs : Outputs φ ε) :
    List.Forall₂ R reports (run reports outputs).1 := by
  induction reports generalizing outputs with
  | nil => exact .nil
  | cons report more ih => exact .cons (hR report outputs) (ih _)

end Outputs

end

theorem recordsAt_debug {reports : List Report} {outcomes : List Outcome}
    (h : List.Forall₂ Mirrored reports outcomes) :
    Outcome.recordsAt .debug outcomes = reports.map Report.announcement := by
  induction h with
  | nil => rfl
  | cons hfirst hmore ih =>
      rw [Outcome.recordsAt_cons, hfirst.recordsOn_debug, ih, List.map_cons, List.singleton_append]

/-- The warnings are those of the rejected reports, one for each of them. -/
theorem recordsAt_warning {reports : List Report} {outcomes : List Outcome}
    (h : List.Forall₂ Mirrored reports outcomes) :
    List.Forall₂ (fun outcome event => ∃ channel cause,
        outcome.IsRejected channel cause ∧ event.WarnsOf channel cause)
      (outcomes.filter Outcome.isRejected) (Outcome.recordsAt .warning outcomes) := by
  induction h with
  | nil => exact .nil
  | @cons report outcome more later hfirst hmore ih =>
      rw [Outcome.recordsAt_cons, hfirst.recordsOn_warning]
      cases hrejected : outcome.isRejected with
      | false =>
          rw [List.filter_cons_of_neg (Bool.not_eq_true _ ▸ hrejected),
            Outcome.warnings_of_not_isRejected hrejected]
          exact ih
      | true =>
          obtain ⟨channel, cause, hfound⟩ := Outcome.isRejected_iff.mp hrejected
          rw [List.filter_cons_of_pos hrejected, hfound]
          exact .cons ⟨channel, cause, hfound, Event.warnsOf_rejected channel cause⟩ ih

/-- The log of a run of reports, whatever destinations they are posted to. Every report leaves the
records that its result calls for. So the warnings of the run, in their order, are one for each of
the reports that ended with a rejected write, and the debug records are those that the reports
announce, on any other two destinations too. -/
theorem Outputs.log_run {φ : Type u} {ε : Type v} {φ' : Type u'} {ε' : Type v'} [Sink φ] [Sink ε]
    [Sink φ'] [Sink ε'] (reports : List Report) (outputs : Outputs φ ε)
    (outputs' : Outputs φ' ε') :
    let outcomes := (run reports outputs).1
    List.Forall₂ Logged reports outcomes ∧
    List.Forall₂ (fun outcome event => ∃ channel cause,
        outcome.IsRejected channel cause ∧ event.WarnsOf channel cause)
      (outcomes.filter Outcome.isRejected) (Outcome.recordsAt .warning outcomes) ∧
    Outcome.recordsAt .debug outcomes = reports.map Report.announcement ∧
    Outcome.recordsAt .debug (run reports outputs').1 = Outcome.recordsAt .debug outcomes := by
  have hmirrored := forall₂_run mirrored_post reports outputs
  have hdebug := recordsAt_debug hmirrored
  have hdebug' := recordsAt_debug (forall₂_run mirrored_post reports outputs')
  exact ⟨forall₂_run logged_post reports outputs, recordsAt_warning hmirrored, hdebug,
    hdebug'.trans hdebug.symm⟩

end LintReport
