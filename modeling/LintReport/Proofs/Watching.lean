import LintReport.Proofs.Simulation

/-!
Watching what is handed to a destination.

`Watched` keeps a list of all that was handed to a destination beside the destination itself. A
report cannot tell the difference (`Report.post_watched`), so what is seen there is what any
destination is handed. Main statement: the exact outcome of posting any report to any two
destinations, with all that either of them was handed on the way.
-/

namespace LintReport

universe u v

/-- A destination, and all that was handed to it, accepted or not. -/
structure Watched (σ : Type u) where
  inner : σ
  handed : List String

instance {σ : Type u} [Sink σ] : Sink (Watched σ) where
  write watched text :=
    let (answer, inner) := Sink.write watched.inner text
    (answer, ⟨inner, watched.handed ++ [text]⟩)

variable {σ : Type u} [Sink σ]

@[simp] theorem write_watched (s : σ) (handed : List String) (text : String) :
    Sink.write (Watched.mk s handed) text =
      ((Sink.write s text).1, ⟨(Sink.write s text).2, handed ++ [text]⟩) := rfl

theorem Accepts.watched {s t : σ} {pieces : List String} (h : Accepts s pieces t)
    (handed : List String) : Accepts (Watched.mk s handed) pieces ⟨t, handed ++ pieces⟩ := by
  induction h generalizing handed with
  | nil s =>
      rw [List.append_nil]
      exact .nil _
  | @cons s s' t piece more hpiece hmore ih =>
      have hrest := ih (handed ++ [piece])
      rw [List.append_assoc, List.singleton_append] at hrest
      exact .cons (by rw [write_watched, hpiece]) hrest

theorem Rejects.watched {s t : σ} {before : List String} {piece : String} {cause : IoError}
    (h : Rejects s before piece cause t) (handed : List String) :
    Rejects (Watched.mk s handed) before piece cause ⟨t, handed ++ before ++ [piece]⟩ := by
  obtain ⟨s', hbefore, hpiece⟩ := h
  exact ⟨⟨s', handed ++ before⟩, hbefore.watched handed, by rw [write_watched, hpiece]⟩

/-- A watched destination answers as the destination inside it does. -/
theorem simulates_inner : Simulates fun (watched : Watched σ) (s : σ) => watched.inner = s := by
  rintro watched s text rfl
  exact ⟨rfl, rfl⟩

theorem Report.post_watched (report : Report) (s : σ) (handed : List String) :
    (report.post (Watched.mk s handed)).1 = (report.post s).1 ∧
      (report.post (Watched.mk s handed)).2.inner = (report.post s).2 := by
  obtain ⟨hmade, hinner⟩ := simulates_inner.post (s := Watched.mk s handed) rfl report
  exact ⟨hmade.symm, hinner⟩

/-- The exact outcome of a report that was posted on a channel to a destination in state `s`: how
the result is determined, and the state `t` after it with all that was handed over on the way. -/
structure Settled (report : Report) (channel : Channel) (s : σ) (result : Except Fault Unit)
    (t : Watched σ) : Prop where
  /-- A missing text is found whatever the offset is. -/
  emptySource_iff : ∀ file, result = .error (.emptySource file) ↔
    ∃ failure, report.failure? = some failure ∧ failure.file = file ∧ failure.text = ""
  /-- An offset is at fault only when there is a text. -/
  columnOutside_iff : ∀ file offset length, result = .error (.columnOutside file offset length) ↔
    ∃ failure, report.failure? = some failure ∧ failure.file = file ∧ failure.text ≠ "" ∧
      failure.offset = some offset ∧ ¬Lands failure.text offset ∧
      (lastLine failure.text).length = length
  /-- Nothing is handed over for a malformed report. -/
  untouched : ¬report.WellFormed → t = ⟨s, []⟩
  ok_iff : result = .ok () ↔ report.WellFormed ∧ ∃ u, Accepts s report.pieces u
  /-- The failure is that of the first rejected piece, and the fault names the channel. -/
  rejected_iff : ∀ named cause, result = .error (.rejected named cause) ↔
    report.WellFormed ∧ named = channel ∧ ∃ before piece later u,
      report.pieces = before ++ piece :: later ∧ Rejects s before piece cause u
  /-- Accepted pieces were handed over once each and in order. -/
  handed_of_accepts : ∀ u, report.WellFormed → Accepts s report.pieces u → t = ⟨u, report.pieces⟩
  /-- A rejected piece was the last one that was handed over. -/
  handed_of_rejects : ∀ before piece later cause u, report.WellFormed →
    report.pieces = before ++ piece :: later → Rejects s before piece cause u →
    t = ⟨u, before ++ [piece]⟩
  /-- Only a rejected write counts as a failure of the destination. -/
  isRejection_iff : ∀ fault, result = .error fault →
    (fault.isRejection = true ↔ ∃ cause, fault = .rejected channel cause)
  /-- A well-formed report fails in no other way. -/
  isRejection_of_wellFormed : ∀ fault, report.WellFormed → result = .error fault →
    fault.isRejection = true

theorem Report.malformed_emptySource_iff {report : Report} {file : String} :
    report.Malformed (.emptySource file) ↔
      ∃ failure, report.failure? = some failure ∧ failure.file = file ∧ failure.text = "" := by
  constructor
  · intro h
    cases h with
    | emptySource hfailure hempty => exact ⟨_, hfailure, rfl, hempty⟩
  · rintro ⟨failure, hfailure, rfl, hempty⟩
    exact .emptySource hfailure hempty

theorem Report.malformed_columnOutside_iff {report : Report} {file : String} {offset : UInt64}
    {length : Nat} :
    report.Malformed (.columnOutside file offset length) ↔
      ∃ failure, report.failure? = some failure ∧ failure.file = file ∧ failure.text ≠ "" ∧
        failure.offset = some offset ∧ ¬Lands failure.text offset ∧
        (lastLine failure.text).length = length := by
  constructor
  · intro h
    cases h with
    | columnOutside hfailure hempty hoffset hlands =>
        exact ⟨_, hfailure, rfl, hempty, hoffset, hlands, rfl⟩
  · rintro ⟨failure, hfailure, rfl, hempty, hoffset, hlands, rfl⟩
    exact .columnOutside hfailure hempty hoffset hlands

theorem Report.settled_post (report : Report) (s : σ) :
    Settled report report.channel s (report.post (Watched.mk s [])).1.result
      (report.post (Watched.mk s [])).2 := by
  rw [(report.post_watched s []).1]
  constructor
  · intro file
    rw [post_eq_error_iff_malformed rfl, malformed_emptySource_iff]
  · intro file offset length
    rw [post_eq_error_iff_malformed rfl, malformed_columnOutside_iff]
  · intro hwell
    obtain ⟨fault, hfault⟩ := report.wellFormed_or_malformed.resolve_left hwell
    rw [post_of_malformed hfault]
  · exact post_eq_ok_iff
  · intro named cause
    exact post_eq_rejected_iff
  · intro u hwell haccepts
    rw [post_of_accepts hwell (haccepts.watched [])]
    rfl
  · intro before piece later cause u hwell hsplit hrejects
    rw [post_of_rejects hwell hsplit (hrejects.watched [])]
    rfl
  · intro fault hresult
    constructor
    · intro hrejection
      obtain ⟨named, cause, rfl⟩ := Fault.isRejection_iff.mp hrejection
      obtain ⟨-, rfl, -⟩ := post_eq_rejected_iff.mp hresult
      exact ⟨cause, rfl⟩
    · rintro ⟨cause, rfl⟩
      exact Fault.isRejection_iff.mpr ⟨report.channel, cause, rfl⟩
  · intro fault hwell hresult
    -- Any other fault would be one of the format, which asks for none here.
    by_contra hother
    rw [Bool.not_eq_true] at hother
    exact ((post_eq_error_iff_malformed hother).mp hresult).not_wellFormed hwell

/-! ### Two destinations -/

namespace Outputs

variable {φ : Type u} {ε : Type v}

def watch (outputs : Outputs φ ε) : Outputs (Watched φ) (Watched ε) :=
  ⟨⟨outputs.findings, []⟩, ⟨outputs.errors, []⟩⟩

def unwatch (outputs : Outputs (Watched φ) (Watched ε)) : Outputs φ ε :=
  ⟨outputs.findings.inner, outputs.errors.inner⟩

/-- The exact outcome of every report on any two destinations, the same whether they are watched or
not. A finding settles with the destination of the findings and any other report with that of the
errors, and nothing at all is handed to the other one. -/
theorem post_watch [Sink φ] [Sink ε] (report : Report) (outputs : Outputs φ ε) :
    let outcome := (outputs.watch.post report).1
    let after := (outputs.watch.post report).2
    outputs.post report = (outcome, after.unwatch) ∧
      match report with
      | .finding _ =>
        Settled report .findings outputs.findings outcome.result after.findings ∧
          after.errors = ⟨outputs.errors, []⟩
      | _ =>
        Settled report .errors outputs.errors outcome.result after.errors ∧
          after.findings = ⟨outputs.findings, []⟩ := by
  have hfindings := report.post_watched outputs.findings []
  have herrors := report.post_watched outputs.errors []
  cases report with
  | finding diagnostic =>
      rw [post_of_findings rfl, post_of_findings rfl]
      exact ⟨by simp [watch, unwatch, hfindings], Report.settled_post _ outputs.findings, rfl⟩
  | _ =>
      rw [post_of_errors rfl, post_of_errors rfl]
      exact ⟨by simp [watch, unwatch, herrors], Report.settled_post _ outputs.errors, rfl⟩

end Outputs

end LintReport
