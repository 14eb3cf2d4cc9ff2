import LintReport.Posting
import LintReport.Proofs.Format

/-!
Offering pieces to an arbitrary destination.

A destination is any machine that answers a write and moves to another state. Offered pieces one
after the other, it either accepts them all (`Accepts`) or accepts some and then rejects one
(`Rejects`), and `offerAll` ends accordingly. Together with the format this says all that posting a
report can do (`Report.post_cases`), and what comes of it in each case.
-/

namespace LintReport

universe u v

variable {σ : Type u} [Sink σ]

/-- The destination accepts the pieces one after the other, which takes it from `s` to `t`. -/
inductive Accepts : σ → List String → σ → Prop
  | nil (s : σ) : Accepts s [] s
  | cons {s s' t : σ} {piece : String} {more : List String}
      (hpiece : Sink.write s piece = (.ok (), s')) (hmore : Accepts s' more t) :
      Accepts s (piece :: more) t

/-- The destination accepts the pieces before and then rejects the piece, which leaves it in `t`.
What would come later plays no part. -/
def Rejects (s : σ) (before : List String) (piece : String) (cause : IoError) (t : σ) : Prop :=
  ∃ s', Accepts s before s' ∧ Sink.write s' piece = (.error cause, t)

theorem accepts_or_rejects (s : σ) (pieces : List String) :
    (∃ t, Accepts s pieces t) ∨
    ∃ before piece later cause t, pieces = before ++ piece :: later ∧
      Rejects s before piece cause t := by
  induction pieces generalizing s with
  | nil => exact .inl ⟨s, .nil s⟩
  | cons piece more ih =>
      cases hwrite : Sink.write s piece with
      | mk answer s' =>
          cases answer with
          | error cause => exact .inr ⟨[], piece, more, cause, s', rfl, s, .nil s, hwrite⟩
          | ok done =>
              rcases ih s' with ⟨t, ht⟩ | ⟨before, next, later, cause, t, rfl, s'', hbefore, hnext⟩
              · exact .inl ⟨t, .cons hwrite ht⟩
              · exact .inr ⟨piece :: before, next, later, cause, t, rfl, s'',
                  .cons hwrite hbefore, hnext⟩

theorem offerAll_of_accepts (channel : Channel) {s t : σ} {pieces : List String}
    (h : Accepts s pieces t) : offerAll channel pieces s = (.done, t) := by
  induction h with
  | nil s => rfl
  | cons hpiece hmore ih =>
      simp only [offerAll, offer, hpiece, ih, Outcome.done, Outcome.after, List.append_nil]

/-- Pieces after a rejected one are not offered: they do not change the state that is reached. -/
theorem offerAll_of_rejects (channel : Channel) {s t : σ} {before : List String} {piece : String}
    {cause : IoError} (h : Rejects s before piece cause t) (later : List String) :
    offerAll channel (before ++ piece :: later) s = (.rejected channel cause, t) := by
  obtain ⟨s', hbefore, hpiece⟩ := h
  induction hbefore with
  | nil s =>
      simp only [List.nil_append, offerAll, offer, hpiece, Outcome.rejected]
  | cons hwrite hmore ih =>
      simp only [List.cons_append, offerAll, offer, hwrite, ih hpiece, Outcome.done,
        Outcome.after, List.nil_append]

/-! ### Posting a report -/

namespace Report

/-- A malformed report is a fault of its own and leaves the destination alone, even one that would
reject any write. -/
theorem post_of_malformed {report : Report} {fault : Fault} (h : report.Malformed fault) (s : σ) :
    report.post s = (⟨.error fault, [report.announcement]⟩, s) := by
  simp [post, attempt, entry_of_malformed h, Outcome.stopped, Outcome.after]

theorem post_of_wellFormed {report : Report} (h : report.WellFormed) (s : σ) :
    report.post s =
      ((offerAll report.channel report.pieces s).1.after [report.announcement],
        (offerAll report.channel report.pieces s).2) := by
  obtain ⟨entry, hentry, hpieces⟩ := entry_of_wellFormed h
  simp only [post, attempt, hentry, hpieces]

theorem post_of_accepts {report : Report} {s t : σ} (hwell : report.WellFormed)
    (h : Accepts s report.pieces t) :
    report.post s = (⟨.ok (), [report.announcement]⟩, t) := by
  rw [post_of_wellFormed hwell, offerAll_of_accepts _ h]
  rfl

theorem post_of_rejects {report : Report} {s t : σ} {before later : List String}
    {piece : String} {cause : IoError} (hwell : report.WellFormed)
    (hsplit : report.pieces = before ++ piece :: later) (h : Rejects s before piece cause t) :
    report.post s =
      (⟨.error (.rejected report.channel cause),
        [report.announcement, .rejected report.channel cause]⟩, t) := by
  rw [post_of_wellFormed hwell, hsplit, offerAll_of_rejects _ h]
  rfl

/-- All that can happen to a report: it is malformed, or all of its pieces are accepted, or the
first of them that is not accepted ends it. -/
theorem post_cases (report : Report) (s : σ) :
    (∃ fault, report.Malformed fault) ∨
    report.WellFormed ∧ ((∃ t, Accepts s report.pieces t) ∨
      ∃ before piece later cause t, report.pieces = before ++ piece :: later ∧
        Rejects s before piece cause t) := by
  rcases report.wellFormed_or_malformed with hwell | hmalformed
  · exact .inr ⟨hwell, accepts_or_rejects s report.pieces⟩
  · exact .inl hmalformed

variable {report : Report} {s : σ}

theorem post_eq_ok_iff :
    (report.post s).1.result = .ok () ↔ report.WellFormed ∧ ∃ t, Accepts s report.pieces t := by
  constructor
  · intro h
    rcases report.post_cases s with ⟨fault, hfault⟩ |
      ⟨hwell, haccepts | ⟨before, piece, later, cause, t, hsplit, hrejects⟩⟩
    · rw [post_of_malformed hfault] at h
      simp at h
    · exact ⟨hwell, haccepts⟩
    · rw [post_of_rejects hwell hsplit hrejects] at h
      simp at h
  · rintro ⟨hwell, t, ht⟩
    rw [post_of_accepts hwell ht]

theorem post_eq_rejected_iff {channel : Channel} {cause : IoError} :
    (report.post s).1.result = .error (.rejected channel cause) ↔
      report.WellFormed ∧ channel = report.channel ∧ ∃ before piece later t,
        report.pieces = before ++ piece :: later ∧ Rejects s before piece cause t := by
  constructor
  · intro h
    rcases report.post_cases s with ⟨fault, hfault⟩ |
      ⟨hwell, ⟨t, ht⟩ | ⟨before, piece, later, cause', t, hsplit, hrejects⟩⟩
    · rw [post_of_malformed hfault] at h
      cases hfault <;> simp at h
    · rw [post_of_accepts hwell ht] at h
      simp at h
    · rw [post_of_rejects hwell hsplit hrejects] at h
      obtain ⟨rfl, rfl⟩ : report.channel = channel ∧ cause' = cause := by simpa using h
      exact ⟨hwell, rfl, before, piece, later, t, hsplit, hrejects⟩
  · rintro ⟨hwell, rfl, before, piece, later, t, hsplit, hrejects⟩
    rw [post_of_rejects hwell hsplit hrejects]

theorem post_eq_error_iff_malformed {fault : Fault} (hfault : fault.isRejection = false) :
    (report.post s).1.result = .error fault ↔ report.Malformed fault := by
  constructor
  · intro h
    rcases report.post_cases s with ⟨fault', hfault'⟩ |
      ⟨hwell, ⟨t, ht⟩ | ⟨before, piece, later, cause, t, hsplit, hrejects⟩⟩
    · rw [post_of_malformed hfault'] at h
      obtain rfl : fault' = fault := by simpa using h
      exact hfault'
    · rw [post_of_accepts hwell ht] at h
      simp at h
    · rw [post_of_rejects hwell hsplit hrejects] at h
      obtain rfl : Fault.rejected report.channel cause = fault := by simpa using h
      simp [Fault.isRejection] at hfault
  · intro h
    rw [post_of_malformed h]

end Report

/-! ### Two destinations -/

variable {τ : Type v} [Sink τ]

theorem Outputs.post_of_findings {report : Report} (h : report.channel = .findings)
    (outputs : Outputs σ τ) :
    outputs.post report =
      ((report.post outputs.findings).1,
        { outputs with findings := (report.post outputs.findings).2 }) := by
  simp only [Outputs.post, h]

theorem Outputs.post_of_errors {report : Report} (h : report.channel = .errors)
    (outputs : Outputs σ τ) :
    outputs.post report =
      ((report.post outputs.errors).1,
        { outputs with errors := (report.post outputs.errors).2 }) := by
  simp only [Outputs.post, h]

theorem Outputs.post_of_malformed {report : Report} {fault : Fault} (h : report.Malformed fault)
    (outputs : Outputs σ τ) :
    outputs.post report = (⟨.error fault, [report.announcement]⟩, outputs) := by
  cases hchannel : report.channel with
  | findings => rw [post_of_findings hchannel, Report.post_of_malformed h]
  | errors => rw [post_of_errors hchannel, Report.post_of_malformed h]

end LintReport
