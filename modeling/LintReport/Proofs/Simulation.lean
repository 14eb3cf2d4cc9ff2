import LintReport.Proofs.Offering
import LintReport.Session
import Mathlib.Data.List.Forall2

/-!
Destinations that cannot be told apart.

A relation between the states of two destinations is a simulation if related states answer every
write alike and go over into related states. As a report does nothing to a destination but write to
it, a simulation carries over to reports, to pairs of destinations in their two roles, and to the
calls of a session.
-/

namespace LintReport

universe u v

/-- Related states answer every write alike, and are related again after it. -/
def Simulates {σ : Type u} {τ : Type v} [Sink σ] [Sink τ] (R : σ → τ → Prop) : Prop :=
  ∀ s t text, R s t →
    (Sink.write t text).1 = (Sink.write s text).1 ∧ R (Sink.write s text).2 (Sink.write t text).2

namespace Simulates

variable {σ : Type u} {τ : Type v} [Sink σ] [Sink τ] {R : σ → τ → Prop} {s s' : σ} {t : τ}

theorem write (hR : Simulates R) (h : R s t) {text : String} {answer : Except IoError Unit}
    (hwrite : Sink.write s text = (answer, s')) :
    ∃ t', Sink.write t text = (answer, t') ∧ R s' t' := by
  obtain ⟨hanswer, hafter⟩ := hR s t text h
  rw [hwrite] at hanswer hafter
  exact ⟨_, Prod.ext hanswer rfl, hafter⟩

theorem accepts (hR : Simulates R) (h : R s t) {pieces : List String}
    (haccepts : Accepts s pieces s') : ∃ t', Accepts t pieces t' ∧ R s' t' := by
  induction haccepts generalizing t with
  | nil s => exact ⟨t, .nil t, h⟩
  | cons hpiece hmore ih =>
      obtain ⟨t₁, hwrite, h₁⟩ := hR.write h hpiece
      obtain ⟨t', haccepts, h'⟩ := ih h₁
      exact ⟨t', .cons hwrite haccepts, h'⟩

theorem rejects (hR : Simulates R) (h : R s t) {before : List String} {piece : String}
    {cause : IoError} (hrejects : Rejects s before piece cause s') :
    ∃ t', Rejects t before piece cause t' ∧ R s' t' := by
  obtain ⟨s₁, hbefore, hpiece⟩ := hrejects
  obtain ⟨t₁, haccepts, h₁⟩ := hR.accepts h hbefore
  obtain ⟨t', hwrite, h'⟩ := hR.write h₁ hpiece
  exact ⟨t', ⟨t₁, haccepts, hwrite⟩, h'⟩

/-- A report comes out the same on destinations that cannot be told apart. -/
theorem post (hR : Simulates R) (h : R s t) (report : Report) :
    (report.post t).1 = (report.post s).1 ∧ R (report.post s).2 (report.post t).2 := by
  rcases report.post_cases s with ⟨fault, hfault⟩ |
    ⟨hwell, ⟨s', haccepts⟩ | ⟨before, piece, later, cause, s', hsplit, hrejects⟩⟩
  · rw [Report.post_of_malformed hfault, Report.post_of_malformed hfault]
    exact ⟨rfl, h⟩
  · obtain ⟨t', haccepts', h'⟩ := hR.accepts h haccepts
    rw [Report.post_of_accepts hwell haccepts, Report.post_of_accepts hwell haccepts']
    exact ⟨rfl, h'⟩
  · obtain ⟨t', hrejects', h'⟩ := hR.rejects h hrejects
    rw [Report.post_of_rejects hwell hsplit hrejects, Report.post_of_rejects hwell hsplit hrejects']
    exact ⟨rfl, h'⟩

end Simulates

/-! ### Two destinations -/

section

variable {α β : Type u} {α' β' : Type v} [Store α] [Store β] [Store α'] [Store β']
variable {R : α → α' → Prop} {S : β → β' → Prop}

namespace Outputs

structure Related (R : α → α' → Prop) (S : β → β' → Prop) (outputs : Outputs α β)
    (outputs' : Outputs α' β') : Prop where
  findings : R outputs.findings outputs'.findings
  errors : S outputs.errors outputs'.errors

variable {outputs : Outputs α β} {outputs' : Outputs α' β'}

theorem Related.post (hR : Simulates R) (hS : Simulates S) (h : Related R S outputs outputs')
    (report : Report) :
    (outputs'.post report).1 = (outputs.post report).1 ∧
      Related R S (outputs.post report).2 (outputs'.post report).2 := by
  cases hchannel : report.channel with
  | findings =>
      obtain ⟨hmade, hafter⟩ := hR.post h.findings report
      rw [post_of_findings hchannel, post_of_findings hchannel]
      exact ⟨hmade, hafter, h.errors⟩
  | errors =>
      obtain ⟨hmade, hafter⟩ := hS.post h.errors report
      rw [post_of_errors hchannel, post_of_errors hchannel]
      exact ⟨hmade, h.findings, hafter⟩

def write (channel : Channel) (text : String) (outputs : Outputs α β) :
    Except IoError Unit × Outputs α β :=
  outputs.act channel fun s => Sink.write s text

theorem Related.write (hR : Simulates R) (hS : Simulates S) (h : Related R S outputs outputs')
    (channel : Channel) (text : String) :
    (outputs'.write channel text).1 = (outputs.write channel text).1 ∧
      Related R S (outputs.write channel text).2 (outputs'.write channel text).2 := by
  cases channel with
  | findings =>
      obtain ⟨hanswer, hafter⟩ := hR _ _ text h.findings
      exact ⟨hanswer, hafter, h.errors⟩
  | errors =>
      obtain ⟨hanswer, hafter⟩ := hS _ _ text h.errors
      exact ⟨hanswer, h.findings, hafter⟩

end Outputs

/-! ### The calls of a session -/

namespace Step

/-- A step that posts a report or writes directly. It leaves the stores in their roles, and removes
nothing from them. -/
def isCall : Step → Bool
  | post _ => true
  | write _ _ => true
  | clear _ => false
  | exchange => false

theorem take_post (report : Report) (outputs : Outputs α β) :
    (post (.ok report)).take (Owned.straight outputs) =
      ((.ofResult (outputs.post report).1.result, (outputs.post report).1.events),
        .straight (outputs.post report).2) := by
  cases hchannel : report.channel with
  | findings =>
      simp only [take, Stage.act, Owned.act, Outputs.act, hchannel,
        Outputs.post_of_findings hchannel]
  | errors =>
      simp only [take, Stage.act, Owned.act, Outputs.act, hchannel,
        Outputs.post_of_errors hchannel]

theorem take_write (channel : Channel) (text : String) (outputs : Outputs α β) :
    (write channel text).take (Owned.straight outputs) =
      ((.ofWrite (outputs.write channel text).1, []), .straight (outputs.write channel text).2) :=
  rfl

theorem take_related (hR : Simulates R) (hS : Simulates S) {step : Step}
    (hstep : step.isCall = true) {outputs : Outputs α β} {outputs' : Outputs α' β'}
    (h : outputs.Related R S outputs') :
    ∃ made next next', step.take (Owned.straight outputs) = (made, Owned.straight next) ∧
      step.take (Owned.straight outputs') = (made, Owned.straight next') ∧
      next.Related R S next' := by
  cases step with
  | post prepared =>
      cases prepared with
      | error fault => exact ⟨_, outputs, outputs', rfl, rfl, h⟩
      | ok report =>
          obtain ⟨hmade, hafter⟩ := h.post hR hS report
          refine ⟨_, _, _, take_post report outputs, ?_, hafter⟩
          rw [take_post, hmade]
  | write channel text =>
      obtain ⟨hanswer, hafter⟩ := h.write hR hS channel text
      refine ⟨_, _, _, take_write channel text outputs, ?_, hafter⟩
      rw [take_write, hanswer]
  | clear channel => cases hstep
  | exchange => cases hstep

end Step

structure Observation.Related (F E : Snapshot → Snapshot → Prop) (seen seen' : Observation) :
    Prop where
  answer : seen'.answer = seen.answer
  events : seen'.events = seen.events
  findings : F seen.findings seen'.findings
  errors : E seen.errors seen'.errors

/-- Calls of a session on stores that cannot be told apart are observed alike, one after the
other. -/
theorem Stage.run_related {F E : Snapshot → Snapshot → Prop} (hR : Simulates R) (hS : Simulates S)
    (hF : ∀ s t, R s t → F (Store.snapshot s) (Store.snapshot t))
    (hE : ∀ s t, S s t → E (Store.snapshot s) (Store.snapshot t))
    {steps : List Step} (hsteps : ∀ step ∈ steps, step.isCall = true) {outputs : Outputs α β}
    {outputs' : Outputs α' β'} (h : outputs.Related R S outputs') :
    List.Forall₂ (Observation.Related F E) (Stage.run steps (Owned.straight outputs)).1
      (Stage.run steps (Owned.straight outputs')).1 := by
  induction steps generalizing outputs outputs' with
  | nil => exact .nil
  | cons step more ih =>
      obtain ⟨hstep, hmore⟩ := List.forall_mem_cons.mp hsteps
      obtain ⟨made, next, next', htake, htake', hnext⟩ := Step.take_related hR hS hstep h
      simp only [Stage.run, htake, htake']
      exact .cons ⟨rfl, rfl, hF _ _ hnext.findings, hE _ _ hnext.errors⟩ (ih hmore hnext)

end

end LintReport
