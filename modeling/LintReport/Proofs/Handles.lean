import LintReport.Proofs.Simulation

/-!
Handing stores over to a session.

A store behind a handle, or hidden behind the type of all stores, is reached by whatever a session
does as it is reached by itself (`IsHandle`). And a session that owns its stores goes through the
same states as one that has them on loan, which keeps them in their places (`Lent.owned`). Each of
these is a map of stages that commutes with a step (`Stage.Commutes`), and therefore with a run.
-/

namespace LintReport

universe u v

/-- A map of stages with which every step commutes, and which shows the same in each role. -/
structure Stage.Commutes {τ : Type u} {τ' : Type v} [Stage τ] [Stage τ'] (m : τ → τ') : Prop where
  take : ∀ (step : Step) stage, step.take (m stage) = ((step.take stage).1, m (step.take stage).2)
  snapshot : ∀ channel stage, Stage.snapshot channel (m stage) = Stage.snapshot channel stage

theorem Stage.Commutes.run {τ : Type u} {τ' : Type v} [Stage τ] [Stage τ'] {m : τ → τ'}
    (h : Commutes m) (steps : List Step) (stage : τ) :
    Stage.run steps (m stage) = ((Stage.run steps stage).1, m (Stage.run steps stage).2) := by
  induction steps generalizing stage with
  | nil => rfl
  | cons step more ih => simp only [Stage.run, h.take, h.snapshot, ih]

/-! ### Handles -/

/-- A map of stores that no write, no clearing and no look can tell from the store itself. -/
structure IsHandle {σ : Type u} {τ : Type v} [Store σ] [Store τ] (m : σ → τ) : Prop where
  write : ∀ s text, Sink.write (m s) text = ((Sink.write s text).1, m (Sink.write s text).2)
  clear : ∀ s, Store.clear (m s) = m (Store.clear s)
  snapshot : ∀ s, Store.snapshot (m s) = Store.snapshot s

theorem isHandle_held {σ : Type u} [Store σ] : IsHandle fun s : σ => Held.mk s :=
  ⟨fun _ _ => rfl, fun _ => rfl, fun _ => rfl⟩

theorem isHandle_anyStore {σ : Type u} [Store σ] : IsHandle fun s : σ => AnyStore.mk s :=
  ⟨fun _ _ => rfl, fun _ => rfl, fun _ => rfl⟩

theorem IsHandle.post {σ : Type u} {τ : Type v} [Store σ] [Store τ] {m : σ → τ} (h : IsHandle m)
    (report : Report) (s : σ) :
    report.post (m s) = ((report.post s).1, m (report.post s).2) := by
  have hsimulates : Simulates fun (s : σ) (t : τ) => t = m s := by
    rintro s t text rfl
    rw [h.write]
    exact ⟨rfl, rfl⟩
  obtain ⟨hmade, hafter⟩ := hsimulates.post rfl report
  exact Prod.ext hmade hafter

namespace Lent

section

variable {α β : Type u} {α' β' : Type v}

def map (m : α → α') (m' : β → β') (lent : Lent α β) : Lent α' β' :=
  ⟨m lent.first, m' lent.second, lent.crossed⟩

variable [Store α] [Store β] [Store α'] [Store β'] {m : α → α'} {m' : β → β'}

/-- Whatever commutes with both handles when it is done to a store does so on the loan. -/
theorem act_map {ρ : Type} (channel : Channel) (f : {σ : Type u} → [Store σ] → σ → ρ × σ)
    (g : {σ : Type v} → [Store σ] → σ → ρ × σ) (hm : ∀ s, g (m s) = ((f s).1, m (f s).2))
    (hm' : ∀ s, g (m' s) = ((f s).1, m' (f s).2)) (lent : Lent α β) :
    Stage.act channel g (lent.map m m') =
      ((Stage.act channel f lent).1, (Stage.act channel f lent).2.map m m') := by
  have hplace : (lent.map m m').isFirst channel = lent.isFirst channel := by
    cases channel <;> rfl
  simp only [Stage.act, act, hplace]
  split
  · simp only [map, hm]
  · simp only [map, hm']

theorem take_map (hm : IsHandle m) (hm' : IsHandle m') (step : Step) (lent : Lent α β) :
    step.take (lent.map m m') = ((step.take lent).1, (step.take lent).2.map m m') := by
  cases step with
  | post prepared =>
      cases prepared with
      | error fault => rfl
      | ok report =>
          have hact := act_map report.channel (fun s => report.post s) (fun s => report.post s)
            (hm.post report) (hm'.post report) lent
          simp only [Step.take, hact]
  | write channel text =>
      have hact := act_map channel (fun s => Sink.write s text) (fun s => Sink.write s text)
        (hm.write · text) (hm'.write · text) lent
      simp only [Step.take, hact]
  | clear channel =>
      have hclear (s : α) : ((), Store.clear (m s)) = ((), m (Store.clear s)) := by rw [hm.clear]
      have hclear' (s : β) : ((), Store.clear (m' s)) = ((), m' (Store.clear s)) := by
        rw [hm'.clear]
      have hact := act_map channel (fun s => ((), Store.clear s)) (fun s => ((), Store.clear s))
        hclear hclear' lent
      simp only [Step.take, hact]
  | exchange => rfl

theorem commutes_map (hm : IsHandle m) (hm' : IsHandle m') :
    Stage.Commutes (map m m' : Lent α β → Lent α' β') where
  take := take_map hm hm'
  snapshot channel lent := by
    have hlook (s : α) : (Store.snapshot (m s), m s) = (Store.snapshot s, m s) := by
      rw [hm.snapshot]
    have hlook' (s : β) : (Store.snapshot (m' s), m' s) = (Store.snapshot s, m' s) := by
      rw [hm'.snapshot]
    have hact := act_map channel (fun s => (Store.snapshot s, s))
      (fun s => (Store.snapshot s, s)) hlook hlook' lent
    rw [Stage.snapshot, hact, Stage.snapshot]

end

/-! ### Owned and lent stores -/

section

variable {α β : Type u}

def owned (lent : Lent α β) : Owned α β :=
  if lent.crossed then .crossed ⟨lent.second, lent.first⟩ else .straight ⟨lent.first, lent.second⟩

theorem owned_start (first : α) (second : β) : (start first second).owned = .start first second :=
  rfl

variable [Store α] [Store β]

theorem act_owned {ρ : Type} (channel : Channel) (f : {σ : Type u} → [Store σ] → σ → ρ × σ)
    (lent : Lent α β) :
    Stage.act channel f lent.owned =
      ((Stage.act channel f lent).1, (Stage.act channel f lent).2.owned) := by
  obtain ⟨first, second, crossed⟩ := lent
  cases crossed <;> cases channel <;> rfl

theorem commutes_owned : Stage.Commutes (owned : Lent α β → Owned α β) where
  take step lent := by
    cases step with
    | post prepared =>
        cases prepared with
        | error fault => rfl
        | ok report => simp only [Step.take, act_owned]
    | write channel text => simp only [Step.take, act_owned]
    | clear channel => simp only [Step.take, act_owned]
    | exchange =>
        obtain ⟨first, second, crossed⟩ := lent
        cases crossed <;> rfl
  snapshot channel lent := by rw [Stage.snapshot, act_owned, Stage.snapshot]

end

end Lent

end LintReport
