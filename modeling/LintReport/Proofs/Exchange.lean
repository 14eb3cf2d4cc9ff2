import LintReport.Proofs.Allowance
import LintReport.Proofs.Handles
import LintReport.Proofs.Watching

/-!
Roles follow the exchanges of a session.

Which store a step reaches depends on nothing but the role it is addressed to and on whether the
exchanges before it are even or odd in number. So what a store goes through in a session is what it
goes through at the steps that are addressed to it, one after the other (`Place.run`). Main
statement: what two stores receive in a session, that faults name roles and not stores, and that it
makes no difference how the stores are handed over.
-/

namespace LintReport

universe u v

/-! ### What is addressed to a store -/

namespace Channel

def other : Channel → Channel
  | findings => errors
  | errors => findings

/-- The role that a store plays after a number of exchanges. -/
def after (first : Channel) (exchanges : Nat) : Channel :=
  if exchanges % 2 = 0 then first else first.other

end Channel

namespace Step

def isExchange : Step → Bool
  | exchange => true
  | _ => false

def channel? : Step → Option Channel
  | post (.ok report) => some report.channel
  | post (.error _) => none
  | write channel _ => some channel
  | clear channel => some channel
  | exchange => none

end Step

def exchanges (steps : List Step) : Nat :=
  steps.countP Step.isExchange

/-- The steps that are addressed to one of two stores. The store plays the role `first` at the steps
that have an even number of exchanges before them, and the other role at the rest; `earlier` of the
exchanges were made before the steps given. -/
def addressed (first : Channel) (earlier : Nat) : List Step → List Step
  | [] => []
  | step :: more =>
    let later := addressed first (earlier + exchanges [step]) more
    if step.channel? = some (first.after earlier) then step :: later else later

section

variable {σ : Type u} [Sink σ]

def handOver : List String → σ → σ
  | [], s => s
  | piece :: more, s =>
    match Sink.write s piece with
    | (.ok (), s) => handOver more s
    | (.error _, s) => s

theorem handOver_of_accepts {s t : σ} {pieces : List String} (h : Accepts s pieces t) :
    handOver pieces s = t := by
  induction h with
  | nil s => rfl
  | cons hpiece hmore ih => simp only [handOver, hpiece, ih]

theorem handOver_of_rejects {s t : σ} {before : List String} {piece : String} {cause : IoError}
    (h : Rejects s before piece cause t) (later : List String) :
    handOver (before ++ piece :: later) s = t := by
  obtain ⟨s', hbefore, hpiece⟩ := h
  induction hbefore with
  | nil s => rw [List.nil_append, handOver, hpiece]
  | cons hwrite hmore ih => simp only [List.cons_append, handOver, hwrite, ih hpiece]

/-- A destination is handed what a report asks for, and goes no further than to the first piece that
it rejects. -/
theorem Report.post_eq_handOver (report : Report) (s : σ) :
    (report.post s).2 = handOver report.asked s := by
  rcases report.post_cases s with ⟨fault, hfault⟩ |
    ⟨hwell, ⟨t, haccepts⟩ | ⟨before, piece, later, cause, t, hsplit, hrejects⟩⟩
  · rw [post_of_malformed hfault, asked, if_neg hfault.not_wellFormed]
    rfl
  · rw [post_of_accepts hwell haccepts, asked, if_pos hwell, handOver_of_accepts haccepts]
  · rw [post_of_rejects hwell hsplit hrejects, asked, if_pos hwell, hsplit,
      handOver_of_rejects hrejects]

theorem handOver_singleton (s : σ) (text : String) : handOver [text] s = (Sink.write s text).2 := by
  cases hwrite : Sink.write s text with
  | mk answer t => cases answer <;> simp only [handOver, hwrite]

end

def Step.reach {σ : Type u} [Store σ] (s : σ) : Step → σ
  | post (.ok report) => handOver report.asked s
  | post (.error _) => s
  | write _ text => handOver [text] s
  | clear _ => Store.clear s
  | exchange => s

/-- A store after all the steps of a session that are addressed to it. -/
def reached {σ : Type u} [Store σ] (first : Channel) (steps : List Step) (s : σ) : σ :=
  (addressed first 0 steps).foldl Step.reach s

instance {σ : Type u} [Store σ] : Store (Watched σ) where
  snapshot watched := Store.snapshot watched.inner
  clear watched := ⟨Store.clear watched.inner, watched.handed⟩

theorem isHandle_inner {σ : Type u} [Store σ] : IsHandle fun watched : Watched σ => watched.inner :=
  ⟨fun _ _ => rfl, fun _ => rfl, fun _ => rfl⟩

/-! ### The places of a loan -/

section

variable {α β σ : Type u} [Store α] [Store β] [Store σ]

/-- One of the two places of a loan. The store in it plays the role `first` as long as the roles are
as they were at the start, and the other one when they are crossed. -/
structure Place (first : Channel) (store : Lent α β → σ) : Prop where
  act : ∀ {ρ : Type} channel (f : {σ : Type u} → [Store σ] → σ → ρ × σ) (lent : Lent α β),
    store (Stage.act channel f lent).2 =
      if channel = first.after lent.crossed.toNat then (f (store lent)).2 else store lent
  exchange : ∀ lent : Lent α β, store (Stage.exchange lent) = store lent

theorem place_first : Place .findings fun lent : Lent α β => lent.first where
  act channel f lent := by
    obtain ⟨first, second, crossed⟩ := lent
    cases crossed <;> cases channel <;> rfl
  exchange _ := rfl

theorem place_second : Place .errors fun lent : Lent α β => lent.second where
  act channel f lent := by
    obtain ⟨first, second, crossed⟩ := lent
    cases crossed <;> cases channel <;> rfl
  exchange _ := rfl

namespace Place

variable {first : Channel} {store : Lent α β → σ}

/-- A step reaches the store that it is addressed to, and leaves the other one alone. -/
theorem take (h : Place first store) (step : Step) (lent : Lent α β) :
    store (step.take lent).2 =
      if step.channel? = some (first.after lent.crossed.toNat) then step.reach (store lent)
      else store lent := by
  cases step with
  | post prepared =>
      cases prepared with
      | error fault => rfl
      | ok report =>
          simp only [Step.take, h.act, Report.post_eq_handOver, Step.channel?, Step.reach,
            Option.some.injEq]
  | write channel text =>
      simp only [Step.take, h.act, Step.channel?, Step.reach, handOver_singleton,
        Option.some.injEq]
  | clear channel => simp only [Step.take, h.act, Step.channel?, Step.reach, Option.some.injEq]
  | exchange => exact h.exchange lent

end Place

theorem Lent.crossed_act {ρ : Type} (channel : Channel)
    (f : {σ : Type u} → [Store σ] → σ → ρ × σ) (lent : Lent α β) :
    (Stage.act channel f lent).2.crossed = lent.crossed := by
  obtain ⟨first, second, crossed⟩ := lent
  cases crossed <;> cases channel <;> rfl

theorem Lent.crossed_take (step : Step) {lent : Lent α β} {n : Nat}
    (hn : lent.crossed = decide (n % 2 = 1)) :
    (step.take lent).2.crossed = decide ((n + exchanges [step]) % 2 = 1) := by
  cases step with
  | post prepared =>
      cases prepared with
      | error fault => exact hn
      | ok report =>
          simp only [Step.take, crossed_act]
          exact hn
  | write channel text =>
      simp only [Step.take, crossed_act]
      exact hn
  | clear channel =>
      simp only [Step.take, crossed_act]
      exact hn
  | exchange =>
      have hcrossed : (Step.exchange.take lent).2.crossed = !lent.crossed := rfl
      have hcount : exchanges [Step.exchange] = 1 := rfl
      rw [hcrossed, hn, hcount, ← decide_not, decide_eq_decide]
      omega

theorem exchanges_cons (step : Step) (more : List Step) :
    exchanges (step :: more) = exchanges [step] + exchanges more := by
  rw [exchanges, exchanges, exchanges, ← List.countP_append, List.singleton_append]

theorem Lent.crossed_run (steps : List Step) {lent : Lent α β} {n : Nat}
    (hn : lent.crossed = decide (n % 2 = 1)) :
    (Stage.run steps lent).2.crossed = decide ((n + exchanges steps) % 2 = 1) := by
  induction steps generalizing lent n with
  | nil => exact hn
  | cons step more ih =>
      rw [exchanges_cons, ← Nat.add_assoc]
      exact ih (crossed_take step hn)

theorem Channel.after_toNat (first : Channel) (n : Nat) :
    first.after (decide (n % 2 = 1)).toNat = first.after n := by
  rcases Nat.mod_two_eq_zero_or_one n with h | h <;> simp [after, h]

/-- In a whole run, too, a store goes through the steps that are addressed to it and no other. -/
theorem Place.run {first : Channel} {store : Lent α β → σ} (h : Place first store)
    (steps : List Step) {lent : Lent α β} {n : Nat} (hn : lent.crossed = decide (n % 2 = 1)) :
    store (Stage.run steps lent).2 = (addressed first n steps).foldl Step.reach (store lent) := by
  induction steps generalizing lent n with
  | nil => rfl
  | cons step more ih =>
      have hstep := h.take step lent
      rw [hn, Channel.after_toNat] at hstep
      have hmore := ih (Lent.crossed_take step hn)
      rw [hstep] at hmore
      by_cases hrole : step.channel? = some (first.after n)
      · rw [if_pos hrole] at hmore
        rw [addressed, if_pos hrole, List.foldl_cons]
        exact hmore
      · rw [if_neg hrole] at hmore
        rw [addressed, if_neg hrole]
        exact hmore

example (f g : Diagnostic) (file message text : String) :
    addressed .findings 0 [.post (.ok (.finding f)), .exchange, .post (.ok (.finding g)),
      .post (.ok (.unexpected file message)), .exchange, .write .findings text] =
      [.post (.ok (.finding f)), .post (.ok (.unexpected file message)), .write .findings text] := by
  cbv

theorem Lent.run_start (steps : List Step) (a : α) (b : β) :
    (Stage.run steps (start a b)).2 =
      ⟨reached .findings steps a, reached .errors steps b, decide (exchanges steps % 2 = 1)⟩ := by
  have hstart : (start a b).crossed = decide (0 % 2 = 1) := rfl
  have hcrossed := crossed_run steps hstart
  rw [Nat.zero_add] at hcrossed
  exact congr (congr (congrArg Lent.mk (place_first.run steps hstart))
    (place_second.run steps hstart)) hcrossed

end

/-! ### Faults -/

/-- The fault of a rejected report names the role that its channel is, whichever store played it.
Other steps end with a fault only if they were handed one. -/
def NamesRole : Step → Observation → Prop
  | .post (.ok report), seen => ∀ channel cause, seen.answer = .fault (.rejected channel cause) →
    channel = if report.isFinding then .findings else .errors
  | .post (.error fault), seen => seen.answer = .fault fault
  | _, seen => ∀ fault, seen.answer ≠ .fault fault

theorem Report.channel_eq (report : Report) :
    report.channel = if report.isFinding then .findings else .errors := by
  cases report <;> rfl

section

variable {α β : Type u} [Store α] [Store β]

theorem Lent.act_cases {ρ : Type} (channel : Channel) (f : {σ : Type u} → [Store σ] → σ → ρ × σ)
    (lent : Lent α β) :
    (Stage.act channel f lent).1 = (f lent.first).1 ∨
      (Stage.act channel f lent).1 = (f lent.second).1 := by
  obtain ⟨first, second, crossed⟩ := lent
  cases crossed <;> cases channel <;> simp [Stage.act, Lent.act, isFirst]

theorem Report.names_channel {σ : Type u} [Sink σ] {report : Report} {s : σ} {channel : Channel}
    {cause : IoError}
    (h : Answer.ofResult (report.post s).1.result = .fault (.rejected channel cause)) :
    channel = report.channel := by
  cases hresult : (report.post s).1.result with
  | ok done =>
      rw [hresult] at h
      cases h
  | error fault =>
      rw [hresult, Answer.ofResult, Answer.fault.injEq] at h
      rw [h] at hresult
      exact (post_eq_rejected_iff.mp hresult).2.1

theorem namesRole_take (step : Step) (lent : Lent α β) (findings errors : Snapshot) :
    NamesRole step ⟨(step.take lent).1.1, findings, errors, (step.take lent).1.2⟩ := by
  cases step with
  | post prepared =>
      cases prepared with
      | error fault => rfl
      | ok report =>
          intro channel cause h
          rw [← report.channel_eq]
          simp only [Step.take] at h
          rcases lent.act_cases report.channel (fun s => report.post s) with hact | hact
          · rw [hact] at h
            exact Report.names_channel h
          · rw [hact] at h
            exact Report.names_channel h
  | write channel text =>
      intro fault h
      simp only [Step.take, Answer.ofWrite] at h
      split at h <;> cases h
  | clear channel =>
      intro fault h
      cases h
  | exchange =>
      intro fault h
      cases h

theorem namesRole_run (steps : List Step) (lent : Lent α β) :
    List.Forall₂ NamesRole steps (Stage.run steps lent).1 := by
  induction steps generalizing lent with
  | nil => exact .nil
  | cons step more ih => exact .cons (namesRole_take step lent _ _) (ih _)

end

/-! ### Sessions -/

/-- Two stores that a session owns after a number of exchanges, the first of which played the role
of the findings at its start. -/
def Owned.after {α β : Type u} (exchanges : Nat) (first : α) (second : β) : Owned α β :=
  if exchanges % 2 = 0 then .straight ⟨first, second⟩ else .crossed ⟨second, first⟩

theorem Lent.owned_eq {α β : Type u} (n : Nat) (first : α) (second : β) :
    (Lent.mk first second (decide (n % 2 = 1))).owned = .after n first second := by
  rcases Nat.mod_two_eq_zero_or_one n with h | h <;> simp [owned, Owned.after, h]

theorem Owned.run_start {α β : Type u} [Store α] [Store β] (steps : List Step) (a : α) (b : β) :
    Stage.run steps (start a b) =
      ((Stage.run steps (Lent.start a b)).1,
        .after (exchanges steps) (reached .findings steps a) (reached .errors steps b)) := by
  rw [← Lent.owned_start, Lent.commutes_owned.run, Lent.run_start, Lent.owned_eq]

theorem Owned.run_handles {α β : Type u} {α' β' : Type v} [Store α] [Store β] [Store α'] [Store β']
    {m : α → α'} {m' : β → β'} (hm : IsHandle m) (hm' : IsHandle m') (steps : List Step) (a : α)
    (b : β) :
    Stage.run steps (start (m a) (m' b)) =
      ((Stage.run steps (start a b)).1,
        .after (exchanges steps) (m (reached .findings steps a))
          (m' (reached .errors steps b))) := by
  have hmap := (Lent.commutes_map hm hm').run steps (Lent.start a b)
  have hstart : (Lent.start a b).map m m' = Lent.start (m a) (m' b) := rfl
  rw [← Lent.owned_start, Lent.commutes_owned.run, ← hstart, hmap, run_start, Lent.run_start,
    Lent.map, Lent.owned_eq]

theorem reached_handle {σ : Type u} {τ : Type v} [Store σ] [Store τ] {m : σ → τ} (hm : IsHandle m)
    (first : Channel) (steps : List Step) (s : σ) :
    reached first steps (m s) = m (reached first steps s) := by
  have hmap := congrArg Prod.snd ((Lent.commutes_map hm hm).run steps (Lent.start s s))
  have hstart : (Lent.start s s).map m m = Lent.start (m s) (m s) := rfl
  rw [hstart, Lent.run_start, Lent.run_start] at hmap
  cases first with
  | findings => exact congrArg Lent.first hmap
  | errors => exact congrArg Lent.second hmap

/-- Sessions that exchange the roles of their stores, after any number of their steps. Each of the
two stores is where the steps addressed to it have brought it: the first by those addressed to the
findings after an even number of exchanges and to the errors after an odd number, the second by the
others. Stores that keep a list of what they are handed show that they were handed nothing else.
Every fault of a rejected report names a role. Stores on loan, boxed stores and stores of a hidden
type are observed alike and reach the same states. The stores on loan stay in their own places, and
the owned ones are in these places if the exchanges are even in number, and in each other's if they
are odd. -/
theorem Stage.run_exchanging {α β : Type u} [Store α] [Store β] (steps : List Step) (a : α)
    (b : β) :
    let n := exchanges steps
    let seen := (Stage.run steps (Owned.start a b)).1
    let first := reached .findings steps (Watched.mk a [])
    let second := reached .errors steps (Watched.mk b [])
    Stage.run steps (Owned.start (Watched.mk a []) (Watched.mk b [])) =
      (seen, .after n first second) ∧
    Stage.run steps (Owned.start a b) = (seen, .after n first.inner second.inner) ∧
    List.Forall₂ NamesRole steps seen ∧
    Stage.run steps (Lent.start a b) =
      (seen, ⟨first.inner, second.inner, decide (n % 2 = 1)⟩) ∧
    Stage.run steps (Owned.start (Held.mk a) (Held.mk b)) =
      (seen, .after n ⟨first.inner⟩ ⟨second.inner⟩) ∧
    Stage.run steps (Owned.start (AnyStore.mk a) (AnyStore.mk b)) =
      (seen, .after n ⟨first.inner⟩ ⟨second.inner⟩) := by
  intro n seen first second
  have hfirst : reached .findings steps a = first.inner :=
    reached_handle isHandle_inner .findings steps (Watched.mk a [])
  have hsecond : reached .errors steps b = second.inner :=
    reached_handle isHandle_inner .errors steps (Watched.mk b [])
  have hlent : Stage.run steps (Owned.start a b) = ((Stage.run steps (Lent.start a b)).1, _) :=
    Owned.run_start steps a b
  have hseen : (Stage.run steps (Lent.start a b)).1 = seen := (congrArg Prod.fst hlent).symm
  -- Looking through the watch is a handle as well.
  have hwatched : seen = (Stage.run steps (Owned.start (Watched.mk a []) (Watched.mk b []))).1 :=
    congrArg Prod.fst (Owned.run_handles isHandle_inner isHandle_inner steps (Watched.mk a [])
      (Watched.mk b []))
  have hend := congrArg Prod.snd (Owned.run_start steps (Watched.mk a []) (Watched.mk b []))
  refine ⟨Prod.ext hwatched.symm hend, ?_, ?_, ?_, ?_, ?_⟩
  · rw [hlent, hseen, hfirst, hsecond]
  · rw [← hseen]
    exact namesRole_run steps (Lent.start a b)
  · rw [← hfirst, ← hsecond]
    exact Prod.ext hseen (Lent.run_start steps a b)
  · rw [← hfirst, ← hsecond]
    exact Owned.run_handles isHandle_held isHandle_held steps a b
  · rw [← hfirst, ← hsecond]
    exact Owned.run_handles isHandle_anyStore isHandle_anyStore steps a b

end LintReport
