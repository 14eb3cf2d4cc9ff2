import LintReport.Posting
import LintReport.Sink.Store

/-!
Sessions: sequences of steps on two stores in the roles of the two channels.

Besides posting reports, a step may write to a store directly, empty it, or exchange the roles of
the two stores. A session can own its stores or have them on loan. `Owned` keeps them in the roles
they play and gives them back in these roles; `Lent` leaves them where they are and only knows
which role each plays.
-/

namespace LintReport

universe u

/-- Two stores in the roles of the two channels. -/
class Stage (τ : Type u) where
  /-- Does something to the store that plays the role of a channel. -/
  act : {ρ : Type} → Channel → ({σ : Type u} → [Store σ] → σ → ρ × σ) → τ → ρ × τ
  exchange : τ → τ

/-- Two stores a session owns, the first of which played the role of the findings at its start. -/
inductive Owned (α β : Type u) where
  /-- The stores play their first roles. -/
  | straight (outputs : Outputs α β)
  /-- The stores play each other's first roles. -/
  | crossed (outputs : Outputs β α)

structure Lent (α β : Type u) where
  first : α
  second : β
  /-- Whether the second store plays the role of the findings. -/
  crossed : Bool

namespace Outputs

variable {φ ε : Type u} [Store φ] [Store ε]

def act {ρ : Type} (channel : Channel) (f : {σ : Type u} → [Store σ] → σ → ρ × σ)
    (outputs : Outputs φ ε) : ρ × Outputs φ ε :=
  match channel with
  | .findings =>
    let (answer, findings) := f outputs.findings
    (answer, { outputs with findings := findings })
  | .errors =>
    let (answer, errors) := f outputs.errors
    (answer, { outputs with errors := errors })

end Outputs

namespace Owned

variable {α β : Type u}

def start (first : α) (second : β) : Owned α β :=
  .straight ⟨first, second⟩

/-- The roles are exchanged by giving the stores up and taking them back the other way round. -/
def exchange : Owned α β → Owned α β
  | straight outputs => crossed outputs.exchange
  | crossed outputs => straight outputs.exchange

variable [Store α] [Store β]

def act {ρ : Type} (channel : Channel) (f : {σ : Type u} → [Store σ] → σ → ρ × σ) :
    Owned α β → ρ × Owned α β
  | straight outputs =>
    let (answer, outputs) := outputs.act channel f
    (answer, straight outputs)
  | crossed outputs =>
    let (answer, outputs) := outputs.act channel f
    (answer, crossed outputs)

end Owned

instance {α β : Type u} [Store α] [Store β] : Stage (Owned α β) where
  act := Owned.act
  exchange := Owned.exchange

namespace Lent

variable {α β : Type u}

def start (first : α) (second : β) : Lent α β :=
  ⟨first, second, false⟩

/-- The stores stay where they are when their roles are exchanged. -/
def exchange (lent : Lent α β) : Lent α β :=
  { lent with crossed := !lent.crossed }

variable [Store α] [Store β]

def isFirst (lent : Lent α β) : Channel → Bool
  | .findings => !lent.crossed
  | .errors => lent.crossed

def act {ρ : Type} (channel : Channel) (f : {σ : Type u} → [Store σ] → σ → ρ × σ)
    (lent : Lent α β) : ρ × Lent α β :=
  if lent.isFirst channel then
    let (answer, first) := f lent.first
    (answer, { lent with first := first })
  else
    let (answer, second) := f lent.second
    (answer, { lent with second := second })

end Lent

instance {α β : Type u} [Store α] [Store β] : Stage (Lent α β) where
  act := Lent.act
  exchange := Lent.exchange

inductive Step where
  /-- Posts a report. One whose finding could not be put together is not posted. -/
  | post (prepared : Except Fault Report)
  /-- Writes a text to the store of a channel, past the reports. -/
  | write (channel : Channel) (text : String)
  | clear (channel : Channel)
  | exchange

inductive Answer where
  | done
  /-- A report was not made in full. -/
  | fault (fault : Fault)
  /-- A direct write was rejected. -/
  | refused (cause : IoError)
deriving DecidableEq

structure Observation where
  answer : Answer
  findings : Snapshot
  errors : Snapshot
  events : List Event
deriving DecidableEq

namespace Answer

def ofResult : Except Fault Unit → Answer
  | .ok () => .done
  | .error found => .fault found

def ofWrite : Except IoError Unit → Answer
  | .ok () => .done
  | .error cause => .refused cause

end Answer

section

variable {τ : Type u} [Stage τ]

namespace Step

def take (step : Step) (stage : τ) : (Answer × List Event) × τ :=
  match step with
  | post (.error fault) => ((.fault fault, []), stage)
  | post (.ok report) =>
    let (outcome, stage) := Stage.act report.channel (fun s => report.post s) stage
    ((.ofResult outcome.result, outcome.events), stage)
  | write channel text =>
    let (answer, stage) := Stage.act channel (fun s => Sink.write s text) stage
    ((.ofWrite answer, []), stage)
  | clear channel =>
    let ((), stage) := Stage.act channel (fun s => ((), Store.clear s)) stage
    ((.done, []), stage)
  | exchange => ((.done, []), Stage.exchange stage)

end Step

namespace Stage

def snapshot (channel : Channel) (stage : τ) : Snapshot :=
  (act channel (fun s => (Store.snapshot s, s)) stage).1

def run : List Step → τ → List Observation × τ
  | [], stage => ([], stage)
  | step :: more, stage =>
    let ((answer, events), stage) := step.take stage
    let seen := ⟨answer, snapshot .findings stage, snapshot .errors stage, events⟩
    let (later, stage) := run more stage
    (seen :: later, stage)

end Stage

end

namespace Owned

variable {α β : Type u} [Store α] [Store β]

/-- What a session gives back at its end, by the roles the stores play then. -/
def returned (stage : Owned α β) : Outputs Snapshot Snapshot :=
  ⟨Stage.snapshot .findings stage, Stage.snapshot .errors stage⟩

end Owned

namespace Lent

variable {α β : Type u} [Store α] [Store β]

def returned (stage : Lent α β) : Outputs Snapshot Snapshot :=
  ⟨Store.snapshot stage.first, Store.snapshot stage.second⟩

end Lent

end LintReport
