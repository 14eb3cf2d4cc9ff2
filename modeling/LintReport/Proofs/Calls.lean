import LintReport.Proofs.Offering

/-!
The writes of each call.

`Outputs.post` looks up the channel of a report once and hands all its pieces to one destination.
Spelt out, a call is a list of writes, and each of them says for itself which destination it goes to
and which channel is named when it fails. Main statement: to post reports is to announce each of
them and then to make its writes one by one, up to the first that is rejected.
-/

namespace LintReport

universe u v

structure Write where
  destination : Channel
  /-- The channel that is named if the destination rejects the piece. -/
  channel : Channel
  piece : String
deriving DecidableEq

/-- A write to the destination of a channel, in the name of that channel. -/
def Write.on (channel : Channel) (piece : String) : Write :=
  ⟨channel, channel, piece⟩

def Excerpt.writes (block : Excerpt) : List Write :=
  [.on .errors (block.header ++ "\n"), .on .errors block.source, .on .errors "\n"] ++
    match block.caret with
    | none => []
    | some caret => [.on .errors (caret ++ "\n")]

/-- The writes of a report in their order, or the fault that keeps it from making any. -/
def Report.writes : Report → Except Fault (List Write)
  | unexpected file message => .ok [.on .errors (file ++ ": " ++ message ++ "\n")]
  | parseFailure file message line offset text =>
    (Excerpt.layOut file message line offset text).map Excerpt.writes
  | payload failure => failure.excerpt.map Excerpt.writes
  | finding diagnostic => .ok [.on .findings diagnostic.render, .on .findings "\n"]

/-- Goes on from what was done if all went well, and else leaves it at that. -/
def Outcome.andThen {α : Type u} (made : Outcome × α) (next : α → Outcome × α) : Outcome × α :=
  match made with
  | (⟨.ok (), records⟩, a) => ((next a).1.after records, (next a).2)
  | (⟨.error fault, records⟩, a) => (⟨.error fault, records⟩, a)

namespace Outputs

variable {φ : Type u} {ε : Type v}

def routed (channel : Channel) (f : φ → Outcome × φ) (g : ε → Outcome × ε)
    (outputs : Outputs φ ε) : Outcome × Outputs φ ε :=
  match channel with
  | .findings => ((f outputs.findings).1, { outputs with findings := (f outputs.findings).2 })
  | .errors => ((g outputs.errors).1, { outputs with errors := (g outputs.errors).2 })

theorem routed_andThen (channel : Channel) (f f' : φ → Outcome × φ) (g g' : ε → Outcome × ε)
    (outputs : Outputs φ ε) :
    Outcome.andThen (outputs.routed channel f g) (routed channel f' g') =
      outputs.routed channel (fun s => Outcome.andThen (f s) f')
        (fun s => Outcome.andThen (g s) g') := by
  cases channel with
  | findings =>
      simp only [routed]
      rcases f outputs.findings with ⟨⟨result, records⟩, s⟩
      cases result <;> rfl
  | errors =>
      simp only [routed]
      rcases g outputs.errors with ⟨⟨result, records⟩, s⟩
      cases result <;> rfl

variable [Sink φ] [Sink ε]

def perform (write : Write) : Outputs φ ε → Outcome × Outputs φ ε :=
  routed write.destination (offer write.channel write.piece) (offer write.channel write.piece)

def performAll : List Write → Outputs φ ε → Outcome × Outputs φ ε
  | [], outputs => (.done, outputs)
  | write :: more, outputs => Outcome.andThen (outputs.perform write) (performAll more)

/-- Announces a report and makes its writes, up to the first that is rejected. A report that cannot
be shown leaves both destinations alone. -/
def call (report : Report) (outputs : Outputs φ ε) : Outcome × Outputs φ ε :=
  let (outcome, after) :=
    match report.writes with
    | .error fault => (Outcome.stopped fault, outputs)
    | .ok writes => outputs.performAll writes
  (outcome.after [report.announcement], after)

/-- Makes the calls of reports in order, whatever becomes of each. -/
def callAll : List Report → Outputs φ ε → List Outcome × Outputs φ ε
  | [], outputs => ([], outputs)
  | report :: more, outputs =>
    let (outcome, outputs) := outputs.call report
    let (outcomes, outputs) := callAll more outputs
    (outcome :: outcomes, outputs)

end Outputs

/-! ### The pieces of a report -/

theorem offerAll_cons {σ : Type u} [Sink σ] (channel : Channel) (piece : String)
    (more : List String) (s : σ) :
    offerAll channel (piece :: more) s =
      Outcome.andThen (offer channel piece s) (offerAll channel more) := by
  rw [offerAll]
  rcases offer channel piece s with ⟨⟨result, records⟩, t⟩
  cases result <;> rfl

theorem Excerpt.map_on_fragments (block : Excerpt) :
    block.fragments.map (Write.on .errors) = block.writes := by
  cases hcaret : block.caret with
  | none => simp [fragments, writes, hcaret]
  | some caret => simp [fragments, writes, hcaret]

theorem Excerpt.map_writes (laidOut : Except Fault Excerpt) :
    laidOut.map writes =
      (laidOut.map Entry.excerpt).map fun entry => entry.fragments.map (Write.on .errors) := by
  cases laidOut with
  | error fault => rfl
  | ok block => exact congrArg Except.ok block.map_on_fragments.symm

/-- Every write of a report is on the channel of the report. -/
theorem Report.writes_eq (report : Report) :
    report.writes = report.entry.map fun entry => entry.fragments.map (Write.on report.channel) := by
  cases report with
  | unexpected file message => rfl
  | parseFailure file message line offset text => exact Excerpt.map_writes _
  | payload failure => exact Excerpt.map_writes failure.excerpt
  | finding diagnostic => rfl

namespace Outputs

variable {φ : Type u} {ε : Type v} [Sink φ] [Sink ε]

theorem performAll_map_on (channel : Channel) (pieces : List String) (outputs : Outputs φ ε) :
    outputs.performAll (pieces.map (Write.on channel)) =
      outputs.routed channel (offerAll channel pieces) (offerAll channel pieces) := by
  induction pieces generalizing outputs with
  | nil => cases channel <;> rfl
  | cons piece more ih =>
      calc outputs.performAll ((piece :: more).map (Write.on channel))
        _ = Outcome.andThen (outputs.routed channel (offer channel piece) (offer channel piece))
              (performAll (more.map (Write.on channel))) := rfl
        _ = Outcome.andThen (outputs.routed channel (offer channel piece) (offer channel piece))
              (routed channel (offerAll channel more) (offerAll channel more)) := by rw [funext ih]
        _ = outputs.routed channel (offerAll channel (piece :: more))
              (offerAll channel (piece :: more)) := by
          simp only [routed_andThen, funext (offerAll_cons channel piece more)]

theorem post_eq_routed (report : Report) (outputs : Outputs φ ε) :
    outputs.post report = outputs.routed report.channel report.post report.post := by
  cases hchannel : report.channel with
  | findings => exact post_of_findings hchannel outputs
  | errors => exact post_of_errors hchannel outputs

theorem post_eq_call (report : Report) (outputs : Outputs φ ε) :
    outputs.post report = outputs.call report := by
  rw [post_eq_routed, call, Report.writes_eq]
  cases hentry : report.entry with
  | error fault =>
      -- No write is made, so it makes no difference on which channel.
      cases hchannel : report.channel <;>
        simp only [routed, Report.post, Report.attempt, hentry, Except.map]
  | ok entry =>
      simp only [Except.map, performAll_map_on]
      cases hchannel : report.channel <;>
        simp only [routed, Report.post, Report.attempt, hentry, hchannel]

/-- A run of reports is their calls one after the other: what is looked up once for a report is what
each of its writes asks for. -/
theorem run_eq_callAll (reports : List Report) (outputs : Outputs φ ε) :
    run reports outputs = outputs.callAll reports := by
  induction reports generalizing outputs with
  | nil => rfl
  | cons report more ih => simp only [run, callAll, post_eq_call, ih]

end Outputs

end LintReport
