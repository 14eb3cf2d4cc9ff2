import LintReport.Report
import LintReport.Sink.Basic

/-!
Posting reports to their destinations.

A report is announced in the log, then it is laid out, and only then it is written, piece by
piece. The first rejected write ends it: the rejection is recorded, and no later piece is offered.
What was accepted before stays written. Nothing is remembered from one report to the next.
-/

namespace LintReport

universe u v

/-- What came of posting: whether all went well, and the log records made on the way. -/
structure Outcome where
  result : Except Fault Unit
  events : List Event

namespace Outcome

def done : Outcome :=
  ⟨.ok (), []⟩

/-- A fault found before anything was written leaves no record of its own. -/
def stopped (fault : Fault) : Outcome :=
  ⟨.error fault, []⟩

/-- A rejected write is recorded as it becomes a fault. -/
def rejected (channel : Channel) (cause : IoError) : Outcome :=
  ⟨.error (.rejected channel cause), [.rejected channel cause]⟩

def after (earlier : List Event) (outcome : Outcome) : Outcome :=
  { outcome with events := earlier ++ outcome.events }

end Outcome

section

variable {σ : Type u} [Sink σ]

def offer (channel : Channel) (piece : String) (s : σ) : Outcome × σ :=
  match Sink.write s piece with
  | (.ok (), s) => (.done, s)
  | (.error cause, s) => (.rejected channel cause, s)

def offerAll (channel : Channel) : List String → σ → Outcome × σ
  | [], s => (.done, s)
  | piece :: more, s =>
    match offer channel piece s with
    | (⟨.ok (), records⟩, s) =>
      let (outcome, s) := offerAll channel more s
      (outcome.after records, s)
    | (⟨.error fault, records⟩, s) => (⟨.error fault, records⟩, s)

namespace Report

/-- Lays a report out and writes it. A report that cannot be shown leaves the destination
alone. -/
def attempt (report : Report) (s : σ) : Outcome × σ :=
  match report.entry with
  | .error fault => (.stopped fault, s)
  | .ok entry => offerAll report.channel entry.fragments s

def post (report : Report) (s : σ) : Outcome × σ :=
  let (outcome, s) := report.attempt s
  (outcome.after [report.announcement], s)

end Report

end

structure Outputs (φ : Type u) (ε : Type v) where
  findings : φ
  errors : ε
deriving DecidableEq

namespace Outputs

variable {φ : Type u} {ε : Type v}

def exchange (outputs : Outputs φ ε) : Outputs ε φ :=
  ⟨outputs.errors, outputs.findings⟩

variable [Sink φ] [Sink ε]

/-- Posts a report to the destination of its channel; the other one is not touched. -/
def post (report : Report) (outputs : Outputs φ ε) : Outcome × Outputs φ ε :=
  match report.channel with
  | .findings =>
    let (outcome, findings) := report.post outputs.findings
    (outcome, { outputs with findings := findings })
  | .errors =>
    let (outcome, errors) := report.post outputs.errors
    (outcome, { outputs with errors := errors })

/-- Posts reports in order, whatever becomes of each. -/
def run : List Report → Outputs φ ε → List Outcome × Outputs φ ε
  | [], outputs => ([], outputs)
  | report :: more, outputs =>
    let (outcome, outputs) := outputs.post report
    let (outcomes, outputs) := run more outputs
    (outcome :: outcomes, outputs)

end Outputs

def transcript (reports : List Report) : Outputs String String :=
  (Outputs.run reports ⟨"", ""⟩).2

end LintReport
