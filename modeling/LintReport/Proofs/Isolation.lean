import LintReport.Proofs.Offering
import LintReport.Sink.Recorder

/-!
The two channels do not see each other.

A run of reports on two destinations falls into two runs on one destination each: the findings go
to the one in their order, all other reports go to the other in theirs, and how the two sequences
were interleaved is lost. Main statement: what is seen on one side of a run depends on nothing but
the reports of that side and the destination they go to.
-/

namespace LintReport

universe u v w

def Report.isFinding : Report → Bool
  | finding _ => true
  | _ => false

theorem Report.channel_of_isFinding {report : Report} (h : report.isFinding = true) :
    report.channel = .findings := by
  cases report with
  | finding diagnostic => rfl
  | _ => cases h

theorem Report.channel_of_not_isFinding {report : Report} (h : report.isFinding = false) :
    report.channel = .errors := by
  cases report with
  | finding diagnostic => cases h
  | _ => rfl

def Report.postAll {σ : Type u} [Sink σ] : List Report → σ → List Outcome × σ
  | [], s => ([], s)
  | report :: more, s =>
    let (outcome, s) := report.post s
    let (outcomes, s) := postAll more s
    (outcome :: outcomes, s)

namespace Outputs

section

variable {φ : Type u} {ε : Type v} [Sink φ] [Sink ε]

/-- What a run of reports looks like from one side: what came of each report that belongs there,
and where the destination ends that is seen from there. -/
def sideOf {σ : Type w} (belongs : Report → Bool) (destination : Outputs φ ε → σ)
    (reports : List Report) (outputs : Outputs φ ε) : List Outcome × σ :=
  let (outcomes, after) := Outputs.run reports outputs
  (((reports.zip outcomes).filter fun made => belongs made.1).map Prod.snd, destination after)

def findingsSide (reports : List Report) (outputs : Outputs φ ε) : List Outcome × φ :=
  sideOf Report.isFinding Outputs.findings reports outputs

def errorsSide (reports : List Report) (outputs : Outputs φ ε) : List Outcome × ε :=
  sideOf (fun report => !report.isFinding) Outputs.errors reports outputs

theorem length_run (reports : List Report) (outputs : Outputs φ ε) :
    (Outputs.run reports outputs).1.length = reports.length := by
  induction reports generalizing outputs with
  | nil => rfl
  | cons report more ih => simp only [run, List.length_cons, ih]

/-- What makes a side: reports that belong there are posted to its destination, and all others
leave that destination alone. -/
structure IsSide {σ : Type w} [Sink σ] (belongs : Report → Bool)
    (destination : Outputs φ ε → σ) : Prop where
  outcome_eq : ∀ report (outputs : Outputs φ ε), belongs report = true →
    (outputs.post report).1 = (report.post (destination outputs)).1
  destination_eq : ∀ report (outputs : Outputs φ ε), belongs report = true →
    destination (outputs.post report).2 = (report.post (destination outputs)).2
  destination_other : ∀ report (outputs : Outputs φ ε), belongs report = false →
    destination (outputs.post report).2 = destination outputs

/-- A side of a run is a run of the reports that belong there on their destination alone. -/
theorem IsSide.sideOf_eq {σ : Type w} [Sink σ] {belongs : Report → Bool}
    {destination : Outputs φ ε → σ} (h : IsSide belongs destination) (reports : List Report)
    (outputs : Outputs φ ε) :
    sideOf belongs destination reports outputs =
      Report.postAll (reports.filter belongs) (destination outputs) := by
  induction reports generalizing outputs with
  | nil => rfl
  | cons report more ih =>
      -- The rest of the run starts where this report leaves the destination of the side.
      have hmore := ih (outputs.post report).2
      cases hside : belongs report with
      | true =>
          rw [h.destination_eq report outputs hside] at hmore
          rw [List.filter_cons_of_pos hside]
          simp only [Report.postAll, ← hmore, ← h.outcome_eq report outputs hside]
          simp [sideOf, run, hside]
      | false =>
          rw [h.destination_other report outputs hside] at hmore
          rw [List.filter_cons_of_neg (by simp [hside]), ← hmore]
          simp [sideOf, run, hside]

theorem isSide_findings :
    IsSide Report.isFinding fun outputs : Outputs φ ε => outputs.findings where
  outcome_eq report outputs hside := by
    rw [post_of_findings (Report.channel_of_isFinding hside)]
  destination_eq report outputs hside := by
    rw [post_of_findings (Report.channel_of_isFinding hside)]
  destination_other report outputs hside := by
    rw [post_of_errors (Report.channel_of_not_isFinding hside)]

theorem isSide_errors :
    IsSide (fun report => !report.isFinding) fun outputs : Outputs φ ε => outputs.errors where
  outcome_eq report outputs hside := by
    rw [post_of_errors (Report.channel_of_not_isFinding (by simpa using hside))]
  destination_eq report outputs hside := by
    rw [post_of_errors (Report.channel_of_not_isFinding (by simpa using hside))]
  destination_other report outputs hside := by
    rw [post_of_findings (Report.channel_of_isFinding (by simpa using hside))]

theorem findingsSide_eq (reports : List Report) (outputs : Outputs φ ε) :
    findingsSide reports outputs =
      Report.postAll (reports.filter Report.isFinding) outputs.findings :=
  isSide_findings.sideOf_eq reports outputs

theorem errorsSide_eq (reports : List Report) (outputs : Outputs φ ε) :
    errorsSide reports outputs =
      Report.postAll (reports.filter fun report => !report.isFinding) outputs.errors :=
  isSide_errors.sideOf_eq reports outputs

end

variable {φ φ' : Type u} {ε ε' : Type v} [Sink φ] [Sink φ'] [Sink ε] [Sink ε']

/-- Two runs of the same findings and the same other reports, interleaved in any two ways, look the
same on both sides, and each report has one outcome in either of them. A side also looks the same
when all reports of the other side are left out, and when the destination of the other side is
replaced, be it by one that fails. -/
theorem sides_of_interleaving {xs ys : List Report}
    (hfindings : xs.filter Report.isFinding = ys.filter Report.isFinding)
    (herrors : (xs.filter fun report => !report.isFinding) =
      ys.filter fun report => !report.isFinding)
    (f : φ) (f' : φ') (e : ε) (e' : ε') :
    findingsSide xs ⟨f, e⟩ = findingsSide ys ⟨f, e⟩ ∧
    errorsSide xs ⟨f, e⟩ = errorsSide ys ⟨f, e⟩ ∧
    (Outputs.run xs ⟨f, e⟩).1.length = xs.length ∧
    findingsSide (xs.filter Report.isFinding) ⟨f, e⟩ = findingsSide xs ⟨f, e⟩ ∧
    findingsSide xs ⟨f, e'⟩ = findingsSide xs ⟨f, e⟩ ∧
    errorsSide (xs.filter fun report => !report.isFinding) ⟨f, e⟩ = errorsSide xs ⟨f, e⟩ ∧
    errorsSide xs ⟨f', e⟩ = errorsSide xs ⟨f, e⟩ := by
  simp only [findingsSide_eq, errorsSide_eq, hfindings, herrors, length_run, List.filter_filter,
    Bool.and_self, and_self]

/-- Two findings and two errors, one of them malformed, interleaved in two ways. The destination of
the findings closes in the middle of the second of them, and that of the errors is closed from the
start or takes everything. -/
theorem sides_of_interleaving_of_closing :
    let a := Report.finding (.text "a")
    let b := Report.finding (.number 2)
    let c := Report.unexpected "c.py" "gone"
    let d := Report.parseFailure "d.py" "bad" 1 (some 9) "x"
    let closing := Recorder.blank (some 3) .closed
    let closed := Recorder.blank (some 0) .closed
    [a, c, b, d].filter Report.isFinding = [c, d, a, b].filter Report.isFinding ∧
    ([a, c, b, d].filter fun report => !report.isFinding) =
      ([c, d, a, b].filter fun report => !report.isFinding) ∧
    findingsSide [a, c, b, d] ⟨closing, closed⟩ = findingsSide [c, d, a, b] ⟨closing, closed⟩ ∧
    errorsSide [a, c, b, d] ⟨closing, closed⟩ = errorsSide [c, d, a, b] ⟨closing, closed⟩ ∧
    findingsSide [a, c, b, d] ⟨closing, ""⟩ = findingsSide [a, c, b, d] ⟨closing, closed⟩ := by
  intro a b c d closing closed
  have hfindings : [a, c, b, d].filter Report.isFinding = [c, d, a, b].filter Report.isFinding :=
    rfl
  have herrors : ([a, c, b, d].filter fun report => !report.isFinding) =
      ([c, d, a, b].filter fun report => !report.isFinding) := rfl
  obtain ⟨hf, he, -, -, hother, -⟩ :=
    sides_of_interleaving hfindings herrors closing closing closed ""
  exact ⟨hfindings, herrors, hf, he, hother⟩

end Outputs

end LintReport
