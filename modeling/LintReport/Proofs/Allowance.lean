import LintReport.Proofs.Isolation

/-!
Runs of reports on a destination that closes.

A recorder with an allowance keeps the first of the pieces it is offered and rejects all others
(`Recorder.offered`). Offers in a row behave like a single one, so a whole run of reports comes down
to one list of pieces, of which the recorder has kept the beginning. Main statement: what a run
leaves in a destination that closes after `n` writes, and which of its reports are made.
-/

namespace LintReport

universe u v u' v'

namespace Recorder

/-- The recorder after it was offered pieces one after the other: it has kept as many of them as its
allowance admits. -/
def offered (recorder : Recorder) (pieces : List String) : Recorder :=
  match recorder.allowance with
  | none => { recorder with fragments := recorder.fragments ++ pieces }
  | some left =>
    { recorder with
      fragments := recorder.fragments ++ pieces.take left
      allowance := some (left - pieces.length) }

def Admits (recorder : Recorder) (pieces : List String) : Prop :=
  ∀ left ∈ recorder.allowance, pieces.length ≤ left

theorem offered_nil (recorder : Recorder) : recorder.offered [] = recorder := by
  obtain ⟨fragments, allowance, refusal⟩ := recorder
  cases allowance <;> simp [offered]

theorem offered_append (recorder : Recorder) (a b : List String) :
    (recorder.offered a).offered b = recorder.offered (a ++ b) := by
  obtain ⟨fragments, allowance, refusal⟩ := recorder
  cases allowance with
  | none => simp [offered]
  | some left =>
      simp only [offered, List.take_append, List.length_append, List.append_assoc,
        Nat.sub_add_eq]

theorem admits_append {recorder : Recorder} {a b : List String} :
    recorder.Admits (a ++ b) ↔ recorder.Admits a ∧ (recorder.offered a).Admits b := by
  obtain ⟨fragments, allowance, refusal⟩ := recorder
  cases allowance with
  | none => simp [Admits, offered]
  | some left =>
      simp only [Admits, offered, Option.mem_some_iff, forall_eq', List.length_append]
      omega

theorem write_of_admits {recorder : Recorder} {piece : String} (h : recorder.Admits [piece]) :
    Sink.write recorder piece = (.ok (), recorder.offered [piece]) := by
  obtain ⟨fragments, allowance, refusal⟩ := recorder
  match allowance with
  | none => rfl
  | some 0 => exact absurd (h 0 rfl) (by simp)
  | some (left + 1) => simp [write, offered]

theorem accepts_of_admits {recorder : Recorder} {pieces : List String}
    (h : recorder.Admits pieces) : Accepts recorder pieces (recorder.offered pieces) := by
  induction pieces generalizing recorder with
  | nil =>
      rw [offered_nil]
      exact .nil recorder
  | cons piece more ih =>
      rw [← List.singleton_append] at h ⊢
      obtain ⟨hpiece, hmore⟩ := admits_append.mp h
      rw [← offered_append]
      exact .cons (write_of_admits hpiece) (ih hmore)

/-- When the allowance is not enough, the first piece beyond it is rejected. -/
theorem rejects_of_not_admits {recorder : Recorder} {pieces : List String}
    (h : ¬recorder.Admits pieces) :
    ∃ before piece later, pieces = before ++ piece :: later ∧
      Rejects recorder before piece recorder.refusal (recorder.offered pieces) := by
  obtain ⟨fragments, allowance, refusal⟩ := recorder
  cases allowance with
  | none => exact absurd (by simp [Admits]) h
  | some left =>
      have hlt : left < pieces.length := by simpa [Admits] using h
      have hbefore : (Recorder.mk fragments (some left) refusal).Admits (pieces.take left) := by
        intro k hk
        obtain rfl := Option.some.inj hk
        exact List.length_take_le left pieces
      refine ⟨pieces.take left, pieces[left], pieces.drop (left + 1), ?_, _,
        accepts_of_admits hbefore, ?_⟩
      · rw [← List.drop_eq_getElem_cons hlt, List.take_append_drop]
      · have hleft : left - pieces.length = 0 := Nat.sub_eq_zero_of_le hlt.le
        simp [offered, write, List.take_take, hlt.le, hleft]

end Recorder

/-! ### One report -/

/-- What a report asks its destination to keep: all pieces of a well-formed report, and nothing of a
malformed one. -/
def Report.asked (report : Report) : List String :=
  if report.WellFormed then report.pieces else []

namespace Report

theorem post_recorder (report : Report) (recorder : Recorder) :
    (report.post recorder).2 = recorder.offered report.asked ∧
      ((report.post recorder).1.result = .ok () ↔
        report.WellFormed ∧ recorder.Admits report.asked) := by
  rcases report.wellFormed_or_malformed with hwell | ⟨fault, hfault⟩
  · rw [asked, if_pos hwell]
    by_cases hadmits : recorder.Admits report.pieces
    · rw [post_of_accepts hwell (Recorder.accepts_of_admits hadmits)]
      exact ⟨rfl, by simp [hwell, hadmits]⟩
    · obtain ⟨before, piece, later, hsplit, hrejects⟩ := Recorder.rejects_of_not_admits hadmits
      rw [post_of_rejects hwell hsplit hrejects]
      exact ⟨rfl, by simp [hadmits]⟩
  · rw [post_of_malformed hfault, asked, if_neg hfault.not_wellFormed, Recorder.offered_nil]
    exact ⟨rfl, by simp [hfault.not_wellFormed]⟩

theorem length_asked_pos {report : Report} (h : report.WellFormed) : 0 < report.asked.length := by
  rw [asked, if_pos h]
  cases report <;> simp [pieces, ParseFailure.pieces]

def askedBy (belongs : Report → Bool) (reports : List Report) : List String :=
  (reports.filter belongs).flatMap asked

theorem askedBy_append (belongs : Report → Bool) (xs ys : List Report) :
    askedBy belongs (xs ++ ys) = askedBy belongs xs ++ askedBy belongs ys := by
  simp [askedBy]

theorem askedBy_singleton {belongs : Report → Bool} {report : Report} (h : belongs report = true) :
    askedBy belongs [report] = report.asked := by
  simp [askedBy, h]

end Report

/-! ### A run of reports -/

namespace Outputs

section

variable {φ : Type u} {ε : Type v} [Sink φ] [Sink ε]

theorem run_append (xs ys : List Report) (outputs : Outputs φ ε) :
    run (xs ++ ys) outputs =
      ((run xs outputs).1 ++ (run ys (run xs outputs).2).1, (run ys (run xs outputs).2).2) := by
  induction xs generalizing outputs with
  | nil => rfl
  | cons report more ih => simp only [List.cons_append, run, ih]

/-- A report of a run is posted to the destinations as the reports before it have left them. -/
theorem getElem?_run (before : List Report) (report : Report) (later : List Report)
    (outputs : Outputs φ ε) :
    (run (before ++ report :: later) outputs).1[before.length]? =
      some ((run before outputs).2.post report).1 := by
  rw [run_append, List.getElem?_append_right (by rw [length_run]), length_run, Nat.sub_self]
  rfl

theorem IsSide.destination_run {belongs : Report → Bool} {destination : Outputs φ ε → Recorder}
    (h : IsSide belongs destination) (reports : List Report) (outputs : Outputs φ ε) :
    destination (run reports outputs).2 =
      (destination outputs).offered (Report.askedBy belongs reports) := by
  induction reports generalizing outputs with
  | nil => exact ((destination outputs).offered_nil).symm
  | cons report more ih =>
      have hmore := ih (outputs.post report).2
      cases hside : belongs report with
      | true =>
          rw [h.destination_eq report outputs hside, (report.post_recorder _).1,
            Recorder.offered_append] at hmore
          rw [Report.askedBy, List.filter_cons_of_pos hside, List.flatMap_cons, ← Report.askedBy]
          exact hmore
      | false =>
          rw [h.destination_other report outputs hside] at hmore
          rw [Report.askedBy, List.filter_cons_of_neg (by simp [hside]), ← Report.askedBy]
          exact hmore

end

def seenAt {φ : Type u} {ε : Type v} [Sink φ] [Sink ε] (destination : Outputs φ ε → Recorder)
    (outputs : Outputs φ ε) (reports : List Report) : List Outcome × Recorder :=
  ((run reports outputs).1, destination (run reports outputs).2)

end Outputs

/-- How runs of reports end on one side whose destination accepts `n` writes, where a destination
that accepts every write would store the fragments given. -/
structure ClosesAfter (n : Nat) (belongs : Report → Bool)
    (made : List Report → List Outcome × Recorder) (reports : List Report)
    (stored : List String) : Prop where
  fragments : (made reports).2.fragments = stored.take n
  allowance : (made reports).2.allowance = some (n - (made reports).2.fragments.length)
  /-- A report of this side is made if it is well formed and all that was asked for up to and
  including it is within the allowance. -/
  ok_iff : ∀ before report later, reports = before ++ report :: later → belongs report = true →
    ∃ outcome, (made reports).1[before.length]? = some outcome ∧
      (outcome.result = .ok () ↔
        report.WellFormed ∧ (Report.askedBy belongs (before ++ [report])).length ≤ n)
  /-- A malformed report has its own fault, be the destination closed or not, and the destination
  ends as it would have without the report. -/
  malformed : ∀ before report later fault, reports = before ++ report :: later →
    report.Malformed fault →
    (∃ outcome, (made reports).1[before.length]? = some outcome ∧ outcome.result = .error fault) ∧
      (made reports).2 = (made (before ++ later)).2

namespace Outputs

section

variable {φ : Type u} {ε : Type v} {φ' : Type u'} {ε' : Type v'}
variable [Sink φ] [Sink ε] [Sink φ'] [Sink ε']

theorem IsSide.closesAfter {belongs : Report → Bool} {destination : Outputs φ ε → Recorder}
    {destination' : Outputs φ' ε' → Recorder} (h : IsSide belongs destination)
    (h' : IsSide belongs destination') {outputs : Outputs φ ε} {outputs' : Outputs φ' ε'} {n : Nat}
    {refusal refusal' : IoError} (hclosing : destination outputs = .blank (some n) refusal)
    (hopen : destination' outputs' = .blank none refusal') (reports : List Report) :
    ClosesAfter n belongs (seenAt destination outputs) reports
      (seenAt destination' outputs' reports).2.fragments := by
  have hrun (reports : List Report) : destination (run reports outputs).2 =
      ⟨(Report.askedBy belongs reports).take n,
        some (n - (Report.askedBy belongs reports).length), refusal⟩ := by
    rw [h.destination_run, hclosing]
    simp [Recorder.blank, Recorder.offered]
  have hstored : (seenAt destination' outputs' reports).2.fragments =
      Report.askedBy belongs reports := by
    rw [seenAt, h'.destination_run, hopen]
    simp [Recorder.blank, Recorder.offered]
  rw [hstored]
  constructor
  · rw [seenAt, hrun]
  · simp only [seenAt, hrun, List.length_take]
    congr 1
    omega
  · rintro before report later rfl hside
    refine ⟨_, getElem?_run before report later outputs, ?_⟩
    rw [h.outcome_eq report _ hside, hrun before, (report.post_recorder _).2, Report.askedBy_append,
      Report.askedBy_singleton hside, List.length_append]
    refine and_congr_right fun hwell => ?_
    -- A report that asked for nothing would be made even after the allowance was overdrawn.
    have hpos := Report.length_asked_pos hwell
    simp only [Recorder.Admits, Option.mem_some_iff, forall_eq']
    omega
  · rintro before report later fault rfl hfault
    refine ⟨⟨_, getElem?_run before report later outputs, ?_⟩, ?_⟩
    · rw [post_of_malformed hfault]
    · simp only [seenAt, run_append, run, post_of_malformed hfault]

/-- A run on a destination that closes after `n` writes and then stores nothing. Whichever of the
two destinations it is, and whatever the other one does, it holds the first `n` of the fragments
that the same reports store where no write is rejected. -/
theorem closesAfter_run (n : Nat) (refusal : IoError) (reports : List Report) (f : φ) (f' : φ')
    (e : ε) (e' : ε') :
    ClosesAfter n (fun report => !report.isFinding)
      (seenAt Outputs.errors ⟨f, .blank (some n) refusal⟩) reports
      (run reports ⟨f', Recorder.blank none refusal⟩).2.errors.fragments ∧
    ClosesAfter n Report.isFinding
      (seenAt Outputs.findings ⟨.blank (some n) refusal, e⟩) reports
      (run reports ⟨Recorder.blank none refusal, e'⟩).2.findings.fragments :=
  ⟨isSide_errors.closesAfter isSide_errors rfl rfl reports,
    isSide_findings.closesAfter isSide_findings rfl rfl reports⟩

end

end Outputs

end LintReport
