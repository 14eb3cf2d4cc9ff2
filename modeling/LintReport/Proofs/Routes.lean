import LintReport.Proofs.Watching

/-!
The ways to show a parse failure agree.

A failure can be reported by its parts or put together; it can be asked for the line and the column
it would be shown with; and it can be laid out as a block, which has a text of its own and can be
put out as a finding. A block is laid out from the answers to the two questions
(`ParseFailure.excerpt_cases`), and the two reports differ in nothing but the record that announces
them. Main statement: whichever way is taken, the same lines come out, or the same fault, on any
destinations.
-/

namespace LintReport

universe u v

/-! ### Questions and block -/

namespace ParseFailure

def inParts (failure : ParseFailure) : Report :=
  .parseFailure failure.file failure.message failure.line failure.offset failure.text

/-- Either the question for the column and the layout of the block end with one fault, or the block
is put together from the answers for the line and the column. -/
theorem excerpt_cases (failure : ParseFailure) :
    (∃ fault, failure.caretColumn = .error fault ∧ failure.excerpt = .error fault) ∨
    ∃ shown column, failure.shownLine = .ok shown ∧ failure.caretColumn = .ok column ∧
      failure.excerpt = .ok ⟨Excerpt.headerOf failure.file failure.line failure.message, shown,
        column.map Excerpt.caretUnder⟩ := by
  simp only [excerpt, Excerpt.layOut, caretColumn, shownLine]
  cases Excerpt.shownLine failure.file failure.text with
  | error fault => exact .inl ⟨fault, rfl, rfl⟩
  | ok shown =>
      cases failure.offset with
      | none => exact .inr ⟨shown, none, rfl, rfl, rfl⟩
      | some offset =>
          simp only [bind, Except.bind]
          cases Excerpt.columnOf failure.file failure.text shown offset with
          | error fault => exact .inl ⟨fault, rfl, rfl⟩
          | ok column => exact .inr ⟨shown, some column, rfl, rfl, rfl⟩

theorem excerpt_eq_error_iff {failure : ParseFailure} {fault : Fault} :
    failure.excerpt = .error fault ↔ failure.caretColumn = .error fault := by
  rcases failure.excerpt_cases with
    ⟨found, hcolumn, hexcerpt⟩ | ⟨shown, column, -, hcolumn, hexcerpt⟩
  · rw [hcolumn, hexcerpt, Except.error.injEq, Except.error.injEq]
  · simp only [hcolumn, hexcerpt, reduceCtorEq]

end ParseFailure

/-! ### Reports and finding -/

namespace Report

variable {σ : Type u} [Sink σ]

/-- The pieces of a report are handed over in order, at least the first of them, and all of them if
the report is made. -/
theorem handed_of_wellFormed {report : Report} (hwell : report.WellFormed) (s : σ) :
    (report.post (Watched.mk s [])).2.handed <+: report.pieces ∧
      (report.post (Watched.mk s [])).2.handed.head? = report.pieces.head? ∧
      ((report.post (Watched.mk s [])).1.result = .ok () →
        (report.post (Watched.mk s [])).2.handed = report.pieces) := by
  rcases accepts_or_rejects s report.pieces with
    ⟨t, haccepts⟩ | ⟨before, piece, later, cause, t, hsplit, hrejects⟩
  · rw [post_of_accepts hwell (haccepts.watched [])]
    exact ⟨List.prefix_rfl, rfl, fun _ => rfl⟩
  · rw [post_of_rejects hwell hsplit (hrejects.watched []), hsplit]
    refine ⟨⟨later, by simp⟩, ?_, fun h => by cases h⟩
    cases before <;> rfl

end Report

namespace Event

/-- Two debug records, which are the same but for the offset that only the first one tells. -/
def SameButOffset (told untold : Event) : Prop :=
  told.level = .debug ∧ untold.level = .debug ∧
    untold.fields = told.fields.filter fun field => field.1 ≠ "offset"

end Event

theorem ParseFailure.announcement_inParts (failure : ParseFailure) :
    failure.inParts.announcement.SameButOffset (Report.payload failure).announcement :=
  ⟨rfl, rfl, rfl⟩

namespace Outputs

variable {φ : Type u} {ε : Type v} [Sink φ] [Sink ε]

/-- All ways to show a parse failure on two destinations, compared with the report of the failure
put together. -/
structure Agree (failure : ParseFailure) (outputs : Outputs φ ε) : Prop where
  result : (outputs.post failure.inParts).1.result = (outputs.post (.payload failure)).1.result
  state : (outputs.post failure.inParts).2 = (outputs.post (.payload failure)).2
  /-- The same pieces are handed over in the same order, to both destinations. -/
  handed : (outputs.watch.post failure.inParts).2 = (outputs.watch.post (.payload failure)).2
  /-- The first records differ in the offset, and all later ones are the same. -/
  events : ∃ told untold later, (outputs.post failure.inParts).1.events = told :: later ∧
    (outputs.post (.payload failure)).1.events = untold :: later ∧ told.SameButOffset untold
  isOk : failure.excerpt.isOk = failure.caretColumn.isOk
  /-- If there is no block, the question for the column is answered with the same fault. -/
  fault_iff : ∀ fault, failure.excerpt = .error fault ↔ failure.caretColumn = .error fault
  /-- A block shows the line and the column that the questions are answered with. -/
  shown : ∀ block, failure.excerpt = .ok block → failure.shownLine = .ok block.source ∧
    ∃ column, failure.caretColumn = .ok column ∧ (block.caret = none ↔ column = none) ∧
      ∀ c, column = some c →
        block.caret = some (String.ofList (List.replicate (c + 1) ' ') ++ "^")
  /-- What was handed over when a report was made is the text of its block. -/
  written : ∀ block, failure.excerpt = .ok block →
    (outputs.post (.payload failure)).1.result = .ok () →
    String.join (outputs.watch.post (.payload failure)).2.errors.handed = block.text
  /-- As a finding, a block is handed over as its text, and then the line is ended. -/
  found : ∀ block, failure.excerpt = .ok block →
    let made := outputs.watch.post (.finding (.excerpt block))
    made.2.findings.handed <+: [block.text, "\n"] ∧
      made.2.findings.handed.head? = some block.text ∧
      (made.1.result = .ok () → made.2.findings.handed = [block.text, "\n"])

theorem post_inParts (failure : ParseFailure) (outputs : Outputs φ ε) :
    ∃ (attempt : Outcome) (after : Outputs φ ε),
      outputs.post failure.inParts = (attempt.after [failure.inParts.announcement], after) ∧
      outputs.post (.payload failure) =
        (attempt.after [(Report.payload failure).announcement], after) :=
  ⟨_, _, rfl, rfl⟩

theorem join_handed_of_ok {failure : ParseFailure} {block : Excerpt}
    (hblock : failure.excerpt = .ok block) {outputs : Outputs φ ε}
    (hmade : (outputs.post (.payload failure)).1.result = .ok ()) :
    String.join (outputs.watch.post (.payload failure)).2.errors.handed = block.text := by
  rw [post_of_errors rfl] at hmade
  have hwell : (Report.payload failure).WellFormed := (Report.post_eq_ok_iff.mp hmade).1
  have hwatched : ((Report.payload failure).post (Watched.mk outputs.errors [])).1.result =
      .ok () := by
    rw [(Report.post_watched _ outputs.errors []).1]
    exact hmade
  have hhanded := (Report.handed_of_wellFormed hwell outputs.errors).2.2 hwatched
  obtain ⟨laidOut, hlaidOut, hfragments⟩ :=
    ParseFailure.excerpt_of_wellFormed ((Report.wellFormed_iff rfl).mp hwell)
  obtain rfl : laidOut = block := Except.ok.inj (hlaidOut.symm.trans hblock)
  calc String.join (outputs.watch.post (.payload failure)).2.errors.handed
      = String.join failure.pieces := by
        rw [post_of_errors rfl]
        exact congrArg String.join hhanded
    _ = String.join laidOut.fragments := by rw [hfragments]
    _ = laidOut.text := laidOut.join_fragments

/-- Whichever way a parse failure is shown, and on whatever destinations: the two reports end
alike, hand over the same pieces and leave the same states; the block is laid out exactly if there
is an answer to the question for the column, and shows what the questions are answered with; and the
text of the block is what a report of the failure and a finding with the block put out. -/
theorem agree_routes (failure : ParseFailure) (outputs : Outputs φ ε) : Agree failure outputs := by
  obtain ⟨attempt, after, hparts, hwhole⟩ := post_inParts failure outputs
  constructor
  · rw [hparts, hwhole]
    rfl
  · rw [hparts, hwhole]
  · obtain ⟨watched, after', hparts', hwhole'⟩ := post_inParts failure outputs.watch
    rw [hparts', hwhole']
  · rw [hparts, hwhole]
    exact ⟨_, _, attempt.events, rfl, rfl, failure.announcement_inParts⟩
  · rcases failure.excerpt_cases with
      ⟨fault, hcolumn, hexcerpt⟩ | ⟨shown, column, -, hcolumn, hexcerpt⟩
    · rw [hcolumn, hexcerpt]
      rfl
    · rw [hcolumn, hexcerpt]
      rfl
  · intro fault
    exact ParseFailure.excerpt_eq_error_iff
  · intro block hblock
    rcases failure.excerpt_cases with
      ⟨fault, -, hexcerpt⟩ | ⟨shown, column, hshown, hcolumn, hexcerpt⟩
    · rw [hexcerpt] at hblock
      cases hblock
    · obtain rfl := Except.ok.inj (hexcerpt.symm.trans hblock)
      refine ⟨hshown, column, hcolumn, Option.map_eq_none_iff, ?_⟩
      rintro c rfl
      exact congrArg some String.ofList_append
  · exact fun block hblock => join_handed_of_ok hblock
  · intro block hblock
    have hwell : (Report.finding (.excerpt block)).WellFormed :=
      Report.wellFormed_of_failure?_eq_none rfl
    rw [post_of_findings rfl]
    exact Report.handed_of_wellFormed hwell outputs.findings

end Outputs

end LintReport
