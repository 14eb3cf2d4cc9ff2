import LintReport.Proofs.EarlierLines
import LintReport.Proofs.Logging
import LintReport.Proofs.ReadBack

/-!
The lines of the output.

Reports put whole lines out, each of which a line feed closes. A line at fault holds no character
that ends a line, whatever its text holds, so if the names and messages hold none either, the output
is split into just the lines that the reports put out (`lines_closeLines`). Main statement: which
reports of a run are made, the lines of either channel after it, and the last line after a parse
failure was reported.
-/

namespace LintReport

open Text

def Unbroken (text : String) : Prop := ∀ c ∈ text.toList, c.toNat ∉ breakCodes

instance (text : String) : Decidable (Unbroken text) :=
  List.decidableBAll _ text.toList

namespace Report

/-- Names, messages and findings have no line end in them. Nothing is asked of the text of a parse
failure. -/
def Unbroken : Report → Prop
  | unexpected file message => LintReport.Unbroken file ∧ LintReport.Unbroken message
  | parseFailure file message _ _ _ => LintReport.Unbroken file ∧ LintReport.Unbroken message
  | payload failure => LintReport.Unbroken failure.file ∧ LintReport.Unbroken failure.message
  | finding diagnostic => LintReport.Unbroken diagnostic.render

instance : (report : Report) → Decidable report.Unbroken
  | unexpected _ _ => @instDecidableAnd _ _ _ _
  | parseFailure _ _ _ _ _ => @instDecidableAnd _ _ _ _
  | payload _ => @instDecidableAnd _ _ _ _
  | finding diagnostic => inferInstanceAs (Decidable (LintReport.Unbroken diagnostic.render))

def rendered? : Report → Option String
  | finding diagnostic => some diagnostic.render
  | _ => none

end Report

/-- A report is well formed exactly if there is something it puts out. -/
theorem Report.wellFormed_iff_shown {report : Report} :
    report.WellFormed ↔ report.rendered?.isSome = true ∨ report.notice?.isSome = true := by
  cases report with
  | unexpected file message => exact iff_of_true (wellFormed_of_failure?_eq_none rfl) (.inr rfl)
  | parseFailure file message line offset text =>
      rw [wellFormed_iff rfl, ← ParseFailure.isSome_notice?_iff]
      exact (or_iff_right Bool.false_ne_true).symm
  | payload failure =>
      rw [wellFormed_iff rfl, ← ParseFailure.isSome_notice?_iff]
      exact (or_iff_right Bool.false_ne_true).symm
  | finding diagnostic => exact iff_of_true (wellFormed_of_failure?_eq_none rfl) (.inl rfl)

/-! ### Lines that were closed -/

theorem splitsInto_closeLines {lines : List (List Char)}
    (hfree : ∀ line ∈ lines, ∀ c ∈ line, c.toNat ∉ breakCodes) :
    SplitsInto (closeLines lines) (lines.map fun line => ⟨line, ['\n']⟩) := by
  induction lines with
  | nil => exact .nil
  | cons line more ih =>
      obtain ⟨hline, hmore⟩ := List.forall_mem_cons.mp hfree
      have hfeed : Terminates ['\n'] (closeLines more) := .single (by decide) (by simp)
      exact .closed hline hfeed (ih hmore)

theorem lines_closeLines {ls : List (List Char)}
    (hfree : ∀ line ∈ ls, ∀ c ∈ line, c.toNat ∉ breakCodes) : lines (closeLines ls) = ls := by
  rw [lines, ← splitsInto_iff.mp (splitsInto_closeLines hfree), List.map_map]
  exact List.map_id' ls

/-- The last one of several closed lines is the last line of any text they stand at the end of. -/
theorem finalLine?_append_closeLines (earlier : List Char) {before : List (List Char)}
    (hbefore : before ≠ []) {last : List Char} (hfree : ∀ c ∈ last, c.toNat ∉ breakCodes) :
    finalLine? (earlier ++ closeLines (before ++ [last])) = some last := by
  obtain ⟨init, line, rfl⟩ := (List.eq_nil_or_concat before).resolve_left hbefore
  -- What stands in front ends with a line feed, which closes its line and is half of no terminator.
  have hfront : (earlier ++ closeLines (init ++ [line])).getLast? = some '\n' := by
    simp [closeLines]
  have hlines : lines (closeLines [last]) = [last] :=
    lines_closeLines (List.forall_mem_singleton.mpr hfree)
  rw [List.concat_eq_append, closeLines_append, ← List.append_assoc, finalLine?_append,
    finalLine?_eq_getLast?_lines, hlines]
  · rfl
  · intro c hc
    obtain rfl := Option.some.inj (hfront.symm.trans hc)
    decide
  · simp [closeLines]
  · rw [hfront]
    simp

/-! ### The lines of a report -/

theorem unbroken_lastLine (text : String) : Unbroken (lastLine text) := by
  intro c hc
  exact isLineBreak_eq_false_iff.mp (isLineBreak_of_mem_lastLine hc)

namespace ParseFailure

theorem unbroken_parts {failure : ParseFailure} {notice : Notice}
    (hfile : Unbroken failure.file) (hmessage : Unbroken failure.message)
    (h : failure.notice? = some notice) : ∀ c ∈ notice.parts, c.toNat ∉ breakCodes := by
  rw [notice?_eq] at h
  split at h
  · obtain rfl := Option.some.inj h
    simp only [formattedNotice, Notice.parts, List.forall_mem_append]
    exact ⟨⟨hfile, hmessage⟩, unbroken_lastLine failure.text⟩
  · cases h

end ParseFailure

theorem Report.unbroken_parts {report : Report} {notice : Notice} (hunbroken : report.Unbroken)
    (h : report.notice? = some notice) : ∀ c ∈ notice.parts, c.toNat ∉ breakCodes := by
  cases report with
  | unexpected file message =>
      obtain rfl := Option.some.inj h
      exact List.forall_mem_append.mpr hunbroken
  | parseFailure file message line offset text =>
      exact ParseFailure.unbroken_parts hunbroken.1 hunbroken.2 h
  | payload failure => exact ParseFailure.unbroken_parts hunbroken.1 hunbroken.2 h
  | finding diagnostic => cases h

theorem Notice.unbroken_lines {notice : Notice} (h : ∀ c ∈ notice.parts, c.toNat ∉ breakCodes)
    {line : List Char} (hline : line ∈ notice.lines) : ∀ c ∈ line, c.toNat ∉ breakCodes := by
  intro c hc hbreak
  have hplain : ∀ d ∈ lineBreaks, d.isDigit = false ∧ d ∉ [':', ' ', '^'] := by simp [lineBreaks]
  obtain ⟨hdigit, hsigns⟩ := hplain c (List.contains_iff_mem.mp (isLineBreak_iff.mpr hbreak))
  exact not_mem_lines (fun hmem => h c hmem hbreak) hdigit hsigns hline hc

theorem Report.toList_addedToFindings (report : Report) :
    report.addedToFindings.toList =
      closeLines (report.rendered?.elim [] fun text => [text.toList]) := by
  cases report with
  | finding diagnostic => simp [addedToFindings, rendered?, closeLines]
  | _ => rfl

theorem toList_findingsText (reports : List Report) :
    (findingsText reports).toList =
      closeLines ((reports.filterMap Report.rendered?).map String.toList) := by
  rw [findingsText, toList_join_map Report.toList_addedToFindings, List.map_eq_flatMap]

theorem lines_findingsText {reports : List Report} (h : ∀ report ∈ reports, report.Unbroken) :
    lines (findingsText reports).toList =
      (reports.filterMap Report.rendered?).map String.toList := by
  rw [toList_findingsText]
  apply lines_closeLines
  simp only [List.forall_mem_map, List.mem_filterMap]
  rintro text ⟨report, hreport, hrendered⟩
  cases report with
  | finding diagnostic =>
      obtain rfl := Option.some.inj hrendered
      exact h _ hreport
  | _ => cases hrendered

theorem lines_errorsText {reports : List Report} (h : ∀ report ∈ reports, report.Unbroken) :
    lines (errorsText reports).toList =
      (reports.filterMap Report.notice?).flatMap Notice.lines := by
  rw [toList_errorsText]
  apply lines_closeLines
  intro line hline
  obtain ⟨notice, hnotice, hline⟩ := List.mem_flatMap.mp hline
  obtain ⟨report, hreport, hreported⟩ := List.mem_filterMap.mp hnotice
  exact Notice.unbroken_lines (Report.unbroken_parts (h report hreport) hreported) hline

/-! ### The last line -/

theorem Notice.unbroken_caret (column : Nat) : ∀ c ∈ caret column, c.toNat ∉ breakCodes := by
  intro c hc
  rw [caret, List.mem_append, List.mem_replicate, List.mem_singleton] at hc
  rcases hc with ⟨-, rfl⟩ | rfl <;> decide

/-- A notice of a parse failure ends with its caret, or with the line at fault if there is none. -/
theorem Notice.lines_unparsed (file : String) (line : UInt64) (message shown : String)
    (column : Option Nat) :
    ∃ before, before ≠ [] ∧ (unparsed file line message shown column).lines =
      before ++ [column.elim shown.toList caret] := by
  cases column with
  | none => exact ⟨[heading file (some line) message], by simp, rfl⟩
  | some column => exact ⟨[heading file (some line) message, shown.toList], by simp, rfl⟩

theorem ParseFailure.finalLine?_append_formatted (failure : ParseFailure) (earlier : List Char) :
    finalLine? (earlier ++ failure.formatted.toList) =
      some ((failure.offset.map fun offset => offset.toNat - lengthBeside failure.text).elim
        (lastLine failure.text).toList Notice.caret) := by
  obtain ⟨before, hbefore, hlines⟩ := Notice.lines_unparsed failure.file failure.line
    failure.message (lastLine failure.text)
    (failure.offset.map fun offset => offset.toNat - lengthBeside failure.text)
  rw [toList_formatted, formattedNotice, hlines]
  apply finalLine?_append_closeLines earlier hbefore
  cases failure.offset with
  | none => exact unbroken_lastLine failure.text
  | some offset => exact Notice.unbroken_caret _

theorem Report.addedToErrors_of_wellFormed {report : Report} {failure : ParseFailure}
    (hfailure : report.failure? = some failure) (hwell : failure.WellFormed) :
    report.addedToErrors = failure.formatted := by
  rcases eq_of_failure? hfailure with rfl | rfl
  · exact if_pos hwell
  · exact if_pos hwell

namespace Outputs

theorem post_eq_ok_iff_shown (report : Report) (outputs : Outputs String String) :
    (outputs.post report).1.result = .ok () ↔
      report.rendered?.isSome = true ∨ report.notice?.isSome = true := by
  obtain ⟨hisOk, -⟩ := post_capture report outputs
  rw [← Report.wellFormed_iff_shown]
  cases hmade : (outputs.post report).1.result with
  | ok made =>
      rw [hmade] at hisOk
      exact iff_of_true rfl (of_decide_eq_true hisOk.symm)
  | error fault =>
      rw [hmade] at hisOk
      exact iff_of_false nofun (of_decide_eq_false hisOk.symm)

theorem finalLine?_errors_of_ok {report : Report} {failure : ParseFailure}
    (hfailure : report.failure? = some failure) {outputs : Outputs String String}
    (hmade : (outputs.post report).1.result = .ok ()) :
    ∃ shown column, failure.shownLine = .ok shown ∧ failure.caretColumn = .ok column ∧
      (column = none ↔ failure.offset = none) ∧
      finalLine? (outputs.post report).2.errors.toList =
        some (column.elim shown.toList Notice.caret) := by
  obtain ⟨hisOk, hafter⟩ := post_capture report outputs
  rw [hmade] at hisOk
  have hwell : failure.WellFormed :=
    (Report.wellFormed_iff hfailure).mp (of_decide_eq_true hisOk.symm)
  refine ⟨_, _, ParseFailure.shownLine_of_ne hwell.1, ParseFailure.caretColumn_of_wellFormed hwell,
    Option.map_eq_none_iff, ?_⟩
  have herrors : (outputs.post report).2.errors = outputs.errors ++ failure.formatted := by
    rw [hafter, Report.addedToErrors_of_wellFormed hfailure hwell]
    rfl
  rw [herrors, String.toList_append]
  exact failure.finalLine?_append_formatted outputs.errors.toList

/-- The lines of the two channels after a run on empty texts. Of the reports only a parse failure
that makes no notice is ever refused. If no name, message or finding has a line end in it, the
findings are split into the findings as they were rendered, and the errors into one line for each
unexpected error and the two or three lines for each parse failure that was not refused: a heading,
the line at fault, and the caret if there is one. And whatever was written before, by whatever
reports, once a parse failure is shown the last line of the errors is its caret, or the line at
fault if it has no offset. -/
theorem lines_run (reports : List Report) :
    let start : Outputs String String := ⟨"", ""⟩
    let after := (run reports start).2
    List.Forall₂ (fun report outcome => outcome.result = .ok () ↔
        report.rendered?.isSome = true ∨ report.notice?.isSome = true)
      reports (run reports start).1 ∧
    ((∀ report ∈ reports, report.Unbroken) →
      lines after.findings.toList = (reports.filterMap Report.rendered?).map String.toList ∧
      lines after.errors.toList = (reports.filterMap Report.notice?).flatMap Notice.lines) ∧
    ∀ (report : Report) (failure : ParseFailure) (outputs : Outputs String String),
      report.failure? = some failure → (outputs.post report).1.result = .ok () →
      ∃ shown column, failure.shownLine = .ok shown ∧ failure.caretColumn = .ok column ∧
        (column = none ↔ failure.offset = none) ∧
        finalLine? (outputs.post report).2.errors.toList =
          some (column.elim shown.toList Notice.caret) := by
  intro start after
  refine ⟨forall₂_run post_eq_ok_iff_shown reports start, ?_,
    fun _ _ _ hfailure hmade => finalLine?_errors_of_ok hfailure hmade⟩
  intro hunbroken
  obtain ⟨-, hafter : after = _⟩ := runsTo_capture reports start
  have hfindings : after.findings = findingsText reports := by
    rw [hafter]
    exact String.empty_append
  have herrors : after.errors = errorsText reports := by
    rw [hafter]
    exact String.empty_append
  rw [hfindings, herrors]
  exact ⟨lines_findingsText hunbroken, lines_errorsText hunbroken⟩

/-- An empty finding, a line at fault between two kinds of line ends, a blank one, and a report that
is refused; and the blank one once more behind a text that was left open. -/
theorem lines_run_of_blank_lines :
    let blank : ParseFailure := ⟨"c.py", "bad", 1, none, "\n"⟩
    let reports := [Report.finding (.text ""), .unexpected "a.py" "gone",
      .parseFailure "b.py" "bad" 2 (some 4) "x\x0by\r\n", .payload blank,
      .parseFailure "d.py" "bad" 1 (some 9) "x"]
    let start : Outputs String String := ⟨"", ""⟩
    let later : Outputs String String := ⟨"", "left open"⟩
    (∀ report ∈ reports, report.Unbroken) ∧
    lines (run reports start).2.findings.toList = [[]] ∧
    lines (run reports start).2.errors.toList =
      ["a.py: gone", "b.py:2: bad", "y", " ^", "c.py:1: bad", ""].map String.toList ∧
    (later.post (.payload blank)).1.result = .ok () ∧
    finalLine? (later.post (.payload blank)).2.errors.toList = some [] := by
  intro blank reports start later
  have hunbroken : ∀ report ∈ reports, report.Unbroken := by decide
  have hmade : (later.post (.payload blank)).1.result = .ok () := by decide +kernel
  obtain ⟨-, hlines, hlast⟩ := lines_run reports
  obtain ⟨hfindings, herrors⟩ := hlines hunbroken
  obtain ⟨shown, column, hshown, hcolumn, -, hfinal⟩ := hlast (.payload blank) blank later rfl hmade
  have hblank : blank.shownLine = .ok "" := by decide
  have hnone : blank.caretColumn = .ok none := by decide
  obtain rfl := Except.ok.inj (hblank.symm.trans hshown)
  obtain rfl := Except.ok.inj (hnone.symm.trans hcolumn)
  exact ⟨hunbroken, hfindings.trans (by decide), herrors.trans (by decide +kernel), hmade, hfinal⟩

end Outputs

end LintReport
