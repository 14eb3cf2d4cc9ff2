import LintReport.Proofs.Capture

/-!
The error channel can be read back.

All reports of the channel end up in one text with nothing but their own lines between them. A
heading tells by what follows its first colon whether it is that of a parse failure, and then the
line at fault follows, which holds no line end. Behind that line a caret can stand or the heading of
the next report, and a caret line has no colon. So a reader can take the text apart again
(`readBack_errors`). Main statement: reports that leave the same text were accepted alike.
-/

namespace LintReport

open Text

universe u v

/-- What a report of the error channel tells its reader. -/
inductive Notice where
  | unexpected (file message : String)
  /-- A parse failure with the line at fault, and the column of the caret if there is one. -/
  | unparsed (file : String) (line : UInt64) (message shown : String) (column : Option Nat)
deriving DecidableEq

/-- A failure that can be shown, with the line and the column it is shown with. -/
def ParseFailure.notice? (failure : ParseFailure) : Option Notice :=
  match failure.shownLine, failure.caretColumn with
  | .ok shown, .ok column =>
    some (.unparsed failure.file failure.line failure.message shown column)
  | _, _ => none

def Report.notice? : Report → Option Notice
  | unexpected file message => some (.unexpected file message)
  | parseFailure file message line offset text =>
    ParseFailure.notice? ⟨file, message, line, offset, text⟩
  | payload failure => failure.notice?
  | finding _ => none

/-- The notices of those reports that came off well in a run. -/
def Outputs.accepted {φ : Type u} {ε : Type v} [Sink φ] [Sink ε] (reports : List Report)
    (outputs : Outputs φ ε) : List Notice :=
  (reports.zip (Outputs.run reports outputs).1).filterMap fun made =>
    if made.2.result.isOk then made.1.notice? else none

/-- The name of the file holds neither a colon nor a line feed, and the message holds no line feed.
Nothing is asked of the text of a parse failure. -/
def PlainNames (file message : String) : Prop :=
  ':' ∉ file.toList ∧ '\n' ∉ file.toList ∧ '\n' ∉ message.toList

instance (file message : String) : Decidable (PlainNames file message) :=
  inferInstanceAs (Decidable (_ ∧ _ ∧ _))

def Report.Plain : Report → Prop
  | unexpected file message => PlainNames file message
  | parseFailure file message _ _ _ => PlainNames file message
  | payload failure => PlainNames failure.file failure.message
  | finding _ => True

instance (report : Report) : Decidable report.Plain := by
  cases report <;> unfold Report.Plain <;> infer_instance

/-! ### The lines of a notice -/

namespace Notice

def heading (file : String) (line : Option UInt64) (message : String) : List Char :=
  file.toList ++ ':' ::
    (line.elim [] (fun line => Nat.toDigits 10 line.toNat ++ [':']) ++ ' ' :: message.toList)

def caret (column : Nat) : List Char :=
  List.replicate (column + 1) ' ' ++ ['^']

/-- The lines a notice takes up, without the line feeds that close them. -/
def lines : Notice → List (List Char)
  | unexpected file message => [heading file none message]
  | unparsed file line message shown column =>
    heading file (some line) message :: shown.toList :: (column.map caret).toList

def parts : Notice → List Char
  | unexpected file message => file.toList ++ message.toList
  | unparsed file _ message shown _ => file.toList ++ message.toList ++ shown.toList

def Plain : Notice → Prop
  | unexpected file message => PlainNames file message
  | unparsed file _ message shown _ => PlainNames file message ∧ '\n' ∉ shown.toList

end Notice

/-- The text of lines that a line feed closes each. -/
def closeLines (lines : List (List Char)) : List Char :=
  lines.flatMap fun line => line ++ ['\n']

theorem closeLines_append (a b : List (List Char)) :
    closeLines (a ++ b) = closeLines a ++ closeLines b :=
  List.flatMap_append

/-! ### What a report puts out -/

/-- The last line of a text is free of every character that ends a line. -/
theorem isLineBreak_of_mem_lastLine {text : String} {c : Char} (hc : c ∈ (lastLine text).toList) :
    isLineBreak c = false := by
  rw [lastLine, String.toList_ofList] at hc
  cases hlast : (lines text.toList).getLast? with
  | none => simp [hlast] at hc
  | some last =>
      obtain ⟨line, hline, rfl⟩ := List.mem_map.mp (List.mem_of_getLast? hlast)
      exact unbroken_of_mem_physicalLines hline c (by simpa [hlast] using hc)

theorem not_mem_lastLine (text : String) : '\n' ∉ (lastLine text).toList := by
  intro hmem
  exact absurd (isLineBreak_of_mem_lastLine hmem) (by decide)

def ParseFailure.formattedNotice (failure : ParseFailure) : Notice :=
  .unparsed failure.file failure.line failure.message (lastLine failure.text)
    (failure.offset.map fun offset => offset.toNat - lengthBeside failure.text)

namespace ParseFailure

/-- Exactly the well-formed failures make a notice. -/
theorem notice?_eq (failure : ParseFailure) :
    failure.notice? = if failure.WellFormed then some failure.formattedNotice else none := by
  by_cases hwell : failure.WellFormed
  · rw [if_pos hwell, notice?, shownLine_of_ne hwell.1, caretColumn_of_wellFormed hwell]
    rfl
  · rw [if_neg hwell, notice?]
    rcases cases_of_not_wellFormed hwell with hempty | ⟨hempty, offset, hoffset, hlands⟩
    · rw [shownLine, shownLine_eq, if_pos hempty]
    · rw [caretColumn_of_not_lands hempty hoffset hlands]
      simp

theorem isSome_notice?_iff {failure : ParseFailure} :
    failure.notice?.isSome = true ↔ failure.WellFormed := by
  rw [notice?_eq, Option.isSome_ite]

theorem toList_formatted (failure : ParseFailure) :
    failure.formatted.toList = closeLines failure.formattedNotice.lines := by
  cases hoffset : failure.offset with
  | none =>
      simp [formatted, formattedNotice, hoffset, Notice.lines, Notice.heading, closeLines,
        toList_decimal]
  | some offset =>
      simp [formatted, formattedNotice, hoffset, Notice.lines, Notice.heading, Notice.caret,
        closeLines, caretLine, toList_decimal]

theorem toList_contribution (failure : ParseFailure) :
    failure.contribution.toList = closeLines (failure.notice?.elim [] Notice.lines) := by
  rw [contribution, notice?_eq]
  by_cases hwell : failure.WellFormed
  · rw [if_pos hwell, if_pos hwell, toList_formatted]
    rfl
  · rw [if_neg hwell, if_neg hwell]
    rfl

theorem plain_of_notice? {failure : ParseFailure} {notice : Notice}
    (hplain : PlainNames failure.file failure.message) (h : failure.notice? = some notice) :
    notice.Plain := by
  rw [notice?_eq] at h
  split at h
  · obtain rfl := Option.some.inj h
    exact ⟨hplain, not_mem_lastLine failure.text⟩
  · cases h

end ParseFailure

namespace Report

theorem toList_addedToErrors (report : Report) :
    report.addedToErrors.toList = closeLines (report.notice?.elim [] Notice.lines) := by
  cases report with
  | unexpected file message =>
      simp [addedToErrors, notice?, Notice.lines, Notice.heading, closeLines]
  | parseFailure file message line offset text => exact ParseFailure.toList_contribution _
  | payload failure => exact failure.toList_contribution
  | finding diagnostic => rfl

theorem plain_of_notice? {report : Report} {notice : Notice} (hplain : report.Plain)
    (h : report.notice? = some notice) : notice.Plain := by
  cases report with
  | unexpected file message =>
      obtain rfl := Option.some.inj h
      exact hplain
  | parseFailure file message line offset text =>
      have hnames : PlainNames file message := hplain
      exact ParseFailure.plain_of_notice? hnames h
  | payload failure => exact ParseFailure.plain_of_notice? hplain h
  | finding diagnostic => cases h

theorem notice?_of_not_wellFormed {report : Report} (h : ¬report.WellFormed) :
    report.notice? = none := by
  cases report with
  | unexpected file message => exact absurd (wellFormed_of_failure?_eq_none rfl) h
  | parseFailure file message line offset text =>
      exact (ParseFailure.notice?_eq _).trans
        (if_neg fun hwell => h ((wellFormed_iff rfl).mpr hwell))
  | payload failure =>
      exact (failure.notice?_eq).trans (if_neg fun hwell => h ((wellFormed_iff rfl).mpr hwell))
  | finding diagnostic => rfl

end Report

/-- What reports put out one after the other are the lines of what each of them has to tell. -/
theorem toList_join_map {α : Type u} {added : Report → String} {told : Report → Option α}
    {lines : α → List (List Char)}
    (h : ∀ report, (added report).toList = closeLines ((told report).elim [] lines))
    (reports : List Report) :
    (String.join (reports.map added)).toList =
      closeLines ((reports.filterMap told).flatMap lines) := by
  induction reports with
  | nil => rfl
  | cons report more ih =>
      rw [List.map_cons, String.join_cons, String.toList_append, ih, h report,
        ← closeLines_append]
      cases htold : told report with
      | none => simp [htold]
      | some one => simp [htold]

theorem toList_errorsText (reports : List Report) :
    (errorsText reports).toList =
      closeLines ((reports.filterMap Report.notice?).flatMap Notice.lines) :=
  toList_join_map Report.toList_addedToErrors reports

/-! ### A run of reports -/

namespace Outputs

variable {φ : Type u} {ε : Type v} [Sink φ] [Sink ε] [Capture ε]

theorem post_errors_capture (report : Report) (outputs : Outputs φ ε) :
    (if (outputs.post report).1.result.isOk then report.notice? else none) = report.notice? ∧
      (outputs.post report).2.errors = Capture.extend outputs.errors report.addedToErrors := by
  cases hchannel : report.channel with
  | findings =>
      obtain ⟨-, hadded⟩ := Report.added_of_findings hchannel
      rw [post_of_findings hchannel, hadded, Capture.extend_empty]
      cases report with
      | finding diagnostic => exact ⟨ite_self none, rfl⟩
      | _ => cases hchannel
  | errors =>
      obtain ⟨hadded, -⟩ := Report.added_of_errors hchannel
      obtain ⟨hmade, hafter⟩ := report.post_capture outputs.errors
      rw [post_of_errors hchannel, hmade, hafter, hadded]
      refine ⟨?_, rfl⟩
      by_cases hwell : report.WellFormed
      · rw [decide_eq_true hwell, if_pos rfl]
      · rw [Report.notice?_of_not_wellFormed hwell, ite_self]

theorem run_errors_capture (reports : List Report) (outputs : Outputs φ ε) :
    accepted reports outputs = reports.filterMap Report.notice? ∧
      (run reports outputs).2.errors = Capture.extend outputs.errors (errorsText reports) := by
  induction reports generalizing outputs with
  | nil => simp [accepted, run, errorsText, Capture.extend_empty]
  | cons report more ih =>
      obtain ⟨hnotice, hafter⟩ := post_errors_capture report outputs
      obtain ⟨hmore, hend⟩ := ih (outputs.post report).2
      refine ⟨?_, ?_⟩
      · simp only [accepted, run, List.zip_cons_cons, List.filterMap_cons, hnotice]
        rw [← hmore]
        rfl
      · simp only [run, hend, hafter, Capture.extend_extend, errorsText, List.map_cons,
          String.join_cons]

end Outputs

/-! ### Reading -/

/-- Takes a heading apart: the name of the file, the number of the line if there is one, and the
message. -/
def readHeading (first : List Char) : String × Option UInt64 × String :=
  let file := String.ofList (first.takeWhile (· != ':'))
  match (first.dropWhile (· != ':')).drop 1 with
  | ' ' :: message => (file, none, String.ofList message)
  | numbered =>
    (file, some (UInt64.ofNat (Nat.ofDigitChars 10 (numbered.takeWhile Char.isDigit) 0)),
      String.ofList ((numbered.dropWhile Char.isDigit).drop 2))

def readCaret? (line : List Char) : Option Nat :=
  if line.dropWhile (· == ' ') = ['^'] then some (line.length - 2) else none

def readNotices : List (List Char) → List Notice
  | [] => []
  | first :: rest =>
    match readHeading first, rest with
    | (file, none, message), rest => .unexpected file message :: readNotices rest
    | (_, some _, _), [] => []
    | (file, some line, message), [shown] =>
      [.unparsed file line message (String.ofList shown) none]
    | (file, some line, message), shown :: next :: more =>
      match readCaret? next with
      | some column =>
        .unparsed file line message (String.ofList shown) (some column) :: readNotices more
      | none => .unparsed file line message (String.ofList shown) none :: readNotices (next :: more)

def readBack (text : String) : List Notice :=
  readNotices (text.toList.splitOn '\n').dropLast

/-! ### Reading what was written -/

theorem splitOn_closeLines {lines : List (List Char)} (h : ∀ line ∈ lines, '\n' ∉ line) :
    (closeLines lines).splitOn '\n' = lines ++ [[]] := by
  induction lines with
  | nil => rfl
  | cons line more ih =>
      have hline : '\n' ∉ line := h line List.mem_cons_self
      have hmore := ih fun line hmem => h line (List.mem_cons_of_mem _ hmem)
      rw [closeLines, List.flatMap_cons, List.append_assoc, List.singleton_append,
        List.splitOn_append_cons_self_of_not_mem hline, ← closeLines, hmore, List.cons_append]

theorem not_mem_toDigits {c : Char} (hc : c.isDigit = false) (n : Nat) : c ∉ Nat.toDigits 10 n := by
  intro hmem
  rw [Nat.isDigit_of_mem_toDigits (by decide) (by decide) hmem] at hc
  cases hc

namespace Notice

/-- A character that a notice does not take over is on none of its lines, unless it is one of those
that headings and carets are made with. -/
theorem not_mem_lines {notice : Notice} {c : Char} (hparts : c ∉ notice.parts)
    (hdigit : c.isDigit = false) (hsigns : c ∉ [':', ' ', '^']) {line : List Char}
    (hline : line ∈ notice.lines) : c ∉ line := by
  simp only [List.mem_cons, List.not_mem_nil, or_false, not_or] at hsigns
  cases notice with
  | unexpected file message =>
      simp only [parts, List.mem_append, not_or] at hparts
      obtain rfl := List.mem_singleton.mp hline
      simp [heading, hparts, hsigns]
  | unparsed file number message shown column =>
      simp only [parts, List.mem_append, not_or] at hparts
      rcases List.mem_cons.mp hline with rfl | hline
      · simp [heading, hparts, hsigns, not_mem_toDigits hdigit]
      rcases List.mem_cons.mp hline with rfl | hline
      · exact hparts.2
      · obtain ⟨k, hk, rfl⟩ := Option.map_eq_some_iff.mp (Option.mem_toList.mp hline)
        simp [caret, hsigns]

theorem Plain.not_mem_parts {notice : Notice} (h : notice.Plain) : '\n' ∉ notice.parts := by
  cases notice with
  | unexpected file message => simp [parts, h.2.1, h.2.2]
  | unparsed file number message shown column => simp [parts, h.1.2.1, h.1.2.2, h.2]

end Notice

theorem readHeading_heading {file message : String} (hfile : ':' ∉ file.toList)
    (line : Option UInt64) :
    readHeading (Notice.heading file line message) = (file, line, message) := by
  have hname : ∀ c ∈ file.toList, (c != ':') = true := by
    intro c hc
    rw [bne_iff_ne]
    rintro rfl
    exact hfile hc
  rw [readHeading, Notice.heading, List.takeWhile_append_of_pos hname,
    List.dropWhile_append_of_pos hname]
  cases line with
  | none => simp
  | some line =>
      obtain ⟨c, digits, hdigits, hall, -⟩ := toDigits_eq_cons line.toNat
      have hvalue : Nat.ofDigitChars 10 (c :: digits) 0 = line.toNat := by
        rw [← hdigits, Nat.ofDigitChars_ten_toDigits]
      have hc : c ≠ ' ' := by
        rintro rfl
        exact absurd (hall ' ' List.mem_cons_self) (by decide)
      have htake : ((c :: digits) ++ ':' :: ' ' :: message.toList).takeWhile Char.isDigit =
          c :: digits := by
        rw [List.takeWhile_append_of_pos hall]
        simp
      have hdrop : ((c :: digits) ++ ':' :: ' ' :: message.toList).dropWhile Char.isDigit =
          ':' :: ' ' :: message.toList := by
        rw [List.dropWhile_append_of_pos hall]
        rfl
      rw [List.cons_append] at htake hdrop
      simp [hdigits, hc, htake, hdrop, hvalue]

theorem readCaret?_caret (column : Nat) : readCaret? (Notice.caret column) = some column := by
  have hspaces : ∀ c ∈ List.replicate (column + 1) ' ', (c == ' ') = true := by
    simp
  have hdrop : (Notice.caret column).dropWhile (· == ' ') = ['^'] := by
    rw [Notice.caret, List.dropWhile_append_of_pos hspaces]
    rfl
  rw [readCaret?, if_pos hdrop]
  simp [Notice.caret]

theorem readCaret?_heading (file message : String) (line : Option UInt64) :
    readCaret? (Notice.heading file line message) = none := by
  refine if_neg fun hdrop => ?_
  have hcolon : ':' ∈ Notice.heading file line message := by
    simp [Notice.heading]
  rw [← List.takeWhile_append_dropWhile (p := (· == ' ')) (l := Notice.heading file line message),
    hdrop, List.mem_append] at hcolon
  rcases hcolon with hcolon | hcolon
  · exact absurd (List.mem_takeWhile_imp hcolon) (by decide)
  · exact absurd hcolon (by decide)

section

variable {first : List Char} {file message : String} {line : UInt64}

theorem readNotices_of_unexpected (hfirst : readHeading first = (file, none, message))
    (rest : List (List Char)) :
    readNotices (first :: rest) = .unexpected file message :: readNotices rest := by
  rw [readNotices.eq_def]
  simp only [hfirst]

theorem readNotices_of_caret {next : List Char} {column : Nat}
    (hfirst : readHeading first = (file, some line, message))
    (hnext : readCaret? next = some column) (shown : List Char) (rest : List (List Char)) :
    readNotices (first :: shown :: next :: rest) =
      .unparsed file line message (String.ofList shown) (some column) :: readNotices rest := by
  rw [readNotices.eq_def]
  simp only [hfirst, hnext]

/-- Without a caret, what follows the line at fault is read on its own. -/
theorem readNotices_of_no_caret (hfirst : readHeading first = (file, some line, message))
    (shown : List Char) {rest : List (List Char)}
    (hrest : ∀ next ∈ rest.head?, readCaret? next = none) :
    readNotices (first :: shown :: rest) =
      .unparsed file line message (String.ofList shown) none :: readNotices rest := by
  rw [readNotices.eq_def]
  cases rest with
  | nil => simp only [hfirst, readNotices]
  | cons next rest => simp only [hfirst, hrest next rfl]

end

theorem readCaret?_head_lines (notices : List Notice) :
    ∀ first ∈ (notices.flatMap Notice.lines).head?, readCaret? first = none := by
  intro first hfirst
  cases notices with
  | nil => simp at hfirst
  | cons notice more =>
      cases notice with
      | unexpected file message =>
          obtain rfl := Option.some.inj hfirst
          exact readCaret?_heading file message none
      | unparsed file line message shown column =>
          obtain rfl := Option.some.inj hfirst
          exact readCaret?_heading file message (some line)

theorem readNotices_flatMap_lines {notices : List Notice} (h : ∀ notice ∈ notices, notice.Plain) :
    readNotices (notices.flatMap Notice.lines) = notices := by
  induction notices with
  | nil => rfl
  | cons notice more ih =>
      obtain ⟨hnotice, hmore⟩ := List.forall_mem_cons.mp h
      rw [List.flatMap_cons]
      cases notice with
      | unexpected file message =>
          have hheading : readHeading (Notice.heading file none message) = (file, none, message) :=
            readHeading_heading hnotice.1 none
          rw [Notice.lines, List.singleton_append, readNotices_of_unexpected hheading, ih hmore]
      | unparsed file line message shown column =>
          have hheading : readHeading (Notice.heading file (some line) message) =
              (file, some line, message) := readHeading_heading hnotice.1.1 (some line)
          cases column with
          | some column =>
              have hread := readNotices_of_caret hheading (readCaret?_caret column) shown.toList
                (more.flatMap Notice.lines)
              rw [ih hmore, String.ofList_toList] at hread
              exact hread
          | none =>
              have hread := readNotices_of_no_caret hheading shown.toList
                (readCaret?_head_lines more)
              rw [ih hmore, String.ofList_toList] at hread
              exact hread

/-! ### The channel as a whole -/

namespace Outputs

variable {φ : Type u} {φ' : Type v} [Sink φ] [Sink φ']

/-- From what a run leaves on an empty error channel, the notices of its accepted reports can be
read. -/
theorem readBack_errors {reports : List Report} (hplain : ∀ report ∈ reports, report.Plain)
    (f : φ) :
    readBack (run reports ⟨f, ""⟩).2.errors = accepted reports ⟨f, ""⟩ := by
  obtain ⟨haccepted, herrors⟩ := run_errors_capture reports (⟨f, ""⟩ : Outputs φ String)
  have hnotices : ∀ notice ∈ reports.filterMap Report.notice?, notice.Plain := by
    intro notice hmem
    obtain ⟨report, hreport, hnotice⟩ := List.mem_filterMap.mp hmem
    exact Report.plain_of_notice? (hplain report hreport) hnotice
  have hlines : ∀ line ∈ (reports.filterMap Report.notice?).flatMap Notice.lines, '\n' ∉ line := by
    intro line hmem
    obtain ⟨notice, hnotice, hline⟩ := List.mem_flatMap.mp hmem
    exact Notice.not_mem_lines (hnotices notice hnotice).not_mem_parts (by decide) (by decide) hline
  have htext : (Capture.extend "" (errorsText reports)).toList =
      closeLines ((reports.filterMap Report.notice?).flatMap Notice.lines) := by
    rw [← toList_errorsText]
    exact congrArg String.toList String.empty_append
  rw [haccepted, herrors, readBack, htext, splitOn_closeLines hlines, List.dropLast_concat,
    readNotices_flatMap_lines hnotices]

/-- Two runs that leave the same text on empty error channels have accepted the same reports, in the
same order and with the same lines and columns. What their parse failures were about beyond that,
and which reports were rejected, does not show. -/
theorem accepted_eq_of_errors_eq {xs ys : List Report} (hxs : ∀ report ∈ xs, report.Plain)
    (hys : ∀ report ∈ ys, report.Plain) (f : φ) (f' : φ')
    (h : (run xs ⟨f, ""⟩).2.errors = (run ys ⟨f', ""⟩).2.errors) :
    accepted xs ⟨f, ""⟩ = accepted ys ⟨f', ""⟩ := by
  rw [← readBack_errors hxs, ← readBack_errors hys, h]

/-- A failure at the end of a longer text, after which a report is rejected, leaves the same text as
the like failure of a text of one line. -/
theorem accepted_eq_of_longer_text :
    let xs := [Report.payload ⟨"a.py", "bad", 1, some 2, "x=="⟩, .unexpected "b.py" "1: gone"]
    let ys := [Report.parseFailure "a.py" "bad" 1 (some 4) "y\nx==",
      .payload ⟨"c.py", "bad", 1, none, ""⟩, .unexpected "b.py" "1: gone"]
    (∀ report ∈ xs, report.Plain) ∧ (∀ report ∈ ys, report.Plain) ∧
      (run xs ⟨"", ""⟩).2.errors = (run ys ⟨"f", ""⟩).2.errors ∧
      accepted xs ⟨"", ""⟩ = accepted ys ⟨"f", ""⟩ := by
  intro xs ys
  have hxs : ∀ report ∈ xs, report.Plain := by decide
  have hys : ∀ report ∈ ys, report.Plain := by decide
  have h : (run xs ⟨"", ""⟩).2.errors = (run ys ⟨"f", ""⟩).2.errors := by decide +kernel
  exact ⟨hxs, hys, h, accepted_eq_of_errors_eq hxs hys "" "f" h⟩

end Outputs

end LintReport
