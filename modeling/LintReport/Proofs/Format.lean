import LintReport.Proofs.LastLine
import LintReport.Report
import Mathlib.Data.List.Basic

/-!
The format of the output, stated without the code that lays reports out.

The format speaks of the last line of a text as the left-to-right reading of the lines finds it,
and of offsets as a window of that text. A parse failure whose parts fit together is well formed
and has a text and the pieces of it that are written one by one. Laying a report out gives exactly
these pieces (`Report.entry_of_wellFormed`), or else exactly the fault that the format asks for
(`Report.entry_of_malformed`).
-/

namespace LintReport

open Text

/-- The last line of a text, found from its beginning. The empty text has no line; its last line
reads as an empty one. -/
def lastLine (text : String) : String :=
  String.ofList ((lines text.toList).getLast?.getD [])

def lengthBeside (text : String) : Nat := text.length - (lastLine text).length

/-- The offset falls on the last line of the text or right behind it, its closing terminator being
counted to what stands before the line. -/
def Lands (text : String) (offset : UInt64) : Prop :=
  lengthBeside text ≤ offset.toNat ∧ offset.toNat ≤ text.length

instance (text : String) (offset : UInt64) : Decidable (Lands text offset) :=
  inferInstanceAs (Decidable (_ ∧ _))

def caretLine (spaces : Nat) : String :=
  String.ofList (List.replicate spaces ' ') ++ "^\n"

namespace ParseFailure

/-- There is a text to show, and an offset, if there is one, lands on the line shown. -/
def WellFormed (failure : ParseFailure) : Prop :=
  failure.text ≠ "" ∧ ∀ offset ∈ failure.offset, Lands failure.text offset

instance (failure : ParseFailure) : Decidable failure.WellFormed :=
  @instDecidableAnd _ _ _ (Option.decidableForallMem failure.offset)

def formatted (failure : ParseFailure) : String :=
  failure.file ++ ":" ++ decimal failure.line.toNat ++ ": " ++ failure.message ++ "\n" ++
    lastLine failure.text ++ "\n" ++
    match failure.offset with
    | none => ""
    | some offset => caretLine (offset.toNat - lengthBeside failure.text + 1)

def pieces (failure : ParseFailure) : List String :=
  [failure.file ++ ":" ++ decimal failure.line.toNat ++ ": " ++ failure.message ++ "\n",
      lastLine failure.text, "\n"] ++
    match failure.offset with
    | none => []
    | some offset => [caretLine (offset.toNat - lengthBeside failure.text + 1)]

end ParseFailure

namespace Report

/-- The parse failure a report is about, whether it was handed over in parts or put together. -/
def failure? : Report → Option ParseFailure
  | unexpected _ _ => none
  | parseFailure file message line offset text => some ⟨file, message, line, offset, text⟩
  | payload failure => some failure
  | finding _ => none

/-- Only a report of a parse failure can fail to be well formed. -/
def WellFormed (report : Report) : Prop := ∀ failure ∈ report.failure?, failure.WellFormed

instance (report : Report) : Decidable report.WellFormed :=
  Option.decidableForallMem report.failure?

def formatted : Report → String
  | unexpected file message => file ++ ": " ++ message ++ "\n"
  | parseFailure file message line offset text =>
    ParseFailure.formatted ⟨file, message, line, offset, text⟩
  | payload failure => failure.formatted
  | finding diagnostic => diagnostic.render ++ "\n"

def pieces : Report → List String
  | unexpected file message => [file ++ ": " ++ message ++ "\n"]
  | parseFailure file message line offset text =>
    ParseFailure.pieces ⟨file, message, line, offset, text⟩
  | payload failure => failure.pieces
  | finding diagnostic => [diagnostic.render, "\n"]

end Report

/-! ### Pieces and their text -/

theorem ParseFailure.join_pieces (failure : ParseFailure) :
    String.join failure.pieces = failure.formatted := by
  cases hoffset : failure.offset <;>
    simp [pieces, formatted, hoffset, String.join, String.append_assoc]

theorem Report.join_pieces (report : Report) : String.join report.pieces = report.formatted := by
  cases report with
  | unexpected file message => simp [pieces, formatted, String.join]
  | parseFailure file message line offset text => exact ParseFailure.join_pieces _
  | payload failure => exact failure.join_pieces
  | finding diagnostic => simp [pieces, formatted, String.join]

/-! ### Laying out a parse failure -/

theorem length_lastLine_le (text : String) : (lastLine text).length ≤ text.length := by
  rw [lastLine, ← finalLine?_eq_getLast?_lines]
  cases hline : finalLine? text.toList with
  | none => simp
  | some line => simpa [← String.length_toList] using length_finalLine?_le hline

theorem shownLine_eq (file text : String) :
    Excerpt.shownLine file text =
      if text = "" then .error (.emptySource file) else .ok (lastLine text) := by
  rw [Excerpt.shownLine, lastLine, ← finalLine?_eq_getLast?_lines]
  cases hline : finalLine? text.toList with
  | none =>
      have hempty : text = "" := by simpa using finalLine?_eq_none_iff.mp hline
      simp [hempty]
  | some line =>
      have hne : text ≠ "" := by
        rintro rfl
        simp at hline
      simp [hne]

theorem columnOf_eq (file text : String) (offset : UInt64) :
    Excerpt.columnOf file text (lastLine text) offset =
      if Lands text offset then .ok (offset.toNat - lengthBeside text)
      else .error (.columnOutside file offset (lastLine text).length) := by
  have hle := length_lastLine_le text
  -- The column counts from the beginning of the line, the offset from that of the text.
  have hwindow : (text.length - (lastLine text).length ≤ offset.toNat ∧
      offset.toNat - (text.length - (lastLine text).length) ≤ (lastLine text).length) ↔
        Lands text offset := by
    simp only [Lands, lengthBeside]
    omega
  simp only [Excerpt.columnOf, Excerpt.columnOn?, hwindow]
  split <;> simp_all [lengthBeside]

namespace Excerpt

variable {text : String}

theorem layOut_none (hne : text ≠ "") (file message : String) (line : UInt64) :
    layOut file message line none text =
      .ok ⟨headerOf file line message, lastLine text, none⟩ := by
  rw [layOut, shownLine_eq, if_neg hne]
  rfl

theorem layOut_of_lands (hne : text ≠ "") {offset : UInt64} (hlands : Lands text offset)
    (file message : String) (line : UInt64) :
    layOut file message line (some offset) text =
      .ok ⟨headerOf file line message, lastLine text,
        some (caretUnder (offset.toNat - lengthBeside text))⟩ := by
  simp only [layOut, shownLine_eq, if_neg hne, bind, Except.bind, columnOf_eq, if_pos hlands, pure,
    Except.pure]

theorem layOut_of_not_lands (hne : text ≠ "") {offset : UInt64} (hlands : ¬Lands text offset)
    (file message : String) (line : UInt64) :
    layOut file message line (some offset) text =
      .error (.columnOutside file offset (lastLine text).length) := by
  simp only [layOut, shownLine_eq, if_neg hne, bind, Except.bind, columnOf_eq, if_neg hlands]

end Excerpt

namespace ParseFailure

section

variable {failure : ParseFailure} (hne : failure.text ≠ "")
include hne

theorem shownLine_of_ne : failure.shownLine = .ok (lastLine failure.text) := by
  rw [shownLine, shownLine_eq, if_neg hne]

theorem caretColumn_of_lands {offset : UInt64} (hoffset : failure.offset = some offset)
    (hlands : Lands failure.text offset) :
    failure.caretColumn = .ok (some (offset.toNat - lengthBeside failure.text)) := by
  simp only [caretColumn, shownLine_of_ne hne, hoffset, bind, Except.bind, columnOf_eq,
    if_pos hlands, pure, Except.pure]

theorem caretColumn_of_not_lands {offset : UInt64} (hoffset : failure.offset = some offset)
    (hlands : ¬Lands failure.text offset) :
    failure.caretColumn =
      .error (.columnOutside failure.file offset (lastLine failure.text).length) := by
  simp only [caretColumn, shownLine_of_ne hne, hoffset, bind, Except.bind, columnOf_eq,
    if_neg hlands]

end

theorem caretColumn_of_wellFormed {failure : ParseFailure} (h : failure.WellFormed) :
    failure.caretColumn =
      .ok (failure.offset.map fun offset => offset.toNat - lengthBeside failure.text) := by
  obtain ⟨hne, hlands⟩ := h
  cases hoffset : failure.offset with
  | none =>
      rw [caretColumn, shownLine_of_ne hne, hoffset]
      rfl
  | some offset =>
      rw [caretColumn_of_lands hne hoffset (hlands offset hoffset)]
      rfl

/-- What keeps a failure from being well formed. -/
theorem cases_of_not_wellFormed {failure : ParseFailure} (h : ¬failure.WellFormed) :
    failure.text = "" ∨
    failure.text ≠ "" ∧ ∃ offset, failure.offset = some offset ∧ ¬Lands failure.text offset := by
  simp only [WellFormed, Option.mem_def, not_and, not_forall] at h
  by_cases hempty : failure.text = ""
  · exact .inl hempty
  · obtain ⟨offset, hoffset, hlands⟩ := h hempty
    exact .inr ⟨hempty, offset, hoffset, hlands⟩

theorem excerpt_of_empty {failure : ParseFailure} (hempty : failure.text = "") :
    failure.excerpt = .error (.emptySource failure.file) := by
  rw [excerpt, Excerpt.layOut, shownLine_eq, if_pos hempty]
  rfl

theorem excerpt_of_not_lands {failure : ParseFailure} {offset : UInt64} (hempty : failure.text ≠ "")
    (hoffset : failure.offset = some offset) (hlands : ¬Lands failure.text offset) :
    failure.excerpt =
      .error (.columnOutside failure.file offset (lastLine failure.text).length) := by
  rw [excerpt, hoffset, Excerpt.layOut_of_not_lands hempty hlands]

theorem excerpt_of_wellFormed {failure : ParseFailure} (h : failure.WellFormed) :
    ∃ block, failure.excerpt = .ok block ∧ block.fragments = failure.pieces := by
  obtain ⟨hempty, hlands⟩ := h
  cases hoffset : failure.offset with
  | none =>
      refine ⟨_, by rw [excerpt, hoffset, Excerpt.layOut_none hempty], ?_⟩
      simp [Excerpt.fragments, Excerpt.headerOf, pieces, hoffset]
  | some offset =>
      have hlayOut := Excerpt.layOut_of_lands hempty (hlands offset hoffset) failure.file
        failure.message failure.line
      refine ⟨_, by rw [excerpt, hoffset, hlayOut], ?_⟩
      simp [Excerpt.fragments, Excerpt.headerOf, Excerpt.caretUnder, pieces, caretLine, hoffset,
        String.ofList_append, String.append_assoc]

end ParseFailure

/-! ### Laying out a report -/

namespace Report

/-- What is wrong with a report: its parse failure has no text, or has an offset that does not
land on the line shown. -/
inductive Malformed (report : Report) : Fault → Prop
  | emptySource {failure : ParseFailure} (hfailure : report.failure? = some failure)
      (hempty : failure.text = "") : report.Malformed (.emptySource failure.file)
  | columnOutside {failure : ParseFailure} {offset : UInt64}
      (hfailure : report.failure? = some failure) (hempty : failure.text ≠ "")
      (hoffset : failure.offset = some offset) (hlands : ¬Lands failure.text offset) :
      report.Malformed (.columnOutside failure.file offset (lastLine failure.text).length)

theorem wellFormed_iff {report : Report} {failure : ParseFailure}
    (hfailure : report.failure? = some failure) : report.WellFormed ↔ failure.WellFormed := by
  simp [WellFormed, hfailure]

theorem wellFormed_of_failure?_eq_none {report : Report} (h : report.failure? = none) :
    report.WellFormed := by
  simp [WellFormed, h]

theorem Malformed.not_wellFormed {report : Report} {fault : Fault} (h : report.Malformed fault) :
    ¬report.WellFormed := by
  cases h with
  | emptySource hfailure hempty =>
      rw [wellFormed_iff hfailure]
      exact fun h => h.1 hempty
  | columnOutside hfailure hempty hoffset hlands =>
      rw [wellFormed_iff hfailure]
      exact fun h => hlands (h.2 _ hoffset)

theorem wellFormed_or_malformed (report : Report) :
    report.WellFormed ∨ ∃ fault, report.Malformed fault := by
  by_cases hwell : report.WellFormed
  · exact .inl hwell
  · simp only [WellFormed, Option.mem_def, not_forall] at hwell
    obtain ⟨failure, hfailure, hwell⟩ := hwell
    rcases ParseFailure.cases_of_not_wellFormed hwell with
      hempty | ⟨hempty, offset, hoffset, hlands⟩
    · exact .inr ⟨_, .emptySource hfailure hempty⟩
    · exact .inr ⟨_, .columnOutside hfailure hempty hoffset hlands⟩

theorem eq_of_failure? {report : Report} {failure : ParseFailure}
    (h : report.failure? = some failure) :
    report = .parseFailure failure.file failure.message failure.line failure.offset failure.text ∨
      report = .payload failure := by
  cases report with
  | unexpected file message => cases h
  | parseFailure file message line offset text =>
      obtain rfl := Option.some.inj h
      exact .inl rfl
  | payload failure =>
      obtain rfl := Option.some.inj h
      exact .inr rfl
  | finding diagnostic => cases h

theorem entry_of_failure? {report : Report} {failure : ParseFailure}
    (h : report.failure? = some failure) :
    report.entry = failure.excerpt.map .excerpt ∧ report.pieces = failure.pieces := by
  rcases eq_of_failure? h with rfl | rfl
  · exact ⟨rfl, rfl⟩
  · exact ⟨rfl, rfl⟩

theorem entry_of_malformed {report : Report} {fault : Fault} (h : report.Malformed fault) :
    report.entry = .error fault := by
  cases h with
  | emptySource hfailure hempty =>
      rw [(entry_of_failure? hfailure).1, ParseFailure.excerpt_of_empty hempty]
      rfl
  | columnOutside hfailure hempty hoffset hlands =>
      rw [(entry_of_failure? hfailure).1, ParseFailure.excerpt_of_not_lands hempty hoffset hlands]
      rfl

/-- A well-formed report is laid out in the pieces of the format. -/
theorem entry_of_wellFormed {report : Report} (h : report.WellFormed) :
    ∃ entry, report.entry = .ok entry ∧ entry.fragments = report.pieces := by
  cases hfailure : report.failure? with
  | some failure =>
      obtain ⟨hentry, hpieces⟩ := entry_of_failure? hfailure
      obtain ⟨block, hexcerpt, hfragments⟩ :=
        ParseFailure.excerpt_of_wellFormed ((wellFormed_iff hfailure).mp h)
      refine ⟨.excerpt block, ?_, ?_⟩
      · rw [hentry, hexcerpt]
        rfl
      · rw [hpieces]
        exact hfragments
  | none =>
      cases report with
      | unexpected file message => exact ⟨_, rfl, rfl⟩
      | parseFailure file message line offset text => simp [failure?] at hfailure
      | payload failure => simp [failure?] at hfailure
      | finding diagnostic => exact ⟨_, rfl, rfl⟩

end Report

end LintReport
