import LintReport.Proofs.Format
import LintReport.Proofs.Splitting

/-!
The window of offsets that are accepted.

An offset counts characters of the whole text, and the terminator that closes the last line is
counted to what stands before the line. Main statement: the offsets accepted for a text begin as far
behind the start of its last line as that line's terminator is long, they reach up to the length of
the text, and they go to the columns of the line in order. So an offset of a character on the line
goes to the column of this character only if the line is left open.
-/

namespace LintReport

open Text

/-! ### The place of the last line -/

/-- The last line of a text starts at the character `start`, has `length` characters, and is closed
by a terminator of `closing` characters. -/
def LastLineAt (text : String) (start length closing : Nat) : Prop :=
  ∃ earlier last, physicalLines text.toList = earlier ++ [last] ∧
    (earlier.flatMap Line.covered).length = start ∧ last.content.length = length ∧
    last.ending.length = closing

theorem exists_lastLineAt {text : String} (hne : text ≠ "") :
    ∃ start length closing, LastLineAt text start length closing := by
  have hlines : physicalLines text.toList ≠ [] := by
    rw [ne_eq, physicalLines_eq_nil_iff, String.toList_eq_nil_iff]
    exact hne
  obtain ⟨earlier, last, h⟩ := (List.eq_nil_or_concat _).resolve_left hlines
  exact ⟨_, _, _, earlier, last, h.trans List.concat_eq_append, rfl, rfl, rfl⟩

namespace LastLineAt

variable {text : String} {start length closing : Nat}

/-- A text has its last line in one place. -/
theorem unique (h : LastLineAt text start length closing) {start' length' closing' : Nat}
    (h' : LastLineAt text start' length' closing') :
    start = start' ∧ length = length' ∧ closing = closing' := by
  obtain ⟨earlier, last, hlines, rfl, rfl, rfl⟩ := h
  obtain ⟨earlier', last', hlines', rfl, rfl, rfl⟩ := h'
  obtain ⟨rfl, hlast⟩ := List.append_inj' (hlines.symm.trans hlines') rfl
  obtain rfl := List.singleton_inj.mp hlast
  exact ⟨rfl, rfl, rfl⟩

theorem closing_le (h : LastLineAt text start length closing) : closing ≤ 2 := by
  obtain ⟨earlier, last, hlines, -, -, rfl⟩ := h
  have hsplit := splitsInto_physicalLines text.toList
  rw [hlines] at hsplit
  exact hsplit.length_ending_le last List.mem_concat_self

theorem length_eq (h : LastLineAt text start length closing) :
    text.length = start + length + closing := by
  obtain ⟨earlier, last, hlines, rfl, rfl, rfl⟩ := h
  have hcovered := flatMap_covered_physicalLines text.toList
  rw [hlines, List.flatMap_append, List.flatMap_singleton] at hcovered
  rw [← String.length_toList, ← hcovered, Line.covered, List.length_append, List.length_append,
    Nat.add_assoc]

theorem start_eq_zero (h : LastLineAt text start length closing)
    (hsingle : (physicalLines text.toList).length = 1) : start = 0 := by
  obtain ⟨earlier, last, hlines, rfl, -, -⟩ := h
  have hearlier : earlier = [] := by
    rw [hlines, List.length_append, List.length_singleton] at hsingle
    exact List.length_eq_zero_iff.mp (by omega)
  rw [hearlier]
  rfl

theorem length_lastLine (h : LastLineAt text start length closing) :
    (lastLine text).length = length := by
  obtain ⟨earlier, last, hlines, -, rfl, -⟩ := h
  have hlast : (lines text.toList).getLast? = some last.content := by
    rw [lines, hlines, List.map_append, List.map_singleton, List.getLast?_concat]
  rw [lastLine, hlast, Option.getD_some, String.length_ofList]

theorem lengthBeside_eq (h : LastLineAt text start length closing) :
    lengthBeside text = start + closing := by
  rw [lengthBeside, h.length_lastLine, h.length_eq]
  omega

theorem lands_iff (h : LastLineAt text start length closing) {offset : UInt64} :
    Lands text offset ↔
      start + closing ≤ offset.toNat ∧ offset.toNat ≤ start + closing + length := by
  rw [Lands, h.lengthBeside_eq, h.length_eq, Nat.add_right_comm]

end LastLineAt

/-! ### The column of an offset -/

namespace ParseFailure

def withOffset (failure : ParseFailure) (offset : UInt64) : ParseFailure :=
  { failure with offset := some offset }

variable {failure : ParseFailure} {start length closing : Nat}

theorem caretColumn_withOffset (hne : failure.text ≠ "") (offset : UInt64) :
    (failure.withOffset offset).caretColumn =
      if Lands failure.text offset then .ok (some (offset.toNat - lengthBeside failure.text))
      else .error (.columnOutside failure.file offset (lastLine failure.text).length) := by
  have hsame : (failure.withOffset offset).text ≠ "" := hne
  by_cases hlands : Lands failure.text offset
  · rw [if_pos hlands]
    exact caretColumn_of_lands hsame rfl hlands
  · rw [if_neg hlands]
    exact caretColumn_of_not_lands hsame rfl hlands

theorem caretColumn_eq_ok_iff (hne : failure.text ≠ "")
    (h : LastLineAt failure.text start length closing) (offset : UInt64) (column : Nat) :
    (failure.withOffset offset).caretColumn = .ok (some column) ↔
      start + closing ≤ offset.toNat ∧ offset.toNat ≤ start + closing + length ∧
        column = offset.toNat - start - closing ∧ column ≤ length := by
  rw [caretColumn_withOffset hne, h.lengthBeside_eq]
  by_cases hlands : Lands failure.text offset
  · have hwindow := h.lands_iff.mp hlands
    rw [if_pos hlands, Except.ok.injEq, Option.some.injEq]
    omega
  · have hwindow := mt h.lands_iff.mpr hlands
    simp only [if_neg hlands, reduceCtorEq, false_iff]
    omega

theorem caretColumn_of_outside (hne : failure.text ≠ "")
    (h : LastLineAt failure.text start length closing) (offset : UInt64)
    (houtside : ¬(start + closing ≤ offset.toNat ∧ offset.toNat ≤ start + closing + length)) :
    (failure.withOffset offset).caretColumn =
      .error (.columnOutside failure.file offset length) := by
  rw [caretColumn_withOffset hne, if_neg (mt h.lands_iff.mp houtside), h.length_lastLine]

/-- An offset of a character on the last line, or of the place right behind the line. It goes to the
column that it has on the line, moved to the left by the length of the terminator. -/
theorem caretColumn_eq_of_on_line (hne : failure.text ≠ "")
    (h : LastLineAt failure.text start length closing) {offset : UInt64}
    (hhigh : offset.toNat ≤ start + length) :
    (failure.withOffset offset).caretColumn =
      if start + closing ≤ offset.toNat then .ok (some (offset.toNat - start - closing))
      else .error (.columnOutside failure.file offset length) := by
  by_cases hbehind : start + closing ≤ offset.toNat
  · rw [if_pos hbehind, caretColumn_eq_ok_iff hne h]
    omega
  · rw [if_neg hbehind, caretColumn_of_outside hne h]
    exact fun hwindow => hbehind hwindow.1

theorem caretColumn_eq_own_column_iff (hne : failure.text ≠ "")
    (h : LastLineAt failure.text start length closing) {offset : UInt64}
    (hlow : start ≤ offset.toNat) (hhigh : offset.toNat ≤ start + length) :
    (failure.withOffset offset).caretColumn = .ok (some (offset.toNat - start)) ↔ closing = 0 := by
  rw [caretColumn_eq_ok_iff hne h]
  omega

end ParseFailure

/-! ### All accepted offsets -/

/-- The offsets of the columns of a line, from the first column to the one behind the line. -/
def offsetsFrom (first length : Nat) : List UInt64 :=
  (List.range (length + 1)).map fun column => UInt64.ofNat (first + column)

section

variable {first length : Nat}

theorem mem_offsetsFrom (h : first + length < UInt64.size) {offset : UInt64} :
    offset ∈ offsetsFrom first length ↔
      first ≤ offset.toNat ∧ offset.toNat ≤ first + length := by
  simp only [offsetsFrom, List.mem_map, List.mem_range]
  constructor
  · rintro ⟨column, hcolumn, rfl⟩
    rw [UInt64.toNat_ofNat_of_lt' (by omega)]
    omega
  · rintro ⟨hlow, hhigh⟩
    refine ⟨offset.toNat - first, by omega, ?_⟩
    rw [Nat.add_sub_cancel' hlow, UInt64.ofNat_toNat]

theorem pairwise_offsetsFrom (h : first + length < UInt64.size) :
    (offsetsFrom first length).Pairwise (· < ·) := by
  rw [offsetsFrom, List.pairwise_map]
  refine List.pairwise_lt_range.imp_of_mem ?_
  intro a b ha hb hab
  rw [List.mem_range] at ha hb
  rw [UInt64.lt_iff_toNat_lt, UInt64.toNat_ofNat_of_lt' (by omega),
    UInt64.toNat_ofNat_of_lt' (by omega)]
  omega

theorem getLast?_offsetsFrom (h : first + length < UInt64.size) :
    (offsetsFrom first length).getLast?.map UInt64.toNat = some (first + length) := by
  rw [offsetsFrom, List.range_succ, List.map_append, List.map_singleton, List.getLast?_concat,
    Option.map_some, UInt64.toNat_ofNat_of_lt' h]

end

namespace ParseFailure

/-- The offsets that a failure with a text accepts. Its last line starts at `start`, has `length`
characters and is closed by a terminator of `closing` characters. The offsets from
`start + closing` up to the length of the text go to the columns of the line, and all others are
faults. So there is one offset for each column from the first one to the one behind the line, in
order, and the last of these offsets is the length of the text. This needs as many numbers of 64
bits as the text has characters, and no text in memory has more. -/
theorem caretColumn_window {failure : ParseFailure} (hne : failure.text ≠ "") :
    ∃ start length closing, LastLineAt failure.text start length closing ∧
      closing ≤ 2 ∧ start + closing + length = failure.text.length ∧
      (∀ (offset : UInt64) (column : Nat),
        (failure.withOffset offset).caretColumn = .ok (some column) ↔
          start + closing ≤ offset.toNat ∧ offset.toNat ≤ start + closing + length ∧
            column = offset.toNat - start - closing ∧ column ≤ length) ∧
      (∀ offset : UInt64,
        ¬(start + closing ≤ offset.toNat ∧ offset.toNat ≤ start + closing + length) →
        (failure.withOffset offset).caretColumn =
          .error (.columnOutside failure.file offset length)) ∧
      (failure.text.length < UInt64.size → ∃ offsets : List UInt64,
        (∀ offset, offset ∈ offsets ↔
          ∃ column, (failure.withOffset offset).caretColumn = .ok (some column)) ∧
        offsets.Pairwise (· < ·) ∧
        offsets.map (fun offset => (failure.withOffset offset).caretColumn) =
          (List.range (length + 1)).map (fun column => .ok (some column)) ∧
        offsets.getLast?.map UInt64.toNat = some failure.text.length) := by
  obtain ⟨start, length, closing, h⟩ := exists_lastLineAt hne
  have htext : start + closing + length = failure.text.length := by
    rw [h.length_eq, Nat.add_right_comm]
  refine ⟨start, length, closing, h, h.closing_le, htext, caretColumn_eq_ok_iff hne h,
    caretColumn_of_outside hne h, fun hfits => ?_⟩
  rw [← htext] at hfits
  refine ⟨offsetsFrom (start + closing) length, fun offset => ?_, pairwise_offsetsFrom hfits, ?_,
    ?_⟩
  · simp only [mem_offsetsFrom hfits, caretColumn_eq_ok_iff hne h]
    constructor
    · rintro ⟨hlow, hhigh⟩
      exact ⟨_, hlow, hhigh, rfl, by omega⟩
    · rintro ⟨column, hlow, hhigh, -⟩
      exact ⟨hlow, hhigh⟩
  · rw [offsetsFrom, List.map_map, List.map_inj_left]
    intro column hcolumn
    rw [List.mem_range] at hcolumn
    rw [Function.comp_apply, caretColumn_eq_ok_iff hne h, UInt64.toNat_ofNat_of_lt' (by omega)]
    omega
  · rw [getLast?_offsetsFrom hfits, htext]

/-- A line of two characters behind a separator of three bytes, closed by a pair. The offset 3 is
that of its second character, and yet it comes before all that are accepted. -/
theorem caretColumn_window_of_pair :
    let failure : ParseFailure := ⟨"a.py", "bad", 2, none, "é\u2028ab\r\n"⟩
    failure.text ≠ "" ∧ LastLineAt failure.text 2 2 2 ∧
    (failure.withOffset 3).caretColumn = .error (.columnOutside "a.py" 3 2) ∧
    (failure.withOffset 5).caretColumn = .ok (some 1) ∧
    ∃ offsets : List UInt64, offsets.Pairwise (· < ·) ∧
      offsets.map (fun offset => (failure.withOffset offset).caretColumn) =
        [.ok (some 0), .ok (some 1), .ok (some 2)] := by
  intro failure
  have hne : failure.text ≠ "" := by decide
  have hlines : physicalLines failure.text.toList =
      [⟨['é'], ['\u2028']⟩] ++ [⟨['a', 'b'], ['\r', '\n']⟩] := by decide
  have hplace : LastLineAt failure.text 2 2 2 := ⟨_, _, hlines, rfl, rfl, rfl⟩
  obtain ⟨start, length, closing, hlast, -, -, hok, hfault, hoffsets⟩ := caretColumn_window hne
  obtain ⟨rfl, rfl, rfl⟩ := hlast.unique hplace
  obtain ⟨offsets, -, hordered, hcolumns, -⟩ := hoffsets (by decide)
  exact ⟨hne, hplace, hfault 3 (by decide), (hok 5 1).mpr (by decide), offsets, hordered, hcolumns⟩

/-! ### The offsets of the line's own characters -/

/-- The offsets of the characters on the last line, and that of the place right behind it. The line
starts at `start`, has `length` characters and is closed by a terminator of `closing` characters.
As the terminator is counted to what stands before the line, such an offset goes to the column that
is `closing` to the left of its own, or is a fault if there is none. So it goes to its own column
exactly if the line is left open; and an offset into a text that is a single line left open is the
column itself. -/
theorem caretColumn_on_lastLine {failure : ParseFailure} (hne : failure.text ≠ "") :
    ∃ start length closing, LastLineAt failure.text start length closing ∧ closing ≤ 2 ∧
      (∀ offset : UInt64, start ≤ offset.toNat → offset.toNat ≤ start + length →
        (failure.withOffset offset).caretColumn =
            (if start + closing ≤ offset.toNat then .ok (some (offset.toNat - start - closing))
            else .error (.columnOutside failure.file offset length)) ∧
          ((failure.withOffset offset).caretColumn = .ok (some (offset.toNat - start)) ↔
            closing = 0)) ∧
      ((physicalLines failure.text.toList).length = 1 → closing = 0 →
        ∀ offset : UInt64, offset.toNat ≤ length →
          (failure.withOffset offset).caretColumn = .ok (some offset.toNat)) := by
  obtain ⟨start, length, closing, h⟩ := exists_lastLineAt hne
  refine ⟨start, length, closing, h, h.closing_le, fun offset hlow hhigh => ?_,
    fun hsingle hopen offset hhigh => ?_⟩
  · exact ⟨caretColumn_eq_of_on_line hne h hhigh, caretColumn_eq_own_column_iff hne h hlow hhigh⟩
  · obtain rfl := h.start_eq_zero hsingle
    rw [← Nat.zero_add length] at hhigh
    exact (caretColumn_eq_own_column_iff hne h (Nat.zero_le _) hhigh).mpr hopen

/-- The offset 4 is that of the third character of a line that a pair closes, and goes to the first
column; the offset 3 is that of the second one, and goes nowhere. -/
theorem caretColumn_on_lastLine_of_pair :
    let failure : ParseFailure := ⟨"a.py", "bad", 2, none, "é\u2028abc\r\n"⟩
    failure.text ≠ "" ∧ LastLineAt failure.text 2 3 2 ∧
    (failure.withOffset 4).caretColumn = .ok (some 0) ∧
    (failure.withOffset 3).caretColumn = .error (.columnOutside "a.py" 3 3) := by
  intro failure
  have hne : failure.text ≠ "" := by decide
  have hlines : physicalLines failure.text.toList =
      [⟨['é'], ['\u2028']⟩] ++ [⟨['a', 'b', 'c'], ['\r', '\n']⟩] := by decide
  have hplace : LastLineAt failure.text 2 3 2 := ⟨_, _, hlines, rfl, rfl, rfl⟩
  obtain ⟨start, length, closing, hlast, -, hoffsets, -⟩ := caretColumn_on_lastLine hne
  obtain ⟨rfl, rfl, rfl⟩ := hlast.unique hplace
  exact ⟨hne, hplace, (hoffsets 4 (by decide) (by decide)).1,
    (hoffsets 3 (by decide) (by decide)).1⟩

/-- A text of a single line that a line feed closes. The offsets of the third character and of the
first one are moved to the left, so the first one does not even land on the line. -/
theorem caretColumn_of_closed_line :
    let failure : ParseFailure := ⟨"a.py", "invalid syntax", 1, some 2, "x==\n"⟩
    failure.text ≠ "" ∧ (physicalLines failure.text.toList).length = 1 ∧
    LastLineAt failure.text 0 3 1 ∧ (0 ≤ (2 : UInt64).toNat ∧ (2 : UInt64).toNat ≤ 0 + 3) ∧
    failure.caretColumn = .ok (some 1) ∧ failure.caretColumn ≠ .ok (some (2 - 0)) ∧
    (failure.withOffset 0).caretColumn = .error (.columnOutside "a.py" 0 3) ∧
    (failure.withOffset 0).caretColumn ≠ .ok (some 0) := by
  intro failure
  have hlines : physicalLines failure.text.toList = [] ++ [⟨['x', '=', '='], ['\n']⟩] := by decide
  exact ⟨by decide, by decide, ⟨_, _, hlines, rfl, rfl, rfl⟩, by decide, by decide, by decide,
    by decide, by decide⟩

end ParseFailure

end LintReport
