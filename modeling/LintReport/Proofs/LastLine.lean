import LintReport.Text.Line
import Mathlib.Data.List.TakeWhile

/-!
The last line of a text is the same from both of its ends.

`physicalLines` reads a text from the left and `finalLine?` walks back from its end. What ties the
two together is `leftOpen`, the text that lines make up when the last of them is not closed:
dropping the closing terminator from behind leaves exactly that (`reverse_dropClosing_reverse`),
and from its end back to the first break there is exactly the content of the last line.
-/

namespace LintReport.Text

/-! ### Dropping the closing terminator -/

/-- What closes a text does not depend on its first character, unless that character is the whole
text or belongs to a terminator of two. Both arguments are written backwards. -/
theorem dropClosing_append_singleton {rest : List Char} {c : Char} (hrest : rest ≠ [])
    (hpair : ¬(c = '\r' ∧ rest = ['\n'])) :
    dropClosing (rest ++ [c]) = dropClosing rest ++ [c] := by
  match rest with
  | [] => exact absurd rfl hrest
  | [d] =>
      have hd : ¬(d = '\n' ∧ c = '\r') := fun h => hpair ⟨h.2, by rw [h.1]⟩
      by_cases hbreak : isLineBreak d = true
      · simp [dropClosing, hd, hbreak]
      · simp [dropClosing, hd, hbreak]
  | d :: e :: before =>
      simp only [List.cons_append, dropClosing]
      split
      · rfl
      · split <;> rfl

theorem dropClosing_append_singleton_of_not_isLineBreak (rest : List Char) {c : Char}
    (hc : isLineBreak c = false) :
    dropClosing (rest ++ [c]) = dropClosing rest ++ [c] := by
  cases rest with
  | nil => simp [dropClosing, hc]
  | cons d before =>
      refine dropClosing_append_singleton (by simp) fun h => ?_
      rw [h.1] at hc
      exact absurd hc (by decide)

/-! ### Lines without the last terminator -/

/-- The text that lines make up when the last of them is left open. -/
def leftOpen : List Line → List Char
  | [] => []
  | [line] => line.content
  | line :: next :: more => line.covered ++ leftOpen (next :: more)

theorem leftOpen_cons {line : Line} {more : List Line} (hmore : more ≠ []) :
    leftOpen (line :: more) = line.covered ++ leftOpen more := by
  cases more with
  | nil => exact absurd rfl hmore
  | cons next more => rfl

theorem leftOpen_pushOntoFirst (c : Char) (lines : List Line) :
    leftOpen (pushOntoFirst c lines) = c :: leftOpen lines := by
  match lines with
  | [] => rfl
  | [line] => rfl
  | line :: next :: more => rfl

theorem physicalLines_eq_nil_iff {text : List Char} : physicalLines text = [] ↔ text = [] := by
  constructor
  · intro h
    have hcovered := flatMap_covered_physicalLines text
    rw [h] at hcovered
    exact hcovered.symm
  · rintro rfl
    rfl

/-- Dropping what closes a text leaves its lines with the last of them open. -/
theorem reverse_dropClosing_reverse (text : List Char) :
    (dropClosing text.reverse).reverse = leftOpen (physicalLines text) := by
  fun_induction physicalLines text with
  | case1 => rfl
  | case2 c hc => simp [dropClosing, leftOpen, hc]
  | case3 c hc => simp [dropClosing, leftOpen, hc]
  | case4 c d rest hcd ih =>
      obtain ⟨rfl, rfl⟩ := hcd
      cases rest with
      | nil => rfl
      | cons e more =>
          -- This terminator is at the far end from the one that closes the text.
          have hlines : physicalLines (e :: more) ≠ [] := by
            rw [ne_eq, physicalLines_eq_nil_iff]
            exact List.cons_ne_nil e more
          have hne : (e :: more).reverse ≠ [] := by simp
          have hpair : (e :: more).reverse ++ ['\n'] ≠ ['\n'] := fun h =>
            hne (List.append_left_eq_self.mp h)
          rw [leftOpen_cons hlines, ← ih, List.reverse_cons, List.reverse_cons,
            dropClosing_append_singleton (by simp) fun h => hpair h.2,
            dropClosing_append_singleton hne (by simp)]
          simp [Line.covered]
  | case5 c d rest hcd hc ih =>
      have hlines : physicalLines (d :: rest) ≠ [] := by
        rw [ne_eq, physicalLines_eq_nil_iff]
        exact List.cons_ne_nil d rest
      have hpair : ¬(c = '\r' ∧ (d :: rest).reverse = ['\n']) := by
        rintro ⟨rfl, h⟩
        rw [List.reverse_eq_iff] at h
        injection h with hd
        exact hcd ⟨rfl, hd⟩
      rw [leftOpen_cons hlines, ← ih, List.reverse_cons,
        dropClosing_append_singleton (by simp) hpair]
      simp [Line.covered]
  | case6 c d rest hcd hc ih =>
      rw [leftOpen_pushOntoFirst, ← ih, List.reverse_cons,
        dropClosing_append_singleton_of_not_isLineBreak _ (by simpa using hc)]
      simp

/-! ### What stands on a line and what ends it -/

theorem mem_dropLast_cons {line first : Line} {more : List Line} :
    line ∈ (first :: more).dropLast ↔ line = first ∧ more ≠ [] ∨ line ∈ more.dropLast := by
  cases more <;> simp

def Line.Unbroken (line : Line) : Prop := ∀ c ∈ line.content, isLineBreak c = false

def Line.Closed (line : Line) : Prop := ∃ c, line.ending.getLast? = some c ∧ isLineBreak c = true

theorem Line.Unbroken.push {line : Line} {c : Char} (h : line.Unbroken)
    (hc : isLineBreak c = false) : (line.push c).Unbroken := by
  intro d hd
  rcases List.mem_cons.mp hd with rfl | hd
  · exact hc
  · exact h d hd

theorem unbroken_of_mem_physicalLines {text : List Char} {line : Line}
    (hline : line ∈ physicalLines text) : line.Unbroken := by
  fun_induction physicalLines text generalizing line with
  | case1 => simp at hline
  | case2 c hc =>
      rw [List.mem_singleton.mp hline]
      simp [Line.Unbroken]
  | case3 c hc =>
      rw [List.mem_singleton.mp hline]
      simpa [Line.Unbroken] using hc
  | case4 c d rest hcd ih =>
      rcases List.mem_cons.mp hline with rfl | hline
      · simp [Line.Unbroken]
      · exact ih hline
  | case5 c d rest hcd hc ih =>
      rcases List.mem_cons.mp hline with rfl | hline
      · simp [Line.Unbroken]
      · exact ih hline
  | case6 c d rest hcd hc ih =>
      have hfree : isLineBreak c = false := by simpa using hc
      cases hlines : physicalLines (d :: rest) with
      | nil =>
          rw [hlines, pushOntoFirst] at hline
          rw [List.mem_singleton.mp hline]
          simpa [Line.Unbroken] using hfree
      | cons first more =>
          rw [hlines, pushOntoFirst] at hline
          rw [hlines] at ih
          rcases List.mem_cons.mp hline with rfl | hline
          · exact (ih List.mem_cons_self).push hfree
          · exact ih (List.mem_cons_of_mem first hline)

theorem closed_of_mem_dropLast_physicalLines {text : List Char} {line : Line}
    (hline : line ∈ (physicalLines text).dropLast) : line.Closed := by
  fun_induction physicalLines text generalizing line with
  | case1 => simp at hline
  | case2 c hc => simp at hline
  | case3 c hc => simp at hline
  | case4 c d rest hcd ih =>
      obtain ⟨rfl, rfl⟩ := hcd
      rcases mem_dropLast_cons.mp hline with ⟨rfl, -⟩ | hline
      · exact ⟨'\n', rfl, by decide⟩
      · exact ih hline
  | case5 c d rest hcd hc ih =>
      rcases mem_dropLast_cons.mp hline with ⟨rfl, -⟩ | hline
      · exact ⟨c, rfl, hc⟩
      · exact ih hline
  | case6 c d rest hcd hc ih =>
      cases hlines : physicalLines (d :: rest) with
      | nil => simp [hlines, pushOntoFirst] at hline
      | cons first more =>
          rw [hlines, pushOntoFirst] at hline
          rw [hlines] at ih
          rcases mem_dropLast_cons.mp hline with ⟨rfl, hmore⟩ | hline
          · have hfirst : first.Closed := ih (mem_dropLast_cons.mpr (.inl ⟨rfl, hmore⟩))
            exact hfirst
          · exact ih (mem_dropLast_cons.mpr (.inr hline))

/-! ### Walking back from the end -/

theorem Line.Unbroken.takeWhile_reverse {line : Line} (h : line.Unbroken) :
    line.content.reverse.takeWhile (fun c => !isLineBreak c) = line.content.reverse := by
  rw [List.takeWhile_eq_self_iff]
  intro c hc
  rw [h c (List.mem_reverse.mp hc)]
  rfl

theorem Line.Closed.takeWhile_append {line : Line} (h : line.Closed) (later : List Char) :
    (later ++ line.covered.reverse).takeWhile (fun c => !isLineBreak c) =
      later.takeWhile (fun c => !isLineBreak c) := by
  obtain ⟨c, hlast, hc⟩ := h
  obtain ⟨before, hending⟩ := List.getLast?_eq_some_iff.mp hlast
  have hcovered : line.covered.reverse = c :: (line.content ++ before).reverse := by
    rw [Line.covered, hending, ← List.append_assoc, List.reverse_append]
    rfl
  induction later with
  | nil =>
      rw [hcovered, List.nil_append, List.takeWhile_cons_of_neg (by simp [hc]),
        List.takeWhile_nil]
  | cons d later ih => rw [List.cons_append, List.takeWhile_cons, List.takeWhile_cons, ih]

/-- From the end of lines left open, the way back to the first break is the last line. -/
theorem takeWhile_reverse_leftOpen {lines : List Line} {last : Line}
    (hlast : lines.getLast? = some last) (hunbroken : ∀ line ∈ lines, line.Unbroken)
    (hclosed : ∀ line ∈ lines.dropLast, line.Closed) :
    (leftOpen lines).reverse.takeWhile (fun c => !isLineBreak c) = last.content.reverse := by
  induction lines with
  | nil => simp at hlast
  | cons line more ih =>
      cases more with
      | nil =>
          obtain rfl : line = last := by simpa using hlast
          exact (hunbroken line List.mem_cons_self).takeWhile_reverse
      | cons next more =>
          have hline : line.Closed :=
            hclosed line (mem_dropLast_cons.mpr (.inl ⟨rfl, List.cons_ne_nil next more⟩))
          rw [leftOpen_cons (List.cons_ne_nil next more), List.reverse_append,
            hline.takeWhile_append]
          exact ih (by simpa using hlast)
            (fun line hmem => hunbroken line (List.mem_cons_of_mem _ hmem))
            (fun line hmem => hclosed line (mem_dropLast_cons.mpr (.inr hmem)))

/-- The line found from the end of a text is the last of those found from its beginning. -/
theorem finalLine?_eq_getLast?_lines (text : List Char) :
    finalLine? text = (lines text).getLast? := by
  cases hlast : (physicalLines text).getLast? with
  | none =>
      have hnil : text = [] := physicalLines_eq_nil_iff.mp (List.getLast?_eq_none_iff.mp hlast)
      rw [hnil]
      rfl
  | some last =>
      have hne : text ≠ [] := by
        rintro rfl
        simp [physicalLines] at hlast
      -- The way back begins before the closing terminator, where the last line is left open.
      have hopen : dropClosing text.reverse = (leftOpen (physicalLines text)).reverse := by
        rw [← reverse_dropClosing_reverse, List.reverse_reverse]
      have hwalk := takeWhile_reverse_leftOpen hlast
        (fun _ => unbroken_of_mem_physicalLines) (fun _ => closed_of_mem_dropLast_physicalLines)
      simp only [finalLine?, List.isEmpty_iff, hne, if_false, hopen, hwalk, List.reverse_reverse,
        lines, List.getLast?_map, hlast, Option.map_some]

end LintReport.Text
