import LintReport.Proofs.Format
import LintReport.Proofs.Splitting

/-!
What stands in front of a text in finished lines.

Two texts put together are split into the lines of the one and the lines of the other, unless the
first leaves a line open or a carriage return at its end meets a line feed. Main statement: lines in
front of a text move the offsets that are accepted by their own length, and have no other part in
the block that is laid out.
-/

namespace LintReport

namespace Text

/-- A text that leaves no line open: it is empty, or its last character ends a line. -/
def Finished (text : List Char) : Prop :=
  ∀ c ∈ text.getLast?, c.toNat ∈ breakCodes

/-- A carriage return at the end of the first text and a line feed at the beginning of the second,
which are one terminator when the texts are put together. -/
def FusesWith (a b : List Char) : Prop :=
  a.getLast? = some '\r' ∧ b.head? = some '\n'

/-! ### Two texts put together -/

theorem Terminates.append {ending rest : List Char} (h : Terminates ending rest) {b : List Char}
    (hseam : ¬FusesWith (ending ++ rest) b) : Terminates ending (rest ++ b) := by
  cases h with
  | pair rest => exact .pair (rest ++ b)
  | @single c rest hc hpair =>
      refine .single hc ?_
      rintro ⟨rfl, hhead⟩
      cases rest with
      | nil => exact hseam ⟨rfl, hhead⟩
      | cons d rest => exact hpair ⟨rfl, hhead⟩

theorem SplitsInto.append {a b : List Char} {x y : List Line} (ha : SplitsInto a x)
    (hb : SplitsInto b y) (hfinished : Finished a) (hseam : ¬FusesWith a b) :
    SplitsInto (a ++ b) (x ++ y) := by
  induction ha with
  | nil => exact hb
  | @opened content hne hfree =>
      have hlast := List.getLast?_eq_some_getLast hne
      exact absurd (hfinished _ hlast) (hfree _ (List.getLast_mem hne))
  | @closed content ending rest more hfree hending hrest ih =>
      -- What ends the rest, or the terminator and the rest, also ends the whole text.
      have hend : Finished rest := fun c hc =>
        hfinished c (List.mem_getLast?_append_of_mem_getLast? hc)
      have hrestSeam : ¬FusesWith rest b := fun h =>
        hseam ⟨List.mem_getLast?_append_of_mem_getLast? h.1, h.2⟩
      have hendingSeam : ¬FusesWith (ending ++ rest) b := fun h => by
        refine hseam ⟨?_, h.2⟩
        rw [List.append_assoc]
        exact List.mem_getLast?_append_of_mem_getLast? h.1
      rw [List.append_assoc]
      exact .closed hfree (hending.append hendingSeam) (ih hend hrestSeam)

theorem physicalLines_append {a : List Char} (hfinished : Finished a) {b : List Char}
    (hseam : ¬FusesWith a b) : physicalLines (a ++ b) = physicalLines a ++ physicalLines b := by
  have hsplit := (splitsInto_physicalLines a).append (splitsInto_physicalLines b) hfinished hseam
  exact (splitsInto_iff.mp hsplit).symm

theorem finalLine?_append_of_not_fusesWith {a : List Char} (hfinished : Finished a) {b : List Char}
    (hne : b ≠ []) (hseam : ¬FusesWith a b) : finalLine? (a ++ b) = finalLine? b := by
  have hlines : lines b ≠ [] := by
    rw [lines, ne_eq, List.map_eq_nil_iff, physicalLines_eq_nil_iff]
    exact hne
  calc finalLine? (a ++ b)
      = (lines a ++ lines b).getLast? := by
        rw [finalLine?_eq_getLast?_lines, lines, physicalLines_append hfinished hseam,
          List.map_append, ← lines, ← lines]
    _ = (lines b).getLast? := List.getLast?_append_of_ne_nil _ hlines
    _ = finalLine? b := (finalLine?_eq_getLast?_lines b).symm

/-- The last line of a text stays the last one behind finished lines. Only a text that is nothing
but the second half of a terminator is drawn to the line in front of it. -/
theorem finalLine?_append {a : List Char} (hfinished : Finished a) {b : List Char} (hne : b ≠ [])
    (hhalf : ¬(a.getLast? = some '\r' ∧ b = ['\n'])) : finalLine? (a ++ b) = finalLine? b := by
  by_cases hseam : FusesWith a b
  · obtain ⟨hlast, hhead⟩ := hseam
    obtain ⟨rest, rfl⟩ := List.head?_eq_some_iff.mp hhead
    have hrest : rest ≠ [] := by
      rintro rfl
      exact hhalf ⟨hlast, rfl⟩
    -- With the line feed counted to what stands in front, nothing is drawn together any more.
    have hfeed (front : List Char) : finalLine? (front ++ ['\n'] ++ rest) = finalLine? rest := by
      apply finalLine?_append_of_not_fusesWith _ hrest
      · simp [FusesWith]
      · simp [Finished, breakCodes]
    calc finalLine? (a ++ '\n' :: rest)
        = finalLine? (a ++ ['\n'] ++ rest) := by rw [List.append_assoc, List.singleton_append]
      _ = finalLine? rest := hfeed a
      _ = finalLine? ('\n' :: rest) := (hfeed []).symm
  · exact finalLine?_append_of_not_fusesWith hfinished hne hseam

/-- A line feed alone behind a carriage return leaves the line before it the last one. -/
example : finalLine? ['x', '\r', '\n'] = some ['x'] ∧ finalLine? ['\n'] = some [] := by decide

end Text

open Text

/-! ### Offsets behind earlier lines -/

section

variable {earlier text : String}

theorem lastLine_append
    (h : finalLine? (earlier ++ text).toList = finalLine? text.toList) :
    lastLine (earlier ++ text) = lastLine text := by
  rw [lastLine, lastLine, ← finalLine?_eq_getLast?_lines, ← finalLine?_eq_getLast?_lines, h]

variable (hlast : lastLine (earlier ++ text) = lastLine text)
include hlast

theorem lengthBeside_append :
    lengthBeside (earlier ++ text) = earlier.length + lengthBeside text := by
  have hle := length_lastLine_le text
  rw [lengthBeside, hlast, lengthBeside, String.length_append]
  omega

theorem lands_append_iff {offset moved : UInt64}
    (hmoved : moved.toNat = offset.toNat + earlier.length) :
    Lands (earlier ++ text) moved ↔ Lands text offset := by
  rw [Lands, Lands, lengthBeside_append hlast, hmoved, String.length_append]
  omega

theorem not_lands_append {offset : UInt64} (hbefore : offset.toNat < earlier.length) :
    ¬Lands (earlier ++ text) offset := by
  rw [Lands, lengthBeside_append hlast]
  omega

end

namespace Excerpt

/-- Lines in front of a text do not matter. Let `earlier` be finished lines, and let the text not be
the second half of a terminator that begins there. Then the last line is that of the text alone; an
offset moved behind the earlier lines gives the very block that it gives in the text alone, or is
the same fault with its own number; without an offset the blocks are the same; and an offset into
the earlier lines is always a fault. -/
theorem layOut_append {earlier text : String} (hfinished : Finished earlier.toList)
    (hne : text ≠ "") (hhalf : ¬(earlier.toList.getLast? = some '\r' ∧ text = "\n"))
    (file message : String) (line : UInt64) :
    finalLine? (earlier ++ text).toList = finalLine? text.toList ∧
    (∀ offset moved : UInt64, moved.toNat = offset.toNat + earlier.length →
      (∃ block, layOut file message line (some offset) text = .ok block ∧
        layOut file message line (some moved) (earlier ++ text) = .ok block) ∨
      ∃ length,
        layOut file message line (some offset) text = .error (.columnOutside file offset length) ∧
        layOut file message line (some moved) (earlier ++ text) =
          .error (.columnOutside file moved length)) ∧
    (∃ block, layOut file message line none text = .ok block ∧
      layOut file message line none (earlier ++ text) = .ok block) ∧
    ∀ offset : UInt64, offset.toNat < earlier.length → ∃ length,
      layOut file message line (some offset) (earlier ++ text) =
        .error (.columnOutside file offset length) := by
  have hfinal : finalLine? (earlier ++ text).toList = finalLine? text.toList := by
    rw [String.toList_append]
    apply finalLine?_append hfinished
    · rwa [ne_eq, String.toList_eq_nil_iff]
    · rintro ⟨hreturn, hfeed⟩
      exact hhalf ⟨hreturn, String.toList_injective hfeed⟩
  have hlast := lastLine_append hfinal
  have hne' : earlier ++ text ≠ "" := by
    intro h
    exact hne (String.append_eq_empty_iff.mp h).2
  refine ⟨hfinal, fun offset moved hmoved => ?_, ?_, fun offset hbefore => ?_⟩
  · have hlands := lands_append_iff hlast hmoved
    by_cases h : Lands text offset
    · refine .inl ⟨_, layOut_of_lands hne h file message line, ?_⟩
      have hcolumn : moved.toNat - lengthBeside (earlier ++ text) =
          offset.toNat - lengthBeside text := by
        rw [lengthBeside_append hlast, hmoved]
        omega
      rw [layOut_of_lands hne' (hlands.mpr h), hlast, hcolumn]
    · refine .inr ⟨_, layOut_of_not_lands hne h file message line, ?_⟩
      rw [layOut_of_not_lands hne' (mt hlands.mp h), hlast]
  · refine ⟨_, layOut_none hne file message line, ?_⟩
    rw [layOut_none hne', hlast]
  · exact ⟨_, layOut_of_not_lands hne' (not_lands_append hlast hbefore) file message line⟩

/-- The earlier lines end with a carriage return, and the text goes on with a line feed and has
more. The offset 3 of the text is the first column of its last line, where the closing pair is
counted to what stands before the line. -/
theorem layOut_append_of_return :
    let earlier := "é\u2028\r"
    let text := "\nb(\r\n"
    Finished earlier.toList ∧ text ≠ "" ∧
    ¬(earlier.toList.getLast? = some '\r' ∧ text = "\n") ∧
    finalLine? (earlier ++ text).toList = some ['b', '('] ∧
    layOut "a.py" "bad" 2 (some 6) (earlier ++ text) = layOut "a.py" "bad" 2 (some 3) text ∧
    layOut "a.py" "bad" 2 none (earlier ++ text) = layOut "a.py" "bad" 2 none text ∧
    ∃ length, layOut "a.py" "bad" 2 (some 2) (earlier ++ text) =
      .error (.columnOutside "a.py" 2 length) := by
  intro earlier text
  have hlast : earlier.toList.getLast? = some '\r' := by decide
  have hfinished : Finished earlier.toList := by
    intro c hc
    obtain rfl := Option.some.inj (hlast.symm.trans hc)
    decide
  have hne : text ≠ "" := by decide
  have hhalf : ¬(earlier.toList.getLast? = some '\r' ∧ text = "\n") := by decide
  obtain ⟨hfinal, hmoved, ⟨block, hnone, hnone'⟩, hbefore⟩ :=
    layOut_append hfinished hne hhalf "a.py" "bad" 2
  refine ⟨hfinished, hne, hhalf, hfinal.trans (by decide), ?_, hnone'.trans hnone.symm,
    hbefore 2 (by decide)⟩
  rcases hmoved 3 6 (by decide) with ⟨block, htext, hboth⟩ | ⟨length, htext, -⟩
  · exact hboth.trans htext.symm
  · have hlands : Lands text 3 := by decide
    rw [layOut_of_lands hne hlands] at htext
    cases htext

end Excerpt

end LintReport
