import LintReport.Proofs.LastLine

/-!
What the lines of a text are.

`SplitsInto` lays down how a text is split from the left, with the break characters given by their
numbers: up to the first break there is the content of a line, the break closes it, together with
the line feed if it is a carriage return in front of one, and what stands behind is split in turn.
Every text is split in exactly one way, which is the one `physicalLines` finds
(`splitsInto_iff`). Main statement: the line found from the end of a text is the last of these.
-/

namespace LintReport.Text

/-- The numbers of the characters that end a line. -/
def breakCodes : List Nat :=
  [0x0A, 0x0B, 0x0C, 0x0D, 0x1C, 0x1D, 0x1E, 0x85, 0x2028, 0x2029]

theorem isLineBreak_iff {c : Char} : isLineBreak c = true ↔ c.toNat ∈ breakCodes := by
  have hcodes : (lineBreaks.map Char.toNat).Perm breakCodes := by decide
  rw [isLineBreak, List.contains_iff_mem, ← hcodes.mem_iff, List.mem_map]
  constructor
  · exact fun h => ⟨c, h, rfl⟩
  · rintro ⟨d, hd, hcode⟩
    rwa [← Char.toNat_inj.mp hcode]

theorem isLineBreak_eq_false_iff {c : Char} : isLineBreak c = false ↔ c.toNat ∉ breakCodes := by
  rw [← isLineBreak_iff, Bool.not_eq_true]

/-- A terminator in front of the rest of a text. A carriage return is one by itself only if no line
feed follows. -/
inductive Terminates : List Char → List Char → Prop
  | pair (rest : List Char) : Terminates ['\r', '\n'] rest
  | single {c : Char} {rest : List Char} (hc : c.toNat ∈ breakCodes)
      (hpair : ¬(c = '\r' ∧ rest.head? = some '\n')) : Terminates [c] rest

/-- The lines that a text is split into from the left. Only the last one may be left open, and then
there is something on it. -/
inductive SplitsInto : List Char → List Line → Prop
  | nil : SplitsInto [] []
  | opened {content : List Char} (hne : content ≠ [])
      (hfree : ∀ c ∈ content, c.toNat ∉ breakCodes) : SplitsInto content [⟨content, []⟩]
  | closed {content ending rest : List Char} {more : List Line}
      (hfree : ∀ c ∈ content, c.toNat ∉ breakCodes) (hending : Terminates ending rest)
      (hrest : SplitsInto rest more) :
      SplitsInto (content ++ ending ++ rest) (⟨content, ending⟩ :: more)

theorem Terminates.length_le {ending rest : List Char} (h : Terminates ending rest) :
    ending.length ≤ 2 := by
  cases h <;> simp

theorem SplitsInto.length_ending_le {text : List Char} {split : List Line}
    (h : SplitsInto text split) : ∀ line ∈ split, line.ending.length ≤ 2 := by
  induction h with
  | nil => simp
  | opened hne hfree => simp
  | closed hfree hending hrest ih => exact List.forall_mem_cons.mpr ⟨hending.length_le, ih⟩

/-! ### There is no other way -/

theorem physicalLines_cons_of_free {c : Char} (hc : c.toNat ∉ breakCodes) (text : List Char) :
    physicalLines (c :: text) = pushOntoFirst c (physicalLines text) := by
  have hfree : isLineBreak c = false := isLineBreak_eq_false_iff.mpr hc
  cases text with
  | nil => simp [physicalLines, pushOntoFirst, hfree]
  | cons d rest =>
      have hpair : ¬(c = '\r' ∧ d = '\n') := by
        rintro ⟨rfl, -⟩
        exact absurd hfree (by decide)
      rw [physicalLines, if_neg hpair, if_neg (by simp [hfree])]

theorem physicalLines_terminator {ending rest : List Char} (h : Terminates ending rest) :
    physicalLines (ending ++ rest) = ⟨[], ending⟩ :: physicalLines rest := by
  cases h with
  | pair rest => simp [physicalLines]
  | @single c rest hc hpair =>
      have hbreak : isLineBreak c = true := isLineBreak_iff.mpr hc
      cases rest with
      | nil => simp [physicalLines, hbreak]
      | cons d more =>
          have hne : ¬(c = '\r' ∧ d = '\n') := fun h => hpair ⟨h.1, by rw [h.2]; rfl⟩
          rw [List.singleton_append, physicalLines, if_neg hne, if_pos hbreak]

theorem physicalLines_append_of_free {content : List Char}
    (hfree : ∀ c ∈ content, c.toNat ∉ breakCodes) (text : List Char) :
    physicalLines (content ++ text) = content.foldr pushOntoFirst (physicalLines text) := by
  induction content with
  | nil => rfl
  | cons c content ih =>
      obtain ⟨hc, hmore⟩ := List.forall_mem_cons.mp hfree
      rw [List.cons_append, physicalLines_cons_of_free hc, ih hmore, List.foldr_cons]

theorem foldr_pushOntoFirst_cons (content : List Char) (line : Line) (more : List Line) :
    content.foldr pushOntoFirst (line :: more) =
      ⟨content ++ line.content, line.ending⟩ :: more := by
  induction content with
  | nil => rfl
  | cons c content ih => rw [List.foldr_cons, ih, pushOntoFirst, Line.push, List.cons_append]

theorem foldr_pushOntoFirst_nil {content : List Char} (hne : content ≠ []) :
    content.foldr pushOntoFirst [] = [⟨content, []⟩] := by
  obtain ⟨before, c, rfl⟩ := (List.eq_nil_or_concat content).resolve_left hne
  rw [List.concat_eq_append, List.foldr_append, List.foldr_cons, List.foldr_nil, pushOntoFirst,
    foldr_pushOntoFirst_cons]

theorem SplitsInto.eq_physicalLines {text : List Char} {split : List Line}
    (h : SplitsInto text split) : split = physicalLines text := by
  induction h with
  | nil => rfl
  | @opened content hne hfree =>
      have hlines := physicalLines_append_of_free hfree []
      rw [List.append_nil, physicalLines, foldr_pushOntoFirst_nil hne] at hlines
      exact hlines.symm
  | @closed content ending rest more hfree hending hrest ih =>
      rw [List.append_assoc, physicalLines_append_of_free hfree, physicalLines_terminator hending,
        foldr_pushOntoFirst_cons, List.append_nil, ih]

/-! ### There is this one -/

theorem SplitsInto.push {text : List Char} {split : List Line} (h : SplitsInto text split)
    {c : Char} (hc : c.toNat ∉ breakCodes) : SplitsInto (c :: text) (pushOntoFirst c split) := by
  cases h with
  | nil => exact .opened (List.cons_ne_nil c []) (List.forall_mem_singleton.mpr hc)
  | opened hne hfree =>
      exact .opened (List.cons_ne_nil c text) (List.forall_mem_cons.mpr ⟨hc, hfree⟩)
  | closed hfree hending hrest =>
      exact .closed (List.forall_mem_cons.mpr ⟨hc, hfree⟩) hending hrest

theorem SplitsInto.terminator {ending rest : List Char} {split : List Line}
    (h : SplitsInto rest split) (hending : Terminates ending rest) :
    SplitsInto (ending ++ rest) (⟨[], ending⟩ :: split) :=
  @SplitsInto.closed [] ending rest split (List.forall_mem_nil _) hending h

theorem splitsInto_physicalLines (text : List Char) : SplitsInto text (physicalLines text) := by
  fun_induction physicalLines text with
  | case1 => exact .nil
  | case2 c hc => exact .terminator .nil (.single (isLineBreak_iff.mp hc) (by simp))
  | case3 c hc =>
      have hfree : c.toNat ∉ breakCodes := isLineBreak_eq_false_iff.mp (by simpa using hc)
      exact .push .nil hfree
  | case4 c d rest hcd ih =>
      obtain ⟨rfl, rfl⟩ := hcd
      exact ih.terminator (.pair rest)
  | case5 c d rest hcd hc ih =>
      have hpair : ¬(c = '\r' ∧ (d :: rest).head? = some '\n') := by simpa using hcd
      exact ih.terminator (.single (isLineBreak_iff.mp hc) hpair)
  | case6 c d rest hcd hc ih =>
      exact ih.push (isLineBreak_eq_false_iff.mp (by simpa using hc))

/-- A text is split in one way, and no other. -/
theorem splitsInto_iff {text : List Char} {split : List Line} :
    SplitsInto text split ↔ split = physicalLines text := by
  constructor
  · exact SplitsInto.eq_physicalLines
  · rintro rfl
    exact splitsInto_physicalLines text

/-- The line found from the end of a text is the last of the lines that the text is split into from
the left. There is none only if the text is not split into any line, which is to say that it is
empty. -/
theorem finalLine?_of_split (text : List Char) :
    ∃ split, (∀ other, SplitsInto text other ↔ other = split) ∧
      finalLine? text = (split.map Line.content).getLast? ∧
      (finalLine? text = none ↔ split = []) ∧ (split = [] ↔ text = []) :=
  ⟨physicalLines text, fun _ => splitsInto_iff, finalLine?_eq_getLast?_lines text,
    finalLine?_eq_none_iff.trans physicalLines_eq_nil_iff.symm, physicalLines_eq_nil_iff⟩

example : finalLine? ['a', '\r', '\r', '\n', 'b', '\n', '\r'] = some [] ∧
    physicalLines ['a', '\r', '\r', '\n', 'b', '\n', '\r'] =
      [⟨['a'], ['\r']⟩, ⟨[], ['\r', '\n']⟩, ⟨['b'], ['\n']⟩, ⟨[], ['\r']⟩] := by decide

end LintReport.Text
