import LintReport.Proofs.Recognition

/-!
Values that nobody asks for are passed over as a whole.

The reader keeps no tree of what it passes over, only the brackets that are open. So for each part
of the grammar there is one statement of where the reader goes on after it (`PassedOver`), and the
spelling of the part shows how it gets there. Main statement: a value of any depth is passed over up
to what follows it.
-/

namespace LintReport.Json

/-! ### One step of the reader -/

theorem skipFrom_ended (frame : Frame) (outer : List Frame) (s : List Char) :
    skipFrom ⟨.ended, frame :: outer⟩ s =
      match leaveValue frame outer s with
      | .error fault => .error fault
      | .ok (next, rest) => skipFrom next rest := by
  rw [skipFrom]
  split <;> simp_all

theorem skipFrom_due (frames : List Frame) (s : List Char) :
    skipFrom ⟨.due, frames⟩ s =
      match enterValue frames s with
      | .error fault => .error fault
      | .ok (next, rest) => skipFrom next rest := by
  rw [skipFrom]
  split <;> simp_all

theorem skipFrom_ended_blanks {blanks : List Char} (h : Blank blanks) (frame : Frame)
    (outer : List Frame) (rest : List Char) :
    skipFrom ⟨.ended, frame :: outer⟩ (blanks ++ rest) =
      skipFrom ⟨.ended, frame :: outer⟩ rest := by
  rw [skipFrom_ended, skipFrom_ended, leaveValue, skipBlanks_append h, ← leaveValue]

theorem skipFrom_due_skipBlanks (frames : List Frame) (s : List Char) :
    skipFrom ⟨.due, frames⟩ (skipBlanks s) = skipFrom ⟨.due, frames⟩ s := by
  rw [skipFrom_due, skipFrom_due, enterValue, skipBlanks_skipBlanks, ← enterValue]

theorem skipFrom_due_blanks {blanks : List Char} (h : Blank blanks) (frames : List Frame)
    (rest : List Char) :
    skipFrom ⟨.due, frames⟩ (blanks ++ rest) = skipFrom ⟨.due, frames⟩ rest := by
  rw [← skipFrom_due_skipBlanks, skipBlanks_append h, skipFrom_due_skipBlanks]

theorem skipName_skipBlanks (s : List Char) : skipName (skipBlanks s) = skipName s := by
  rw [skipName, skipBlanks_skipBlanks, ← skipName]

theorem readColon_blanks {blanks : List Char} (h : Blank blanks) (rest : List Char) :
    readColon (blanks ++ ':' :: rest) = .ok rest := by
  rw [readColon, skipBlanks_append_cons h (by decide)]
  rfl

/-! ### Beginnings -/

/-- A number begins with a digit or a minus, which no other value does. -/
theorem SpellsNumber.eq_cons {literal : NumberLiteral} {s : List Char}
    (h : SpellsNumber literal s) : ∃ c more, s = c :: more ∧ (c = '-' ∨ c.isDigit = true) := by
  cases h with
  | @literal negative whole f e fraction exponent hwhole hzero hfraction hexponent =>
      cases negative with
      | true => exact ⟨'-', whole ++ f ++ e, by simp, .inl rfl⟩
      | false =>
          obtain ⟨c, more, rfl, hc⟩ := hwhole.eq_cons
          exact ⟨c, more ++ f ++ e, by simp, .inr hc⟩

theorem ne_of_startsNumber {c d : Char} (hc : c = '-' ∨ c.isDigit = true) (hminus : d ≠ '-')
    (hdigit : d.isDigit = false) : c ≠ d := by
  rintro rfl
  simp_all

theorem isBlank_of_startsNumber {c : Char} (hc : c = '-' ∨ c.isDigit = true) :
    isBlank c = false := by
  have hspace : c ≠ ' ' := ne_of_startsNumber hc (by decide) (by decide)
  have hfeed : c ≠ '\n' := ne_of_startsNumber hc (by decide) (by decide)
  have htab : c ≠ '\t' := ne_of_startsNumber hc (by decide) (by decide)
  have hreturn : c ≠ '\r' := ne_of_startsNumber hc (by decide) (by decide)
  simp [isBlank, hspace, hfeed, htab, hreturn]

theorem wordAfter?_of_startsNumber {c : Char} (hc : c = '-' ∨ c.isDigit = true) :
    wordAfter? c = none := by
  have hnull : c ≠ 'n' := ne_of_startsNumber hc (by decide) (by decide)
  have htrue : c ≠ 't' := ne_of_startsNumber hc (by decide) (by decide)
  have hfalse : c ≠ 'f' := ne_of_startsNumber hc (by decide) (by decide)
  simp [wordAfter?, hnull, htrue, hfalse]

/-- A value begins with a character that is neither a blank nor a closing bracket. -/
theorem Spells.eq_cons {tree : Tree} {s : List Char} (h : Spells (.value tree) s) :
    ∃ c more, s = c :: more ∧ isBlank c = false ∧ c ≠ ']' := by
  cases h with
  | number h =>
      obtain ⟨c, more, rfl, hc⟩ := h.eq_cons
      exact ⟨c, more, rfl, isBlank_of_startsNumber hc,
        ne_of_startsNumber hc (by decide) (by decide)⟩
  | _ => exact ⟨_, _, rfl, by decide, by decide⟩

/-! ### Words, numbers and strings -/

/-- A value that is no array and no object ends where the reader of scalars leaves off. -/
theorem skipFrom_due_of_skipScalar {frames : List Frame} {c : Char} {s rest : List Char}
    (hc : isBlank c = false) (hbracket : c ≠ '[') (hbrace : c ≠ '{')
    (h : skipScalar (c :: s) = .ok rest) :
    skipFrom ⟨.due, frames⟩ (c :: s) = skipFrom ⟨.ended, frames⟩ rest := by
  rw [skipFrom_due, enterValue, skipBlanks_cons hc]
  simp only [hbracket, hbrace, if_false, h, giving]

theorem readExactly_append (word rest : List Char) :
    readExactly word (word ++ rest) = .ok rest := by
  induction word with
  | nil => rfl
  | cons c word ih => rw [List.cons_append, readExactly, if_pos rfl, ih]

theorem skipScalar_of_word {c : Char} {word : List Char} (h : wordAfter? c = some word)
    (rest : List Char) : skipScalar (c :: word ++ rest) = .ok rest := by
  simp only [List.cons_append, skipScalar, h, readExactly_append]

theorem skipScalar_of_spellsNumber {literal : NumberLiteral} {c : Char} {s rest : List Char}
    (h : SpellsNumber literal (c :: s)) (hc : c = '-' ∨ c.isDigit = true)
    (hrest : EndsNumeral rest) : skipScalar (c :: s ++ rest) = .ok rest := by
  have hquote : c ≠ '"' := ne_of_startsNumber hc (by decide) (by decide)
  have hread := readNumber_of_spellsNumber .malformed h hrest
  rw [List.cons_append] at hread ⊢
  simp only [skipScalar, wordAfter?_of_startsNumber hc, hquote, hc, hread, if_true, if_false]

theorem skipScalar_of_spellsChars {text s : List Char} (h : SpellsChars text s)
    (rest : List Char) : skipScalar ('"' :: s ++ ['"'] ++ rest) = .ok rest := by
  have hword : wordAfter? '"' = none := by decide
  have hpassed := skipString_of_spellsChars h rest
  rw [List.append_assoc, List.cons_append, List.singleton_append]
  simp only [skipScalar, hword, if_true, hpassed]

/-! ### Whole values -/

/-- Where the reader goes on that has passed over a part. The elements of an array and the members
of an object are passed over up to the bracket that closes them, and each name before the value
that is due is read with it. -/
def PassedOver : Part → List Char → Prop
  | .value _, s => ∀ frames rest, EndsNumeral rest →
      skipFrom ⟨.due, frames⟩ (s ++ rest) = skipFrom ⟨.ended, frames⟩ rest
  | .element _, s => ∀ frame outer rest, EndsNumeral rest →
      skipFrom ⟨.due, frame :: outer⟩ (s ++ rest) = skipFrom ⟨.ended, frame :: outer⟩ rest
  | .elements _, s => ∀ outer rest,
      skipFrom ⟨.due, .array :: outer⟩ (s ++ ']' :: rest) = skipFrom ⟨.ended, outer⟩ rest
  | .member _ _, s => ∀ outer rest, EndsNumeral rest → ∃ after, skipName (s ++ rest) = .ok after ∧
      skipFrom ⟨.due, .object :: outer⟩ after = skipFrom ⟨.ended, .object :: outer⟩ rest
  | .members _, s => ∀ outer rest, ∃ after, skipName (s ++ '}' :: rest) = .ok after ∧
      skipFrom ⟨.due, .object :: outer⟩ after = skipFrom ⟨.ended, outer⟩ rest

theorem EndsNumeral.blanks {blanks rest : List Char} (h : Blank blanks) (hrest : EndsNumeral rest) :
    EndsNumeral (blanks ++ rest) := by
  cases blanks with
  | nil => exact hrest
  | cons c blanks =>
      have hc := h c List.mem_cons_self
      simp only [List.mem_cons, List.not_mem_nil, or_false] at hc
      simp only [EndsNumeral, List.cons_append, List.head?_cons, Option.mem_some_iff, forall_eq']
      rcases hc with rfl | rfl | rfl | rfl <;> decide

theorem endsNumeral_of_mem {c : Char} (h : c ∈ [',', ']', '}']) (rest : List Char) :
    EndsNumeral (c :: rest) := by
  simp only [List.mem_cons, List.not_mem_nil, or_false] at h
  simp only [EndsNumeral, List.head?_cons, Option.mem_some_iff, forall_eq']
  rcases h with rfl | rfl | rfl <;> decide

theorem skipFrom_ended_comma (outer : List Frame) (rest : List Char) :
    skipFrom ⟨.ended, .array :: outer⟩ (',' :: rest) = skipFrom ⟨.due, .array :: outer⟩ rest := by
  rw [skipFrom_ended, leaveValue, skipBlanks_cons (by decide)]
  rfl

theorem skipFrom_ended_closing (frame : Frame) (outer : List Frame) (rest : List Char) :
    skipFrom ⟨.ended, frame :: outer⟩ (frame.closing :: rest) = skipFrom ⟨.ended, outer⟩ rest := by
  cases frame with
  | array | object =>
      rw [skipFrom_ended, leaveValue, skipBlanks_cons (by decide)]
      rfl

/-- After a comma in an object comes the name of the next member. -/
theorem skipFrom_ended_comma_of_skipName {outer : List Frame} {s after : List Char}
    (h : skipName s = .ok after) :
    skipFrom ⟨.ended, .object :: outer⟩ (',' :: s) = skipFrom ⟨.due, .object :: outer⟩ after := by
  rw [skipFrom_ended, leaveValue, skipBlanks_cons (by decide)]
  simp only [if_true, h, giving]

theorem isBlank_closing (frame : Frame) : isBlank frame.closing = false := by
  cases frame <;> decide

theorem enterFrame_closing {blanks : List Char} (h : Blank blanks) (frame : Frame)
    (outer : List Frame) (rest : List Char) :
    enterFrame frame outer (blanks ++ frame.closing :: rest) = .ok (⟨.ended, outer⟩, rest) := by
  rw [enterFrame, skipBlanks_append_cons h (isBlank_closing frame)]
  simp only [if_true]

theorem enterValue_bracket (frames : List Frame) (s : List Char) :
    enterValue frames ('[' :: s) = enterFrame .array frames s := by
  rw [enterValue, skipBlanks_cons (by decide)]
  rfl

theorem enterValue_brace (frames : List Frame) (s : List Char) :
    enterValue frames ('{' :: s) = enterFrame .object frames s := by
  rw [enterValue, skipBlanks_cons (by decide)]
  rfl

theorem skipFrom_due_bracket (frames : List Frame) {c : Char} {s more : List Char}
    (hs : skipBlanks s = c :: more) (hc : c ≠ ']') :
    skipFrom ⟨.due, frames⟩ ('[' :: s) = skipFrom ⟨.due, .array :: frames⟩ s := by
  rw [← skipFrom_due_skipBlanks (.array :: frames) s, hs, skipFrom_due, enterValue_bracket]
  simp only [enterFrame, hs, Frame.closing, hc, if_false]

theorem skipBlanks_of_skipName {s after : List Char} :
    skipName s = .ok after → ∃ more, skipBlanks s = '"' :: more := by
  fun_cases skipName s with
  | case3 more hquote => exact fun _ => ⟨more, hquote⟩
  | _ => rintro ⟨⟩

theorem skipFrom_due_brace (frames : List Frame) {s after : List Char}
    (h : skipName s = .ok after) :
    skipFrom ⟨.due, frames⟩ ('{' :: s) = skipFrom ⟨.due, .object :: frames⟩ after := by
  obtain ⟨more, hs⟩ := skipBlanks_of_skipName h
  have hname : skipName ('"' :: more) = .ok after := by rw [← hs, skipName_skipBlanks, h]
  rw [skipFrom_due, enterValue_brace, enterFrame, hs]
  simp [Frame.closing, hname, giving]

theorem skipName_of_spellsChars {name a n b : List Char} (ha : Blank a) (hname : SpellsChars name n)
    (hb : Blank b) (rest : List Char) :
    skipName (a ++ '"' :: n ++ '"' :: b ++ ':' :: rest) = .ok rest := by
  have hpassed := skipString_of_spellsChars hname (b ++ ':' :: rest)
  have hquote : skipBlanks (a ++ '"' :: n ++ '"' :: b ++ ':' :: rest) =
      '"' :: (n ++ '"' :: (b ++ ':' :: rest)) := by
    simp only [List.append_assoc, List.cons_append]
    exact skipBlanks_append_cons ha (by decide) _
  rw [skipName, hquote]
  simp only [hpassed, readColon_blanks hb]

theorem Spells.skipBlanks_element {tree : Tree} {s : List Char} (h : Spells (.element tree) s)
    (rest : List Char) : ∃ c more, skipBlanks (s ++ rest) = c :: more ∧ c ≠ ']' := by
  cases h with
  | element ha h hb =>
      obtain ⟨c, more, rfl, hblank, hc⟩ := h.eq_cons
      rw [List.append_assoc, List.append_assoc, List.cons_append, skipBlanks_append_cons ha hblank]
      exact ⟨c, _, rfl, hc⟩

theorem Spells.skipBlanks_elements {items : List Tree} {s : List Char}
    (h : Spells (.elements items) s) (rest : List Char) :
    ∃ c more, skipBlanks (s ++ rest) = c :: more ∧ c ≠ ']' := by
  cases h with
  | lastElement h => exact h.skipBlanks_element rest
  | elements h hmore =>
      rw [List.append_assoc]
      exact h.skipBlanks_element _

/-- Whatever its spelling, a part is passed over up to what follows it. -/
theorem passedOver {part : Part} {s : List Char} (h : Spells part s) : PassedOver part s := by
  induction h with
  | null | yes | no =>
      intro frames rest _
      exact skipFrom_due_of_skipScalar (by decide) (by decide) (by decide)
        (skipScalar_of_word rfl rest)
  | number h =>
      intro frames rest hrest
      obtain ⟨c, more, rfl, hc⟩ := h.eq_cons
      exact skipFrom_due_of_skipScalar (isBlank_of_startsNumber hc)
        (ne_of_startsNumber hc (by decide) (by decide))
        (ne_of_startsNumber hc (by decide) (by decide)) (skipScalar_of_spellsNumber h hc hrest)
  | string h =>
      intro frames rest _
      exact skipFrom_due_of_skipScalar (by decide) (by decide) (by decide)
        (skipScalar_of_spellsChars h rest)
  | emptyArray h =>
      intro frames rest _
      have hclosed := enterFrame_closing h .array frames rest
      rw [Frame.closing] at hclosed
      rw [List.append_assoc, List.cons_append, List.singleton_append, skipFrom_due,
        enterValue_bracket, hclosed]
  | array h ih =>
      intro frames rest _
      obtain ⟨c, more, hs, hc⟩ := h.skipBlanks_elements (']' :: rest)
      rw [List.append_assoc, List.cons_append, List.singleton_append,
        skipFrom_due_bracket frames hs hc, ih]
  | emptyObject h =>
      intro frames rest _
      have hclosed := enterFrame_closing h .object frames rest
      rw [Frame.closing] at hclosed
      rw [List.append_assoc, List.cons_append, List.singleton_append, skipFrom_due,
        enterValue_brace, hclosed]
  | object h ih =>
      intro frames rest _
      obtain ⟨after, hname, hafter⟩ := ih frames rest
      rw [List.append_assoc, List.cons_append, List.singleton_append,
        skipFrom_due_brace frames hname, hafter]
  | element ha h hb ih =>
      intro frame outer rest hrest
      rw [List.append_assoc, List.append_assoc, skipFrom_due_blanks ha,
        ih _ _ (hrest.blanks hb), skipFrom_ended_blanks hb]
  | lastElement h ih =>
      intro outer rest
      rw [ih .array outer _ (endsNumeral_of_mem (by simp) rest)]
      exact skipFrom_ended_closing .array outer rest
  | elements h hmore ih ihmore =>
      intro outer rest
      rw [List.append_assoc, List.cons_append, ih .array outer _ (endsNumeral_of_mem (by simp) _),
        skipFrom_ended_comma, ihmore]
  | member ha hname hb h ih =>
      intro outer rest hrest
      refine ⟨_, ?_, ih .object outer rest hrest⟩
      rw [List.append_assoc, List.cons_append]
      exact skipName_of_spellsChars ha hname hb _
  | lastMember h ih =>
      intro outer rest
      obtain ⟨after, hname, hafter⟩ := ih outer _ (endsNumeral_of_mem (c := '}') (by simp) rest)
      refine ⟨after, hname, ?_⟩
      rw [hafter]
      exact skipFrom_ended_closing .object outer rest
  | members h hmore ih ihmore =>
      intro outer rest
      obtain ⟨next, hnext, hend⟩ := ihmore outer rest
      obtain ⟨after, hname, hafter⟩ := ih outer _ (endsNumeral_of_mem (c := ',') (by simp) _)
      rw [List.append_assoc, List.cons_append]
      refine ⟨after, hname, ?_⟩
      rw [hafter, skipFrom_ended_comma_of_skipName hnext, hend]

theorem skipValue_of_spells {tree : Tree} {a s rest : List Char} (ha : Blank a)
    (h : Spells (.value tree) s) (hrest : EndsNumeral rest) :
    skipValue (a ++ s ++ rest) = .ok rest := by
  rw [skipValue, List.append_assoc, skipFrom_due_blanks ha, passedOver h [] rest hrest, skipFrom]

end LintReport.Json
