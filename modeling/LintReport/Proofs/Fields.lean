import LintReport.Proofs.Passing

/-!
Reading the value of one field.

A field asks for a text, for a count, or for a count that may be absent. Whatever a value is spelt
like, it is read as what it says if that is of the kind asked for, and else found to be of another
kind: a value that the grammar spells is never taken for no JSON. Main statement: how a draft is
filled in from the value of a field.
-/

namespace LintReport.Json

open Text

/-! ### What a tree says for a field -/

/-- A number written with digits alone: no sign, no fraction and no exponent. -/
def Tree.IsCount (tree : Tree) (n : UInt64) : Prop :=
  ∃ literal, tree = .number literal ∧ literal.negative = false ∧ literal.fraction = none ∧
    literal.exponent = none ∧ ofDigits literal.whole = n.toNat

def Tree.IsOptionalCount (tree : Tree) : Option UInt64 → Prop
  | none => tree = .null
  | some n => tree.IsCount n

/-- The tree says what the failure has in the field. -/
def Field.Holds (failure : ParseFailure) (field : Field) (tree : Tree) : Prop :=
  match field with
  | .file => tree = .string failure.file
  | .message => tree = .string failure.message
  | .line => tree.IsCount failure.line
  | .offset => tree.IsOptionalCount failure.offset
  | .text => tree = .string failure.text

/-! ### Reading one value -/

/-- A number in the tree's place is finite in double precision, where it is computed from its digits
and its exponent. -/
def Tree.Finite (tree : Tree) : Prop :=
  ∀ literal, tree = .number literal → literal.inRange = true

def orMismatched {α : Type} (found : Option α) (rest : List Char) : Reading α :=
  match found with
  | none => .error .mismatched
  | some a => .ok (a, rest)

theorem mapRead_orMismatched {α β : Type} (f : α → β) (found : Option α) (rest : List Char) :
    mapRead f (orMismatched found rest) = orMismatched (found.map f) rest := by
  cases found <;> rfl

namespace Tree

def text? : Tree → Option String
  | .string text => some text
  | _ => none

def count? : Tree → Option UInt64
  | .number literal => literal.count?
  | _ => none

def optionalCount? : Tree → Option (Option UInt64)
  | .null => some none
  | tree => tree.count?.map some

end Tree

theorem readLiteral_of_spellsNumber {literal : NumberLiteral} {s rest : List Char}
    (h : SpellsNumber literal s) (hrange : literal.inRange = true) (hrest : EndsNumeral rest) :
    readLiteral (s ++ rest) = .ok (literal, rest) := by
  rw [readLiteral, readNumber_of_spellsNumber .truncated h hrest]
  simp only [hrange, if_true]

/-- A value of a type that was not asked for is found to be just that, and not to be no JSON. -/
theorem wrongType_of_spells {tree : Tree} {s rest : List Char} (h : Spells (.value tree) s)
    (hfinite : tree.Finite) (hrest : EndsNumeral rest) : wrongType (s ++ rest) = .mismatched := by
  cases h with
  | null | yes | no => rfl
  | number h =>
      obtain ⟨c, more, rfl, hc⟩ := h.eq_cons
      have hquote : c ≠ '"' := ne_of_startsNumber hc (by decide) (by decide)
      have hread := readLiteral_of_spellsNumber h (hfinite _ rfl) hrest
      rw [List.cons_append] at hread ⊢
      simp only [wrongType, wordAfter?_of_startsNumber hc, hquote, if_false, hc, if_true, hread]
  | string h =>
      have hword : wordAfter? '"' = none := by decide
      have hread := readString_of_spellsChars h rest
      rw [List.append_assoc, List.cons_append, List.singleton_append]
      simp only [wrongType, hword, if_true, hread]
  | emptyArray | array | emptyObject | object => rfl

theorem skipBlanks_of_spells {tree : Tree} {a s : List Char} (ha : Blank a)
    (h : Spells (.value tree) s) (rest : List Char) : skipBlanks (a ++ s ++ rest) = s ++ rest := by
  obtain ⟨c, more, rfl, hc, -⟩ := h.eq_cons
  rw [List.append_assoc, List.cons_append, skipBlanks_append_cons ha hc]

section

variable {tree : Tree} {a s rest : List Char} (ha : Blank a) (h : Spells (.value tree) s)
  (hfinite : tree.Finite) (hrest : EndsNumeral rest)
include ha h hfinite hrest

theorem readText_of_spells : readText (a ++ s ++ rest) = orMismatched tree.text? rest := by
  have hwrong := wrongType_of_spells h hfinite hrest
  rw [readText, skipBlanks_of_spells ha h]
  cases h with
  | string h =>
      have hread := readString_of_spellsChars h rest
      rw [List.append_assoc, List.cons_append, List.singleton_append]
      simp only [hread, mapRead, Tree.text?, orMismatched, String.ofList_toList]
  | number h =>
      obtain ⟨c, more, rfl, hc⟩ := h.eq_cons
      have hquote : c ≠ '"' := ne_of_startsNumber hc (by decide) (by decide)
      split
      · simp_all
      · rw [hwrong]
        rfl
  | _ => exact congrArg Except.error hwrong

theorem readCount_of_spells : readCount (a ++ s ++ rest) = orMismatched tree.count? rest := by
  have hwrong := wrongType_of_spells h hfinite hrest
  rw [readCount, skipBlanks_of_spells ha h]
  cases h with
  | number h =>
      obtain ⟨c, more, rfl, hc⟩ := h.eq_cons
      have hread := readLiteral_of_spellsNumber h (hfinite _ rfl) hrest
      rw [List.cons_append] at hread ⊢
      simp only [hc, if_true, hread, Tree.count?]
      split <;> simp_all [orMismatched]
  | _ => exact congrArg Except.error hwrong

theorem readOptionalCount_of_spells :
    readOptionalCount (a ++ s ++ rest) = orMismatched tree.optionalCount? rest := by
  have hcount := readCount_of_spells blank_nil h hfinite hrest
  rw [List.nil_append] at hcount
  rw [readOptionalCount, skipBlanks_of_spells ha h]
  cases h with
  | null => rfl
  | number h =>
      obtain ⟨c, more, rfl, hc⟩ := h.eq_cons
      have hnull : c ≠ 'n' := ne_of_startsNumber hc (by decide) (by decide)
      split
      · simp_all
      · rw [hcount, mapRead_orMismatched]
        rfl
  | _ => exact congrArg (mapRead some) hcount

end

/-! ### Counts -/

theorem addWhole_of_lt {significand : Nat} {digits : List Char}
    (h : Nat.ofDigitChars 10 digits significand < UInt64.size) :
    Scaled.addWhole significand digits = ⟨Nat.ofDigitChars 10 digits significand, 0⟩ := by
  induction digits generalizing significand with
  | nil => rfl
  | cons digit more ih =>
      rw [Nat.ofDigitChars_cons, Nat.mul_comm 10 significand] at h ⊢
      -- The digits to come only make the number larger, so that it fits now if it fits at the end.
      have hle : significand * 10 + (digit.toNat - '0'.toNat) ≤
          Nat.ofDigitChars 10 more (significand * 10 + (digit.toNat - '0'.toNat)) := by
        rw [Nat.ofDigitChars_eq_ofDigitChars_zero]
        exact Nat.le_add_right_of_le (Nat.le_mul_of_pos_left _ (Nat.pow_pos (by decide)))
      rw [Scaled.addWhole, Scaled.extend?_of_lt (Nat.lt_of_le_of_lt hle h)]
      exact ih h

theorem NumberLiteral.inRange_of_count {literal : NumberLiteral}
    (hfraction : literal.fraction = none) (hexponent : literal.exponent = none)
    (hvalue : ofDigits literal.whole < UInt64.size) : literal.inRange = true := by
  have hwhole : Scaled.addWhole 0 literal.whole = ⟨ofDigits literal.whole, 0⟩ :=
    addWhole_of_lt hvalue
  have hscaled : literal.scaled = ⟨ofDigits literal.whole, 0⟩ := by
    simp only [scaled, hwhole, hfraction, hexponent, Option.getD_none, Scaled.addFraction]
  simp only [inRange, double?, hscaled, Double.scale?, Int.le_refl, if_true, Option.map_some,
    Option.isSome_some]

theorem NumberLiteral.count?_eq_some_iff {literal : NumberLiteral} {n : UInt64} :
    literal.count? = some n ↔ literal.negative = false ∧ literal.fraction = none ∧
      literal.exponent = none ∧ ofDigits literal.whole = n.toNat := by
  have hsize := n.toNat_lt_size
  rw [count?]
  constructor
  · intro h
    obtain ⟨⟨hwhole, hsign, hfits⟩, hn⟩ := Option.ite_none_right_eq_some.mp h
    obtain rfl := Option.some.inj hn
    simp only [isWhole, Bool.and_eq_true, Option.isNone_iff_eq_none] at hwhole
    exact ⟨by simpa using hsign, hwhole.1, hwhole.2, (UInt64.toNat_ofNat_of_lt' hfits).symm⟩
  · rintro ⟨hsign, hfraction, hexponent, hvalue⟩
    have hcount : literal.isWhole = true ∧ ¬literal.negative = true ∧
        ofDigits literal.whole < UInt64.size := by
      refine ⟨?_, by simp [hsign], hvalue ▸ hsize⟩
      simp [isWhole, hfraction, hexponent]
    rw [if_pos hcount, hvalue, UInt64.ofNat_toNat]

/-! ### Filling in a field -/

def Draft.fill (failure : ParseFailure) (draft : Draft) : Field → Draft
  | .file => { draft with file := some failure.file }
  | .message => { draft with message := some failure.message }
  | .line => { draft with line := some failure.line }
  | .offset => { draft with offset := some failure.offset }
  | .text => { draft with text := some failure.text }

theorem Draft.has_fill (failure : ParseFailure) (draft : Draft) {field other : Field}
    (h : other ≠ field) : (draft.fill failure field).has other = draft.has other := by
  cases field <;> cases other <;> simp_all [fill, has]

namespace Tree

theorem text?_eq_some_iff {tree : Tree} {value : String} :
    tree.text? = some value ↔ tree = .string value := by
  cases tree <;> simp [text?]

theorem count?_eq_some_iff {tree : Tree} {n : UInt64} : tree.count? = some n ↔ tree.IsCount n := by
  cases tree <;> simp [count?, IsCount, NumberLiteral.count?_eq_some_iff]

theorem optionalCount?_eq_some_iff {tree : Tree} {n : Option UInt64} :
    tree.optionalCount? = some n ↔ tree.IsOptionalCount n := by
  cases tree <;> cases n <;>
    simp [optionalCount?, IsOptionalCount, count?, IsCount, NumberLiteral.count?_eq_some_iff]

end Tree

theorem Draft.complete_fill (failure : ParseFailure) :
    (Field.all.foldl (Draft.fill failure) .empty).complete = .ok failure := rfl

/-- The draft with what a tree says for a field, if it says anything of the kind asked for. -/
def Draft.take? (draft : Draft) (tree : Tree) : Field → Option Draft
  | .file => tree.text?.map fun value => { draft with file := some value }
  | .message => tree.text?.map fun value => { draft with message := some value }
  | .line => tree.count?.map fun value => { draft with line := some value }
  | .offset => tree.optionalCount?.map fun value => { draft with offset := some value }
  | .text => tree.text?.map fun value => { draft with text := some value }

/-- What is put into a draft, and what it is found as, belongs to some failure if any value does. -/
theorem map_eq_some_iff_of_surjective {α : Type} (part : ParseFailure → α)
    (hpart : ∀ a, ∃ failure, part failure = a) {found : Option α} {put : α → Draft} {next : Draft} :
    found.map put = some next ↔
      ∃ failure, found = some (part failure) ∧ next = put (part failure) := by
  rw [Option.map_eq_some_iff]
  constructor
  · rintro ⟨a, hfound, rfl⟩
    obtain ⟨failure, rfl⟩ := hpart a
    exact ⟨failure, hfound, rfl⟩
  · rintro ⟨failure, hfound, rfl⟩
    exact ⟨_, hfound, rfl⟩

/-- A draft takes in what some failure has in the field, and nothing else. -/
theorem Draft.take?_eq_some_iff {draft next : Draft} {tree : Tree} {field : Field} :
    draft.take? tree field = some next ↔
      ∃ failure, field.Holds failure tree ∧ next = draft.fill failure field := by
  cases field with
  | file =>
      rw [take?, map_eq_some_iff_of_surjective ParseFailure.file fun a =>
        ⟨⟨a, "", 0, none, ""⟩, rfl⟩]
      simp only [Tree.text?_eq_some_iff, Field.Holds, fill]
  | message =>
      rw [take?, map_eq_some_iff_of_surjective ParseFailure.message fun a =>
        ⟨⟨"", a, 0, none, ""⟩, rfl⟩]
      simp only [Tree.text?_eq_some_iff, Field.Holds, fill]
  | line =>
      rw [take?, map_eq_some_iff_of_surjective ParseFailure.line fun a =>
        ⟨⟨"", "", a, none, ""⟩, rfl⟩]
      simp only [Tree.count?_eq_some_iff, Field.Holds, fill]
  | offset =>
      rw [take?, map_eq_some_iff_of_surjective ParseFailure.offset fun a =>
        ⟨⟨"", "", 0, a, ""⟩, rfl⟩]
      simp only [Tree.optionalCount?_eq_some_iff, Field.Holds, fill]
  | text =>
      rw [take?, map_eq_some_iff_of_surjective ParseFailure.text fun a =>
        ⟨⟨"", "", 0, none, a⟩, rfl⟩]
      simp only [Tree.text?_eq_some_iff, Field.Holds, fill]

theorem readField_of_spells {tree : Tree} {a s rest : List Char} (ha : Blank a)
    (h : Spells (.value tree) s) (hfinite : tree.Finite) (hrest : EndsNumeral rest) (draft : Draft)
    (field : Field) :
    readField draft field (a ++ s ++ rest) = orMismatched (draft.take? tree field) rest := by
  cases field with
  | file | message | text =>
      rw [readField, readText_of_spells ha h hfinite hrest, mapRead_orMismatched]
      rfl
  | line =>
      rw [readField, readCount_of_spells ha h hfinite hrest, mapRead_orMismatched]
      rfl
  | offset =>
      rw [readField, readOptionalCount_of_spells ha h hfinite hrest, mapRead_orMismatched]
      rfl

theorem Tree.IsCount.finite {tree : Tree} {n : UInt64} (h : tree.IsCount n) : tree.Finite := by
  obtain ⟨literal, rfl, -, hfraction, hexponent, hvalue⟩ := h
  intro other hother
  obtain rfl := Tree.number.inj hother
  exact NumberLiteral.inRange_of_count hfraction hexponent (hvalue ▸ n.toNat_lt_size)

theorem Field.Holds.finite {failure : ParseFailure} {field : Field} {tree : Tree}
    (h : field.Holds failure tree) : tree.Finite := by
  cases field with
  | file | message | text =>
      intro literal hliteral
      cases h.symm.trans hliteral
  | line => exact Tree.IsCount.finite h
  | offset =>
      rw [Holds] at h
      cases hoffset : failure.offset with
      | none =>
          intro literal hliteral
          rw [hoffset, Tree.IsOptionalCount] at h
          cases h.symm.trans hliteral
      | some n =>
          rw [hoffset, Tree.IsOptionalCount] at h
          exact h.finite

end LintReport.Json
