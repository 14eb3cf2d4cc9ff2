import LintReport.Proofs.Fields

/-!
What is written is spelt as the grammar asks.

A character is written in one of its spellings, a number as the digits of its numeral, and a parse
failure as an object that names each field once. So all that is known of reading spelt texts holds
of written ones.
-/

namespace LintReport.Json

open Text

/-! ### Strings -/

theorem hexValue?_hexDigit (n : Nat) : hexValue? (hexDigit n) = some (n % 16) := by
  have hdigits : ∀ k < 16, hexValue? (Nat.digitChar k) = some k := by decide
  exact hdigits (n % 16) (Nat.mod_lt n (by decide))

theorem spellsQuad_hexField {n : Nat} (hn : n < 0x10000) : SpellsQuad n (hexField 4 n) := by
  have hvalue :
      ((n / 16 / 16 / 16 % 16 * 16 + n / 16 / 16 % 16) * 16 + n / 16 % 16) * 16 + n % 16 = n := by
    omega
  have hdigits := SpellsQuad.digits (hexValue?_hexDigit (n / 16 / 16 / 16))
    (hexValue?_hexDigit (n / 16 / 16)) (hexValue?_hexDigit (n / 16)) (hexValue?_hexDigit n)
  rwa [hvalue] at hdigits

/-- A character is written as a letter behind a backslash, by its number, or as itself. -/
theorem spellsChar_escaped (c : Char) : SpellsChar c (escaped c) := by
  by_cases hletter : c ∈ ['"', '\\', '\x08', '\x0c', '\n', '\r', '\t']
  · simp only [List.mem_cons, List.not_mem_nil, or_false] at hletter
    rcases hletter with rfl | rfl | rfl | rfl | rfl | rfl | rfl
    · exact .letter (by simp [letterEscapes])
    · exact .letter (by simp [letterEscapes])
    · exact .letter (by simp [letterEscapes])
    · exact .letter (by simp [letterEscapes])
    · exact .letter (by simp [letterEscapes])
    · exact .letter (by simp [letterEscapes])
    · exact .letter (by simp [letterEscapes])
  · simp only [List.mem_cons, List.not_mem_nil, or_false, not_or] at hletter
    obtain ⟨hquote, hbackslash, hb, hf, hn, hr, ht⟩ := hletter
    by_cases hcontrol : c.toNat < 0x20
    · have hwritten : escaped c = '\\' :: 'u' :: hexField 4 c.toNat := by
        simp only [escaped, hquote, hbackslash, hb, hf, hn, hr, ht, hcontrol, if_true, if_false]
        rfl
      rw [hwritten]
      exact .number (spellsQuad_hexField (by omega))
    · have hwritten : escaped c = [c] := by
        simp only [escaped, hquote, hbackslash, hb, hf, hn, hr, ht, hcontrol, if_false]
      rw [hwritten]
      exact .plain hquote hbackslash (Nat.le_of_not_lt hcontrol)

theorem spellsChars_escaped (text : List Char) : SpellsChars text (text.flatMap escaped) := by
  induction text with
  | nil => exact .nil
  | cons c text ih => exact .cons (spellsChar_escaped c) ih

theorem spells_writeString (text : String) :
    Spells (.value (.string text)) (writeString text.toList) :=
  .string (spellsChars_escaped text.toList)

/-! ### Numerals -/

def numeral (n : Nat) : NumberLiteral :=
  ⟨false, Nat.toDigits 10 n, none, none⟩

/-- No numeral but that of zero begins with a zero. -/
theorem spellsNumber_numeral (n : Nat) : SpellsNumber (numeral n) (Nat.toDigits 10 n) := by
  obtain ⟨c, digits, hdigits, hall, hzero⟩ := toDigits_eq_cons n
  have hare : AreDigits (Nat.toDigits 10 n) := by
    rw [hdigits]
    exact ⟨List.cons_ne_nil c digits, hall⟩
  have hone : (Nat.toDigits 10 n).head? = some '0' → Nat.toDigits 10 n = ['0'] := by
    rw [hdigits]
    intro hhead
    obtain rfl := Option.some.inj hhead
    rw [hzero rfl]
  have hspelt : SpellsNumber (numeral n) ([] ++ Nat.toDigits 10 n ++ [] ++ []) :=
    .literal hare hone .absent .absent
  simpa using hspelt

theorem isCount_numeral (n : UInt64) : (Tree.number (numeral n.toNat)).IsCount n :=
  ⟨_, rfl, rfl, rfl, rfl, Nat.ofDigitChars_ten_toDigits⟩

/-! ### Values and members with no blanks about them -/

theorem Spells.bare {tree : Tree} {s : List Char} (h : Spells (.value tree) s) :
    Spells (.element tree) s := by
  simpa using Spells.element blank_nil h blank_nil

theorem Spells.bareMember {name : String} {tree : Tree} {n s : List Char}
    (hname : SpellsChars name.toList n) (h : Spells (.value tree) s) :
    Spells (.member name tree) ('"' :: n ++ ['"'] ++ ':' :: s) :=
  Spells.member blank_nil hname blank_nil h.bare

/-! ### Fields -/

def Field.tree (failure : ParseFailure) : Field → Tree
  | .file => .string failure.file
  | .message => .string failure.message
  | .line => .number (numeral failure.line.toNat)
  | .offset =>
    match failure.offset with
    | none => .null
    | some n => .number (numeral n.toNat)
  | .text => .string failure.text

theorem Field.holds_tree (failure : ParseFailure) (field : Field) :
    field.Holds failure (field.tree failure) := by
  cases field with
  | file | message | text => rfl
  | line => exact isCount_numeral failure.line
  | offset =>
      rw [Holds, tree]
      cases failure.offset with
      | none => rfl
      | some n => exact isCount_numeral n

theorem spells_writeCount (n : UInt64) :
    Spells (.value (.number (numeral n.toNat))) (writeCount n) := by
  rw [writeCount, toList_decimal]
  exact .number (spellsNumber_numeral n.toNat)

theorem spells_writeField (failure : ParseFailure) (field : Field) :
    Spells (.value (field.tree failure)) (writeField failure field) := by
  cases field with
  | file | message | text => exact spells_writeString _
  | line => exact spells_writeCount failure.line
  | offset =>
      rw [Field.tree, writeField]
      cases failure.offset with
      | none => exact .null
      | some n => exact spells_writeCount n

end LintReport.Json
