import LintReport.Proofs.Grammar
import Mathlib.Data.List.Basic
import Mathlib.Data.List.DropRight

/-!
The readers recognise what the grammar spells.

Whatever spelling a string or a number has, it is read as what it spells, and no further. What
follows is left alone, so that a value can be read in the middle of a text. A number needs to be
followed by something that cannot continue it (`EndsNumeral`). Main statements: what is read of a
string, what is passed over of one, and what is read of a number.
-/

namespace LintReport.Json

open Text

/-! ### Blanks -/

theorem skipBlanks_cons {c : Char} (hc : isBlank c = false) (rest : List Char) :
    skipBlanks (c :: rest) = c :: rest :=
  List.dropWhile_cons_of_neg (by simp [hc])

theorem blank_nil : Blank [] := by
  simp [Blank]

theorem Blank.isBlank {s : List Char} (h : Blank s) : ∀ c ∈ s, isBlank c = true := by
  intro c hc
  have hblank := h c hc
  simp only [List.mem_cons, List.not_mem_nil, or_false] at hblank
  rcases hblank with rfl | rfl | rfl | rfl <;> rfl

theorem skipBlanks_append {blanks : List Char} (h : Blank blanks) (rest : List Char) :
    skipBlanks (blanks ++ rest) = skipBlanks rest :=
  List.dropWhile_append_of_pos h.isBlank

theorem skipBlanks_append_cons {blanks : List Char} (h : Blank blanks) {c : Char}
    (hc : isBlank c = false) (rest : List Char) :
    skipBlanks (blanks ++ c :: rest) = c :: rest := by
  rw [skipBlanks_append h, skipBlanks_cons hc]

theorem skipBlanks_skipBlanks (s : List Char) : skipBlanks (skipBlanks s) = skipBlanks s :=
  List.dropWhile_idempotent isBlank s

/-! ### Strings -/

theorem readHexQuad_of_spellsQuad {n : Nat} {s : List Char} (h : SpellsQuad n s)
    (rest : List Char) : readHexQuad (s ++ rest) = .ok (n, rest) := by
  cases h with
  | digits ha hb hc hd =>
      simp only [List.cons_append, List.nil_append, readHexQuad, ha, hb, hc, hd]

theorem letterEscape?_of_mem {letter c : Char} (h : (letter, c) ∈ letterEscapes) :
    letterEscape? letter = some c := by
  simp only [letterEscapes, List.mem_cons, Prod.mk.injEq, List.not_mem_nil, or_false] at h
  rcases h with ⟨rfl, rfl⟩ | ⟨rfl, rfl⟩ | ⟨rfl, rfl⟩ | ⟨rfl, rfl⟩ | ⟨rfl, rfl⟩ | ⟨rfl, rfl⟩ |
    ⟨rfl, rfl⟩ | ⟨rfl, rfl⟩ <;> rfl

theorem not_surrogate (c : Char) :
    isLowSurrogate c.toNat = false ∧ isHighSurrogate c.toNat = false := by
  have hvalid : c.toNat < 0xd800 ∨ 0xdfff < c.toNat ∧ c.toNat < 0x110000 := c.valid
  simp only [isLowSurrogate, isHighSurrogate, Bool.and_eq_false_iff, decide_eq_false_iff_not]
  omega

theorem readNumberedChar_of_spellsQuad {c : Char} {s : List Char} (h : SpellsQuad c.toNat s)
    (rest : List Char) : readNumberedChar (s ++ rest) = .ok (c, rest) := by
  obtain ⟨hlow, hhigh⟩ := not_surrogate c
  simp only [readNumberedChar, readHexQuad_of_spellsQuad h, hlow, hhigh, Bool.false_eq_true,
    if_false, Char.ofNat_toNat]

theorem readNumberedChar_of_pair {c : Char} {high low : Nat} {first second : List Char}
    (hfirst : SpellsQuad high first) (hsecond : SpellsQuad low second)
    (hhigh : 0xd800 ≤ high ∧ high < 0xdc00) (hlow : 0xdc00 ≤ low ∧ low < 0xe000)
    (hc : c.toNat = 0x10000 + (high - 0xd800) * 0x400 + (low - 0xdc00)) (rest : List Char) :
    readNumberedChar (first ++ '\\' :: 'u' :: (second ++ rest)) = .ok (c, rest) := by
  have hnotLow : isLowSurrogate high = false := by
    simp only [isLowSurrogate, Bool.and_eq_false_iff, decide_eq_false_iff_not]
    omega
  have hisHigh : isHighSurrogate high = true := by
    simp only [isHighSurrogate, Bool.and_eq_true, decide_eq_true_eq]
    omega
  have hisLow : isLowSurrogate low = true := by
    simp only [isLowSurrogate, Bool.and_eq_true, decide_eq_true_eq]
    omega
  have hjoined : ofSurrogates high low = c := by rw [ofSurrogates, ← hc, Char.ofNat_toNat]
  simp only [readNumberedChar, readHexQuad_of_spellsQuad hfirst, hnotLow, hisHigh, readExactly,
    readHexQuad_of_spellsQuad hsecond, hisLow, hjoined, Bool.false_eq_true, if_true, if_false]

theorem readEscape_letter {letter c : Char} (hc : letterEscape? letter = some c)
    (rest : List Char) : readEscape (letter :: rest) = .ok (c, rest) := by
  unfold readEscape
  split
  · simp_all
  · simp_all [letterEscape?]
  · simp_all

theorem readString_quote (rest : List Char) : readString ('"' :: rest) = .ok ([], rest) := by
  rw [readString, if_pos rfl]

theorem readString_backslash {s rest : List Char} {c : Char} (h : readEscape s = .ok (c, rest)) :
    readString ('\\' :: s) = mapRead (c :: ·) (readString rest) := by
  rw [readString, if_neg (by decide), if_pos rfl]
  split
  · simp_all
  · simp_all

theorem readString_of_spellsChar {c : Char} {s : List Char} (h : SpellsChar c s)
    (rest : List Char) : readString (s ++ rest) = mapRead (c :: ·) (readString rest) := by
  cases h with
  | plain hquote hbackslash hcontrol =>
      rw [List.singleton_append, readString, if_neg hquote, if_neg hbackslash,
        if_neg (Nat.not_lt_of_le hcontrol)]
  | letter h => exact readString_backslash (readEscape_letter (letterEscape?_of_mem h) rest)
  | number h => exact readString_backslash (readNumberedChar_of_spellsQuad h rest)
  | pair hfirst hsecond hhigh hlow hc =>
      rw [List.append_assoc]
      exact readString_backslash (readNumberedChar_of_pair hfirst hsecond hhigh hlow hc rest)

theorem readString_of_spellsChars {text s : List Char} (h : SpellsChars text s)
    (rest : List Char) : readString (s ++ '"' :: rest) = .ok (text, rest) := by
  induction h with
  | nil => exact readString_quote rest
  | cons hchar hmore ih =>
      rw [List.append_assoc, readString_of_spellsChar hchar, ih]
      rfl

theorem skipString_backslash {s rest : List Char} (h : skipEscape s = .ok rest) :
    skipString ('\\' :: s) = skipString rest := by
  rw [skipString, if_neg (by decide), if_pos rfl]
  split
  · simp_all
  · simp_all

theorem skipEscape_letter {letter c : Char} (hc : letterEscape? letter = some c)
    (rest : List Char) : skipEscape (letter :: rest) = .ok rest := by
  unfold skipEscape
  split
  · simp_all
  · simp_all [letterEscape?]
  · simp_all

theorem skipEscape_quad {n : Nat} {s : List Char} (h : SpellsQuad n s) (rest : List Char) :
    skipEscape ('u' :: (s ++ rest)) = .ok rest := by
  rw [skipEscape, readHexQuad_of_spellsQuad h]
  rfl

/-- A string that is passed over may have half a pair in it, so the two halves of one are passed
over on their own. -/
theorem skipString_of_spellsChar {c : Char} {s : List Char} (h : SpellsChar c s)
    (rest : List Char) : skipString (s ++ rest) = skipString rest := by
  cases h with
  | plain hquote hbackslash hcontrol =>
      rw [List.singleton_append, skipString, if_neg hquote, if_neg hbackslash,
        if_neg (Nat.not_lt_of_le hcontrol)]
  | letter h => exact skipString_backslash (skipEscape_letter (letterEscape?_of_mem h) rest)
  | number h => exact skipString_backslash (skipEscape_quad h rest)
  | pair hfirst hsecond hhigh hlow hc =>
      rw [List.append_assoc]
      exact (skipString_backslash (skipEscape_quad hfirst _)).trans
        (skipString_backslash (skipEscape_quad hsecond rest))

theorem skipString_of_spellsChars {text s : List Char} (h : SpellsChars text s)
    (rest : List Char) : skipString (s ++ '"' :: rest) = .ok rest := by
  induction h with
  | nil => rw [List.nil_append, skipString, if_pos rfl]
  | cons hchar hmore ih => rw [List.append_assoc, skipString_of_spellsChar hchar, ih]

/-! ### Numbers -/

/-- A numeral ends in front of such a text. -/
def EndsNumeral (rest : List Char) : Prop :=
  ∀ c ∈ rest.head?, c.isDigit = false ∧ c ≠ '.' ∧ c ≠ 'e' ∧ c ≠ 'E'

/-- Digits end in front of such a text. -/
def EndsDigits (rest : List Char) : Prop :=
  ∀ c ∈ rest.head?, c.isDigit = false

theorem readDigits_of_areDigits (short : Fault) {digits rest : List Char} (h : AreDigits digits)
    (hrest : EndsDigits rest) : readDigits short (digits ++ rest) = .ok (digits, rest) := by
  obtain ⟨hne, hall⟩ := h
  cases digits with
  | nil => exact absurd rfl hne
  | cons c digits =>
      have hc : c.isDigit = true := hall c List.mem_cons_self
      have hdigits : ∀ d ∈ digits, d.isDigit = true := fun d hd =>
        hall d (List.mem_cons_of_mem c hd)
      have hspan : spanDigits (digits ++ rest) = (digits, rest) := by
        rw [spanDigits, List.takeWhile_append_of_pos hdigits, List.dropWhile_append_of_pos hdigits]
        cases rest with
        | nil => simp
        | cons d rest => simp [hrest d rfl]
      simp only [List.cons_append, readDigits, hc, hspan, if_true]

theorem readWhole_of_areDigits (short : Fault) {digits rest : List Char} (h : AreDigits digits)
    (hzero : digits.head? = some '0' → digits = ['0']) (hrest : EndsDigits rest) :
    readWhole short (digits ++ rest) = .ok (digits, rest) := by
  rw [readWhole, readDigits_of_areDigits short h hrest]
  split
  case h_1 hread =>
    simp only [Except.ok.injEq, Prod.mk.injEq] at hread
    obtain ⟨rfl, -⟩ := hread
    simp at hzero
  case h_2 => rfl

theorem AreDigits.eq_cons {digits : List Char} (h : AreDigits digits) :
    ∃ c more, digits = c :: more ∧ c.isDigit = true := by
  obtain ⟨c, more, rfl⟩ := List.exists_cons_of_ne_nil h.1
  exact ⟨c, more, rfl, h.2 c List.mem_cons_self⟩

theorem readSign_of_spellsSign {negative : Bool} {sign digits : List Char}
    (hsign : SpellsSign negative sign) (h : AreDigits digits) (rest : List Char) :
    readSign (sign ++ digits ++ rest) = (negative, digits ++ rest) := by
  cases hsign with
  | plus => rfl
  | minus => rfl
  | absent =>
      obtain ⟨c, more, rfl, hc⟩ := h.eq_cons
      rw [List.nil_append, List.cons_append]
      unfold readSign
      split
      · simp_all
      · simp_all
      · rfl

theorem readFraction_of_spellsFraction (short : Fault) {fraction : Option (List Char)}
    {s rest : List Char} (h : SpellsFraction fraction s) (hrest : EndsDigits rest)
    (hpoint : rest.head? ≠ some '.') :
    readFraction short (s ++ rest) = .ok (fraction, rest) := by
  cases h with
  | present h =>
      rw [List.cons_append, readFraction, readDigits_of_areDigits short h hrest]
      rfl
  | absent =>
      rw [List.nil_append]
      unfold readFraction
      split
      · exact absurd rfl hpoint
      · rfl

theorem readExponent_of_spellsExponent (short : Fault) {exponent : Option (Bool × List Char)}
    {s rest : List Char} (h : SpellsExponent exponent s) (hrest : EndsNumeral rest) :
    readExponent short (s ++ rest) = .ok (exponent, rest) := by
  cases h with
  | present he hsign h =>
      have hend : EndsDigits rest := fun c hc => (hrest c hc).1
      rw [List.append_assoc, List.cons_append, ← List.append_assoc, readExponent, if_pos he,
        readSign_of_spellsSign hsign h, readDigits_of_areDigits short h hend]
      rfl
  | absent =>
      cases rest with
      | nil => rfl
      | cons c rest =>
          obtain ⟨-, -, he, hE⟩ := hrest c rfl
          simp [readExponent, he, hE]

/-- What follows the fraction of a number neither adds a digit to it nor looks like one. -/
theorem SpellsExponent.ends {exponent : Option (Bool × List Char)} {s rest : List Char}
    (h : SpellsExponent exponent s) (hrest : EndsNumeral rest) :
    EndsDigits (s ++ rest) ∧ (s ++ rest).head? ≠ some '.' := by
  cases h with
  | present he hsign h =>
      simp only [EndsDigits, List.cons_append, List.head?_cons, Option.mem_some_iff, forall_eq',
        ne_eq, Option.some.injEq]
      rcases he with rfl | rfl
      · decide
      · decide
  | absent =>
      refine ⟨fun c hc => (hrest c hc).1, fun hpoint => ?_⟩
      exact (hrest '.' hpoint).2.1 rfl

theorem SpellsFraction.endsDigits {fraction : Option (List Char)} {s rest : List Char}
    (h : SpellsFraction fraction s) (hrest : EndsDigits rest) : EndsDigits (s ++ rest) := by
  cases h with
  | present h => simp [EndsDigits]
  | absent => exact hrest

theorem readMinus_of_areDigits (negative : Bool) {digits : List Char} (h : AreDigits digits)
    (rest : List Char) :
    readMinus ((if negative then ['-'] else []) ++ digits ++ rest) =
      (negative, digits ++ rest) := by
  cases negative with
  | true => rfl
  | false =>
      obtain ⟨c, more, rfl, hc⟩ := h.eq_cons
      simp only [Bool.false_eq_true, if_false, List.nil_append, List.cons_append]
      unfold readMinus
      split
      · simp_all
      · rfl

/-- A number is read up to the text that ends it, and as it was spelt. -/
theorem readNumber_of_spellsNumber (short : Fault) {literal : NumberLiteral} {s rest : List Char}
    (h : SpellsNumber literal s) (hrest : EndsNumeral rest) :
    readNumber short (s ++ rest) = .ok (literal, rest) := by
  cases h with
  | @literal negative whole f e fraction exponent hwhole hzero hfraction hexponent =>
      obtain ⟨hdigits, hpoint⟩ := hexponent.ends hrest
      have hminus := readMinus_of_areDigits negative hwhole (f ++ (e ++ rest))
      rw [List.append_assoc, List.append_assoc, readNumber, hminus,
        readWhole_of_areDigits short hwhole hzero (hfraction.endsDigits hdigits)]
      simp only [readFraction_of_spellsFraction short hfraction hdigits hpoint,
        readExponent_of_spellsExponent short hexponent hrest]

end LintReport.Json
