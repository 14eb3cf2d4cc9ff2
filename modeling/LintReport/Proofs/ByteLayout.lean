import LintReport.Excerpt
import LintReport.Proofs.LastLine
import LintReport.Text.ByteLine
import Mathlib.Data.List.Induction

/-!
The layout in bytes takes no step that fails.

Where the last line is found in bytes, positions count bytes, while offsets and columns count
characters, and each character has one to four bytes. What holds the two together is that the bytes
of a text can be cut between any two of its characters (`cutAt?_encoded`), and that the last
character can be told from the bytes alone (`lastChar?_encoded_append`). Main statement: on every
text that fits in memory the bytes of the last line are those of the line found in characters, and
so is the column of every offset.
-/

namespace LintReport.Text

def encoded (text : List Char) : List UInt8 :=
  text.flatMap String.utf8EncodeChar

theorem utf8_ofList (text : List Char) : utf8 (String.ofList text) = encoded text := by
  rw [utf8, String.toList_ofList, encoded]

@[simp] theorem encoded_append (a b : List Char) : encoded (a ++ b) = encoded a ++ encoded b :=
  List.flatMap_append

@[simp] theorem encoded_singleton (c : Char) : encoded [c] = String.utf8EncodeChar c := by
  simp [encoded]

/-! ### Words -/

theorem toNat_word {n : Nat} (h : n < UInt64.size) : (word n).toNat = n :=
  UInt64.toNat_ofNat_of_lt' h

theorem moreBy?_word {n d : Nat} (h : n + d < UInt64.size) :
    moreBy? (word n) (word d) = some (word (n + d)) := by
  rw [moreBy?, toNat_word (by omega), toNat_word (by omega), if_pos h, word, word, word,
    UInt64.ofNat_add]

theorem word_le_word {n d : Nat} (hn : n < UInt64.size) (hd : d < UInt64.size) :
    word d ≤ word n ↔ d ≤ n := by
  rw [UInt64.le_iff_toNat_le, toNat_word hn, toNat_word hd]

theorem lessBy?_word {n d : Nat} (hn : n < UInt64.size) (hd : d < UInt64.size) :
    lessBy? (word n) (word d) = if d ≤ n then some (word (n - d)) else none := by
  simp only [lessBy?, word_le_word hn hd]
  by_cases hle : d ≤ n
  · rw [if_pos hle, if_pos hle, word, word, word, UInt64.ofNat_sub hle]
  · rw [if_neg hle, if_neg hle]

/-! ### The bytes of one character -/

theorem continues_ofNat {n : Nat} (h : n < 256) :
    continues (UInt8.ofNat n) = decide (128 ≤ n ∧ n < 192) := by
  simp [continues, UInt8.le_iff_toNat_le, UInt8.lt_iff_toNat_lt, UInt8.toNat_ofNat_of_lt' h]

/-- A character is one byte that begins it, and others that continue it. -/
theorem utf8EncodeChar_eq_cons (c : Char) :
    ∃ first more, String.utf8EncodeChar c = first :: more ∧ continues first = false ∧
      ∀ b ∈ more, continues b = true := by
  have hcontinues (n : Nat) : continues (UInt8.ofNat (n % 64 + 128)) = true := by
    rw [continues_ofNat (by omega)]
    simp only [decide_eq_true_eq]
    omega
  have hfirst (n : Nat) (h : n < 128 ∨ 192 ≤ n) (hn : n < 256) :
      continues (UInt8.ofNat n) = false := by
    rw [continues_ofNat hn]
    simp only [decide_eq_false_iff_not]
    omega
  fun_cases String.utf8EncodeChar c with
  | case1 => exact ⟨_, [], rfl, hfirst _ (by omega) (by omega), by simp⟩
  | case2 | case3 | case4 =>
      refine ⟨_, _, rfl, hfirst _ (by omega) (by omega), ?_⟩
      simp [-UInt8.ofNat_add, hcontinues]

theorem firstChar?_utf8EncodeChar (c : Char) : firstChar? (String.utf8EncodeChar c) = some c := by
  have h := List.utf8DecodeChar?_utf8Encode_singleton_append (b := ByteArray.empty) (c := c)
  rw [ByteArray.append_empty, List.utf8Encode_singleton] at h
  exact h

theorem charCount_encoded (text : List Char) : charCount (encoded text) = text.length := by
  induction text with
  | nil => rfl
  | cons c rest ih =>
      obtain ⟨first, more, hbytes, hfirst, hmore⟩ := utf8EncodeChar_eq_cons c
      have hnone : more.countP (fun b => !continues b) = 0 := by
        rw [List.countP_eq_zero]
        simpa using hmore
      rw [charCount] at ih ⊢
      rw [encoded, List.flatMap_cons, ← encoded, List.countP_append, ih, hbytes, List.countP_cons,
        hnone, hfirst, List.length_cons]
      simp [Nat.add_comm]

/-- The last character is found from the last bytes, as its first byte is the only one of them that
begins a character. -/
theorem lastChar?_append (bytes : List UInt8) (c : Char) :
    lastChar? (bytes ++ String.utf8EncodeChar c) = some (bytes, c) := by
  obtain ⟨first, more, hbytes, hfirst, hmore⟩ := utf8EncodeChar_eq_cons c
  have hreverse : (bytes ++ String.utf8EncodeChar c).reverse =
      more.reverse ++ first :: bytes.reverse := by
    simp [hbytes]
  have hall : ∀ b ∈ more.reverse, continues b = true := by simpa using hmore
  have hdrop : (bytes ++ String.utf8EncodeChar c).reverse.dropWhile continues =
      first :: bytes.reverse := by
    rw [hreverse, List.dropWhile_append_of_pos hall, List.dropWhile_cons_of_neg (by simp [hfirst])]
  have htake : (bytes ++ String.utf8EncodeChar c).reverse.takeWhile continues = more.reverse := by
    rw [hreverse, List.takeWhile_append_of_pos hall, List.takeWhile_cons_of_neg (by simp [hfirst]),
      List.append_nil]
  simp only [lastChar?, hdrop, htake, List.reverse_reverse]
  rw [← hbytes, firstChar?_utf8EncodeChar]
  rfl

/-- The bytes of a text can be cut between any two of its characters. -/
theorem cutAt?_encoded (a b : List Char) (h : (encoded (a ++ b)).length < UInt64.size) :
    cutAt? (word (encoded a).length) (encoded (a ++ b)) = some (encoded a, encoded b) := by
  rw [encoded_append, List.length_append] at h
  have hposition : (word (encoded a).length).toNat = (encoded a).length := toNat_word (by omega)
  have hboundary : isBoundary (encoded (a ++ b)) (word (encoded a).length) = true := by
    rw [isBoundary]
    split
    · rfl
    · rw [hposition, encoded_append, List.getElem?_append_right (Nat.le_refl _), Nat.sub_self]
      cases b with
      | nil => simp [encoded]
      | cons c rest =>
          obtain ⟨first, more, hbytes, hfirst, -⟩ := utf8EncodeChar_eq_cons c
          simp [encoded, hbytes, hfirst]
  rw [cutAt?, if_pos hboundary, hposition, encoded_append, List.take_left, List.drop_left]

/-- There is no cut inside a character. -/
example : cutAt? 1 (encoded ['é']) = none := rfl

/-! ### The last line -/

theorem eq_append_of_encoded_eq {text : List Char} {bytes : List UInt8} {c : Char}
    (h : encoded text = bytes ++ String.utf8EncodeChar c) :
    ∃ before, text = before ++ [c] ∧ encoded before = bytes := by
  have hlast := lastChar?_append bytes c
  cases text using List.reverseRecOn with
  | nil =>
      rw [← h] at hlast
      cases hlast
  | append_singleton before d =>
      rw [← h, encoded_append, encoded_singleton, lastChar?_append] at hlast
      obtain ⟨hbefore, rfl⟩ := Prod.mk.inj (Option.some.inj hlast)
      exact ⟨before, rfl, hbefore⟩

theorem isSuffixOf_encoded_iff {text : List Char} :
    [0x0d, 0x0a].isSuffixOf (encoded text) = true ↔ ∃ before, text = before ++ ['\r', '\n'] := by
  rw [List.isSuffixOf_iff_suffix]
  constructor
  · rintro ⟨bytes, hbytes⟩
    have hfeed : encoded text = bytes ++ [0x0d] ++ String.utf8EncodeChar '\n' := by
      rw [← hbytes, List.append_assoc]
      rfl
    obtain ⟨front, rfl, hfront⟩ := eq_append_of_encoded_eq hfeed
    obtain ⟨before, rfl, -⟩ := eq_append_of_encoded_eq (c := '\r') hfront
    exact ⟨before, by simp⟩
  · rintro ⟨before, rfl⟩
    exact ⟨encoded before, by rw [encoded_append]; rfl⟩

theorem dropClosing_cons_of_isLineBreak {c : Char} {before : List Char}
    (hc : isLineBreak c = true) (hpair : ¬(c = '\n' ∧ before.head? = some '\r')) :
    dropClosing (c :: before) = before := by
  cases before with
  | nil => simp [dropClosing, hc]
  | cons d more =>
      have hne : ¬(c = '\n' ∧ d = '\r') := by simpa using hpair
      simp [dropClosing, hne, hc]

theorem dropClosing_cons_of_not_isLineBreak {c : Char} (before : List Char)
    (hc : isLineBreak c = false) : dropClosing (c :: before) = c :: before := by
  cases before with
  | nil => simp [dropClosing, hc]
  | cons d more =>
      have hne : ¬(c = '\n' ∧ d = '\r') := by
        rintro ⟨rfl, -⟩
        exact absurd hc (by decide)
      simp [dropClosing, hne, hc]

theorem length_encoded_append_singleton (before : List Char) (c : Char) :
    (encoded (before ++ [c])).length = (encoded before).length + c.utf8Size := by
  simp

theorem withoutClosing?_encoded {text : List Char} (h : (encoded text).length < UInt64.size) :
    withoutClosing? (encoded text) = some (encoded (dropClosing text.reverse).reverse) := by
  rw [withoutClosing?]
  by_cases hpair : ∃ before, text = before ++ ['\r', '\n']
  · rw [if_pos (isSuffixOf_encoded_iff.mpr hpair)]
    obtain ⟨before, rfl⟩ := hpair
    have hdrop : dropClosing (before ++ ['\r', '\n']).reverse = before.reverse := by
      simp [dropClosing]
    have hbytes : encoded (before ++ ['\r', '\n']) = encoded before ++ [0x0d, 0x0a] := by
      rw [encoded_append]
      rfl
    rw [hdrop, List.reverse_reverse, hbytes, List.length_append]
    simp
  · rw [if_neg (mt isSuffixOf_encoded_iff.mp hpair)]
    cases text using List.reverseRecOn with
    | nil => rfl
    | append_singleton before c =>
        have hlast : lastChar? (encoded (before ++ [c])) = some (encoded before, c) := by
          rw [encoded_append, encoded_singleton, lastChar?_append]
        have hlength := length_encoded_append_singleton before c
        rw [List.reverse_append, List.reverse_singleton, List.singleton_append, hlast]
        cases hc : isLineBreak c with
        | false =>
            rw [dropClosing_cons_of_not_isLineBreak _ hc]
            simp [hc]
        | true =>
            have hnot : ¬(c = '\n' ∧ before.reverse.head? = some '\r') := by
              rintro ⟨rfl, hreturn⟩
              rw [List.head?_reverse, List.getLast?_eq_some_iff] at hreturn
              obtain ⟨front, rfl⟩ := hreturn
              exact hpair ⟨front, by simp⟩
            have hstop : lessBy? (word (encoded (before ++ [c])).length) (word c.utf8Size) =
                some (word (encoded before).length) := by
              rw [lessBy?_word h (by omega), if_pos (by omega), hlength, Nat.add_sub_cancel]
            rw [dropClosing_cons_of_isLineBreak hc hnot, List.reverse_reverse]
            simp only [hc, if_true, hstop, Option.bind_eq_bind, Option.bind_some,
              cutAt?_encoded before [c] h]
            rfl

theorem afterLastBreak?_append (bytes : List UInt8) (c : Char) :
    afterLastBreak? (bytes ++ String.utf8EncodeChar c) =
      if isLineBreak c then moreBy? (word bytes.length) (word c.utf8Size)
      else afterLastBreak? bytes := by
  have hlast := lastChar?_append bytes c
  rw [afterLastBreak?]
  split <;> simp_all

/-- The last line break of a text stands in front of what is found by walking back from its end. -/
theorem afterLastBreak?_encoded (text : List Char) (h : (encoded text).length < UInt64.size) :
    ∃ before, text = before ++ (text.reverse.takeWhile fun c => !isLineBreak c).reverse ∧
      afterLastBreak? (encoded text) = some (word (encoded before).length) := by
  induction text using List.reverseRecOn with
  | nil =>
      refine ⟨[], rfl, ?_⟩
      rw [afterLastBreak?]
      rfl
  | append_singleton text c ih =>
      have hlength := length_encoded_append_singleton text c
      rw [encoded_append, encoded_singleton, afterLastBreak?_append, List.reverse_append,
        List.reverse_singleton, List.singleton_append]
      cases hc : isLineBreak c with
      | true =>
          refine ⟨text ++ [c], by simp [hc], ?_⟩
          rw [if_pos rfl, moreBy?_word (by omega), hlength]
      | false =>
          obtain ⟨before, hbefore, hstart⟩ := ih (by omega)
          refine ⟨before, ?_, by simpa using hstart⟩
          rw [List.takeWhile_cons_of_pos (by simp [hc]), List.reverse_cons, ← List.append_assoc,
            ← hbefore]

theorem dropClosing_suffix (text : List Char) : dropClosing text <:+ text := by
  fun_cases dropClosing text with
  | case1 => exact List.suffix_rfl
  | case2 c hc => exact List.nil_suffix
  | case3 c hc => exact List.suffix_rfl
  | case4 c d before h => exact ⟨[c, d], rfl⟩
  | case5 c d before h hc => exact ⟨[c], rfl⟩
  | case6 c d before h hc => exact List.suffix_rfl

theorem length_encoded_le_of_prefix {a b : List Char} (h : a <+: b) :
    (encoded a).length ≤ (encoded b).length := by
  obtain ⟨rest, rfl⟩ := h
  rw [encoded_append, List.length_append]
  exact Nat.le_add_right _ _

theorem finalLineInBytes?_encoded {text : List Char} (h : (encoded text).length < UInt64.size) :
    finalLineInBytes? (encoded text) = some ((finalLine? text).map encoded) := by
  cases text with
  | nil => rfl
  | cons c rest =>
      have hbytes : (encoded (c :: rest)).isEmpty = false := by
        obtain ⟨first, more, hchar, -, -⟩ := utf8EncodeChar_eq_cons c
        simp [encoded, hchar]
      have hprefix : (dropClosing (c :: rest).reverse).reverse <+: c :: rest := by
        have hsuffix := List.reverse_prefix.mpr (dropClosing_suffix (c :: rest).reverse)
        rwa [List.reverse_reverse] at hsuffix
      have hle := length_encoded_le_of_prefix hprefix
      obtain ⟨before, hsplit, hstart⟩ :=
        afterLastBreak?_encoded (dropClosing (c :: rest).reverse).reverse (by omega)
      -- Without its closing terminator, the text falls into the line and what is in front of it.
      have hcut := cutAt?_encoded before
        ((dropClosing (c :: rest).reverse).takeWhile fun c => !isLineBreak c).reverse
      rw [List.reverse_reverse] at hsplit
      rw [← hsplit] at hcut
      simp only [finalLineInBytes?, hbytes, Bool.false_eq_true, if_false, withoutClosing?_encoded h,
        Option.bind_eq_bind, Option.bind_some, hstart, hcut (by omega)]
      rfl

/-! ### Columns -/

theorem length_le_length_encoded (text : List Char) : text.length ≤ (encoded text).length := by
  rw [← charCount_encoded]
  exact List.countP_le_length

theorem columnOn?_le {textLength lineLength offset column : Nat}
    (h : Excerpt.columnOn? textLength lineLength offset = some column) : column ≤ lineLength := by
  simp only [Excerpt.columnOn?, Option.ite_none_right_eq_some, Option.some.injEq] at h
  omega

theorem columnInWords?_encoded {text line : List Char} (h : (encoded text).length < UInt64.size)
    (hline : line.length ≤ text.length) (offset : UInt64) :
    columnInWords? (encoded text) (encoded line) offset =
      some ((Excerpt.columnOn? text.length line.length offset.toNat).map word) := by
  have htext := length_le_length_encoded text
  have hoffset : offset = word offset.toNat := UInt64.ofNat_toNat.symm
  have hcolumn : lessBy? offset (word (text.length - line.length)) =
      if text.length - line.length ≤ offset.toNat then
        some (word (offset.toNat - (text.length - line.length)))
      else none := by
    conv => lhs; rw [hoffset]
    exact lessBy?_word offset.toNat_lt (by omega)
  rw [columnInWords?, charCount_encoded, charCount_encoded,
    lessBy?_word (by omega) (by omega), if_pos hline]
  simp only [Option.bind_eq_bind, Option.bind_some, hcolumn, Excerpt.columnOn?]
  by_cases hbefore : text.length - line.length ≤ offset.toNat
  · have hfits : word (offset.toNat - (text.length - line.length)) ≤ word line.length ↔
        offset.toNat - (text.length - line.length) ≤ line.length := by
      have hsize := offset.toNat_lt_size
      exact word_le_word (by omega) (by omega)
    simp only [hbefore, if_true, true_and, Option.filter_some, hfits, decide_eq_true_eq]
    split <;> rfl
  · simp only [hbefore, if_false, false_and]
    rfl

/-- The layout takes no step that fails, on any text of less than 2^63 bytes, which is all that fits
in memory, and for any offset. The last line is cut out between two characters, and its bytes are
those of the line that is found in characters. The column is found without an overflow and is the
one that is found in numbers, and so is the indentation of the caret under it. -/
theorem layout_in_bytes (text : String) (offset : UInt64) (h : 2 * (utf8 text).length < UInt64.size) :
    finalLineInBytes? (utf8 text) =
      some ((finalLine? text.toList).map fun line => utf8 (String.ofList line)) ∧
    ∀ line, finalLine? text.toList = some line →
      ∃ found, columnInWords? (utf8 text) (utf8 (String.ofList line)) offset = some found ∧
        found.map UInt64.toNat = Excerpt.columnOn? text.length line.length offset.toNat ∧
        ∀ column ∈ found, ∃ indent, caretIndent? column = some indent ∧
          indent.toNat = column.toNat + 1 := by
  have hhalf : 2 * (encoded text.toList).length < UInt64.size := h
  have hlarge : 2 < UInt64.size := by decide
  have hsize : (encoded text.toList).length < UInt64.size := by omega
  have hlength := length_le_length_encoded text.toList
  simp only [utf8_ofList]
  refine ⟨finalLineInBytes?_encoded hsize, fun line hline => ?_⟩
  have hle := length_finalLine?_le hline
  refine ⟨_, columnInWords?_encoded hsize hle offset, ?_, ?_⟩
  · rw [String.length_toList]
    cases hcolumn : Excerpt.columnOn? text.length line.length offset.toNat with
    | none => rfl
    | some n =>
        have hn := columnOn?_le hcolumn
        simp only [Option.map_some]
        rw [toNat_word (by omega)]
  · intro column hcolumn
    obtain ⟨n, hn, rfl⟩ := Option.map_eq_some_iff.mp hcolumn
    have hend := columnOn?_le hn
    refine ⟨word (n + 1), moreBy?_word (d := 1) (by omega), ?_⟩
    rw [toNat_word (by omega), toNat_word (by omega)]

/-- A text with characters of three bytes, two of which end lines, and an offset on its last
line. -/
theorem layout_in_bytes_of_separators :
    2 * (utf8 "∂\u2028x = ∂(\u2029").length < UInt64.size ∧
    finalLineInBytes? (utf8 "∂\u2028x = ∂(\u2029") = some (some (utf8 "x = ∂(")) ∧
    ∃ found, columnInWords? (utf8 "∂\u2028x = ∂(\u2029") (utf8 "x = ∂(") 7 = some found ∧
      found.map UInt64.toNat = some 4 := by
  have h : 2 * (utf8 "∂\u2028x = ∂(\u2029").length < UInt64.size := by decide
  obtain ⟨hline, hcolumn⟩ := layout_in_bytes "∂\u2028x = ∂(\u2029" 7 h
  obtain ⟨found, hfound, hmap, -⟩ := hcolumn "x = ∂(".toList rfl
  exact ⟨h, hline, found, hfound, hmap⟩

end LintReport.Text
