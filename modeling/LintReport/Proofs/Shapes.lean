import LintReport.Proofs.Literals
import LintReport.Proofs.Members
import Mathlib.Data.List.Forall2

/-!
The two shapes of a parse failure in JSON.

An object describes a failure if each of its fields is named once and says what the failure has
there, the offset being allowed to be missing. Whatever else the object holds, and in whatever
order, the failure is what is decoded, as it is from the array of its five values. An object that
names a field twice, or leaves one out, or has a value of another kind for it, is JSON of another
shape.
-/

namespace LintReport.Json

/-! ### Arrays -/

theorem readElement_of_spells {tree : Tree} {s rest : List Char} (h : Spells (.element tree) s)
    (hrest : EndsNumeral rest) {failure : ParseFailure} {field : Field}
    (hholds : field.Holds failure tree) (early : Fault) (draft : Draft) :
    ∃ blanks, Blank blanks ∧
      readElement early draft field (s ++ rest) =
        .ok (draft.fill failure field, blanks ++ rest) := by
  cases h with
  | @element _ a s b ha h hb =>
      have htake : draft.take? tree field = some (draft.fill failure field) :=
        Draft.take?_eq_some_iff.mpr ⟨failure, hholds, rfl⟩
      have hread := readField_of_spells blank_nil h hholds.finite (hrest.blanks hb) draft field
      rw [htake, List.nil_append] at hread
      refine ⟨b, hb, ?_⟩
      obtain ⟨c, more, rfl, hblank, hc⟩ := h.eq_cons
      rw [List.append_assoc, readElement, skipBlanks_of_spells ha h]
      split
      · simp_all
      · exact hread

theorem readElements_closing {blanks : List Char} (h : Blank blanks) (draft : Draft)
    (rest : List Char) : readElements draft [] (blanks ++ ']' :: rest) = .ok (draft, rest) := by
  have hclosing := skipBlanks_append_cons h (c := ']') (by decide) rest
  unfold readElements
  simp only [hclosing]

def readDue (early : Fault) (draft : Draft) (field : Field) (more : List Field) (s : List Char) :
    Reading Draft :=
  match readElement early draft field s with
  | .error fault => .error fault
  | .ok (draft, rest) => readElements draft more rest

theorem readDue_of_readElement {early : Fault} {draft next : Draft} {field : Field}
    {s rest : List Char} (h : readElement early draft field s = .ok (next, rest))
    (more : List Field) : readDue early draft field more s = readElements next more rest := by
  simp only [readDue, h]

theorem readElements_comma {blanks : List Char} (h : Blank blanks) (draft : Draft) (field : Field)
    (more : List Field) (rest : List Char) :
    readElements draft (field :: more) (blanks ++ ',' :: rest) =
      readDue .malformed draft field more rest := by
  have hcomma := skipBlanks_append_cons h (c := ',') (by decide) rest
  conv => lhs; unfold readElements
  simp only [hcomma]
  rfl

theorem readDue_of_spells {failure : ParseFailure} {field : Field} {more : List Field}
    {tree : Tree} {items : List Tree} (htree : field.Holds failure tree)
    (hmore : List.Forall₂ (Field.Holds failure) more items) {s : List Char}
    (h : Spells (.elements (tree :: items)) s) (early : Fault) (draft : Draft) (rest : List Char) :
    readDue early draft field more (s ++ ']' :: rest) =
      .ok ((field :: more).foldl (Draft.fill failure) draft, rest) := by
  induction hmore generalizing field tree s early draft with
  | nil =>
      cases h with
      | lastElement h =>
          obtain ⟨blanks, hblanks, hread⟩ :=
            readElement_of_spells h (endsNumeral_of_mem (c := ']') (by simp) rest) htree early draft
          rw [readDue_of_readElement hread, readElements_closing hblanks]
          rfl
      | elements h hmore => cases hmore
  | cons hnext hmore ih =>
      cases h with
      | @elements _ _ s t h hspelt =>
          rw [List.append_assoc, List.cons_append]
          obtain ⟨blanks, hblanks, hread⟩ :=
            readElement_of_spells h (endsNumeral_of_mem (c := ',') (by simp) (t ++ ']' :: rest))
              htree early draft
          rw [readDue_of_readElement hread, readElements_comma hblanks, ih hnext hspelt]
          rfl

theorem readDraft_of_array {failure : ParseFailure} {items : List Tree}
    (hholds : List.Forall₂ (Field.Holds failure) Field.all items) {a s : List Char} (ha : Blank a)
    (h : Spells (.value (.array items)) s) (rest : List Char) :
    readDraft (a ++ s ++ rest) = .ok (Field.all.foldl (Draft.fill failure) .empty, rest) := by
  rw [readDraft, skipBlanks_of_spells ha h]
  cases h with
  | emptyArray => cases hholds
  | @array _ b h =>
      cases hholds with
      | cons htree hmore =>
          rw [List.append_assoc, List.cons_append, List.singleton_append]
          exact readDue_of_spells htree hmore h .mismatched .empty rest

/-! ### Objects -/

/-- The members say what the failure has in each field, once and for each. Members of other names
may come between them. An offset that is missing is absent. -/
structure Describes (failure : ParseFailure) (members : List (String × Tree)) : Prop where
  required : ∀ field, field ≠ .offset →
    ∃ tree, valuesOf field members = [tree] ∧ field.Holds failure tree
  offset : valuesOf .offset members = [] ∧ failure.offset = none ∨
    ∃ tree, valuesOf .offset members = [tree] ∧ Field.offset.Holds failure tree

/-- What keeps the members of an object from describing a failure. -/
inductive Misshapen (members : List (String × Tree)) : Prop
  | repeated {field : Field} (h : 2 ≤ (valuesOf field members).length)
  | lacking {field : Field} (hfield : field ≠ .offset) (h : valuesOf field members = [])
  /-- A value is of a kind that no failure has in the field. -/
  | ofOtherKind {field : Field} {tree : Tree} (hmember : (field.name, tree) ∈ members)
      (h : ∀ failure, ¬field.Holds failure tree)

theorem skipBlanks_of_blank {s : List Char} (h : Blank s) : skipBlanks s = [] := by
  have hskipped := skipBlanks_append h []
  rwa [List.append_nil] at hskipped

theorem decode_of_complete {text : String} {draft : Draft} {failure : ParseFailure}
    {rest : List Char} (h : readDraft text.toList = .ok (draft, rest)) (hrest : Blank rest)
    (hcomplete : draft.complete = .ok failure) : decode text = .ok failure := by
  simp only [decode, h, hcomplete, skipBlanks_of_blank hrest, if_true]

theorem decode_of_not_complete {text : String} {found : Option Draft} {rest : List Char}
    (h : readDraft text.toList = orMismatched found rest)
    (hlacking : ∀ draft, found = some draft → ∃ lacking, draft.complete = .error lacking) :
    decode text = .error .mismatched := by
  cases found with
  | none => simp only [decode, h, orMismatched]
  | some draft =>
      obtain ⟨lacking, hdraft⟩ := hlacking draft rfl
      simp only [decode, h, orMismatched, hdraft]

theorem Describes.hasOne {failure : ParseFailure} {members : List (String × Tree)}
    (h : Describes failure members) (field : Field) :
    (valuesOf field members).length ≤ 1 ∧
      ∀ tree ∈ valuesOf field members, field.Holds failure tree := by
  by_cases hfield : field = .offset
  · subst hfield
    rcases h.offset with ⟨hnone, -⟩ | ⟨tree, hone, htree⟩
    · simp [hnone]
    · simp [hone, htree]
  · obtain ⟨tree, hone, htree⟩ := h.required field hfield
    simp [hone, htree]

theorem Describes.finiteFields {failure : ParseFailure} {members : List (String × Tree)}
    (h : Describes failure members) : FiniteFields members := fun field tree htree =>
  ((h.hasOne field).2 tree (mem_valuesOf.mpr htree)).finite

theorem Describes.collect? {failure : ParseFailure} {members : List (String × Tree)}
    (h : Describes failure members) :
    ∃ draft, Draft.empty.collect? members = some draft ∧ draft.complete = .ok failure := by
  obtain ⟨draft, hdraft, hagrees, hhas⟩ := Draft.collect?_of_holds (Draft.agrees_empty failure)
    (fun field => by simpa [Draft.has_empty] using (h.hasOne field).1)
    fun field => (h.hasOne field).2
  have hheld (field : Field) : (valuesOf field members).length = (draft.has field).toNat := by
    simpa [Draft.has_empty] using hhas field
  refine ⟨draft, hdraft, Draft.complete_of_agrees hagrees ?_ ?_⟩
  · intro field hfield
    obtain ⟨tree, hone, -⟩ := h.required field hfield
    exact Bool.toNat_eq_one.mp (by rw [← hheld field, hone]; rfl)
  · rcases h.offset with ⟨hnone, hoffset⟩ | ⟨tree, hone, -⟩
    · exact .inr ⟨Bool.toNat_eq_zero.mp (by rw [← hheld .offset, hnone]; rfl), hoffset⟩
    · exact .inl (Bool.toNat_eq_one.mp (by rw [← hheld .offset, hone]; rfl))

/-- A draft collected from an object of another shape lacks a field: there is none of an object that
names a field twice or has a value of another kind. -/
theorem Misshapen.not_complete {members : List (String × Tree)} (h : Misshapen members)
    {draft : Draft} (hdraft : Draft.empty.collect? members = some draft) :
    ∃ lacking, draft.complete = .error lacking := by
  have hheld (field : Field) : (valuesOf field members).length = (draft.has field).toNat := by
    simpa [Draft.has_empty] using (Draft.of_collect?_eq_some hdraft field).1
  cases h with
  | @repeated field h =>
      have hle := (draft.has field).toNat_le
      rw [← hheld field] at hle
      omega
  | @lacking field hfield h =>
      refine Draft.complete_of_not_has hfield (Bool.toNat_eq_zero.mp ?_)
      rw [← hheld field, h]
      rfl
  | @ofOtherKind field tree hmember h =>
      obtain ⟨failure, hholds⟩ :=
        (Draft.of_collect?_eq_some hdraft field).2 tree (mem_valuesOf.mpr hmember)
      exact absurd hholds (h failure)

theorem decode_of_array {failure : ParseFailure} {items : List Tree} {text : String}
    (htext : SpeltBy text (.array items))
    (hholds : List.Forall₂ (Field.Holds failure) Field.all items) : decode text = .ok failure := by
  obtain ⟨a, s, b, hsplit, ha, hs, hb⟩ := htext.cut
  have hread := readDraft_of_array hholds ha hs b
  rw [← hsplit] at hread
  exact decode_of_complete hread hb (Draft.complete_fill failure)

/-- The shapes of a parse failure in JSON. An object that describes a failure is decoded to this
failure, in whatever order its members come, whatever other members come between them, and however
it is spelt; and so is the array of the five values of the failure in the order of the fields, with
the same result. An object of another shape is found to be of another shape. -/
theorem decode_of_members {members : List (String × Tree)} {text : String}
    (htext : SpeltBy text (.object members)) :
    (∀ failure, Describes failure members → decode text = .ok failure ∧
      ∀ items array, SpeltBy array (.array items) →
        List.Forall₂ (Field.Holds failure) Field.all items → decode array = decode text) ∧
    (FiniteFields members → Misshapen members → decode text = .error .mismatched) := by
  obtain ⟨a, s, b, hsplit, ha, hs, hb⟩ := htext.cut
  have hread (hfinite : FiniteFields members) :
      readDraft text.toList = orMismatched (Draft.empty.collect? members) b := by
    rw [hsplit, readDraft_of_object ha hs hfinite]
  refine ⟨fun failure hfailure => ?_, fun hfinite hmisshapen => ?_⟩
  · obtain ⟨draft, hdraft, hcomplete⟩ := hfailure.collect?
    have hobject := hread hfailure.finiteFields
    rw [hdraft] at hobject
    have hdecode : decode text = .ok failure := decode_of_complete hobject hb hcomplete
    refine ⟨hdecode, fun items array harray hholds => ?_⟩
    rw [hdecode, decode_of_array harray hholds]
  · exact decode_of_not_complete (hread hfinite) fun draft hdraft => hmisshapen.not_complete hdraft

/-- An object in another order than that of the fields, with a member of another name, a name with
an escape and no offset; the array of the same failure; and an object that names the line twice. -/
theorem decode_of_members_of_other_order :
    decode (" \x7b\"lineno\":7,\"x\":[-2.5,\x7b\x7d],\"te\\u0078t\":\"=\"," ++
      "\"message\":\"\",\"filename\":\"a\"\x7d") = .ok ⟨"a", "", 7, none, "="⟩ ∧
    decode "[\"a\",\"\",7,null,\"=\"]" = .ok ⟨"a", "", 7, none, "="⟩ ∧
    decode "\x7b\"lineno\":7,\"lineno\":7\x7d" = .error .mismatched := by
  have hline := Spells.bareMember (spellsChars_escaped "lineno".toList) (spells_writeCount 7)
  have hnumber : SpellsNumber ⟨true, ['2'], some ['5'], none⟩ ['-', '2', '.', '5'] :=
    .literal ⟨by simp, by simp [Char.isDigit]⟩ (by simp)
      (.present ⟨by simp, by simp [Char.isDigit]⟩) .absent
  have hother := Spells.bareMember (spellsChars_escaped "x".toList)
    (.array (.elements (.bare (.number hnumber)) (.lastElement (.bare (.emptyObject blank_nil)))))
  have hescape : SpellsChar 'x' ['\\', 'u', '0', '0', '7', '8'] :=
    .number (.digits (i := 0) (j := 0) (k := 7) (l := 8) rfl rfl rfl rfl)
  have hname : SpellsChars "text".toList _ :=
    .cons (spellsChar_escaped 't') (.cons (spellsChar_escaped 'e')
      (.cons hescape (.cons (spellsChar_escaped 't') .nil)))
  have htext := Spells.bareMember hname (spells_writeString "=")
  have hmessage := Spells.bareMember (spellsChars_escaped "message".toList) (spells_writeString "")
  have hfile := Spells.bareMember (spellsChars_escaped "filename".toList) (spells_writeString "a")
  have hmembers := Spells.members hline (.members hother (.members htext (.members hmessage
    (.lastMember hfile))))
  have hblank : Blank [' '] := by simp [Blank]
  have hobject : SpeltBy (" \x7b\"lineno\":7,\"x\":[-2.5,\x7b\x7d],\"te\\u0078t\":\"=\"," ++
      "\"message\":\"\",\"filename\":\"a\"\x7d") _ :=
    .element hblank (.object hmembers) blank_nil
  have harray : SpeltBy "[\"a\",\"\",7,null,\"=\"]" _ :=
    .bare (.array (.elements (.bare (spells_writeString "a"))
      (.elements (.bare (spells_writeString "")) (.elements (.bare (spells_writeCount 7))
        (.elements (.bare .null) (.lastElement (.bare (spells_writeString "="))))))))
  have htwice : SpeltBy "\x7b\"lineno\":7,\"lineno\":7\x7d" _ :=
    .bare (.object (.members hline (.lastMember hline)))
  obtain ⟨hdecode, hsame⟩ := (decode_of_members hobject).1 ⟨"a", "", 7, none, "="⟩
    { required := fun field hfield => by
        cases field with
        | file | message | text => exact ⟨_, rfl, rfl⟩
        | line => exact ⟨_, rfl, isCount_numeral 7⟩
        | offset => exact absurd rfl hfield
      offset := .inl ⟨rfl, rfl⟩ }
  refine ⟨hdecode, (hsame _ _ harray ?_).trans hdecode, ?_⟩
  · exact .cons rfl (.cons rfl (.cons (isCount_numeral 7) (.cons rfl (.cons rfl .nil))))
  · have hfinite : FiniteFields
        [("lineno", .number (numeral 7)), ("lineno", .number (numeral 7))] := by
      intro field tree hmember
      have htree : tree = .number (numeral 7) := by simp_all
      rw [htree]
      exact (isCount_numeral 7).finite
    exact (decode_of_members htwice).2 hfinite (@Misshapen.repeated _ .line (Nat.le_refl 2))

end LintReport.Json
