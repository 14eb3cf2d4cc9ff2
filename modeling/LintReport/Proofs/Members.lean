import LintReport.Proofs.Fields

/-!
Reading the members of an object.

The members of an object go into a draft one after the other (`Draft.collect?`), each if its name is
unknown, or if its field is still open and its value of the kind asked for. Reading a text that
spells the object comes to the same draft, or finds that there is none (`readDraft_of_object`). What
the draft holds in the end is a question of trees alone: it depends on how often each field is
named, and with what values, but not on the order.
-/

namespace LintReport.Json

open Text

/-! ### Names of fields -/

theorem Field.ofName?_eq_some_iff {name : String} {field : Field} :
    ofName? name = some field ↔ name = field.name := by
  constructor
  · intro h
    have hname := List.find?_some h
    simpa using Eq.symm (beq_iff_eq.mp hname)
  · rintro rfl
    exact ofName?_name field

theorem Field.ne_name_of_ofName? {name : String} (h : ofName? name = none) (field : Field) :
    name ≠ field.name := by
  intro hname
  rw [ofName?_eq_some_iff.mpr hname] at h
  cases h

theorem Field.name_inj {field other : Field} : field.name = other.name ↔ field = other := by
  constructor
  · intro h
    have hfield := ofName?_name field
    rw [h, ofName?_name] at hfield
    exact (Option.some.inj hfield).symm
  · rintro rfl
    rfl

/-! ### Collecting members in a draft -/

namespace Draft

def member? (draft : Draft) (name : String) (tree : Tree) : Option Draft :=
  match Field.ofName? name with
  | none => some draft
  | some field => if draft.has field then none else draft.take? tree field

def collect? (draft : Draft) : List (String × Tree) → Option Draft
  | [] => some draft
  | (name, tree) :: more => (draft.member? name tree).bind fun next => next.collect? more

end Draft

/-- Numbers that stand for the value of a field are finite in double precision. No other number has
to be, as a value that is passed over is not computed. -/
def FiniteFields (members : List (String × Tree)) : Prop :=
  ∀ field tree, (Field.name field, tree) ∈ members → tree.Finite

/-- A member is read from the quote that opens its name up to its value. Blanks after the value are
left for what comes next. -/
theorem readMember_of_spells {name : String} {tree : Tree} {s rest : List Char}
    (h : Spells (.member name tree) s) (hfinite : ∀ field, name = Field.name field → tree.Finite)
    (hrest : EndsNumeral rest) (draft : Draft) :
    ∃ body blanks, skipBlanks (s ++ rest) = '"' :: body ∧ Blank blanks ∧
      readMember draft body = orMismatched (draft.member? name tree) (blanks ++ rest) := by
  cases h with
  | @member _ _ a n b _ ha hname hb h =>
      cases h with
      | @element _ c s d hc h hd =>
          have hvalue : EndsNumeral (d ++ rest) := hrest.blanks hd
          have hread := readString_of_spellsChars hname (b ++ ':' :: (c ++ s ++ (d ++ rest)))
          have hcolon := readColon_blanks hb (c ++ s ++ (d ++ rest))
          refine ⟨n ++ '"' :: (b ++ ':' :: (c ++ s ++ (d ++ rest))), d, ?_, hd, ?_⟩
          · simp only [List.append_assoc, List.cons_append]
            exact skipBlanks_append_cons ha (by decide) _
          · simp only [readMember, hread, String.ofList_toList, hcolon, Draft.member?]
            cases hfield : Field.ofName? name with
            | none =>
                simp only [skipValue_of_spells hc h hvalue, giving, orMismatched]
            | some field =>
                have hname := Field.ofName?_eq_some_iff.mp hfield
                simp only
                split
                · rfl
                · exact readField_of_spells hc h (hfinite field hname) hvalue draft field

/-- What comes after a member is decided by the first character behind it that is no blank. -/
theorem readMembers_eq {s body : List Char} (hs : skipBlanks s = '"' :: body) (draft : Draft) :
    readMembers draft s =
      match readMember draft body with
      | .error fault => .error fault
      | .ok (next, rest) =>
        match skipBlanks rest with
        | [] => .error .truncated
        | ',' :: rest => readMembers next rest
        | '}' :: rest => .ok (next, rest)
        | _ :: _ => .error .malformed := by
  rw [readMembers]
  split
  case h_1 => simp_all
  case h_2 other hother =>
    obtain rfl : body = other := by simpa [hother] using hs.symm
    split
    case h_1 => simp_all
    case h_2 next rest hread =>
      simp only [hread]
      split <;> simp_all
  case h_3 => simp_all

theorem readMembers_of_spells {members : List (String × Tree)} {s : List Char}
    (h : Spells (.members members) s) (hfinite : FiniteFields members) (draft : Draft)
    (rest : List Char) :
    readMembers draft (s ++ '}' :: rest) = orMismatched (draft.collect? members) rest := by
  induction members generalizing s draft with
  | nil => cases h
  | cons first more ih =>
      obtain ⟨name, tree⟩ := first
      have hfirst : ∀ field, name = Field.name field → tree.Finite := by
        rintro field rfl
        exact hfinite field tree List.mem_cons_self
      have hlater : FiniteFields more := fun field tree htree =>
        hfinite field tree (List.mem_cons_of_mem _ htree)
      cases h with
      | lastMember h =>
          obtain ⟨body, blanks, hs, hblanks, hread⟩ :=
            readMember_of_spells h hfirst (endsNumeral_of_mem (c := '}') (by simp) rest) draft
          rw [readMembers_eq hs, hread, Draft.collect?]
          cases draft.member? name tree with
          | none => rfl
          | some next =>
              have hclosing := skipBlanks_append_cons hblanks (c := '}') (by decide) rest
              simp only [orMismatched, hclosing, Option.bind_some, Draft.collect?]
      | @members _ _ _ s t h hmore =>
          rw [List.append_assoc, List.cons_append]
          obtain ⟨body, blanks, hs, hblanks, hread⟩ :=
            readMember_of_spells h hfirst (endsNumeral_of_mem (c := ',') (by simp) _) draft
          rw [readMembers_eq hs, hread, Draft.collect?]
          cases draft.member? name tree with
          | none => rfl
          | some next =>
              have hcomma := skipBlanks_append_cons hblanks (c := ',') (by decide)
                (t ++ '}' :: rest)
              simp only [orMismatched, hcomma, Option.bind_some, ih hmore hlater]

theorem readDraft_of_object {members : List (String × Tree)} {a s : List Char} (ha : Blank a)
    (h : Spells (.value (.object members)) s) (hfinite : FiniteFields members) (rest : List Char) :
    readDraft (a ++ s ++ rest) = orMismatched (Draft.empty.collect? members) rest := by
  rw [readDraft, skipBlanks_of_spells ha h]
  cases h with
  | @emptyObject b hb =>
      have hclosed := skipBlanks_append_cons hb (c := '}') (by decide) rest
      rw [List.append_assoc, List.cons_append, List.singleton_append]
      simp only [readObject, hclosed, Draft.collect?, orMismatched]
  | @object _ b h =>
      obtain ⟨after, hname, -⟩ := passedOver h [] rest
      obtain ⟨body, hbody⟩ := skipBlanks_of_skipName hname
      have hsame : readMembers .empty ('"' :: body) = readMembers .empty (b ++ '}' :: rest) := by
        rw [readMembers_eq hbody, readMembers_eq (skipBlanks_cons (by decide) body)]
      rw [List.append_assoc, List.cons_append, List.singleton_append]
      simp only [readObject, hbody]
      exact hsame.trans (readMembers_of_spells h hfinite .empty rest)

theorem SpeltBy.cut {text : String} {tree : Tree} (h : SpeltBy text tree) :
    ∃ a s b, text.toList = a ++ s ++ b ∧ Blank a ∧ Spells (.value tree) s ∧ Blank b := by
  rw [SpeltBy] at h
  generalize text.toList = whole at h
  cases h with
  | @element _ a s b ha h hb => exact ⟨a, s, b, rfl, ha, h, hb⟩

/-! ### What the draft holds in the end -/

def valuesOf (field : Field) (members : List (String × Tree)) : List Tree :=
  (members.filter fun member => member.1 = field.name).map Prod.snd

theorem valuesOf_cons_of_eq (field : Field) (tree : Tree) (more : List (String × Tree)) :
    valuesOf field ((field.name, tree) :: more) = tree :: valuesOf field more := by
  simp [valuesOf]

theorem valuesOf_cons_of_ne {field : Field} {name : String} (h : name ≠ field.name) (tree : Tree)
    (more : List (String × Tree)) :
    valuesOf field ((name, tree) :: more) = valuesOf field more := by
  simp [valuesOf, h]

theorem mem_valuesOf {field : Field} {members : List (String × Tree)} {tree : Tree} :
    tree ∈ valuesOf field members ↔ (field.name, tree) ∈ members := by
  simp [valuesOf]

namespace Draft

/-- What the draft holds already, it holds as the failure has it. -/
def Agrees (draft : Draft) (failure : ParseFailure) : Prop :=
  ∀ field, draft.has field = true → draft.fill failure field = draft

theorem has_empty (field : Field) : empty.has field = false := by
  cases field <;> rfl

theorem agrees_empty (failure : ParseFailure) : Agrees .empty failure := by
  intro field hfield
  rw [has_empty] at hfield
  cases hfield

theorem has_fill_self (failure : ParseFailure) (draft : Draft) (field : Field) :
    (draft.fill failure field).has field = true := by
  cases field <;> rfl

theorem fill_comm (failure : ParseFailure) (draft : Draft) (field other : Field) :
    (draft.fill failure field).fill failure other =
      (draft.fill failure other).fill failure field := by
  cases field <;> cases other <;> rfl

theorem fill_fill (failure : ParseFailure) (draft : Draft) (field : Field) :
    (draft.fill failure field).fill failure field = draft.fill failure field := by
  cases field <;> rfl

theorem Agrees.fill {draft : Draft} {failure : ParseFailure} (h : draft.Agrees failure)
    (field : Field) : (draft.fill failure field).Agrees failure := by
  intro other hother
  by_cases hsame : other = field
  · rw [hsame, fill_fill]
  · rw [has_fill failure draft hsame] at hother
    rw [fill_comm, h other hother]

theorem complete_of_agrees {draft : Draft} {failure : ParseFailure} (h : draft.Agrees failure)
    (hrequired : ∀ field, field ≠ .offset → draft.has field = true)
    (hoffset : draft.has .offset = true ∨ draft.has .offset = false ∧ failure.offset = none) :
    draft.complete = .ok failure := by
  have hfile : draft.file = some failure.file :=
    (congrArg Draft.file (h .file (hrequired .file (by decide)))).symm
  have hmessage : draft.message = some failure.message :=
    (congrArg Draft.message (h .message (hrequired .message (by decide)))).symm
  have hline : draft.line = some failure.line :=
    (congrArg Draft.line (h .line (hrequired .line (by decide)))).symm
  have htext : draft.text = some failure.text :=
    (congrArg Draft.text (h .text (hrequired .text (by decide)))).symm
  have hjoin : draft.offset.join = failure.offset := by
    rcases hoffset with hoffset | ⟨hoffset, hnone⟩
    · rw [← congrArg Draft.offset (h .offset hoffset)]
      rfl
    · have hopen : draft.offset = none := by simpa [has] using hoffset
      rw [hopen, hnone]
      rfl
  simp only [complete, hfile, hmessage, hline, htext, hjoin]
  rfl

theorem complete_of_not_has {draft : Draft} {field : Field} (hfield : field ≠ .offset)
    (h : draft.has field = false) : ∃ lacking, draft.complete = .error lacking := by
  obtain ⟨file, message, line, offset, text⟩ := draft
  cases file with
  | none => exact ⟨.file, rfl⟩
  | some file =>
      cases message with
      | none => exact ⟨.message, rfl⟩
      | some message =>
          cases line with
          | none => exact ⟨.line, rfl⟩
          | some line =>
              cases text with
              | none => exact ⟨.text, rfl⟩
              | some text => cases field <;> simp_all [has]

/-- A member of a field that is open moves one of the values to come into the draft. -/
theorem length_valuesOf_fill (failure : ParseFailure) {draft : Draft} {field : Field}
    (hopen : draft.has field = false) (tree : Tree) (more : List (String × Tree)) (other : Field) :
    (valuesOf other ((field.name, tree) :: more)).length + (draft.has other).toNat =
      (valuesOf other more).length + ((draft.fill failure field).has other).toNat := by
  by_cases hsame : other = field
  · rw [hsame, valuesOf_cons_of_eq, hopen, has_fill_self]
    rfl
  · have hname : field.name ≠ other.name := fun h => hsame (Field.name_inj.mp h).symm
    rw [valuesOf_cons_of_ne hname, has_fill failure draft hsame]

/-- Members are collected if no field is named twice and each has the value that the failure has
there. The draft then holds what it held before and the fields that were named. -/
theorem collect?_of_holds {draft : Draft} {failure : ParseFailure}
    {members : List (String × Tree)} (hagrees : draft.Agrees failure)
    (honce : ∀ field, (valuesOf field members).length + (draft.has field).toNat ≤ 1)
    (hholds : ∀ field, ∀ tree ∈ valuesOf field members, field.Holds failure tree) :
    ∃ next, draft.collect? members = some next ∧ next.Agrees failure ∧
      ∀ field, (valuesOf field members).length + (draft.has field).toNat =
        (next.has field).toNat := by
  induction members generalizing draft with
  | nil => exact ⟨draft, rfl, hagrees, fun field => by simp [valuesOf]⟩
  | cons first more ih =>
      obtain ⟨name, tree⟩ := first
      cases hname : Field.ofName? name with
      | none =>
          have hsame : ∀ field, valuesOf field ((name, tree) :: more) = valuesOf field more :=
            fun field => valuesOf_cons_of_ne (Field.ne_name_of_ofName? hname field) tree more
          simp only [hsame] at honce hholds ⊢
          obtain ⟨next, hnext, hrest⟩ := ih hagrees honce hholds
          refine ⟨next, ?_, hrest⟩
          simp only [collect?, member?, hname, Option.bind_some, hnext]
      | some field =>
          obtain rfl := Field.ofName?_eq_some_iff.mp hname
          have hopen : draft.has field = false := by
            have hfirst := honce field
            rw [valuesOf_cons_of_eq, List.length_cons] at hfirst
            cases hhas : draft.has field with
            | false => rfl
            | true =>
                rw [hhas, Bool.toNat_true] at hfirst
                omega
          have htree : field.Holds failure tree := hholds field tree (by simp [mem_valuesOf])
          have hcount := length_valuesOf_fill failure hopen tree more
          simp only [hcount] at honce ⊢
          obtain ⟨next, hnext, hrest⟩ := ih (hagrees.fill field) honce fun other value hvalue =>
            hholds other value (mem_valuesOf.mpr
              (List.mem_cons_of_mem _ (mem_valuesOf.mp hvalue)))
          have htake : draft.take? tree field = some (draft.fill failure field) :=
            take?_eq_some_iff.mpr ⟨failure, htree, rfl⟩
          refine ⟨next, ?_, hrest⟩
          simp only [collect?, member?, hname, hopen, Bool.false_eq_true, if_false, htake,
            Option.bind_some, hnext]

/-- If members are collected, no field was named twice, and each had a value that some failure has
there. -/
theorem of_collect?_eq_some {draft next : Draft} {members : List (String × Tree)}
    (h : draft.collect? members = some next) (field : Field) :
    (valuesOf field members).length + (draft.has field).toNat = (next.has field).toNat ∧
      ∀ tree ∈ valuesOf field members, ∃ failure, field.Holds failure tree := by
  induction members generalizing draft with
  | nil =>
      obtain rfl := Option.some.inj h
      simp [valuesOf]
  | cons first more ih =>
      obtain ⟨name, tree⟩ := first
      obtain ⟨middle, hmember, hmore⟩ := Option.bind_eq_some_iff.mp h
      obtain ⟨hcount, hvalues⟩ := ih hmore
      rw [member?] at hmember
      cases hname : Field.ofName? name with
      | none =>
          rw [hname] at hmember
          obtain rfl := Option.some.inj hmember
          rw [valuesOf_cons_of_ne (Field.ne_name_of_ofName? hname field)]
          exact ⟨hcount, hvalues⟩
      | some found =>
          obtain rfl := Field.ofName?_eq_some_iff.mp hname
          rw [hname] at hmember
          cases hopen : draft.has found with
          | true => simp [hopen] at hmember
          | false =>
              simp only [hopen, Bool.false_eq_true, if_false] at hmember
              obtain ⟨failure, hholds, rfl⟩ := take?_eq_some_iff.mp hmember
              refine ⟨?_, ?_⟩
              · rw [length_valuesOf_fill failure hopen, hcount]
              · intro value hvalue
                rcases List.mem_cons.mp (mem_valuesOf.mp hvalue) with hfirst | hlater
                · obtain ⟨hfield, rfl⟩ := Prod.mk.inj hfirst
                  obtain rfl := Field.name_inj.mp hfield
                  exact ⟨failure, hholds⟩
                · exact hvalues value (mem_valuesOf.mpr hlater)

end Draft

end LintReport.Json
