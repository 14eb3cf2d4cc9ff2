import LintReport.Proofs.Literals
import LintReport.Proofs.Members

/-!
A parse failure survives its way through JSON.

A failure is written as an object that names each field once, in the order of the fields and
without blanks, so the members are collected in a draft one after the other. Each fills in one field
and leaves the others as they were, so that the draft is the whole failure when the closing bracket
is reached. Main statement: what was encoded is decoded again, whatever characters and numbers it
holds.
-/

namespace LintReport.Json

def writtenMembers (failure : ParseFailure) (fields : List Field) : List (String × Tree) :=
  fields.map fun field => (field.name, field.tree failure)

/-! ### The spelling of a written failure -/

theorem spells_writeMember (failure : ParseFailure) (field : Field) :
    Spells (.member field.name (field.tree failure)) (writeMember failure field) := by
  have hmember := Spells.bareMember (spellsChars_escaped field.name.toList)
    (spells_writeField failure field)
  simpa [writeMember, writeString] using hmember

theorem spells_members (failure : ParseFailure) (field : Field) (more : List Field) :
    Spells (.members (writtenMembers failure (field :: more)))
      (List.intersperse [','] ((field :: more).map (writeMember failure))).flatten := by
  induction more generalizing field with
  | nil => simpa [writtenMembers] using Spells.lastMember (spells_writeMember failure field)
  | cons next more ih =>
      simpa [writtenMembers] using Spells.members (spells_writeMember failure field) (ih next)

theorem spells_encode (failure : ParseFailure) :
    Spells (.value (.object (writtenMembers failure Field.all))) (encode failure).toList := by
  rw [encode, String.toList_ofList]
  exact .object (spells_members failure .file [.message, .line, .offset, .text])

/-! ### Reading it again -/

/-- Members of fields that the draft lacks are collected in their order, each into the draft that
those before it have left. -/
theorem collect?_writtenMembers (failure : ParseFailure) (fields : List Field) (draft : Draft)
    (hnodup : fields.Nodup) (hnew : ∀ field ∈ fields, draft.has field = false) :
    draft.collect? (writtenMembers failure fields) =
      some (fields.foldl (Draft.fill failure) draft) := by
  induction fields generalizing draft with
  | nil => rfl
  | cons field more ih =>
      obtain ⟨hfresh, hmore⟩ := List.nodup_cons.mp hnodup
      have htake : draft.take? (field.tree failure) field = some (draft.fill failure field) :=
        Draft.take?_eq_some_iff.mpr ⟨failure, field.holds_tree failure, rfl⟩
      -- Filling in this field leaves all those that follow to be filled in.
      have hlater : ∀ other ∈ more, (draft.fill failure field).has other = false := by
        intro other hother
        have hne : other ≠ field := by
          rintro rfl
          exact hfresh hother
        rw [Draft.has_fill failure draft hne]
        exact hnew other (List.mem_cons_of_mem field hother)
      have hfield : draft.has field = false := hnew field List.mem_cons_self
      rw [List.foldl_cons, ← ih (draft.fill failure field) hmore hlater]
      simp only [writtenMembers, List.map_cons, Draft.collect?, Draft.member?, Field.ofName?_name,
        hfield, Bool.false_eq_true, if_false, htake, Option.bind_some]

theorem finiteFields_writtenMembers (failure : ParseFailure) (fields : List Field) :
    FiniteFields (writtenMembers failure fields) := by
  intro field tree hmember
  obtain ⟨other, -, hsame⟩ := List.mem_map.mp hmember
  obtain ⟨hname, rfl⟩ := Prod.mk.inj hsame
  exact (other.holds_tree failure).finite

theorem readDraft_encode (failure : ParseFailure) :
    readDraft (encode failure).toList =
      .ok (Field.all.foldl (Draft.fill failure) .empty, []) := by
  have hcollect := collect?_writtenMembers failure Field.all .empty (by decide) (by decide)
  have hread := readDraft_of_object blank_nil (spells_encode failure)
    (finiteFields_writtenMembers failure Field.all) []
  rw [hcollect, List.nil_append, List.append_nil] at hread
  exact hread

/-- What was encoded is decoded again to the same parse failure, and this one is encoded to the same
text again. So no two parse failures have the same text. -/
theorem decode_encode (failure : ParseFailure) :
    decode (encode failure) = .ok failure ∧
    (decode (encode failure)).map encode = .ok (encode failure) ∧
    ∀ other, encode other = encode failure → other = failure := by
  have hdecode (failure : ParseFailure) : decode (encode failure) = .ok failure := by
    rw [decode, readDraft_encode]
    simp only [Draft.complete_fill]
    rfl
  refine ⟨hdecode failure, ?_, ?_⟩
  · rw [hdecode]
    rfl
  · intro other h
    have hother := hdecode other
    rw [h, hdecode] at hother
    exact (Except.ok.inj hother).symm

end LintReport.Json
