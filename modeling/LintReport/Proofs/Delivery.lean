import LintReport.Sink.Script
import Mathlib.Data.List.Basic

/-!
Delivering bytes to a device.

There is one equation for each thing that a device can answer to a write, so that the loop of
`deliver` need not be opened again. For a scripted device they add up to a description of the whole
loop: either it takes all bytes (`Script.Takes`) or it breaks off at one act of its script
(`Script.BreaksOff`), and both descriptions hold of several deliveries in a row as they do of one.
-/

namespace LintReport

universe u

namespace ByteDevice

variable {ω : Type u} [ByteDevice ω] {device next : ω} {bytes : List UInt8}

theorem deliver_nil (device : ω) : deliver device [] = (.ok (), device) := by
  rw [deliver, dif_pos rfl]

theorem deliver_of_none_taken (hbytes : bytes ≠ []) (h : write device bytes = (.ok 0, next)) :
    deliver device bytes = (.error .nothingTaken, next) := by
  rw [deliver, dif_neg hbytes]
  split <;> simp_all

theorem deliver_of_taken {taken : Nat} (hbytes : bytes ≠ [])
    (h : write device bytes = (.ok (taken + 1), next)) :
    deliver device bytes = deliver next (bytes.drop (taken + 1)) := by
  rw [deliver, dif_neg hbytes]
  split <;> simp_all

theorem deliver_of_interrupted {failure : IoError} (hbytes : bytes ≠ [])
    (h : write device bytes = (.error failure, next)) (hfailure : failure.isInterruption = true) :
    deliver device bytes = deliver next bytes := by
  rw [deliver, dif_neg hbytes]
  split <;> simp_all

theorem deliver_of_failed {failure : IoError} (hbytes : bytes ≠ [])
    (h : write device bytes = (.error failure, next)) (hfailure : failure.isInterruption = false) :
    deliver device bytes = (.error failure, next) := by
  rw [deliver, dif_neg hbytes]
  split <;> simp_all

end ByteDevice

/-! ### Scripted devices -/

/-- After such an act the loop goes on: some bytes were taken, or the write was interrupted. -/
def Act.Proceeds : Act → Prop
  | .accept limit => 0 < limit
  | .fail failure => failure.isInterruption = true

@[simp] theorem Act.proceeds_accept {limit : Nat} : (accept limit).Proceeds ↔ 0 < limit := Iff.rfl

@[simp] theorem Act.proceeds_fail {failure : IoError} :
    (fail failure).Proceeds ↔ failure.isInterruption = true := Iff.rfl

/-- Such an act ends the loop: no byte was taken, or the write failed in earnest. -/
inductive Act.Stops : Act → IoError → Prop
  | nothingTaken : Stops (.accept 0) .nothingTaken
  | failed {failure : IoError} (h : failure.isInterruption = false) : Stops (.fail failure) failure

namespace Script

/-- The device takes all the bytes. Each of its writes plays one act, as long as there are any. -/
structure Takes (script : Script) (bytes : List UInt8) (after : Script) : Prop where
  accepted : after.accepted = script.accepted ++ bytes
  flushes : after.flushes = script.flushes
  writes : ∃ count, after.calls = script.calls + count ∧ after.acts = script.acts.drop count ∧
    ∀ act ∈ script.acts.take count, act.Proceeds

/-- The device takes some of the bytes, but not all of them. Its last write is the one that fails,
and no write before it did. -/
structure BreaksOff (script : Script) (bytes : List UInt8) (cause : IoError) (after : Script) :
    Prop where
  accepted : ∃ added rest, bytes = added ++ rest ∧ rest ≠ [] ∧
    after.accepted = script.accepted ++ added
  flushes : after.flushes = script.flushes
  writes : ∃ used last, script.acts = used ++ last :: after.acts ∧
    after.calls = script.calls + used.length + 1 ∧ (∀ act ∈ used, act.Proceeds) ∧ last.Stops cause

theorem Takes.refl (script : Script) : script.Takes [] script :=
  ⟨by rw [List.append_nil], rfl, 0, rfl, rfl, by simp⟩

theorem Takes.trans {script middle after : Script} {a b : List UInt8} (ha : script.Takes a middle)
    (hb : middle.Takes b after) : script.Takes (a ++ b) after where
  accepted := by rw [hb.accepted, ha.accepted, List.append_assoc]
  flushes := hb.flushes.trans ha.flushes
  writes := by
    obtain ⟨m, hm, hactsm, hprocm⟩ := ha.writes
    obtain ⟨n, hn, hactsn, hprocn⟩ := hb.writes
    refine ⟨m + n, by omega, by rw [hactsn, hactsm, List.drop_drop], ?_⟩
    intro act hact
    rw [List.take_add, List.mem_append] at hact
    rcases hact with hact | hact
    · exact hprocm act hact
    · rw [← hactsm] at hact
      exact hprocn act hact

theorem Takes.breaksOff {script middle after : Script} {a b : List UInt8} {cause : IoError}
    (ha : script.Takes a middle) (hb : middle.BreaksOff b cause after) :
    script.BreaksOff (a ++ b) cause after where
  accepted := by
    obtain ⟨added, rest, hsplit, hrest, hadded⟩ := hb.accepted
    refine ⟨a ++ added, rest, ?_, hrest, ?_⟩
    · rw [hsplit, List.append_assoc]
    · rw [hadded, ha.accepted, List.append_assoc]
  flushes := hb.flushes.trans ha.flushes
  writes := by
    obtain ⟨m, hm, hactsm, hprocm⟩ := ha.writes
    obtain ⟨used, last, hacts, hcalls, hused, hlast⟩ := hb.writes
    -- There is an act left for the last write, so every write before it played one as well.
    have hlength : (script.acts.take m).length = m := by
      rw [List.length_take]
      have hlong := congrArg List.length (hactsm.symm.trans hacts)
      simp only [List.length_drop, List.length_append, List.length_cons] at hlong
      omega
    refine ⟨script.acts.take m ++ used, last, ?_, ?_, ?_, hlast⟩
    · rw [List.append_assoc, ← hacts, hactsm, List.take_append_drop]
    · rw [hcalls, hm, List.length_append, hlength]
      omega
    · intro act hact
      rcases List.mem_append.mp hact with hact | hact
      · exact hprocm act hact
      · exact hused act hact

theorem BreaksOff.append {script after : Script} {bytes : List UInt8} {cause : IoError}
    (h : script.BreaksOff bytes cause after) (later : List UInt8) :
    script.BreaksOff (bytes ++ later) cause after where
  accepted := by
    obtain ⟨added, rest, hsplit, hrest, hadded⟩ := h.accepted
    exact ⟨added, rest ++ later, by rw [hsplit, List.append_assoc], by simp [hrest], hadded⟩
  flushes := h.flushes
  writes := h.writes

/-! ### One write of a scripted device -/

def played (script : Script) (taken : List UInt8) : Script :=
  { script with
    accepted := script.accepted ++ taken, acts := script.acts.tail, calls := script.calls + 1 }

theorem write_of_nil {script : Script} (h : script.acts = []) (bytes : List UInt8) :
    ByteDevice.write script bytes = (.ok bytes.length, script.played bytes) := by
  simp [ByteDevice.write, write, played, h]

theorem write_of_accept {script : Script} {limit : Nat} {later : List Act}
    (h : script.acts = .accept limit :: later) (bytes : List UInt8) :
    ByteDevice.write script bytes =
      (.ok (min limit bytes.length), script.played (bytes.take limit)) := by
  simp [ByteDevice.write, write, played, h]

theorem write_of_fail {script : Script} {failure : IoError} {later : List Act}
    (h : script.acts = .fail failure :: later) (bytes : List UInt8) :
    ByteDevice.write script bytes = (.error failure, script.played []) := by
  simp [ByteDevice.write, write, played, h]

theorem takes_played {script : Script} (h : ∀ act ∈ script.acts.head?, act.Proceeds)
    (taken : List UInt8) : script.Takes taken (script.played taken) := by
  refine ⟨rfl, rfl, 1, rfl, List.drop_one.symm, ?_⟩
  intro act hact
  rw [List.take_one, Option.mem_toList] at hact
  exact h act hact

theorem breaksOff_played {script : Script} {act : Act} {later : List Act} {cause : IoError}
    {bytes : List UInt8} (hacts : script.acts = act :: later) (hact : act.Stops cause)
    (hbytes : bytes ≠ []) : script.BreaksOff bytes cause (script.played []) := by
  refine ⟨⟨[], bytes, rfl, hbytes, rfl⟩, rfl, [], act, ?_, rfl, by simp, hact⟩
  rw [played, hacts]
  rfl

/-! ### The whole loop -/

def Delivers (script : Script) (bytes : List UInt8) : Prop :=
  (∃ after, script.Takes bytes after ∧ ByteDevice.deliver script bytes = (.ok (), after)) ∨
  (∃ cause after, script.BreaksOff bytes cause after ∧
    ByteDevice.deliver script bytes = (.error cause, after))

theorem Delivers.of_takes {script middle : Script} {taken rest : List UInt8}
    (htaken : script.Takes taken middle) (hrest : middle.Delivers rest)
    (hdeliver : ByteDevice.deliver script (taken ++ rest) = ByteDevice.deliver middle rest) :
    script.Delivers (taken ++ rest) := by
  rw [Delivers, hdeliver]
  rcases hrest with ⟨after, htakes, hend⟩ | ⟨cause, after, hbreaks, hend⟩
  · exact .inl ⟨after, htaken.trans htakes, hend⟩
  · exact .inr ⟨cause, after, htaken.breaksOff hbreaks, hend⟩

/-- Every delivery to a scripted device takes all bytes or breaks off. The induction is on the
acts: each turn of the loop plays one, and when there are none left a single write takes all. -/
theorem delivers (script : Script) (bytes : List UInt8) : script.Delivers bytes := by
  by_cases hbytes : bytes = []
  · subst hbytes
    exact .inl ⟨script, .refl script, ByteDevice.deliver_nil script⟩
  induction hacts : script.acts generalizing script bytes with
  | nil =>
      obtain ⟨n, hlength⟩ : ∃ n, bytes.length = n + 1 :=
        Nat.exists_eq_succ_of_ne_zero (by simpa using hbytes)
      have hwrite := write_of_nil hacts bytes
      rw [hlength] at hwrite
      refine .inl ⟨_, takes_played (by simp [hacts]) bytes, ?_⟩
      rw [ByteDevice.deliver_of_taken hbytes hwrite, ← hlength, List.drop_length,
        ByteDevice.deliver_nil]
  | cons act later ih =>
      -- What is left after this turn, if anything is, goes to a device with one act less.
      have hnext : ∀ taken rest, (script.played taken).Delivers rest := by
        intro taken rest
        by_cases hrest : rest = []
        · subst hrest
          exact .inl ⟨_, .refl _, ByteDevice.deliver_nil _⟩
        · exact ih _ rest hrest (by simp [played, hacts])
      cases act with
      | accept limit =>
          cases limit with
          | zero =>
              have hwrite := write_of_accept hacts bytes
              rw [Nat.zero_min, List.take_zero] at hwrite
              exact .inr ⟨_, _, breaksOff_played hacts .nothingTaken hbytes,
                ByteDevice.deliver_of_none_taken hbytes hwrite⟩
          | succ n =>
              have hlength := List.length_pos_iff.mpr hbytes
              obtain ⟨k, hk⟩ : ∃ k, min (n + 1) bytes.length = k + 1 :=
                ⟨min (n + 1) bytes.length - 1, by omega⟩
              have hwrite := write_of_accept hacts bytes
              rw [List.take_eq_take_min, hk] at hwrite
              have htakes : script.Takes (bytes.take (k + 1)) (script.played _) :=
                takes_played (by simp [hacts]) (bytes.take (k + 1))
              have hdelivers := Delivers.of_takes htakes (hnext _ (bytes.drop (k + 1))) (by
                rw [List.take_append_drop]
                exact ByteDevice.deliver_of_taken hbytes hwrite)
              rwa [List.take_append_drop] at hdelivers
      | fail failure =>
          have hwrite := write_of_fail hacts bytes
          cases hfailure : failure.isInterruption with
          | false =>
              exact .inr ⟨_, _, breaksOff_played hacts (.failed hfailure) hbytes,
                ByteDevice.deliver_of_failed hbytes hwrite hfailure⟩
          | true =>
              have htakes : script.Takes [] (script.played []) :=
                takes_played (by simpa [hacts] using hfailure) []
              exact .of_takes htakes (hnext [] bytes)
                (ByteDevice.deliver_of_interrupted hbytes hwrite hfailure)

end Script

end LintReport
