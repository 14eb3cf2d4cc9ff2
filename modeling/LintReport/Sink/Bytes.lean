import LintReport.Sink.Basic
import LintReport.Text.Utf8

/-!
Destinations that store bytes. A byte device may take less than it is offered and may be
interrupted; `deliver` goes on until all bytes are taken or the device fails for good. `Utf8Sink`
puts that loop under text: each piece of text goes out as one run of UTF-8 bytes, and the device
is never flushed.

The loop ends because an accepted write shortens what is left, and because a device has only so
much `patience`: every interruption uses up some of it.
-/

namespace LintReport

universe u

class ByteDevice (ω : Type u) where
  /-- Offers bytes to the device, which answers how many of them, from the front, it took. -/
  write : ω → List UInt8 → Except IoError Nat × ω
  /-- Asks the device to pass on what it holds back. -/
  flush : ω → Except IoError Unit × ω
  /-- A bound on the interruptions that are still to come. -/
  patience : ω → Nat
  /-- An interruption uses up patience. -/
  patience_lt : ∀ {device : ω} {bytes : List UInt8} {failure : IoError},
    (write device bytes).1 = .error failure → failure.isInterruption = true →
    patience (write device bytes).2 < patience device

namespace ByteDevice

variable {ω : Type u} [ByteDevice ω]

/-- Writes all of the given bytes. A device that takes some is offered the rest, one that is
interrupted is offered the same again, and one that takes none of them has failed. Nothing at all
is asked of the device when there is nothing to write. -/
def deliver (device : ω) (bytes : List UInt8) : Except IoError Unit × ω :=
  if _empty : bytes = [] then (.ok (), device)
  else
    match answered : (write device bytes).1 with
    | .ok 0 => (.error .nothingTaken, (write device bytes).2)
    | .ok (taken + 1) => deliver (write device bytes).2 (bytes.drop (taken + 1))
    | .error failure =>
      if _again : failure.isInterruption = true then deliver (write device bytes).2 bytes
      else (.error failure, (write device bytes).2)
termination_by (bytes.length, patience device)
decreasing_by
  · have hsome : 0 < bytes.length := List.length_pos_iff.mpr _empty
    exact Prod.Lex.left _ _ (by simp only [List.length_drop]; omega)
  · exact Prod.Lex.right _ (patience_lt answered _again)

end ByteDevice

/-- A byte device used as a destination of text, which is written to it in UTF-8. -/
structure Utf8Sink (ω : Type u) where
  device : ω
deriving DecidableEq

instance {ω : Type u} [ByteDevice ω] : Sink (Utf8Sink ω) where
  write sink text :=
    let (answer, device) := ByteDevice.deliver sink.device (Text.utf8 text)
    (answer, ⟨device⟩)

@[simp] theorem write_utf8Sink {ω : Type u} [ByteDevice ω] (device : ω) (text : String) :
    Sink.write (Utf8Sink.mk device) text =
      ((ByteDevice.deliver device (Text.utf8 text)).1,
        ⟨(ByteDevice.deliver device (Text.utf8 text)).2⟩) := rfl

structure ByteBuffer where
  bytes : List UInt8
deriving DecidableEq

instance : ByteDevice ByteBuffer where
  write buffer bytes := (.ok bytes.length, ⟨buffer.bytes ++ bytes⟩)
  flush buffer := (.ok (), buffer)
  patience _ := 0
  patience_lt failed := by simp at failed

end LintReport
