import LintReport.IoError

/-!
Destinations of text. All that a report needs of a destination is that a piece of text can be
written to it; what becomes of the piece, and when a write is rejected, is the destination's own
affair.
-/

namespace LintReport

universe u

/-- A destination of text. A write is accepted or fails, and leaves a new state either way. -/
class Sink (σ : Type u) where
  write : σ → String → Except IoError Unit × σ

instance : Sink String where
  write captured text := (.ok (), captured ++ text)

/-- A destination that is handed over behind a handle of its own. -/
structure Held (σ : Type u) where
  inner : σ
deriving DecidableEq

instance {σ : Type u} [Sink σ] : Sink (Held σ) where
  write held text :=
    let (answer, inner) := Sink.write held.inner text
    (answer, ⟨inner⟩)

@[simp] theorem write_string (captured text : String) :
    Sink.write captured text = (.ok (), captured ++ text) := rfl

@[simp] theorem write_held {σ : Type u} [Sink σ] (s : σ) (text : String) :
    Sink.write (Held.mk s) text = ((Sink.write s text).1, ⟨(Sink.write s text).2⟩) := rfl

end LintReport
