import LintReport.Inspect
import LintReport.Posting
import LintReport.Sink.Bytes

/-!
How the values of this library are shown for inspection. The names of records and of their parts
are part of what is shown, and are laid down here.
-/

namespace LintReport

universe u v

open Text

class Inspectable (α : Type u) where
  inspect : α → Inspect

export Inspectable (inspect)

def inspectNumber (n : Nat) : Inspect :=
  .atom (decimal n)

instance : Inspectable String where
  inspect := .quoted

instance : Inspectable UInt64 where
  inspect n := inspectNumber n.toNat

instance : Inspectable IoKind where
  inspect kind := .atom kind.name

instance {α : Type u} [Inspectable α] : Inspectable (Option α) where
  inspect value := .ofOption (value.map inspect)

instance : Inspectable Channel where
  inspect
    | .findings => .atom "Findings"
    | .errors => .atom "Errors"

/-- What a failure says decides how it is shown: a message of the program is not shown as another
error behind the failure is. -/
instance : Inspectable IoError where
  inspect failure :=
    match failure.detail with
    | none => .tuple "Kind" [inspect failure.kind]
    | some (.message text) =>
      .record "Error" [("kind", inspect failure.kind), ("message", inspect text)]
    | some (.custom text) =>
      .record "Custom" [("kind", inspect failure.kind), ("error", inspect text)]
    | some (.system code text) =>
      .record "Os"
        [("code", .atom (signedDecimal code)), ("kind", inspect failure.kind),
          ("message", inspect text)]

instance : Inspectable Fault where
  inspect
    | .rejected channel cause =>
      .record "Write" [("channel", inspect channel), ("source", inspect cause)]
    | .emptySource file => .record "EmptySource" [("filename", inspect file)]
    | .columnOutside file offset lineLength =>
      .record "OffsetOutOfRange"
        [("filename", inspect file), ("offset", inspect offset),
          ("line_len", inspectNumber lineLength)]

instance : Inspectable ParseFailure where
  inspect failure :=
    .record "SyntaxErrorInfo"
      [("filename", inspect failure.file), ("message", inspect failure.message),
        ("lineno", inspect failure.line), ("offset", inspect failure.offset),
        ("text", inspect failure.text)]

instance : Inspectable Excerpt where
  inspect block :=
    .record "SyntaxErrorBlock"
      [("header", inspect block.header), ("source_line", inspect block.source),
        ("caret", inspect block.caret)]

instance : Inspectable ByteBuffer where
  inspect buffer := .list (buffer.bytes.map fun b => inspectNumber b.toNat)

instance {ω : Type u} [Inspectable ω] : Inspectable (Utf8Sink ω) where
  inspect sink := .record "Stream" [("inner", inspect sink.device)]

instance {φ : Type u} {ε : Type v} [Inspectable φ] [Inspectable ε] :
    Inspectable (Outputs φ ε) where
  inspect outputs :=
    .record "Reporter" [("findings", inspect outputs.findings), ("errors", inspect outputs.errors)]

end LintReport
