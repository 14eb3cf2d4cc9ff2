import LintReport.Sink.Recorder
import LintReport.Sink.Script
import LintReport.Text.Hex

/-!
Destinations that can be looked into. A store keeps what it accepted, shows it as a `Snapshot`,
and can be emptied. `AnyStore` hides which store it is, so that stores of different types can be
handed over as one type.
-/

namespace LintReport

universe u

inductive Snapshot where
  | text (captured : String)
  /-- The fragments of a recorder, and how many more it accepts. -/
  | fragments (recorded : List String) (allowance : Option Nat)
  | bytes (captured : List UInt8)
  /-- The bytes a scripted device took, its writes and flushes so far, and the acts still to
  come. -/
  | device (accepted : List UInt8) (calls flushes acts : Nat)
deriving DecidableEq

namespace Snapshot

/-- All that a store holds in one text; bytes are written in hexadecimal. -/
def contents : Snapshot → String
  | .text captured => captured
  | .fragments recorded _ => String.join recorded
  | .bytes captured => Text.hexBytes captured
  | .device accepted _ _ _ => Text.hexBytes accepted

end Snapshot

/-- A destination that keeps what it accepts. -/
class Store (σ : Type u) extends Sink σ where
  snapshot : σ → Snapshot
  /-- Forgets what was accepted. What will be accepted, and all counts, stay as they are. -/
  clear : σ → σ

instance : Store String where
  snapshot := .text
  clear _ := ""

instance : Store Recorder where
  snapshot recorder := .fragments recorder.fragments recorder.allowance
  clear recorder := { recorder with fragments := [] }

instance : Store (Utf8Sink ByteBuffer) where
  snapshot sink := .bytes sink.device.bytes
  clear _ := ⟨⟨[]⟩⟩

instance : Store (Utf8Sink Script) where
  snapshot sink :=
    let script := sink.device
    .device script.accepted script.calls script.flushes script.acts.length
  clear sink := ⟨{ sink.device with accepted := [] }⟩

instance {σ : Type u} [Store σ] : Store (Held σ) where
  snapshot held := Store.snapshot held.inner
  clear held := ⟨Store.clear held.inner⟩

structure AnyStore : Type (u + 1) where
  {σ : Type u}
  [store : Store σ]
  state : σ

namespace AnyStore

def write (any : AnyStore.{u}) (text : String) : Except IoError Unit × AnyStore.{u} :=
  let _ := any.store
  let (answer, state) := Sink.write any.state text
  (answer, ⟨state⟩)

def snapshot (any : AnyStore.{u}) : Snapshot :=
  let _ := any.store
  Store.snapshot any.state

def clear (any : AnyStore.{u}) : AnyStore.{u} :=
  let _ := any.store
  ⟨Store.clear any.state⟩

end AnyStore

instance : Store AnyStore.{u} where
  write := AnyStore.write
  snapshot := AnyStore.snapshot
  clear := AnyStore.clear

end LintReport
