import LintReport.Text.Decimal

/-!
Failures of the devices that reports are written to.

A failure has a kind, and may say more than that: a message, the words of another error behind it,
or what the system says of an error number. If it says nothing, the text of its kind is shown. There
is no end to the kinds; those named here are the ones that writing gives a meaning to.
-/

namespace LintReport

open Text

structure IoKind where
  /-- The name that inspection and log records show. -/
  name : String
  text : String
deriving DecidableEq

namespace IoKind

def brokenPipe : IoKind :=
  ⟨"BrokenPipe", "broken pipe"⟩

def interrupted : IoKind :=
  ⟨"Interrupted", "operation interrupted"⟩

def writeZero : IoKind :=
  ⟨"WriteZero", "write zero"⟩

end IoKind

/-- What a failure says beside its kind. An empty text is a text. -/
inductive IoDetail where
  /-- A message that is part of the program. -/
  | message (text : String)
  /-- The words of the error behind the failure. -/
  | custom (text : String)
  /-- The number of an error of the system, and what the system says of it. -/
  | system (code : Int) (text : String)
deriving DecidableEq

def IoDetail.shown : IoDetail → String
  | message text => text
  | custom text => text
  | system code text => text ++ " (os error " ++ signedDecimal code ++ ")"

structure IoError where
  kind : IoKind
  detail : Option IoDetail
deriving DecidableEq

namespace IoError

def text (failure : IoError) : String :=
  failure.detail.elim failure.kind.text IoDetail.shown

/-- A device that takes no byte of a non-empty piece will not take the rest of it either. -/
def nothingTaken : IoError :=
  ⟨.writeZero, some (.message "failed to write whole buffer")⟩

def closed : IoError :=
  ⟨.brokenPipe, some (.custom "closed")⟩

/-- Whether trying the same write again is the right answer to a failure. -/
def isInterruption (failure : IoError) : Bool :=
  failure.kind == .interrupted

end IoError

end LintReport
