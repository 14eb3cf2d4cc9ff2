import LintReport.Diagnostic
import LintReport.Inspect

/-!
Records for a log. A report announces itself before anything else is done with it, and a write
that is rejected is recorded with the channel and the failure. A record has a level and named
fields, of which its message is one.
-/

namespace LintReport

open Text

inductive Level where
  | debug
  | warning
deriving DecidableEq

inductive Event where
  | unexpected (file : String)
  /-- The parts of a parse failure are about to be reported. -/
  | parseFailure (file : String) (line : UInt64) (offset : Option UInt64)
  /-- A prepared parse failure is about to be reported. -/
  | payload (file : String) (line : UInt64)
  | finding (text : String)
  | rejected (channel : Channel) (cause : IoError)
deriving DecidableEq

namespace Event

def level : Event → Level
  | rejected _ _ => .warning
  | _ => .debug

def message : Event → String
  | unexpected _ => "reporting unexpected error"
  | parseFailure _ _ _ => "reporting syntax error"
  | payload _ _ => "reporting syntax error"
  | finding _ => "reporting finding"
  | rejected _ _ => "destination rejected write"

def optionalNumber (value : Option UInt64) : String :=
  (Inspect.ofOption (value.map fun n => .atom (decimal n.toNat))).compact

/-- The fields of a record with their texts, in the order of their names. -/
def fields (event : Event) : List (String × String) :=
  match event with
  | unexpected file => [("filename", file), ("message", event.message)]
  | parseFailure file line offset =>
    [("filename", file), ("lineno", decimal line.toNat), ("message", event.message),
      ("offset", optionalNumber offset)]
  | payload file line =>
    [("filename", file), ("lineno", decimal line.toNat), ("message", event.message)]
  | finding text => [("finding", text), ("message", event.message)]
  | rejected channel cause =>
    [("channel", channel.text), ("error", cause.text), ("message", event.message)]

end Event

end LintReport
