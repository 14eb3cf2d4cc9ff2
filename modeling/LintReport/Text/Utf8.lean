/-!
The bytes of a text. A destination that stores bytes receives the UTF-8 encoding of what is
written to it, one character after the other.
-/

namespace LintReport.Text

def utf8 (text : String) : List UInt8 :=
  text.toList.flatMap String.utf8EncodeChar

@[simp] theorem utf8_append (a b : String) : utf8 (a ++ b) = utf8 a ++ utf8 b := by
  simp [utf8]

@[simp] theorem utf8_empty : utf8 "" = [] := rfl

/-- The number of bytes that characters take in UTF-8. -/
def utf8Length (text : List Char) : Nat :=
  (text.flatMap String.utf8EncodeChar).length

end LintReport.Text
