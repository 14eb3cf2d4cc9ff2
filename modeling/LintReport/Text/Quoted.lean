import LintReport.Text.CharRange
import LintReport.Text.Hex

/-!
Text in double quotes for inspection by a programmer.

Quotes and backslashes are escaped, and so is every character that would not show for what it is:
one that is not printable, and one that would combine with its neighbour. All else stands for
itself.
-/

namespace LintReport.Text

/-- Whether a character does not show for what it is. -/
def isHiddenChar (c : Char) : Bool :=
  isCombining c || !isPrintable c

def inspectedChar (c : Char) : List Char :=
  if c = '"' then ['\\', '"']
  else if c = '\\' then ['\\', '\\']
  else if c = '\n' then ['\\', 'n']
  else if c = '\r' then ['\\', 'r']
  else if c = '\t' then ['\\', 't']
  else if c = '\x00' then ['\\', '0']
  else if isHiddenChar c then ['\\', 'u', '\x7b'] ++ hexNumeral c.toNat ++ ['\x7d']
  else [c]

def quoted (text : String) : String :=
  String.ofList ('"' :: text.toList.flatMap inspectedChar ++ ['"'])

end LintReport.Text
