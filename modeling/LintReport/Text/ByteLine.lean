import LintReport.Text.Line
import LintReport.Text.Utf8

/-!
The last line of a text in bytes, and a column on it in words.

Where a text is stored as UTF-8, its last line is a stretch of bytes, and sizes and positions are
words of 64 bits. Here the line and the column of an offset are found in that way, with every step
that can go wrong made visible: a text can only be cut between two of its characters, and a sum or a
difference has to be a word again. There is no answer (`none`) if one of these steps fails.
-/

namespace LintReport.Text

/-! ### Words -/

def word (n : Nat) : UInt64 :=
  UInt64.ofNat n

def moreBy? (n d : UInt64) : Option UInt64 :=
  if n.toNat + d.toNat < UInt64.size then some (n + d) else none

def lessBy? (n d : UInt64) : Option UInt64 :=
  if d ≤ n then some (n - d) else none

/-! ### Characters in bytes -/

/-- A byte that is not the first one of a character. -/
def continues (b : UInt8) : Bool :=
  0x80 ≤ b && b < 0xc0

def charCount (bytes : List UInt8) : Nat :=
  bytes.countP fun b => !continues b

def firstChar? (bytes : List UInt8) : Option Char :=
  bytes.toByteArray.utf8DecodeChar? 0

/-- The last character of a text, and the bytes in front of it. It reaches back to the nearest byte
that begins a character. -/
def lastChar? (bytes : List UInt8) : Option (List UInt8 × Char) :=
  match bytes.reverse.dropWhile continues with
  | [] => none
  | first :: before =>
    (firstChar? (first :: (bytes.reverse.takeWhile continues).reverse)).map fun c =>
      (before.reverse, c)

theorem length_lt_of_lastChar? {bytes before : List UInt8} {c : Char} :
    lastChar? bytes = some (before, c) → before.length < bytes.length := by
  fun_cases lastChar? bytes with
  | case1 => rintro ⟨⟩
  | case2 first rest hdrop =>
    intro h
    obtain ⟨d, -, hd⟩ := Option.map_eq_some_iff.mp h
    obtain ⟨rfl, -⟩ := Prod.mk.inj hd
    have hsuffix := (List.dropWhile_suffix continues (l := bytes.reverse)).length_le
    rw [hdrop] at hsuffix
    simp only [List.length_cons, List.length_reverse] at hsuffix ⊢
    omega

/-- A text can be cut at its two ends and in front of each of its characters. -/
def isBoundary (bytes : List UInt8) (position : UInt64) : Bool :=
  if position = 0 then true
  else
    match bytes[position.toNat]? with
    | none => position.toNat = bytes.length
    | some b => !continues b

def cutAt? (position : UInt64) (bytes : List UInt8) : Option (List UInt8 × List UInt8) :=
  if isBoundary bytes position then
    some (bytes.take position.toNat, bytes.drop position.toNat)
  else none

/-! ### The last line -/

def withoutClosing? (bytes : List UInt8) : Option (List UInt8) :=
  if [0x0d, 0x0a].isSuffixOf bytes then some (bytes.take (bytes.length - 2))
  else
    match lastChar? bytes with
    | none => some bytes
    | some (_, c) =>
      if isLineBreak c then do
        let stop ← lessBy? (word bytes.length) (word c.utf8Size)
        return (← cutAt? stop bytes).1
      else some bytes

/-- The position after the last line break of a text, or its beginning. The characters are looked at
from the last one backwards, and each begins where the bytes in front of it end. -/
def afterLastBreak? (bytes : List UInt8) : Option UInt64 :=
  match _last : lastChar? bytes with
  | none => some 0
  | some (before, c) =>
    if isLineBreak c then moreBy? (word before.length) (word c.utf8Size)
    else afterLastBreak? before
termination_by bytes.length
decreasing_by exact length_lt_of_lastChar? _last

def finalLineInBytes? (bytes : List UInt8) : Option (Option (List UInt8)) :=
  if bytes.isEmpty then some none
  else do
    let body ← withoutClosing? bytes
    let start ← afterLastBreak? body
    return some (← cutAt? start body).2

/-! ### Columns -/

/-- Moves an offset into a text onto its last line. There is no column (`some none`) for an offset
in front of the line or more than one past its end. -/
def columnInWords? (text line : List UInt8) (offset : UInt64) : Option (Option UInt64) := do
  let lineLength := word (charCount line)
  let before ← lessBy? (word (charCount text)) lineLength
  return (lessBy? offset before).filter fun column => column ≤ lineLength

def caretIndent? (column : UInt64) : Option UInt64 :=
  moreBy? column 1

end LintReport.Text
