/-!
Physical lines of a text.

A text is read as a list of characters. A line ends at one of ten break characters, and a carriage
return followed by a line feed is one terminator. There are two readings of the lines here:
`physicalLines` goes through the whole text from the left and keeps every terminator, while
`finalLine?` looks only at the end of the text and walks back to the last break. The first says
what a line is, the second is what a display needs.
-/

namespace LintReport.Text

/-- Characters that end a line: the line feed, carriage return, vertical tab, form feed, the file,
group and record separators, the next-line control, and the line and paragraph separators. -/
def lineBreaks : List Char :=
  ['\n', '\r', '\x0b', '\x0c', '\x1c', '\x1d', '\x1e', '\u0085', '\u2028', '\u2029']

def isLineBreak (c : Char) : Bool :=
  lineBreaks.contains c

/-- One physical line: what is on it, and the terminator that closes it. The terminator is empty
only for a last line that the text leaves open. -/
structure Line where
  content : List Char
  ending : List Char
deriving DecidableEq

namespace Line

def covered (line : Line) : List Char :=
  line.content ++ line.ending

def push (c : Char) (line : Line) : Line :=
  { line with content := c :: line.content }

end Line

def pushOntoFirst (c : Char) : List Line → List Line
  | [] => [⟨[c], []⟩]
  | line :: more => line.push c :: more

/-- The physical lines of a text, read from the left. A terminator at the very end closes the last
line and opens no further one, so the empty text has no line. -/
def physicalLines : List Char → List Line
  | [] => []
  | [c] => if isLineBreak c then [⟨[], [c]⟩] else [⟨[c], []⟩]
  | c :: d :: rest =>
    if c = '\r' ∧ d = '\n' then ⟨[], [c, d]⟩ :: physicalLines rest
    else if isLineBreak c then ⟨[], [c]⟩ :: physicalLines (d :: rest)
    else pushOntoFirst c (physicalLines (d :: rest))

theorem flatMap_covered_pushOntoFirst (c : Char) (lines : List Line) :
    (pushOntoFirst c lines).flatMap Line.covered = c :: lines.flatMap Line.covered := by
  cases lines <;> simp [pushOntoFirst, Line.push, Line.covered]

/-- No character is lost: the lines with their terminators make up the text. -/
theorem flatMap_covered_physicalLines (text : List Char) :
    (physicalLines text).flatMap Line.covered = text := by
  fun_induction physicalLines text with
  | case1 => rfl
  | case2 c _ => simp [Line.covered]
  | case3 c _ => simp [Line.covered]
  | case4 c d rest _ ih => simp [Line.covered, ih]
  | case5 c d rest _ _ ih => simp [Line.covered, ih]
  | case6 c d rest _ _ ih => rw [flatMap_covered_pushOntoFirst, ih]

def lines (text : List Char) : List (List Char) :=
  (physicalLines text).map Line.content

/-- Removes the one terminator that closes a text. The argument and the result are written
backwards, so the terminator stands first. -/
def dropClosing : List Char → List Char
  | [] => []
  | [c] => if isLineBreak c then [] else [c]
  | c :: d :: before =>
    if c = '\n' ∧ d = '\r' then before
    else if isLineBreak c then d :: before
    else c :: d :: before

/-- The last physical line of a text, found from its end: one closing terminator is dropped, and
the line reaches back to the break before it. Only the empty text has none. -/
def finalLine? (text : List Char) : Option (List Char) :=
  if text.isEmpty then none
  else some ((dropClosing text.reverse).takeWhile (fun c => !isLineBreak c)).reverse

@[simp] theorem finalLine?_nil : finalLine? [] = none := rfl

theorem finalLine?_eq_none_iff {text : List Char} : finalLine? text = none ↔ text = [] := by
  cases text <;> simp [finalLine?]

theorem length_dropClosing_le (text : List Char) : (dropClosing text).length ≤ text.length := by
  fun_cases dropClosing text <;> simp
  omega

theorem length_finalLine?_le {text line : List Char} (h : finalLine? text = some line) :
    line.length ≤ text.length := by
  unfold finalLine? at h
  split at h
  · simp at h
  · cases h
    have shorter := (List.takeWhile_sublist (fun c => !isLineBreak c)
      (l := dropClosing text.reverse)).length_le
    have closed := length_dropClosing_le text.reverse
    simp only [List.length_reverse] at closed ⊢
    omega

end LintReport.Text
