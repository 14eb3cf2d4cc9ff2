import LintReport.Json.Payload

/-!
The grammar of JSON, stated without the readers.

A text says a tree, and it may say it in many ways: blanks stand where they like, characters of a
string are spelt as themselves or by an escape, and an exponent has a large or a small letter. The
grammar relates a tree to each of its spellings. Numbers stay as they are spelt, with their
digits and signs, and the members of an object stay in their order, be there several of one name.
-/

namespace LintReport.Json

open Text

inductive Tree where
  | null
  | flag (value : Bool)
  | number (literal : NumberLiteral)
  | string (text : String)
  | array (items : List Tree)
  | object (members : List (String × Tree))

/-! ### Strings -/

def letterEscapes : List (Char × Char) :=
  [('"', '"'), ('\\', '\\'), ('/', '/'), ('b', '\x08'), ('f', '\x0c'), ('n', '\n'), ('r', '\r'),
    ('t', '\t')]

/-- Four hexadecimal digits, of either case, spell a number. -/
inductive SpellsQuad : Nat → List Char → Prop
  | digits {a b c d : Char} {i j k l : Nat} (ha : hexValue? a = some i) (hb : hexValue? b = some j)
      (hc : hexValue? c = some k) (hd : hexValue? d = some l) :
      SpellsQuad (((i * 16 + j) * 16 + k) * 16 + l) [a, b, c, d]

inductive SpellsChar : Char → List Char → Prop
  /-- All but quotes, backslashes and control characters may stand for themselves. -/
  | plain {c : Char} (hquote : c ≠ '"') (hbackslash : c ≠ '\\') (hcontrol : 0x20 ≤ c.toNat) :
      SpellsChar c [c]
  | letter {c letter : Char} (h : (letter, c) ∈ letterEscapes) : SpellsChar c ['\\', letter]
  | number {c : Char} {digits : List Char} (h : SpellsQuad c.toNat digits) :
      SpellsChar c ('\\' :: 'u' :: digits)
  /-- A character beyond the first 65536 is spelt by the two halves of a surrogate pair. -/
  | pair {c : Char} {high low : Nat} {first second : List Char} (hfirst : SpellsQuad high first)
      (hsecond : SpellsQuad low second) (hhigh : 0xd800 ≤ high ∧ high < 0xdc00)
      (hlow : 0xdc00 ≤ low ∧ low < 0xe000)
      (hc : c.toNat = 0x10000 + (high - 0xd800) * 0x400 + (low - 0xdc00)) :
      SpellsChar c ('\\' :: 'u' :: first ++ '\\' :: 'u' :: second)

inductive SpellsChars : List Char → List Char → Prop
  | nil : SpellsChars [] []
  | cons {c : Char} {text s t : List Char} (hchar : SpellsChar c s) (hmore : SpellsChars text t) :
      SpellsChars (c :: text) (s ++ t)

/-! ### Numbers -/

def AreDigits (s : List Char) : Prop :=
  s ≠ [] ∧ ∀ c ∈ s, c.isDigit = true

inductive SpellsFraction : Option (List Char) → List Char → Prop
  | absent : SpellsFraction none []
  | present {digits : List Char} (h : AreDigits digits) :
      SpellsFraction (some digits) ('.' :: digits)

/-- The sign of an exponent, which a positive one may do without. -/
inductive SpellsSign : Bool → List Char → Prop
  | absent : SpellsSign false []
  | plus : SpellsSign false ['+']
  | minus : SpellsSign true ['-']

inductive SpellsExponent : Option (Bool × List Char) → List Char → Prop
  | absent : SpellsExponent none []
  | present {negative : Bool} {e : Char} {sign digits : List Char} (he : e = 'e' ∨ e = 'E')
      (hsign : SpellsSign negative sign) (h : AreDigits digits) :
      SpellsExponent (some (negative, digits)) (e :: sign ++ digits)

/-- The spellings of a number. Its digits in front of the point begin with a zero only if that zero
is all of them. -/
inductive SpellsNumber : NumberLiteral → List Char → Prop
  | literal {negative : Bool} {whole f e : List Char} {fraction : Option (List Char)}
      {exponent : Option (Bool × List Char)} (hwhole : AreDigits whole)
      (hzero : whole.head? = some '0' → whole = ['0']) (hfraction : SpellsFraction fraction f)
      (hexponent : SpellsExponent exponent e) :
      SpellsNumber ⟨negative, whole, fraction, exponent⟩
        ((if negative then ['-'] else []) ++ whole ++ f ++ e)

/-! ### Values -/

def Blank (s : List Char) : Prop :=
  ∀ c ∈ s, c ∈ [' ', '\t', '\n', '\r']

/-- A part of a text: a value, a value among blanks, several of them in an array, a member of an
object, or several of them. -/
inductive Part where
  | value (tree : Tree)
  | element (tree : Tree)
  | elements (items : List Tree)
  | member (name : String) (tree : Tree)
  | members (members : List (String × Tree))

/-- The spellings of a part. The brackets are not part of what they enclose. -/
inductive Spells : Part → List Char → Prop
  | null : Spells (.value .null) ['n', 'u', 'l', 'l']
  | yes : Spells (.value (.flag true)) ['t', 'r', 'u', 'e']
  | no : Spells (.value (.flag false)) ['f', 'a', 'l', 's', 'e']
  | number {literal : NumberLiteral} {s : List Char} (h : SpellsNumber literal s) :
      Spells (.value (.number literal)) s
  | string {text : String} {s : List Char} (h : SpellsChars text.toList s) :
      Spells (.value (.string text)) ('"' :: s ++ ['"'])
  | emptyArray {s : List Char} (h : Blank s) : Spells (.value (.array [])) ('[' :: s ++ [']'])
  | array {items : List Tree} {s : List Char} (h : Spells (.elements items) s) :
      Spells (.value (.array items)) ('[' :: s ++ [']'])
  | emptyObject {s : List Char} (h : Blank s) : Spells (.value (.object [])) ('{' :: s ++ ['}'])
  | object {members : List (String × Tree)} {s : List Char} (h : Spells (.members members) s) :
      Spells (.value (.object members)) ('{' :: s ++ ['}'])
  | element {tree : Tree} {a s b : List Char} (ha : Blank a) (h : Spells (.value tree) s)
      (hb : Blank b) : Spells (.element tree) (a ++ s ++ b)
  | lastElement {tree : Tree} {s : List Char} (h : Spells (.element tree) s) :
      Spells (.elements [tree]) s
  | elements {tree : Tree} {more : List Tree} {s t : List Char} (h : Spells (.element tree) s)
      (hmore : Spells (.elements more) t) : Spells (.elements (tree :: more)) (s ++ ',' :: t)
  | member {name : String} {tree : Tree} {a n b s : List Char} (ha : Blank a)
      (hname : SpellsChars name.toList n) (hb : Blank b) (h : Spells (.element tree) s) :
      Spells (.member name tree) (a ++ '"' :: n ++ '"' :: b ++ ':' :: s)
  | lastMember {name : String} {tree : Tree} {s : List Char} (h : Spells (.member name tree) s) :
      Spells (.members [(name, tree)]) s
  | members {name : String} {tree : Tree} {more : List (String × Tree)} {s t : List Char}
      (h : Spells (.member name tree) s) (hmore : Spells (.members more) t) :
      Spells (.members ((name, tree) :: more)) (s ++ ',' :: t)

/-- A JSON text: a value, and blanks around it. -/
def SpeltBy (text : String) (tree : Tree) : Prop :=
  Spells (.element tree) text.toList

end LintReport.Json
