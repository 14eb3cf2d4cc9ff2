/-!
Reading JSON from the front of a text.

A reader takes the characters that are left and answers with what it read and what is left then,
or with the first fault it meets. Faults are told apart by what they say about the text: it ends
too early, it is no JSON, or it is JSON of another shape than the one asked for.
-/

namespace LintReport.Json

inductive Fault where
  /-- The text ends where more of it is needed. -/
  | truncated
  /-- The text is no JSON. -/
  | malformed
  /-- The text is JSON, but not of the shape asked for. -/
  | mismatched
deriving DecidableEq

/-- What a reader answers: what was read and the characters left, or the first fault. -/
abbrev Reading (α : Type) :=
  Except Fault (α × List Char)

/-- What a reader read, put through a function. -/
def mapRead {α β : Type} (f : α → β) : Reading α → Reading β
  | .error fault => .error fault
  | .ok (a, rest) => .ok (f a, rest)

/-- What passed over a text, as a reader of a given value. -/
def giving {α : Type} (a : α) : Except Fault (List Char) → Reading α
  | .error fault => .error fault
  | .ok rest => .ok (a, rest)

theorem mapRead_eq_ok_iff {α β : Type} {f : α → β} {read : Reading α} {b : β} {r : List Char} :
    mapRead f read = .ok (b, r) ↔ ∃ a, read = .ok (a, r) ∧ f a = b := by
  cases read with
  | error => simp [mapRead]
  | ok p =>
    obtain ⟨a, rest⟩ := p
    simp only [mapRead, Except.ok.injEq, Prod.mk.injEq]
    constructor
    · rintro ⟨rfl, rfl⟩
      exact ⟨a, ⟨rfl, rfl⟩, rfl⟩
    · rintro ⟨_, ⟨rfl, rfl⟩, rfl⟩
      exact ⟨rfl, rfl⟩

theorem giving_eq_ok_iff {α : Type} {a b : α} {passed : Except Fault (List Char)} {r : List Char} :
    giving a passed = .ok (b, r) ↔ a = b ∧ passed = .ok r := by
  cases passed <;> simp [giving]

def isBlank (c : Char) : Bool :=
  c = ' ' || c = '\n' || c = '\t' || c = '\r'

def skipBlanks (s : List Char) : List Char :=
  s.dropWhile isBlank

theorem length_skipBlanks_le (s : List Char) : (skipBlanks s).length ≤ s.length :=
  (List.dropWhile_suffix isBlank).length_le

theorem length_le_of_skipBlanks_eq {s r : List Char} (h : skipBlanks s = r) :
    r.length ≤ s.length :=
  h ▸ length_skipBlanks_le s

theorem length_lt_of_skipBlanks_eq_cons {s r : List Char} {c : Char}
    (h : skipBlanks s = c :: r) : r.length < s.length :=
  length_le_of_skipBlanks_eq h

def readExactly : List Char → List Char → Except Fault (List Char)
  | [], s => .ok s
  | _ :: _, [] => .error .truncated
  | w :: word, c :: s => if c = w then readExactly word s else .error .malformed

theorem length_le_of_readExactly {word s r : List Char} (h : readExactly word s = .ok r) :
    r.length ≤ s.length := by
  fun_induction readExactly word s with
  | case1 s =>
    cases h
    exact Nat.le_refl _
  | case3 word c s ih => exact Nat.le_succ_of_le (ih h)
  | _ => cases h

/-- The three words of JSON, by their first character: the characters that follow it. -/
def wordAfter? (c : Char) : Option (List Char) :=
  if c = 'n' then some ['u', 'l', 'l']
  else if c = 't' then some ['r', 'u', 'e']
  else if c = 'f' then some ['a', 'l', 's', 'e']
  else none

def readColon (s : List Char) : Except Fault (List Char) :=
  match skipBlanks s with
  | [] => .error .truncated
  | ':' :: r => .ok r
  | _ :: _ => .error .malformed

theorem length_lt_of_readColon {s r : List Char} : readColon s = .ok r → r.length < s.length := by
  fun_cases readColon s with
  | case2 rest hnext =>
    rintro ⟨⟩
    exact length_lt_of_skipBlanks_eq_cons hnext
  | _ => rintro ⟨⟩

end LintReport.Json
