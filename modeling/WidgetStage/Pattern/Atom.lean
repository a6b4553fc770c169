import WidgetStage.Pattern.Switches
import WidgetStage.Text.Numeral

/-!
# Atoms of patterns

An atom is a character of a pattern that stands for itself, or an escape. A pattern is matched
against whole characters, without tables of letter cases and of classes of characters; an atom
is refused where it would need such a table or could match a part of a character.

* `escape?` — the atom after a backslash.
* `Atom.isAllowed`, `Atom.isMember` — where an atom may stand.
* `isAllowed_of_isMember` — what may stand between brackets may stand outside of them.
-/

namespace WidgetStage.Pattern

/-- What a character of a pattern or an escape stands for. -/
inductive Atom where
  /-- A character. If it was written as a byte, it may mean that byte. -/
  | literal (c : Char) (byte : Bool)
  /-- Digits, white space or word characters, or all others. -/
  | shorthand (negated : Bool)
  /-- Any character within a line. -/
  | any
  /-- A start or an end of the text or of a line. -/
  | edge
  /-- A start or an end of a word, or any other place. -/
  | wordEdge
  deriving DecidableEq, Repr

namespace Atom

/-- Whether the atom may stand outside of brackets. -/
def isAllowed (s : Switches) : Atom → Bool
  | literal c byte => if s.unicode then !s.ignoreCase else !(byte && 0x80 ≤ c.toNat)
  | shorthand negated => !s.unicode && !negated
  | any => s.unicode
  | edge => true
  | wordEdge => !s.unicode

/-- Whether the atom may stand between brackets. Among bytes it has to be an ASCII character. -/
def isMember (s : Switches) : Atom → Bool
  | literal c _ => if s.unicode then !s.ignoreCase else c.toNat < 0x80
  | shorthand negated => !s.unicode && !negated
  | _ => false

end Atom

/-- Reads digits in base sixteen that continue the value `value`, as many as the first argument
says. -/
def hexDigits? (s : Switches) : Nat → Nat → List Char → Option (Nat × List Char)
  | 0, value, cs => some (value, s.skip cs)
  | n + 1, value, cs =>
    match s.skip cs with
    | [] => none
    | c :: cs =>
      match Text.digitValue? 16 c with
      | none => none
      | some d => hexDigits? s n (value * 16 + d) cs

/-- The character whose code point is written with `count` digits in base sixteen. -/
def codePoint? (s : Switches) (count : Nat) (cs : List Char) : Option (Atom × List Char) :=
  match hexDigits? s count 0 cs with
  | none => none
  | some (n, rest) =>
    if n.isValidChar then some (.literal (Char.ofNat n) (count == 2), rest) else none

/-- The control that a short escape stands for. -/
def control? : Char → Option Char
  | 'a' => some '\x07'
  | 't' => some '\t'
  | 'n' => some '\n'
  | 'v' => some '\x0b'
  | 'f' => some '\x0c'
  | 'r' => some '\r'
  | _ => none

/-- Whether a character stands for itself after a backslash. The angles do not: they are the
edges of a word. -/
def isEscapable (c : Char) : Bool :=
  c.toNat < 0x80 && !c.isAlphanum && c != '<' && c != '>'

/-- The atom after a backslash. -/
def escape? (s : Switches) : List Char → Option (Atom × List Char)
  | [] => none
  | 'x' :: cs => codePoint? s 2 cs
  | 'u' :: cs => codePoint? s 4 cs
  | 'U' :: cs => codePoint? s 8 cs
  | c :: cs =>
    match control? c with
    | some c => some (.literal c false, cs)
    | none =>
      if ['d', 's', 'w'].contains c then some (.shorthand false, cs)
      else if ['D', 'S', 'W'].contains c then some (.shorthand true, cs)
      else if ['A', 'z'].contains c then some (.edge, cs)
      else if ['b', 'B', '<', '>'].contains c then some (.wordEdge, cs)
      else if isEscapable c then some (.literal c false, cs)
      else none

/-- What may stand between brackets may stand outside of them. -/
theorem isAllowed_of_isMember {s : Switches} {a : Atom} (h : a.isMember s = true) :
    a.isAllowed s = true := by
  cases a with
  | literal c byte =>
    simp only [Atom.isMember, Atom.isAllowed] at h ⊢
    split
    · next hu => simpa [hu] using h
    · next hu =>
      have hc : c.toNat < 0x80 := by simpa [hu] using h
      have : ¬0x80 ≤ c.toNat := by omega
      simp [this]
  | shorthand negated => exact h
  | any => simp [Atom.isMember] at h
  | edge => simp [Atom.isMember] at h
  | wordEdge => simp [Atom.isMember] at h

end WidgetStage.Pattern
