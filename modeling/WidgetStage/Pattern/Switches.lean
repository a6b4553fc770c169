import WidgetStage.Text.Blank

/-!
# Switches of patterns

A pattern may turn switches on and off by their letters, from where they stand to the end of the
group around them. Three of them decide how the rest of the pattern is read; the others only
decide what it matches.

* `Switches.read?` — the switches in the head of a group.
* `Switches.skip` — drops white space and comments, if a switch says so.
-/

namespace WidgetStage.Pattern

/-- The switches that matter to reading. -/
structure Switches where
  /-- Letters match in either case. -/
  ignoreCase : Bool
  /-- The pattern is about characters, and not about bytes. -/
  unicode : Bool
  /-- White space and comments do not count. -/
  spaced : Bool
  deriving DecidableEq, Repr

/-- Drops white space and comments, which run from a hash to the end of the line. The first
argument tells whether the characters begin in a comment. -/
def skipNotes : Bool → List Char → List Char
  | _, [] => []
  | true, c :: cs => skipNotes (c != '\n') cs
  | false, c :: cs =>
    if Text.isBlank c then skipNotes false cs
    else if c == '#' then skipNotes true cs
    else c :: cs

namespace Switches

/-- The switches at the start of a pattern. -/
def start : Switches :=
  ⟨false, true, false⟩

/-- Drops what does not count. -/
def skip (s : Switches) (cs : List Char) : List Char :=
  if s.spaced then skipNotes false cs else cs

/-- The letters of all switches. -/
def letters : List Char :=
  ['i', 'u', 'x', 'm', 's', 'R', 'U']

/-- Turns the switch of a letter on or off. -/
def set (s : Switches) (letter : Char) (on : Bool) : Switches :=
  match letter with
  | 'i' => { s with ignoreCase := on }
  | 'u' => { s with unicode := on }
  | 'x' => { s with spaced := on }
  | _ => s

/-- Reads letters up to a colon or a closing parenthesis. A minus sign turns off the switches
after it. No letter and no sign stands there twice, and no sign at the end. The letters and signs
are answered in reverse order, beside the characters from the colon or parenthesis on. -/
def read? (s : Switches) (on : Bool) (seen : List Char) :
    List Char → Option (Switches × List Char × List Char)
  | [] => none
  | c :: cs =>
    if c == ':' || c == ')' then
      if seen.head? == some '-' then none else some (s, seen, c :: cs)
    else if seen.contains c then none
    else if c == '-' then read? s false (c :: seen) cs
    else if letters.contains c then read? (s.set c on) on (c :: seen) cs
    else none

end Switches

end WidgetStage.Pattern
