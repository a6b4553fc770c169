import WidgetStage.Pattern.Bracket
import WidgetStage.Text.Alphanumeric

/-!
# Reading patterns

A pattern is a choice of sequences, and a sequence has parts: atoms, sets in brackets, groups in
parentheses, and repetitions of a part. Nothing is matched here; it is only decided whether a text
is a pattern. So all that is kept of a part is how deep it nests and whether it can be repeated.
Counts in braces are no repetitions.

* `Pattern.depth?` — how deep a pattern nests.
* `Pattern.check` — whether a text is a pattern.
-/

namespace WidgetStage.Pattern

/-- What matters of a part that was read. -/
structure Part where
  /-- The number of sequences, choices, groups, sets and repetitions around its innermost atom. -/
  depth : Nat
  /-- Whether it can be repeated. -/
  repeatable : Bool
  deriving DecidableEq, Repr

/-- The inside of a group, as far as it was read. -/
structure Group where
  /-- The switches around the group. -/
  around : Switches
  /-- The depths of the sequences that were read. -/
  sequences : List Nat
  /-- The parts of the sequence that is being read, the last one first. -/
  parts : List Part

namespace Group

/-- A group of which nothing was read. -/
def opened (around : Switches) : Group :=
  ⟨around, [], []⟩

/-- Adds a part. -/
def add (g : Group) (p : Part) : Group :=
  { g with parts := p :: g.parts }

/-- The depths of all sequences. -/
def depths (g : Group) : List Nat :=
  depthOfAll (g.parts.map Part.depth) :: g.sequences

/-- Goes on after a bar. -/
def choose (g : Group) : Group :=
  { g with sequences := g.depths, parts := [] }

/-- Repeats the last part. -/
def repeated? (g : Group) : Option Group :=
  match g.parts with
  | [] => none
  | p :: ps => if p.repeatable then some { g with parts := ⟨p.depth + 1, true⟩ :: ps } else none

end Group

/-- How far a pattern was read. -/
structure Reader where
  /-- The switches in force. -/
  switches : Switches
  /-- The names of groups. -/
  names : List (List Char)
  /-- The innermost group. -/
  inner : Group
  /-- The groups around it. -/
  outer : List Group

namespace Reader

/-- Before the first character. -/
def start : Reader :=
  ⟨.start, [], .opened .start, []⟩

/-- Adds a part to the innermost group. -/
def add (r : Reader) (p : Part) : Reader :=
  { r with inner := r.inner.add p }

/-- Adds an atom where it is allowed. -/
def addAtom? (r : Reader) (a : Atom) : Option Reader :=
  if a.isAllowed r.switches then some (r.add ⟨0, true⟩) else none

/-- Enters a group that has these switches. -/
def enter (r : Reader) (switches : Switches) : Reader :=
  { r with switches := switches, inner := .opened r.switches, outer := r.inner :: r.outer }

/-- Leaves the innermost group. -/
def leave? (r : Reader) : Option Reader :=
  match r.outer with
  | [] => none
  | g :: gs =>
    some { r with
      switches := r.inner.around
      inner := g.add ⟨1 + depthOfAll r.inner.depths, true⟩
      outer := gs }

/-- Whether a text can name a group. -/
def isName : List Char → Bool
  | [] => false
  | c :: cs =>
    (c == '_' || Text.isAlphabetic c) &&
      cs.all fun c => ['_', '.', '[', ']'].contains c || Text.isAlphanumeric c

/-- Enters a group with a name of its own. -/
def enterNamed? (r : Reader) (cs : List Char) : Option (Reader × List Char) :=
  let name := cs.takeWhile (· ≠ '>')
  match cs.dropWhile (· ≠ '>') with
  | [] => none
  | _ :: rest =>
    if isName name && !r.names.contains name then
      some ({ r with names := name :: r.names }.enter r.switches, rest)
    else none

/-- Enters a group with switches of its own, or sets switches for the rest of this one. -/
def switch? (r : Reader) (cs : List Char) : Option (Reader × List Char) :=
  match r.switches.read? true [] cs with
  | some (s, _, ':' :: rest) => some (r.enter s, rest)
  | some (s, _ :: _, ')' :: rest) => some ({ r with switches := s }.add ⟨0, false⟩, rest)
  | _ => none

/-- Reads what follows an opening parenthesis. -/
def openGroup? (r : Reader) (cs : List Char) : Option (Reader × List Char) :=
  match r.switches.skip cs with
  | '?' :: 'P' :: '<' :: cs => r.enterNamed? cs
  | '?' :: '<' :: cs => r.enterNamed? cs
  | '?' :: cs => r.switch? cs
  | cs => some (r.enter r.switches, cs)

/-- Repeats the last part. A question mark after the sign of the repetition belongs to it. -/
def repeated? (r : Reader) (cs : List Char) : Option (Reader × List Char) :=
  let rest :=
    match cs with
    | '?' :: rest => rest
    | cs => cs
  r.inner.repeated?.map fun g => ({ r with inner := g }, rest)

/-- Reads one step, which begins with the character `c`. -/
def step? (r : Reader) (c : Char) (cs : List Char) : Option (Reader × List Char) :=
  match c with
  | '(' => r.openGroup? cs
  | ')' => r.leave?.map fun r => (r, cs)
  | '|' => some ({ r with inner := r.inner.choose }, cs)
  | '[' => (bracket? r.switches cs).map fun (d, rest) => (r.add ⟨d, true⟩, rest)
  | '?' => r.repeated? cs
  | '*' => r.repeated? cs
  | '+' => r.repeated? cs
  | '\x7b' => none
  | '\\' =>
    match escape? r.switches cs with
    | none => none
    | some (a, rest) => (r.addAtom? a).map fun r => (r, rest)
  | '.' => (r.addAtom? .any).map fun r => (r, cs)
  | '^' => (r.addAtom? .edge).map fun r => (r, cs)
  | '$' => (r.addAtom? .edge).map fun r => (r, cs)
  | c => (r.addAtom? (.literal c false)).map fun r => (r, cs)

/-- Reads to the end, where no group may be open, and answers the depth. The first argument bounds
the number of steps. -/
def run? : Nat → Reader → List Char → Option Nat
  | 0, _, _ => none
  | fuel + 1, r, cs =>
    match r.switches.skip cs with
    | [] => if r.outer.isEmpty then some (depthOfAll r.inner.depths) else none
    | c :: cs =>
      match r.step? c cs with
      | none => none
      | some (r, rest) => run? fuel r rest

end Reader

/-- How deep a pattern nests. -/
def depth? (cs : List Char) : Option Nat :=
  Reader.start.run? (cs.length + 1) cs

/-- The greatest depth of a pattern. -/
def depthMax : Nat := 250

/-- Whether a text is a pattern. -/
def check (cs : List Char) : Bool :=
  (depth? cs).any (· ≤ depthMax)

end WidgetStage.Pattern
