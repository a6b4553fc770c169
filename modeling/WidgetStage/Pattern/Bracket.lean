import WidgetStage.Pattern.Atom

/-!
# Brackets of patterns

Brackets hold a set of characters: single ones, ranges, named ASCII classes, and sets in brackets
again. Double signs between the members cut, subtract and compare sets, from left to right. Among
bytes nothing can be negated, because what is left would have bytes beyond ASCII. All that is kept
of a set is how deep it nests: the number of sets around its innermost member.

* `bracket?` — the set after an opening bracket.
* `Level.depth` — how deep the inside of a bracket nests.
-/

namespace WidgetStage.Pattern

/-- What follows a double sign, if the text begins with one: the sign of an intersection, a
difference or a symmetric difference. -/
def doubleSign? : List Char → Option (List Char)
  | '&' :: '&' :: cs => some cs
  | '-' :: '-' :: cs => some cs
  | '~' :: '~' :: cs => some cs
  | _ => none

/-- The depth of parts next to each other: one part alone is not nested any deeper. -/
def depthOfAll : List Nat → Nat
  | [] => 0
  | [d] => d
  | ds => 1 + ds.foldl max 0

/-- The inside of an opening bracket, as far as it was read. -/
structure Level where
  /-- The depth of what stands to the left of the last double sign. -/
  left : Option Nat
  /-- The depths of the members after the last double sign. -/
  members : List Nat
  deriving DecidableEq, Repr

namespace Level

/-- The depth of what was read. -/
def depth (l : Level) : Nat :=
  match l.left with
  | none => depthOfAll l.members
  | some d => 1 + max d (depthOfAll l.members)

/-- Adds a member of this depth. -/
def add (l : Level) (depth : Nat) : Level :=
  { l with members := depth :: l.members }

/-- Goes on after a double sign. -/
def operate (l : Level) : Level :=
  ⟨some l.depth, []⟩

end Level

/-- The dashes at the front of a bracket, each of which is a member. The first argument bounds
their number. -/
def leadingDashes (s : Switches) : Nat → List Char → Nat × List Char
  | fuel + 1, '-' :: cs =>
    let (n, rest) := leadingDashes s fuel (s.skip cs)
    (n + 1, rest)
  | _, cs => (0, cs)

/-- The front of a bracket: a caret, dashes, and a closing bracket that is a member because it
stands first. -/
def level? (s : Switches) (cs : List Char) : Option (Level × List Char) :=
  let cs := s.skip cs
  let (negated, cs) :=
    match cs with
    | '^' :: cs => (true, s.skip cs)
    | cs => (false, cs)
  let (dashes, cs) := leadingDashes s (cs.length + 1) cs
  let (first, cs) :=
    match dashes, cs with
    | 0, ']' :: cs => (1, s.skip cs)
    | _, cs => (dashes, cs)
  if negated && !s.unicode then none
  else if first ≠ 0 && !(Atom.literal '-' false).isMember s then none
  else some (⟨none, List.replicate first 0⟩, cs)

/-- The names of the ASCII classes. -/
def asciiClasses : List String :=
  ["alnum", "alpha", "ascii", "blank", "cntrl", "digit", "graph", "lower", "print", "punct",
   "space", "upper", "word", "xdigit"]

/-- What follows the ASCII class between colons, after its opening bracket, and whether the class
is negated. -/
def asciiClass? : List Char → Option (Bool × List Char)
  | ':' :: cs =>
    let (negated, cs) :=
      match cs with
      | '^' :: cs => (true, cs)
      | cs => (false, cs)
    match cs.dropWhile (· ≠ ':') with
    | ':' :: ']' :: rest =>
      if asciiClasses.contains (String.ofList (cs.takeWhile (· ≠ ':'))) then some (negated, rest)
      else none
    | _ => none
  | _ => none

/-- The atom at the front of a text. -/
def memberAtom? (s : Switches) : List Char → Option (Atom × List Char)
  | [] => none
  | '\\' :: cs => escape? s cs
  | c :: cs => some (.literal c false, cs)

/-- Whether a dash is followed by a bracket or by a second dash, so that it makes no range. White
space and the signs of comments in between are passed over if they do not count. -/
def endsAtDash (s : Switches) (cs : List Char) : Bool :=
  let cs :=
    if s.spaced then
      match cs.dropWhile Text.isBlank with
      | '#' :: cs => cs.dropWhile Text.isBlank
      | cs => cs
    else cs
  cs.head? == some ']' || cs.head? == some '-'

/-- What follows a member: a single character, a shorthand, or a range from one character up to
another. -/
def member? (s : Switches) (cs : List Char) : Option (List Char) :=
  match memberAtom? s cs with
  | none => none
  | some (a, cs) =>
    if !a.isMember s then none
    else
      match s.skip cs with
      | [] => none
      | '-' :: cs =>
        if endsAtDash s cs then some ('-' :: cs)
        else
          match a, memberAtom? s (s.skip cs) with
          | .literal low _, some (.literal high byte, rest) =>
            if low.toNat ≤ high.toNat && (Atom.literal high byte).isMember s then some rest
            else none
          | _, _ => none
      | cs => some cs

/-- Reads on between brackets. The last bracket is `inner`, and those around it are `outer`. The
answer is the depth of the outermost set and what follows it. The first argument bounds the number
of steps. -/
def members? (s : Switches) : Nat → Level → List Level → List Char → Option (Nat × List Char)
  | 0, _, _, _ => none
  | fuel + 1, inner, outer, cs =>
    match s.skip cs with
    | [] => none
    | ']' :: rest =>
      match outer with
      | [] => some (1 + inner.depth, rest)
      | l :: ls => members? s fuel (l.add (1 + inner.depth)) ls rest
    | '[' :: cs =>
      match asciiClass? cs with
      | some (negated, rest) =>
        if (if s.unicode then s.ignoreCase else negated) then none
        else members? s fuel (inner.add 0) outer rest
      | none =>
        match level? s cs with
        | none => none
        | some (l, rest) => members? s fuel l (inner :: outer) rest
    | cs =>
      match doubleSign? cs with
      | some rest => members? s fuel inner.operate outer rest
      | none =>
        match member? s cs with
        | none => none
        | some rest => members? s fuel (inner.add 0) outer rest

/-- The depth of the set after an opening bracket, and what follows the set. -/
def bracket? (s : Switches) (cs : List Char) : Option (Nat × List Char) :=
  match level? s cs with
  | none => none
  | some (l, rest) => members? s (rest.length + 1) l [] rest

end WidgetStage.Pattern
