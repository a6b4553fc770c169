import WidgetStage.Text.Blank

/-!
# Tokens of an option string

An option string holds segments between semicolons, and a well formed segment assigns a value
to a key. The tokenizer is an automaton that looks at one character at a time. It yields the
assignments in order and skips every other segment: one without a key, one whose key is
followed by anything but an equals sign, one without an equals sign.

The positions in a tokenizer count characters of its input, so that every cut falls between
two characters.

* `Tokenizer.step` — one transition.
* `Tokenizer.measure_step` — every transition makes the remaining work smaller.
* `Tokenizer.next` — the next token, if there is one.
* `Tokenizer.run` — all tokens, each with the state after it.
-/

namespace WidgetStage

/-- What the tokenizer is looking for. -/
inductive ScanState where
  /-- The first character of a segment. -/
  | start
  /-- The end of a key. -/
  | matchingKey
  /-- The equals sign after a key. -/
  | awaitingAssign
  /-- The end of a value. -/
  | readingValue
  /-- The end of a malformed segment. -/
  | skipping
  /-- A malformed segment has just been found. -/
  | malformed
  /-- Nothing: the input has ended. -/
  | finished
  deriving DecidableEq, Repr

namespace ScanState

/-- The name of a state. -/
def name : ScanState → String
  | .start => "Start"
  | .matchingKey => "MatchingKey"
  | .awaitingAssign => "AwaitingAssign"
  | .readingValue => "ReadingValue"
  | .skipping => "SkipToSemicolon"
  | .malformed => "Error"
  | .finished => "End"

/-- How many transitions in a row can follow without consuming a character. -/
def rank : ScanState → Nat
  | .start => 4
  | .matchingKey => 3
  | .awaitingAssign => 3
  | .malformed => 2
  | .skipping => 1
  | .readingValue => 1
  | .finished => 0

end ScanState

/-- An assignment of a value to a key. -/
structure Token where
  key : List Char
  value : List Char
  deriving DecidableEq, Repr

/-- A tokenizer between two transitions: the input, the number of characters consumed, what is
looked for, and where the current key and value stand. -/
structure Tokenizer where
  input : Array Char
  pos : Nat
  state : ScanState
  keyStart : Nat
  keyEnd : Nat
  valueStart : Nat
  deriving DecidableEq, Repr

namespace Tokenizer

/-- The tokenizer at the start of a text. -/
def ofString (s : String) : Tokenizer :=
  ⟨s.toList.toArray, 0, .start, 0, 0, 0⟩

/-- Whether a character separates a key from what surrounds it. -/
def isGap (c : Char) : Bool :=
  c == ' ' || c == '\t'

/-- The characters from `first` up to and without `last`. -/
def slice (t : Tokenizer) (first last : Nat) : List Char :=
  (t.input.extract first last).toList

/-- The token of the key and value that have been delimited. -/
def token (t : Tokenizer) : Token :=
  ⟨t.slice t.keyStart t.keyEnd, Text.trim (t.slice t.valueStart t.pos)⟩

/-- Consumes one character and goes to another state. -/
def consume (t : Tokenizer) (state : ScanState) : Tokenizer :=
  { t with pos := t.pos + 1, state := state }

/-- Goes to another state without consuming anything. -/
def goto (t : Tokenizer) (state : ScanState) : Tokenizer :=
  { t with state := state }

/-- Consumes an equals sign: the value begins after it. -/
def beginValue (t : Tokenizer) : Tokenizer :=
  { t with pos := t.pos + 1, valueStart := t.pos + 1, state := .readingValue }

/-- One transition, and the token that it completes, if any. -/
def step (t : Tokenizer) : Option Token × Tokenizer :=
  match t.state, t.input[t.pos]? with
  | .finished, _ => (none, t)
  | .start, none => (none, t.goto .finished)
  | .start, some c =>
    if isGap c || c == ';' then (none, t.consume .start)
    else if c == '=' then (none, t.goto .malformed)
    else (none, { t with keyStart := t.pos, state := .matchingKey })
  | .matchingKey, none => (none, t.goto .finished)
  | .matchingKey, some c =>
    if c == '=' then (none, { t with keyEnd := t.pos }.beginValue)
    else if isGap c then (none, { t with keyEnd := t.pos }.consume .awaitingAssign)
    else if c == ';' then (none, t.goto .malformed)
    else (none, t.consume .matchingKey)
  | .awaitingAssign, none => (none, t.goto .finished)
  | .awaitingAssign, some c =>
    if isGap c then (none, t.consume .awaitingAssign)
    else if c == '=' then (none, t.beginValue)
    else (none, t.goto .malformed)
  | .readingValue, none => (some t.token, t.goto .finished)
  | .readingValue, some c =>
    if c == ';' then (some t.token, t.consume .start)
    else (none, t.consume .readingValue)
  | .malformed, _ => (none, t.goto .skipping)
  | .skipping, none => (none, t.goto .finished)
  | .skipping, some c =>
    if c == ';' then (none, t.consume .start)
    else (none, t.consume .skipping)

/-- The work that remains: characters to consume, and transitions without consuming any. -/
def measure (t : Tokenizer) : Nat :=
  5 * (t.input.size - t.pos) + t.state.rank

/-- Consuming a character makes the work smaller, whatever the state before and after. -/
theorem measure_consume {t u : Tokenizer} (hlt : t.pos < t.input.size)
    (hpos : u.pos = t.pos + 1) (hinput : u.input = t.input) : u.measure < t.measure := by
  have hrank : ∀ s : ScanState, s.rank ≤ 4 := by
    intro s
    cases s <;> decide
  have hu := hrank u.state
  unfold measure
  rw [hpos, hinput]
  omega

/-- Every transition makes the remaining work smaller, until the input has ended. -/
theorem measure_step {t : Tokenizer} (h : t.state ≠ .finished) : t.step.2.measure < t.measure := by
  have lt_of_some : ∀ {c}, t.input[t.pos]? = some c → t.pos < t.input.size := by
    intro c hc
    exact (Array.getElem?_eq_some_iff.1 hc).1
  unfold step
  split
  · next hs => exact absurd hs h
  · next hs _ => simp [measure, goto, hs, ScanState.rank]
  · next hs hc =>
    repeat' split
    · exact measure_consume (lt_of_some hc) rfl rfl
    · simp [measure, goto, hs, ScanState.rank]
    · simp [measure, hs, ScanState.rank]
  · next hs _ => simp [measure, goto, hs, ScanState.rank]
  · next hs hc =>
    repeat' split
    · exact measure_consume (lt_of_some hc) rfl rfl
    · exact measure_consume (lt_of_some hc) rfl rfl
    · simp [measure, goto, hs, ScanState.rank]
    · exact measure_consume (lt_of_some hc) rfl rfl
  · next hs _ => simp [measure, goto, hs, ScanState.rank]
  · next hs hc =>
    repeat' split
    · exact measure_consume (lt_of_some hc) rfl rfl
    · exact measure_consume (lt_of_some hc) rfl rfl
    · simp [measure, goto, hs, ScanState.rank]
  · next hs _ => simp [measure, goto, hs, ScanState.rank]
  · next hs hc =>
    split
    · exact measure_consume (lt_of_some hc) rfl rfl
    · exact measure_consume (lt_of_some hc) rfl rfl
  · next hs => simp [measure, goto, hs, ScanState.rank]
  · next hs _ => simp [measure, goto, hs, ScanState.rank]
  · next hs hc =>
    split
    · exact measure_consume (lt_of_some hc) rfl rfl
    · exact measure_consume (lt_of_some hc) rfl rfl

/-- The next token, if there is one, and the tokenizer after it. -/
def next (t : Tokenizer) : Option Token × Tokenizer :=
  if h : t.state = .finished then (none, t)
  else
    have : t.step.2.measure < t.measure := measure_step h
    match t.step.1 with
    | some token => (some token, t.step.2)
    | none => t.step.2.next
termination_by t.measure

/-- A token is not free: the work that remains after it is smaller. -/
theorem measure_next {t : Tokenizer} {token : Token} (h : t.next.1 = some token) :
    t.next.2.measure < t.measure := by
  fun_induction next t with
  | case1 t hs => cases h
  | case2 t hs hlt token' hstep => exact hlt
  | case3 t hs hlt hstep ih => exact Nat.lt_trans (ih h) hlt

/-- All tokens that are still to come, each with the state after it, and the tokenizer at the
end. -/
def run (t : Tokenizer) : List (Token × ScanState) × Tokenizer :=
  match h : t.next.1 with
  | none => ([], t.next.2)
  | some token =>
    have : t.next.2.measure < t.measure := measure_next h
    let rest := t.next.2.run
    ((token, t.next.2.state) :: rest.1, rest.2)
termination_by t.measure

end Tokenizer

/-- The tokens of a text, in order. -/
def tokens (s : String) : List Token :=
  (Tokenizer.ofString s).run.1.map Prod.fst

end WidgetStage
