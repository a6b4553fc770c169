import WidgetStage.Proofs.Image.Segments

/-!
# Where tokens are cut

A tokenizer keeps three positions while it goes from state to state, and cuts a token out of its
input when a value ends. What it knows about the positions depends on its state: a key has begun, or
has ended, or a value has begun. Every transition leads from one such stage to the next, or drops
the segment.

## Main results

* `Tokenizer.Transition`, `Tokenizer.transition_step`: what a transition can do.
* `Tokenizer.Placed.step`, `Tokenizer.Placed.after`: the positions stay in order.
* `Tokenizer.pairwise_cuts`: the tokens are cut out of separate stretches of the input, from left
  to right.
* `Tokenizer.cuts_called`: a call makes one cut, as long as there are any.
* `Tokenizer.next_of_none`: once there is no token, the input has ended, and there never is one
  again.
-/

namespace WidgetStage

/-- The positions at which a token is cut out of the input. -/
structure Cut where
  keyStart : Nat
  keyEnd : Nat
  valueStart : Nat
  stop : Nat
  deriving DecidableEq, Repr

/-- A cut with its positions renamed. -/
def Cut.map (f : Nat → Nat) (c : Cut) : Cut :=
  ⟨f c.keyStart, f c.keyEnd, f c.valueStart, f c.stop⟩

/-- What is cut out: the key, and the value without the blanks around it. -/
def Cut.token (input : Array Char) (c : Cut) : Token :=
  ⟨(input.extract c.keyStart c.keyEnd).toList,
    Text.trim (input.extract c.valueStart c.stop).toList⟩

/-- A key that is not empty is followed by an equals sign, maybe after a gap, and the value begins
after that. -/
structure Cut.Delimits (input : Array Char) (c : Cut) : Prop where
  key : c.keyStart < c.keyEnd
  assign : c.keyEnd < c.valueStart
  value : c.valueStart ≤ c.stop
  inside : c.stop ≤ input.size
  equals : input[c.valueStart - 1]? = some '='

namespace Tokenizer

variable {t : Tokenizer} {n p : Nat}

/-- Where a token would be cut that ends here. -/
def cutHere (t : Tokenizer) : Cut :=
  ⟨t.keyStart, t.keyEnd, t.valueStart, t.pos⟩

/-! ### What a transition can do -/

/-- One transition, from the state and the character it depends on. -/
inductive Transition (t : Tokenizer) : Option Token → Tokenizer → Prop
  | rest : t.state = .finished → Transition t none t
  | inputEnds : t.state ≠ .readingValue → Transition t none (t.goto .finished)
  | segmentEnds {c : Char} : t.input[t.pos]? = some c → t.state ≠ .readingValue →
      Transition t none (t.consume .start)
  | keyBegins {c : Char} : t.input[t.pos]? = some c → c ≠ ';' → Token.isKeyChar c = true →
      Transition t none { t with keyStart := t.pos, state := .matchingKey }
  | keyGoesOn {c : Char} : t.state = .matchingKey → t.input[t.pos]? = some c →
      Transition t none (t.consume .matchingKey)
  | keyEnds {c : Char} : t.state = .matchingKey → t.input[t.pos]? = some c →
      Token.isKeyChar c = false →
      Transition t none ({ t with keyEnd := t.pos }.consume .awaitingAssign)
  | keyAssigned : t.state = .matchingKey → t.input[t.pos]? = some '=' →
      Transition t none { t with keyEnd := t.pos }.beginValue
  | gapGoesOn {c : Char} : t.state = .awaitingAssign → t.input[t.pos]? = some c →
      Transition t none (t.consume .awaitingAssign)
  | gapAssigned : t.state = .awaitingAssign → t.input[t.pos]? = some '=' →
      Transition t none t.beginValue
  | valueGoesOn {c : Char} : t.state = .readingValue → t.input[t.pos]? = some c →
      Transition t none (t.consume .readingValue)
  | valueEnds : t.state = .readingValue → t.input[t.pos]? = some ';' →
      Transition t (some t.token) (t.consume .start)
  | valueEndsInput : t.state = .readingValue → Transition t (some t.token) (t.goto .finished)
  | fails : Transition t none (t.goto .malformed)
  | skips : Transition t none (t.goto .skipping)
  | skipsOn {c : Char} : t.input[t.pos]? = some c → Transition t none (t.consume .skipping)

variable {c : Char}

/-- At the start of a segment: a separator is passed over, an equals sign is an error, and anything
else begins a key. -/
theorem transition_start (hs : t.state = .start) (hc : t.input[t.pos]? = some c) :
    t.Transition t.step.1 t.step.2 := by
  have hvalue : t.state ≠ .readingValue := by simp [hs]
  simp only [step, hs, hc]
  split
  · exact .segmentEnds hc hvalue
  next hsep =>
    simp only [Bool.or_eq_true, beq_iff_eq, not_or, Bool.not_eq_true] at hsep
    split
    · exact .fails
    next hassign =>
      exact .keyBegins hc hsep.2 (Token.isKeyChar_of_not_isGap hsep.1 (by simpa using hassign))

/-- Within a key: it ends at a gap or at an equals sign, and a semicolon is an error. -/
theorem transition_matchingKey (hs : t.state = .matchingKey) (hc : t.input[t.pos]? = some c) :
    t.Transition t.step.1 t.step.2 := by
  simp only [step, hs, hc]
  split
  next hassign => exact .keyAssigned hs (by rw [hc, beq_iff_eq.1 hassign])
  split
  next hgap => exact .keyEnds hs hc (by simp [Token.isKeyChar, hgap])
  split
  · exact .fails
  · exact .keyGoesOn hs hc

/-- After a key: gaps are passed over until the equals sign comes, and anything else is an error. -/
theorem transition_awaitingAssign (hs : t.state = .awaitingAssign)
    (hc : t.input[t.pos]? = some c) : t.Transition t.step.1 t.step.2 := by
  simp only [step, hs, hc]
  split
  · exact .gapGoesOn hs hc
  split
  next hassign => exact .gapAssigned hs (by rw [hc, beq_iff_eq.1 hassign])
  · exact .fails

/-- Within a value: it ends at a semicolon. -/
theorem transition_readingValue (hs : t.state = .readingValue) (hc : t.input[t.pos]? = some c) :
    t.Transition t.step.1 t.step.2 := by
  simp only [step, hs, hc]
  split
  next hsemicolon => exact .valueEnds hs (by rw [hc, beq_iff_eq.1 hsemicolon])
  · exact .valueGoesOn hs hc

/-- In a malformed segment: everything is passed over up to a semicolon. -/
theorem transition_skipping (hs : t.state = .skipping) (hc : t.input[t.pos]? = some c) :
    t.Transition t.step.1 t.step.2 := by
  simp only [step, hs, hc]
  split
  · exact .segmentEnds hc (by simp [hs])
  · exact .skipsOn hc

/-- What the automaton does is one of the transitions. -/
theorem transition_step (t : Tokenizer) : t.Transition t.step.1 t.step.2 := by
  rcases hc : t.input[t.pos]? with _ | c
  · cases hs : t.state with
    | start | matchingKey | awaitingAssign | skipping =>
      simp only [step, hs, hc]
      exact .inputEnds (by simp [hs])
    | readingValue =>
      simp only [step, hs, hc]
      exact .valueEndsInput hs
    | malformed =>
      simp only [step, hs]
      exact .skips
    | finished =>
      simp only [step, hs]
      exact .rest hs
  · cases hs : t.state with
    | start => exact transition_start hs hc
    | matchingKey => exact transition_matchingKey hs hc
    | awaitingAssign => exact transition_awaitingAssign hs hc
    | readingValue => exact transition_readingValue hs hc
    | skipping => exact transition_skipping hs hc
    | malformed =>
      simp only [step, hs]
      exact .skips
    | finished =>
      simp only [step, hs]
      exact .rest hs

/-- The input stays. -/
theorem Transition.input {t u : Tokenizer} {o : Option Token} (h : t.Transition o u) :
    u.input = t.input := by
  cases h <;> rfl

/-- A token ends where the value does. -/
theorem Transition.isSome {t u : Tokenizer} {o : Option Token} (h : t.Transition o u)
    (ho : o.isSome = true) : t.state = .readingValue ∧ o = some t.token ∧
      (u.state = .finished ∨ u.state = .start ∧ u.pos = t.pos + 1) := by
  cases h with
  | valueEnds hs hc => exact ⟨hs, rfl, Or.inr ⟨rfl, rfl⟩⟩
  | valueEndsInput hs => exact ⟨hs, rfl, Or.inl rfl⟩
  | _ => cases ho

/-- No transition touches the input. -/
@[simp] theorem input_step (t : Tokenizer) : t.step.2.input = t.input :=
  (transition_step t).input

/-! ### The order of the positions -/

/-- What is known about the positions, stage by stage. A key that has begun is not empty, unless its
first character is still to be consumed. -/
structure Placed (t : Tokenizer) : Prop where
  inside : t.pos ≤ t.input.size
  key : t.state = .matchingKey → t.keyStart < t.pos ∨ t.keyStart = t.pos ∧
    ∃ c, t.input[t.pos]? = some c ∧ c ≠ ';' ∧ Token.isKeyChar c = true
  gap : t.state = .awaitingAssign → t.keyStart < t.keyEnd ∧ t.keyEnd < t.pos
  value : t.state = .readingValue → t.cutHere.Delimits t.input

/-- Where there is a character, the input has not ended. -/
theorem lt_size (hc : t.input[t.pos]? = some c) : t.pos < t.input.size :=
  (Array.getElem?_eq_some_iff.1 hc).1

/-- Between two segments, or in a malformed one, only the end of the input matters. -/
theorem placed_of_state (hinside : t.pos ≤ t.input.size) (hs : t.state = .start ∨
    t.state = .malformed ∨ t.state = .skipping ∨ t.state = .finished) : t.Placed := by
  rcases hs with hs | hs | hs | hs <;>
    exact ⟨hinside, by simp [hs], by simp [hs], by simp [hs]⟩

/-- Within a key, only the place where it begins matters. -/
theorem placed_of_key (hs : t.state = .matchingKey) (hinside : t.pos ≤ t.input.size)
    (hkey : t.keyStart < t.pos ∨ t.keyStart = t.pos ∧
      ∃ c, t.input[t.pos]? = some c ∧ c ≠ ';' ∧ Token.isKeyChar c = true) : t.Placed :=
  ⟨hinside, fun _ => hkey, by simp [hs], by simp [hs]⟩

/-- After a key, the places where it begins and ends matter. -/
theorem placed_of_gap (hs : t.state = .awaitingAssign) (hinside : t.pos ≤ t.input.size)
    (hgap : t.keyStart < t.keyEnd ∧ t.keyEnd < t.pos) : t.Placed :=
  ⟨hinside, by simp [hs], fun _ => hgap, by simp [hs]⟩

/-- Within a value, the token that would be cut here is delimited. -/
theorem placed_of_value (hs : t.state = .readingValue) (hvalue : t.cutHere.Delimits t.input) :
    t.Placed :=
  ⟨hvalue.inside, by simp [hs], by simp [hs], fun _ => hvalue⟩

/-- Once a key ends it is not empty. -/
theorem Placed.keyStart_lt (ht : t.Placed) (hs : t.state = .matchingKey)
    (hc : t.input[t.pos]? = some c) (hend : Token.isKeyChar c = false) : t.keyStart < t.pos := by
  rcases ht.key hs with hlt | ⟨-, d, hd, -, hchar⟩
  · exact hlt
  · obtain rfl : c = d := Option.some.inj (hc.symm.trans hd)
    simp [hend] at hchar

/-- Every transition keeps the positions in order: what the next state asks of them is known in this
one. -/
theorem Placed.transition {u : Tokenizer} {o : Option Token} (ht : t.Placed)
    (h : t.Transition o u) : u.Placed := by
  cases h with
  | rest => exact ht
  | inputEnds => exact placed_of_state ht.inside (by simp [goto])
  | valueEndsInput => exact placed_of_state ht.inside (by simp [goto])
  | fails => exact placed_of_state ht.inside (by simp [goto])
  | skips => exact placed_of_state ht.inside (by simp [goto])
  | segmentEnds hc => exact placed_of_state (lt_size hc) (by simp [consume])
  | valueEnds _ hc => exact placed_of_state (lt_size hc) (by simp [consume])
  | skipsOn hc => exact placed_of_state (lt_size hc) (by simp [consume])
  | keyBegins hc hne hchar =>
    exact placed_of_key rfl ht.inside (Or.inr ⟨rfl, _, hc, hne, hchar⟩)
  | keyGoesOn hs hc =>
    refine placed_of_key rfl (lt_size hc) (Or.inl ?_)
    rcases ht.key hs with hlt | ⟨heq, -⟩
    · exact Nat.lt_succ_of_lt hlt
    · exact Nat.lt_succ_of_le (Nat.le_of_eq heq)
  | keyEnds hs hc hend =>
    exact placed_of_gap rfl (lt_size hc) ⟨ht.keyStart_lt hs hc hend, Nat.lt_succ_self _⟩
  | keyAssigned hs hc =>
    exact placed_of_value rfl
      ⟨ht.keyStart_lt hs hc rfl, Nat.lt_succ_self _, Nat.le_refl _, lt_size hc, hc⟩
  | gapGoesOn hs hc =>
    obtain ⟨hkey, hgap⟩ := ht.gap hs
    exact placed_of_gap rfl (lt_size hc) ⟨hkey, Nat.lt_succ_of_lt hgap⟩
  | gapAssigned hs hc =>
    obtain ⟨hkey, hgap⟩ := ht.gap hs
    exact placed_of_value rfl ⟨hkey, Nat.lt_succ_of_lt hgap, Nat.le_refl _, lt_size hc, hc⟩
  | valueGoesOn hs hc =>
    have hcut := ht.value hs
    exact placed_of_value rfl
      ⟨hcut.key, hcut.assign, Nat.le_succ_of_le hcut.value, lt_size hc, hcut.equals⟩

/-- So does every step of the automaton. -/
theorem Placed.step (ht : t.Placed) : t.step.2.Placed :=
  ht.transition (transition_step t)

/-- The tokenizer `n` transitions later. -/
def after (t : Tokenizer) : Nat → Tokenizer
  | 0 => t
  | n + 1 => (t.after n).step.2

/-- The first of `n + 1` transitions can be made ahead of the others. -/
theorem after_succ (t : Tokenizer) (n : Nat) : t.after (n + 1) = t.step.2.after n := by
  induction n with
  | zero => rfl
  | succ n ih => rw [after, ih, after]

/-- Transitions can be made in two goes. -/
theorem after_add (t : Tokenizer) (m n : Nat) : t.after (m + n) = (t.after m).after n := by
  induction n with
  | zero => rfl
  | succ n ih => rw [← Nat.add_assoc, after, ih, after]

/-- No number of transitions touches the input. -/
@[simp] theorem input_after (t : Tokenizer) (n : Nat) : (t.after n).input = t.input := by
  induction n with
  | zero => rfl
  | succ n ih => rw [after, input_step, ih]

/-- The positions stay in order through any number of transitions. -/
theorem Placed.after (ht : t.Placed) (n : Nat) : (t.after n).Placed := by
  induction n with
  | zero => exact ht
  | succ n ih => exact ih.step

/-- Where a token ends, the positions delimit it. -/
theorem Placed.delimits (ht : t.Placed) (h : t.step.1.isSome = true) :
    t.cutHere.Delimits t.input :=
  ht.value ((transition_step t).isSome h).1

/-! ### Separate stretches -/

/-- Nothing before `p` will be looked at again: a key that is still to be cut began after it. -/
structure Beyond (p : Nat) (t : Tokenizer) : Prop where
  pos : p ≤ t.pos
  key : t.state = .matchingKey ∨ t.state = .awaitingAssign ∨ t.state = .readingValue →
    p ≤ t.keyStart

/-- No transition goes back: a new key begins where the automaton is. -/
theorem Beyond.transition {u : Tokenizer} {o : Option Token} (ht : t.Beyond p)
    (h : t.Transition o u) : u.Beyond p := by
  have hpos := ht.pos
  have hsucc : p ≤ t.pos + 1 := Nat.le_succ_of_le ht.pos
  cases h with
  | rest => exact ht
  | keyBegins => exact ⟨hpos, fun _ => hpos⟩
  | keyGoesOn hs => exact ⟨hsucc, fun _ => ht.key (Or.inl hs)⟩
  | keyEnds hs => exact ⟨hsucc, fun _ => ht.key (Or.inl hs)⟩
  | keyAssigned hs => exact ⟨hsucc, fun _ => ht.key (Or.inl hs)⟩
  | gapGoesOn hs => exact ⟨hsucc, fun _ => ht.key (Or.inr (Or.inl hs))⟩
  | gapAssigned hs => exact ⟨hsucc, fun _ => ht.key (Or.inr (Or.inl hs))⟩
  | valueGoesOn hs => exact ⟨hsucc, fun _ => ht.key (Or.inr (Or.inr hs))⟩
  | inputEnds => exact ⟨hpos, by simp [goto]⟩
  | valueEndsInput => exact ⟨hpos, by simp [goto]⟩
  | fails => exact ⟨hpos, by simp [goto]⟩
  | skips => exact ⟨hpos, by simp [goto]⟩
  | segmentEnds => exact ⟨hsucc, by simp [consume]⟩
  | valueEnds => exact ⟨hsucc, by simp [consume]⟩
  | skipsOn => exact ⟨hsucc, by simp [consume]⟩

/-! ### All cuts -/

/-- The cuts that are still to come. -/
def cuts (t : Tokenizer) : List Cut :=
  if h : t.state = .finished then []
  else
    have : t.step.2.measure < t.measure := measure_step h
    if t.step.1.isSome then t.cutHere :: t.step.2.cuts else t.step.2.cuts
termination_by t.measure

/-- At the end of the input nothing happens. -/
theorem step_of_finished (h : t.state = .finished) : t.step = (none, t) := by
  simp only [step, h]

/-- At the end of the input no cuts are to come. -/
theorem cuts_of_finished (h : t.state = .finished) : t.cuts = [] := by
  rw [cuts, dif_pos h]

/-- A transition makes one cut, or none. -/
theorem cuts_step (t : Tokenizer) :
    t.cuts = if t.step.1.isSome then t.cutHere :: t.step.2.cuts else t.step.2.cuts := by
  by_cases h : t.state = .finished
  · rw [step_of_finished h]
    rfl
  · rw [cuts, dif_neg h]

/-- A transition without a token takes no cut away. -/
theorem cuts_of_none (h : t.step.1 = none) : t.cuts = t.step.2.cuts := by
  rw [cuts_step, h]
  rfl

/-- A transition with a token makes the first of the cuts. -/
theorem cuts_of_some {token : Token} (h : t.step.1 = some token) :
    t.cuts = t.cutHere :: t.step.2.cuts := by
  rw [cuts_step, h]
  rfl

/-- Every cut that a transition makes is among them. -/
theorem cutHere_mem_cuts (h : (t.after n).step.1.isSome = true) :
    (t.after n).cutHere ∈ t.cuts := by
  induction n generalizing t with
  | zero =>
    have hsome : t.step.1.isSome = true := h
    rw [cuts_step, if_pos hsome]
    exact List.mem_cons_self
  | succ n ih =>
    rw [after_succ] at h ⊢
    rw [cuts_step]
    split
    · exact List.mem_cons_of_mem _ (ih h)
    · exact ih h

/-- What holds of a tokenizer through all transitions, and gives `P` at each cut, gives it for all
cuts. -/
theorem forall_cuts {I : Tokenizer → Prop} {P : Cut → Prop} (hstep : ∀ u, I u → I u.step.2)
    (hcut : ∀ u, I u → u.step.1.isSome = true → P u.cutHere) (ht : I t) : ∀ c ∈ t.cuts, P c := by
  fun_induction cuts t with
  | case1 t hs => nofun
  | case2 t hs hlt hsome ih =>
    exact List.forall_mem_cons.2 ⟨hcut t ht hsome, ih (hstep t ht)⟩
  | case3 t hs hlt hsome ih => exact ih (hstep t ht)

/-- Every cut delimits a token. -/
theorem Placed.delimits_of_mem_cuts (ht : t.Placed) :
    ∀ c ∈ t.cuts, c.Delimits t.input := by
  refine forall_cuts (I := fun u => u.Placed ∧ u.input = t.input) ?_ ?_ ⟨ht, rfl⟩
  · rintro u ⟨hu, hinput⟩
    exact ⟨hu.step, by rw [input_step, hinput]⟩
  · rintro u ⟨hu, hinput⟩ hsome
    exact hinput ▸ hu.delimits hsome

/-- Every cut comes after what has been left behind. -/
theorem Beyond.le_keyStart (ht : t.Beyond p) : ∀ c ∈ t.cuts, p ≤ c.keyStart := by
  refine forall_cuts (fun u hu => hu.transition (transition_step u)) ?_ ht
  intro u hu hsome
  exact hu.key (Or.inr (Or.inr ((transition_step u).isSome hsome).1))

/-- The tokens are cut out of separate stretches, from left to right. -/
theorem pairwise_cuts (t : Tokenizer) : t.cuts.Pairwise fun c d => c.stop < d.keyStart := by
  fun_induction cuts t with
  | case1 t hs => exact List.Pairwise.nil
  | case3 t hs hlt hsome ih => exact ih
  | case2 t hs hlt hsome ih =>
    refine List.pairwise_cons.2 ⟨?_, ih⟩
    obtain ⟨-, -, hfinished | ⟨hstart, hpos⟩⟩ := (transition_step t).isSome hsome
    · rw [cuts_of_finished hfinished]
      nofun
    · exact Beyond.le_keyStart ⟨Nat.le_of_eq hpos.symm, by simp [hstart]⟩

/-! ### Calls -/

/-- The tokenizer after `k` calls. -/
def called (t : Tokenizer) : Nat → Tokenizer
  | 0 => t
  | k + 1 => (t.called k).next.2

/-- A call makes some transitions. -/
theorem exists_after_next (t : Tokenizer) : ∃ n, t.next.2 = t.after n := by
  fun_induction next t with
  | case1 t hs => exact ⟨0, rfl⟩
  | case2 t hs hlt token hstep => exact ⟨1, rfl⟩
  | case3 t hs hlt hstep ih =>
    obtain ⟨n, hn⟩ := ih
    exact ⟨n + 1, by rw [hn, after_succ]⟩

/-- Any number of calls makes some number of transitions. -/
theorem exists_after_called (t : Tokenizer) (k : Nat) : ∃ n, t.called k = t.after n := by
  induction k with
  | zero => exact ⟨0, rfl⟩
  | succ k ih =>
    obtain ⟨m, hm⟩ := ih
    obtain ⟨n, hn⟩ := exists_after_next (t.called k)
    exact ⟨m + n, by rw [called, hn, hm, after_add]⟩

/-- No call touches the input. -/
@[simp] theorem input_next (t : Tokenizer) : t.next.2.input = t.input := by
  obtain ⟨n, hn⟩ := exists_after_next t
  rw [hn, input_after]

/-- A call makes the first of the cuts that are still to come. -/
theorem cuts_next (t : Tokenizer) :
    t.next.2.cuts = t.cuts.tail ∧ (t.next.1.isSome = true ↔ t.cuts ≠ []) := by
  fun_induction next t with
  | case1 t hs => simp [cuts_of_finished hs]
  | case2 t hs hlt token hstep => simp [cuts_of_some hstep]
  | case3 t hs hlt hstep ih => rwa [cuts_of_none hstep]

/-- The token of a call is what it cuts out. -/
theorem next_eq_head? (t : Tokenizer) : t.next.1 = t.cuts.head?.map (Cut.token t.input) := by
  fun_induction next t with
  | case1 t hs =>
    rw [cuts_of_finished hs]
    rfl
  | case2 t hs hlt token hstep =>
    obtain ⟨-, htoken, -⟩ := (transition_step t).isSome (by rw [hstep]; rfl)
    rw [cuts_of_some hstep, ← hstep, htoken]
    rfl
  | case3 t hs hlt hstep ih => rw [ih, cuts_of_none hstep, input_step]

/-- The tokens of a run are what is cut out. -/
theorem run_eq_map_cuts (t : Tokenizer) :
    t.run.1.map Prod.fst = t.cuts.map (Cut.token t.input) := by
  fun_induction run t with
  | case1 t hnone =>
    have hhead := next_eq_head? t
    rw [hnone, eq_comm, Option.map_eq_none_iff, List.head?_eq_none_iff] at hhead
    rw [hhead]
    rfl
  | case2 t token hsome hlt rest ih =>
    have hhead := next_eq_head? t
    rw [hsome] at hhead
    obtain ⟨c, hc, rfl⟩ := Option.map_eq_some_iff.1 hhead.symm
    obtain ⟨cs, hcuts⟩ := List.head?_eq_some_iff.1 hc
    rw [List.map_cons, ih, (cuts_next t).1, hcuts, input_next]
    rfl

/-- Every call takes the first of the cuts that are left. -/
theorem cuts_called (t : Tokenizer) (k : Nat) : (t.called k).cuts = t.cuts.drop k := by
  induction k with
  | zero => rfl
  | succ k ih => rw [called, (cuts_next _).1, ih, List.tail_drop]

/-- A call gives a token as long as there were fewer calls before it than there are cuts. -/
theorem isSome_next_called (t : Tokenizer) (k : Nat) :
    (t.called k).next.1.isSome = true ↔ k < t.cuts.length := by
  rw [(cuts_next _).2, cuts_called, ne_eq, List.drop_eq_nil_iff, Nat.not_le]

/-- A call without a token has come to the end of the input. -/
theorem next_of_none (h : t.next.1 = none) : t.next.2.state = .finished := by
  fun_induction next t with
  | case1 t hs => exact hs
  | case2 t hs hlt token hstep => cases h
  | case3 t hs hlt hstep ih => exact ih h

/-- There is no token after the end of the input. -/
theorem next_of_finished (h : t.state = .finished) : t.next = (none, t) := by
  rw [next, dif_pos h]

/-- Calls can be made in two goes. -/
theorem called_add (t : Tokenizer) (k n : Nat) : t.called (k + n) = (t.called k).called n := by
  induction n with
  | zero => rfl
  | succ n ih => rw [← Nat.add_assoc, called, ih, called]

/-- At the end of the input, calls change nothing. -/
theorem called_of_finished (h : t.state = .finished) (k : Nat) : t.called k = t := by
  induction k with
  | zero => rfl
  | succ k ih => rw [called, ih, next_of_finished h]

end Tokenizer

end WidgetStage
