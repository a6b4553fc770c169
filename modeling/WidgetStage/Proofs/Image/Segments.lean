import WidgetStage.Image.Tokenizer

/-!
# Segments of an option string

The tokenizer looks at one character at a time, goes back and forth between seven states and keeps
three positions. What it reads can be said without any of this: an option string is cut at its
semicolons, and each segment is read for itself.

The proof follows the tokenizer from state to state. In every state some part of the current
segment has been consumed, and what the rest of the segment would make of it is known; a step moves
one character from the rest to the part that has been consumed.

## Main results

* `Token.ofSegment?`: the assignment that a segment makes.
* `Tokenizer.Sound.step`: a step yields what was pending before and is not pending after it.
* `tokens_eq_filterMap_ofSegment`: the tokens of a text are the assignments of its segments, so that
  no segment has a part in how another one is read.
-/

namespace WidgetStage

namespace Token

/-- Whether a character can stand in a key. -/
def isKeyChar (c : Char) : Bool :=
  !Tokenizer.isGap c && c != '='

/-- What a segment assigns to a key with which it begins. After the key, and gaps if there are any,
an equals sign has to follow; the value is the rest of the segment. -/
def assigned? (key rest : List Char) : Option Token :=
  match rest.dropWhile Tokenizer.isGap with
  | '=' :: value => some ⟨key, Text.trim value⟩
  | _ => none

/-- The assignment that a segment makes. Its key begins after the gaps at the front, and is as long
as it can be. A segment without a key, or with anything but an equals sign after the key, makes
none. -/
def ofSegment? (seg : List Char) : Option Token :=
  let body := seg.dropWhile Tokenizer.isGap
  let key := body.takeWhile isKeyChar
  if key = [] then none else assigned? key (body.dropWhile isKeyChar)

variable {key seg : List Char} {c : Char}

/-- A character of a key is no gap. -/
theorem isGap_of_isKeyChar (hc : isKeyChar c = true) : Tokenizer.isGap c = false := by
  rw [isKeyChar, Bool.and_eq_true] at hc
  simpa using hc.1

/-- A character that is neither a gap nor an equals sign may stand in a key. -/
theorem isKeyChar_of_not_isGap (hgap : Tokenizer.isGap c = false) (hassign : c ≠ '=') :
    isKeyChar c = true := by
  rw [isKeyChar, hgap]
  simpa using hassign

/-- A key without an equals sign is assigned nothing. -/
theorem assigned?_nil : assigned? key [] = none :=
  rfl

/-- Gaps between a key and the equals sign do not count. -/
theorem assigned?_gap (hc : Tokenizer.isGap c = true) :
    assigned? key (c :: seg) = assigned? key seg := by
  rw [assigned?, List.dropWhile_cons_of_pos hc, assigned?]

/-- After the equals sign comes the value. -/
theorem assigned?_equals : assigned? key ('=' :: seg) = some ⟨key, Text.trim seg⟩ :=
  rfl

/-- Anything else before the equals sign spoils the segment. -/
theorem assigned?_other (hgap : Tokenizer.isGap c = false) (hc : c ≠ '=') :
    assigned? key (c :: seg) = none := by
  rw [assigned?, List.dropWhile_cons_of_neg (by simp [hgap])]
  split
  · next heq => exact absurd (List.cons.inj heq).1 hc
  · rfl

/-- An empty segment makes no token. -/
theorem ofSegment?_nil : ofSegment? [] = none :=
  rfl

/-- Gaps at the front of a segment do not count. -/
theorem ofSegment?_gap (hc : Tokenizer.isGap c = true) :
    ofSegment? (c :: seg) = ofSegment? seg := by
  simp only [ofSegment?, List.dropWhile_cons_of_pos hc]

/-- A key that a segment begins with, and that is not followed by a character of a key, is the key
of the segment. -/
theorem ofSegment?_key (hne : key ≠ []) (hkey : ∀ c ∈ key, isKeyChar c = true)
    (hseg : ∀ c, seg.head? = some c → isKeyChar c = false) :
    ofSegment? (key ++ seg) = assigned? key seg := by
  have hbody : (key ++ seg).dropWhile Tokenizer.isGap = key ++ seg := by
    obtain ⟨c, cs, rfl⟩ := List.exists_cons_of_ne_nil hne
    have hc := isGap_of_isKeyChar (hkey c List.mem_cons_self)
    rw [List.cons_append, List.dropWhile_cons_of_neg (by simp [hc])]
  have htake : seg.takeWhile isKeyChar = [] := by
    rcases seg with _ | ⟨c, cs⟩
    · rfl
    · rw [List.takeWhile_cons_of_neg (by simp [hseg c rfl])]
  have hdrop : seg.dropWhile isKeyChar = seg := by
    rcases seg with _ | ⟨c, cs⟩
    · rfl
    · rw [List.dropWhile_cons_of_neg (by simp [hseg c rfl])]
  simp only [ofSegment?, hbody, List.takeWhile_append_of_pos hkey,
    List.dropWhile_append_of_pos hkey, htake, hdrop, List.append_nil, if_neg hne]

/-! ### Reading on within a segment -/

/-- The assignments in `cs`, where what is left of the first segment makes what `f` says. -/
def readFrom (f : List Char → Option Token) (cs : List Char) : List Token :=
  match cs.splitOn ';' with
  | [] => []
  | rest :: segs => (f rest).toList ++ segs.filterMap ofSegment?

/-- At the start of a segment every segment is read for itself. -/
theorem readFrom_ofSegment? (cs : List Char) :
    readFrom ofSegment? cs = (cs.splitOn ';').filterMap ofSegment? := by
  rcases hcs : cs.splitOn ';' with _ | ⟨rest, segs⟩
  · exact absurd hcs (List.splitOn_ne_nil ';' cs)
  · simp only [readFrom, hcs, List.filterMap_cons]
    cases ofSegment? rest <;> rfl

/-- At the end of a text only the last segment is left. -/
theorem readFrom_nil (f : List Char → Option Token) : readFrom f [] = (f []).toList :=
  List.append_nil _

/-- A segment ends at a semicolon. -/
theorem readFrom_semicolon (f : List Char → Option Token) (cs : List Char) :
    readFrom f (';' :: cs) = (f []).toList ++ readFrom ofSegment? cs := by
  have hsplit : (';' :: cs).splitOn ';' = [] :: cs.splitOn ';' := by
    rw [List.splitOn_cons_eq_if_modifyHead, if_pos (by rfl)]
  rw [readFrom_ofSegment?]
  simp only [readFrom, hsplit]

/-- Any other character belongs to the segment. -/
theorem readFrom_cons (f : List Char → Option Token) (hc : c ≠ ';') (cs : List Char) :
    readFrom f (c :: cs) = readFrom (fun rest => f (c :: rest)) cs := by
  rcases hcs : cs.splitOn ';' with _ | ⟨rest, segs⟩
  · exact absurd hcs (List.splitOn_ne_nil ';' cs)
  · have hsplit : (c :: cs).splitOn ';' = (c :: rest) :: segs := by
      rw [List.splitOn_cons_eq_if_modifyHead, if_neg (by simpa using hc), hcs,
        List.modifyHead_cons]
    simp only [readFrom, hsplit, hcs]

end Token

namespace Tokenizer

variable {t u : Tokenizer} {c : Char} {i j : Nat}

/-! ### Positions -/

/-- The characters that have not been consumed. -/
def ahead (t : Tokenizer) : List Char :=
  t.input.toList.drop t.pos

/-- What is ahead begins with the character at the position. -/
theorem ahead_eq_cons (hc : t.input[t.pos]? = some c) :
    t.ahead = c :: t.input.toList.drop (t.pos + 1) := by
  rw [ahead, List.drop_eq_getElem?_toList_append, Array.getElem?_toList, hc]
  rfl

/-- Nothing is ahead at the end of the input. -/
theorem ahead_eq_nil (hc : t.input[t.pos]? = none) : t.ahead = [] := by
  rw [ahead, List.drop_eq_nil_iff, Array.length_toList]
  exact Array.getElem?_eq_none_iff.1 hc

/-- There is nothing between a place and itself. -/
theorem slice_self : t.slice i i = [] := by
  rw [slice, Array.extract_eq_empty_of_le (Nat.min_le_left _ _)]

/-- A slice up to a character, and that character. -/
theorem slice_succ (hc : t.input[j]? = some c) (hij : i ≤ j) :
    t.slice i (j + 1) = t.slice i j ++ [c] := by
  obtain ⟨hj, rfl⟩ := Array.getElem?_eq_some_iff.1 hc
  rw [slice, Array.extract_succ_right (Nat.lt_succ_of_le hij) hj, Array.toList_push, slice]

/-! ### What is pending -/

/-- What the current segment makes if it goes on with `rest`. -/
def current? (t : Tokenizer) (rest : List Char) : Option Token :=
  match t.state with
  | .start => Token.ofSegment? rest
  | .matchingKey => Token.ofSegment? (t.slice t.keyStart t.pos ++ rest)
  | .awaitingAssign => Token.assigned? (t.slice t.keyStart t.keyEnd) rest
  | .readingValue =>
    some ⟨t.slice t.keyStart t.keyEnd, Text.trim (t.slice t.valueStart t.pos ++ rest)⟩
  | .malformed => none
  | .skipping => none
  | .finished => none

/-- The assignments that are still to come. -/
def pending (t : Tokenizer) : List Token :=
  Token.readFrom t.current? t.ahead

/-- What a step relies on: there is nothing ahead at the end; a key that is being read consists of
characters of keys, and at least of the one that comes next; a value began where it was read. -/
structure Sound (t : Tokenizer) : Prop where
  finished : t.state = .finished → t.ahead = []
  key : t.state = .matchingKey → t.keyStart ≤ t.pos ∧
    (∀ c ∈ t.slice t.keyStart t.pos, Token.isKeyChar c = true) ∧
    (t.slice t.keyStart t.pos = [] → ∃ c, t.input[t.pos]? = some c ∧ c ≠ ';' ∧
      Token.isKeyChar c = true)
  value : t.state = .readingValue → t.valueStart ≤ t.pos

/-- A tokenizer between two parts of a segment keeps no position that matters. -/
theorem sound_of_state (hs : t.state = .start ∨ t.state = .awaitingAssign ∨ t.state = .malformed ∨
    t.state = .skipping) : t.Sound := by
  rcases hs with hs | hs | hs | hs <;> exact ⟨by simp [hs], by simp [hs], by simp [hs]⟩

/-! ### Steps -/

/-- A step keeps a tokenizer sound, and yields what was pending before and is not after it. -/
def Yields (t : Tokenizer) : Prop :=
  t.step.2.Sound ∧ t.pending = t.step.1.toList ++ t.step.2.pending

/-- At the end of the input the current segment ends. -/
theorem yields_finish (hc : t.input[t.pos]? = none)
    (hstep : t.step = (t.current? [], t.goto .finished)) : t.Yields := by
  have hahead := ahead_eq_nil hc
  have hnothing : (t.goto .finished).pending = [] := by
    have hahead' : (t.goto .finished).ahead = [] := hahead
    rw [pending, hahead', Token.readFrom_nil]
    rfl
  rw [Yields, hstep, hnothing, pending, hahead, Token.readFrom_nil, List.append_nil]
  exact ⟨⟨fun _ => hahead, nofun, nofun⟩, rfl⟩

/-- It ends at a semicolon, too, and the next one starts. -/
theorem yields_semicolon (hc : t.input[t.pos]? = some ';')
    (hstep : t.step = (t.current? [], t.consume .start)) : t.Yields := by
  rw [Yields, hstep, pending, ahead_eq_cons hc, Token.readFrom_semicolon]
  exact ⟨sound_of_state (Or.inl rfl), rfl⟩

/-- Any other character is consumed if the current segment is read alike before and after it. -/
theorem yields_consume (hc : t.input[t.pos]? = some c) (hne : c ≠ ';')
    (hstep : t.step = (none, u)) (hu : u.Sound) (hinput : u.input = t.input)
    (hpos : u.pos = t.pos + 1) (hcurrent : ∀ rest, t.current? (c :: rest) = u.current? rest) :
    t.Yields := by
  have hahead : t.ahead = c :: u.ahead := by rw [ahead_eq_cons hc, ahead, hinput, hpos]
  rw [Yields, hstep, pending, hahead, Token.readFrom_cons _ hne, funext hcurrent]
  exact ⟨hu, rfl⟩

/-- The state is changed if the current segment is read alike in both states. -/
theorem yields_goto (hc : t.input[t.pos]? = some c) (hstep : t.step = (none, u)) (hu : u.Sound)
    (hinput : u.input = t.input) (hpos : u.pos = t.pos)
    (hend : c = ';' → t.current? [] = u.current? [])
    (hcurrent : c ≠ ';' → ∀ rest, t.current? (c :: rest) = u.current? (c :: rest)) :
    t.Yields := by
  have hahead : u.ahead = t.ahead := by rw [ahead, hinput, hpos, ahead]
  rw [Yields, hstep, pending, pending, hahead, ahead_eq_cons hc]
  refine ⟨hu, ?_⟩
  by_cases hne : c = ';'
  · rw [hne, Token.readFrom_semicolon, Token.readFrom_semicolon, hend hne]
    rfl
  · rw [Token.readFrom_cons _ hne, Token.readFrom_cons _ hne, funext (hcurrent hne)]
    rfl

/-- At the start of a segment the tokens to come are those of the segments ahead. -/
theorem yields_start (hs : t.state = .start) : t.Yields := by
  have hcurrent : t.current? = Token.ofSegment? := by
    funext rest
    simp only [current?, hs]
  rcases hc : t.input[t.pos]? with _ | c
  · refine yields_finish hc ?_
    simp only [step, hs, hc, hcurrent, Token.ofSegment?_nil]
  · by_cases hgap : isGap c = true
    · refine yields_consume (u := t.consume .start) hc ?_ ?_ (sound_of_state (Or.inl rfl)) rfl rfl
        ?_
      · rintro rfl
        cases hgap
      · simp only [step, hs, hc, hgap, Bool.true_or, if_true]
      · intro rest
        rw [hcurrent]
        exact Token.ofSegment?_gap hgap
    rw [Bool.not_eq_true] at hgap
    by_cases hsemicolon : c = ';'
    · subst hsemicolon
      refine yields_semicolon hc ?_
      simp [step, hs, hc, hcurrent, Token.ofSegment?_nil]
    by_cases hassign : c = '='
    · subst hassign
      refine yields_goto (u := t.goto .malformed) hc ?_ (sound_of_state (by simp [goto])) rfl rfl
        (fun h => absurd h (by decide)) fun _ rest => ?_
      · simp [step, hs, hc, hgap]
      · rw [hcurrent]
        rfl
    have hkey := Token.isKeyChar_of_not_isGap hgap hassign
    refine yields_goto (u := { t with keyStart := t.pos, state := .matchingKey }) hc ?_ ?_ rfl rfl
      (fun h => absurd h hsemicolon) fun _ rest => ?_
    · simp [step, hs, hc, hgap, hsemicolon, hassign]
    · exact ⟨by simp, fun _ => ⟨Nat.le_refl _, by simp [slice_self],
        fun _ => ⟨c, hc, hsemicolon, hkey⟩⟩, by simp⟩
    · rw [hcurrent]
      simp [current?, slice_self]

/-- Once a key ends, the rest of the segment is what is assigned to it. A key that has begun is not
empty, unless its first character is still to be consumed. -/
theorem Sound.current?_matchingKey (ht : t.Sound) (hs : t.state = .matchingKey) {rest : List Char}
    (hend : ∀ c, t.input[t.pos]? = some c → c = ';' ∨ Token.isKeyChar c = false)
    (hrest : ∀ c, rest.head? = some c → Token.isKeyChar c = false) :
    t.current? rest = Token.assigned? (t.slice t.keyStart t.pos) rest := by
  obtain ⟨-, hkey, hfirst⟩ := ht.key hs
  have hne : t.slice t.keyStart t.pos ≠ [] := by
    intro hnil
    obtain ⟨c, hc, hsemicolon, hchar⟩ := hfirst hnil
    rcases hend c hc with h | h
    · exact hsemicolon h
    · simp [hchar] at h
  simp only [current?, hs]
  exact Token.ofSegment?_key hne hkey hrest

/-- A character of a key is added to it. -/
theorem Sound.yields_keyChar {c : Char} (ht : t.Sound) (hs : t.state = .matchingKey)
    (hc : t.input[t.pos]? = some c) (hsemicolon : c ≠ ';') (hassign : c ≠ '=')
    (hgap : isGap c = false) : t.Yields := by
  obtain ⟨hle, hkey, -⟩ := ht.key hs
  have hslice : (t.consume .matchingKey).slice (t.consume .matchingKey).keyStart
      (t.consume .matchingKey).pos = t.slice t.keyStart t.pos ++ [c] := slice_succ hc hle
  refine yields_consume (u := t.consume .matchingKey) hc hsemicolon ?_ ?_ rfl rfl fun rest => ?_
  · simp [step, hs, hc, hassign, hgap, hsemicolon]
  · refine ⟨by simp [consume], fun _ => ⟨Nat.le_succ_of_le hle, ?_, ?_⟩, by simp [consume]⟩
    · rw [hslice]
      intro d hd
      rcases List.mem_append.1 hd with hd | hd
      · exact hkey d hd
      · rw [List.mem_singleton.1 hd]
        exact Token.isKeyChar_of_not_isGap hgap hassign
    · rw [hslice]
      intro hnil
      simp at hnil
  · have hcurrent : (t.consume .matchingKey).current? rest =
        Token.ofSegment? (t.slice t.keyStart t.pos ++ [c] ++ rest) := by
      rw [← hslice]
      rfl
    rw [hcurrent, current?, hs, List.append_assoc]
    rfl

/-- Within a key, what is ahead is read as the rest of its segment. -/
theorem Sound.yields_matchingKey (ht : t.Sound) (hs : t.state = .matchingKey) : t.Yields := by
  rcases hc : t.input[t.pos]? with _ | c
  · refine yields_finish hc ?_
    rw [ht.current?_matchingKey hs (by simp [hc]) (by simp), Token.assigned?_nil]
    simp only [step, hs, hc]
  have hended : ∀ rest, Token.isKeyChar c = false →
      t.current? (c :: rest) = Token.assigned? (t.slice t.keyStart t.pos) (c :: rest) := by
    intro rest hchar
    exact ht.current?_matchingKey hs (by simp [hc, hchar]) (by simp [hchar])
  by_cases hassign : c = '='
  · subst hassign
    refine yields_consume (u := { t with keyEnd := t.pos }.beginValue) hc (by decide) ?_ ?_ rfl rfl
      fun rest => ?_
    · simp [step, hs, hc]
    · exact ⟨by simp [beginValue], by simp [beginValue], fun _ => Nat.le_refl _⟩
    · rw [hended rest (by decide), Token.assigned?_equals]
      simp only [current?, beginValue, slice_self, List.nil_append]
      rfl
  by_cases hgap : isGap c = true
  · have hchar : Token.isKeyChar c = false := by simp [Token.isKeyChar, hgap]
    refine yields_consume (u := { t with keyEnd := t.pos }.consume .awaitingAssign) hc ?_ ?_
      (sound_of_state (by simp [consume])) rfl rfl fun rest => ?_
    · rintro rfl
      cases hgap
    · simp [step, hs, hc, hassign, hgap]
    · rw [hended rest hchar, Token.assigned?_gap hgap]
      rfl
  rw [Bool.not_eq_true] at hgap
  by_cases hsemicolon : c = ';'
  · subst hsemicolon
    refine yields_goto (u := t.goto .malformed) hc ?_ (sound_of_state (by simp [goto])) rfl rfl
      (fun _ => ?_) fun h => absurd rfl h
    · simp [step, hs, hc, hgap]
    · rw [ht.current?_matchingKey hs (by simp [hc]) (by simp)]
      rfl
  exact ht.yields_keyChar hs hc hsemicolon hassign hgap

/-- After a key, what is ahead is read as an assignment to it. -/
theorem yields_awaitingAssign (hs : t.state = .awaitingAssign) : t.Yields := by
  have hcurrent : ∀ rest, t.current? rest =
      Token.assigned? (t.slice t.keyStart t.keyEnd) rest := by
    intro rest
    simp only [current?, hs]
  rcases hc : t.input[t.pos]? with _ | c
  · refine yields_finish hc ?_
    rw [hcurrent, Token.assigned?_nil]
    simp only [step, hs, hc]
  by_cases hgap : isGap c = true
  · refine yields_consume (u := t.consume .awaitingAssign) hc ?_ ?_
      (sound_of_state (by simp [consume])) rfl rfl fun rest => ?_
    · rintro rfl
      cases hgap
    · simp [step, hs, hc, hgap]
    · rw [hcurrent, Token.assigned?_gap hgap]
      rfl
  rw [Bool.not_eq_true] at hgap
  by_cases hassign : c = '='
  · subst hassign
    refine yields_consume (u := t.beginValue) hc (by decide) ?_ ?_ rfl rfl fun rest => ?_
    · simp [step, hs, hc, hgap]
    · exact ⟨by simp [beginValue], by simp [beginValue], fun _ => Nat.le_refl _⟩
    · rw [hcurrent, Token.assigned?_equals]
      simp only [current?, beginValue, slice_self, List.nil_append]
      rfl
  refine yields_goto (u := t.goto .malformed) hc ?_ (sound_of_state (by simp [goto])) rfl rfl
    (fun _ => ?_) fun _ rest => ?_
  · simp [step, hs, hc, hgap, hassign]
  · rw [hcurrent]
    rfl
  · rw [hcurrent, Token.assigned?_other hgap hassign]
    rfl

/-- Within a value, what is ahead is read as the rest of the value. -/
theorem Sound.yields_readingValue (ht : t.Sound) (hs : t.state = .readingValue) : t.Yields := by
  have hle := ht.value hs
  have hcurrent : ∀ rest, t.current? rest =
      some ⟨t.slice t.keyStart t.keyEnd, Text.trim (t.slice t.valueStart t.pos ++ rest)⟩ := by
    intro rest
    simp only [current?, hs]
  have htoken : t.current? [] = some t.token := by
    rw [hcurrent, List.append_nil]
    rfl
  rcases hc : t.input[t.pos]? with _ | c
  · refine yields_finish hc ?_
    simp only [step, hs, hc, htoken]
  by_cases hsemicolon : c = ';'
  · subst hsemicolon
    refine yields_semicolon hc ?_
    simp [step, hs, hc, htoken]
  have hslice : (t.consume .readingValue).slice (t.consume .readingValue).valueStart
      (t.consume .readingValue).pos = t.slice t.valueStart t.pos ++ [c] := slice_succ hc hle
  refine yields_consume (u := t.consume .readingValue) hc hsemicolon ?_ ?_ rfl rfl fun rest => ?_
  · simp [step, hs, hc, hsemicolon]
  · exact ⟨by simp [consume], by simp [consume], fun _ => Nat.le_succ_of_le hle⟩
  · have hnext : (t.consume .readingValue).current? rest =
        some ⟨t.slice t.keyStart t.keyEnd,
          Text.trim (t.slice t.valueStart t.pos ++ [c] ++ rest)⟩ := by
      rw [← hslice]
      rfl
    rw [hnext, hcurrent, List.append_assoc]
    rfl

/-- A malformed segment makes no token. -/
theorem yields_malformed (hs : t.state = .malformed) : t.Yields := by
  have hcurrent : (t.goto .skipping).current? = t.current? := by
    funext rest
    simp only [current?, goto, hs]
  have hstep : t.step = (none, t.goto .skipping) := by simp only [step, hs]
  rw [Yields, hstep, pending, pending, hcurrent]
  exact ⟨sound_of_state (by simp [goto]), rfl⟩

/-- What is left of a malformed segment is dropped. -/
theorem yields_skipping (hs : t.state = .skipping) : t.Yields := by
  have hcurrent : ∀ rest, t.current? rest = none := by
    intro rest
    simp only [current?, hs]
  rcases hc : t.input[t.pos]? with _ | c
  · refine yields_finish hc ?_
    simp only [step, hs, hc, hcurrent]
  by_cases hsemicolon : c = ';'
  · subst hsemicolon
    refine yields_semicolon hc ?_
    simp [step, hs, hc, hcurrent]
  refine yields_consume (u := t.consume .skipping) hc hsemicolon ?_
    (sound_of_state (by simp [consume])) rfl rfl fun rest => ?_
  · simp [step, hs, hc, hsemicolon]
  · rw [hcurrent]
    rfl

/-- Every step of a sound tokenizer keeps it sound, and yields what is not pending any more. -/
theorem Sound.step (ht : t.Sound) : t.Yields := by
  cases hs : t.state with
  | start => exact yields_start hs
  | matchingKey => exact ht.yields_matchingKey hs
  | awaitingAssign => exact yields_awaitingAssign hs
  | readingValue => exact ht.yields_readingValue hs
  | skipping => exact yields_skipping hs
  | malformed => exact yields_malformed hs
  | finished =>
      have hstep : t.step = (none, t) := by simp only [Tokenizer.step, hs]
      rw [Yields, hstep]
      exact ⟨ht, rfl⟩

/-! ### Runs -/

/-- So does a call for the next token; if there is none, nothing is pending. -/
theorem Sound.next (ht : t.Sound) :
    t.next.2.Sound ∧ t.pending = t.next.1.toList ++ t.next.2.pending ∧
      (t.next.1 = none → t.next.2.pending = []) := by
  fun_induction Tokenizer.next t with
  | case1 t hs =>
      have hnothing : t.pending = [] := by
        rw [pending, ht.finished hs, Token.readFrom_nil]
        simp only [current?, hs, Option.toList_none]
      exact ⟨ht, rfl, fun _ => hnothing⟩
  | case2 t hs hlt token hstep =>
      obtain ⟨hsound, hpending⟩ := ht.step
      rw [hstep] at hpending
      exact ⟨hsound, hpending, fun h => by cases h⟩
  | case3 t hs hlt hstep ih =>
      obtain ⟨hsound, hpending⟩ := ht.step
      rw [hstep] at hpending
      rw [hpending]
      exact ih hsound

/-- A run yields all that is pending. -/
theorem Sound.run (ht : t.Sound) : t.run.1.map Prod.fst = t.pending := by
  fun_induction Tokenizer.run t with
  | case1 t hnone =>
      obtain ⟨-, hpending, hnothing⟩ := ht.next
      rw [hpending, hnone, hnothing hnone]
      rfl
  | case2 t token hsome hlt rest ih =>
      obtain ⟨hsound, hpending, -⟩ := ht.next
      rw [hpending, hsome, List.map_cons, ih hsound]
      rfl

end Tokenizer

/-- The tokens of a text are the assignments that its segments make. -/
theorem tokens_eq_filterMap_ofSegment (s : String) :
    tokens s = (s.toList.splitOn ';').filterMap Token.ofSegment? := by
  have hs : (Tokenizer.ofString s).Sound := Tokenizer.sound_of_state (Or.inl rfl)
  have hahead : (Tokenizer.ofString s).ahead = s.toList := rfl
  have hcurrent : (Tokenizer.ofString s).current? = Token.ofSegment? := rfl
  rw [tokens, hs.run, Tokenizer.pending, hahead, hcurrent, Token.readFrom_ofSegment?]

/-- The tokens of a text are what its segments between semicolons assign, in order: a segment is
read as a key after gaps, an equals sign after gaps, and a value without the white space around it,
and makes nothing if it cannot be read so. Therefore a semicolon keeps apart what is on its two
sides: the tokens before it, and those after it, are those of either side alone. -/
theorem tokens_segmentwise :
    (∀ s, tokens s = (s.toList.splitOn ';').filterMap Token.ofSegment?) ∧
      ∀ a b, tokens (a ++ ";" ++ b) = tokens a ++ tokens b := by
  refine ⟨tokens_eq_filterMap_ofSegment, fun a b => ?_⟩
  have hsplit : (a ++ ";" ++ b).toList.splitOn ';' =
      a.toList.splitOn ';' ++ b.toList.splitOn ';' := by
    have htext : (a ++ ";" ++ b).toList = a.toList ++ ';' :: b.toList := by simp
    rw [htext, List.splitOn_append_cons_self]
  rw [tokens_eq_filterMap_ofSegment, hsplit, List.filterMap_append,
    ← tokens_eq_filterMap_ofSegment, ← tokens_eq_filterMap_ofSegment]

/-- Malformed segments on both sides, a second equals sign, and a semicolon that is missing. -/
example : tokens "a b; =1;κ 	== ü ;c" = [⟨['κ'], ['=', ' ', 'ü']⟩] := by
  rw [tokens_eq_filterMap_ofSegment]
  decide

end WidgetStage
