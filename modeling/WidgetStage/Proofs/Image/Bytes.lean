import WidgetStage.Proofs.Image.Cuts
import WidgetStage.Text.Bytes

/-!
# Scanning the bytes of a text

The tokenizer can look at the bytes of a text instead of its characters, with positions that count
bytes. A cut may then fall into a character. It never does: all bytes of a character beyond ASCII
are passed over in the same state, since none of them separates anything, and so the two tokenizers
keep in step, with each position of one at the bytes before the position of the other.

## Main results

* `Tokenizer.ofBytes`: the tokenizer of the bytes of a text.
* `Tokenizer.Reads.step`: one transition over a character, and the transitions over its bytes.
* `Tokenizer.Reads.cuts`: both make the same cuts.
* `scans_safely`: scanning the bytes comes to an end, every cut falls between two characters, and
  what is cut out are the tokens of the text.
-/

namespace WidgetStage

namespace Text

variable {c : Char}

/-- The character with the number of a byte. -/
def byteChar (b : UInt8) : Char :=
  Char.ofNat b.toNat

/-- A byte is the number of its character. -/
theorem toNat_byteChar (b : UInt8) : (byteChar b).toNat = b.toNat := by
  have hvalid : b.toNat.isValidChar := Or.inl (Nat.lt_trans b.toNat_lt (by decide))
  rw [byteChar, Char.ofNat, dif_pos hvalid]
  exact UInt32.toNat_ofNatLT

/-- Which byte stands for a character with a small number. -/
theorem byteChar_eq_iff {b : UInt8} (hc : c.toNat < 256) :
    byteChar b = c ↔ b = UInt8.ofNat c.toNat := by
  rw [← Char.toNat_inj, toNat_byteChar, ← UInt8.toNat_inj, UInt8.toNat_ofNat', Nat.mod_eq_of_lt hc]

/-- The bytes of a character, each taken for the character with its number. -/
def byteChars (c : Char) : List Char :=
  (String.utf8EncodeChar c).map byteChar

/-- A character has as many bytes as its encoding is long. -/
theorem length_byteChars (c : Char) : (byteChars c).length = c.utf8Size := by
  rw [byteChars, List.length_map, String.length_utf8EncodeChar]

/-- The bytes of a text are as many as its characters have together. -/
theorem length_flatMap_byteChars (cs : List Char) :
    (cs.flatMap byteChars).length = byteCount cs := by
  induction cs with
  | nil => rfl
  | cons c cs ih => rw [List.flatMap_cons, List.length_append, length_byteChars, ih, byteCount]

/-- An ASCII character is its only byte. -/
theorem byteChars_of_ascii (hc : c.toNat < 128) : byteChars c = [c] := by
  have hv : c.val.toNat ≤ 127 := Nat.le_of_lt_succ hc
  have hbyte : byteChar (UInt8.ofNat c.val.toNat) = c :=
    (byteChar_eq_iff (Nat.lt_trans hc (by decide))).2 rfl
  simp only [byteChars, String.utf8EncodeChar, if_pos hv, List.map_cons, hbyte, List.map_nil]

/-- No byte of another character is an ASCII character. -/
theorem le_toNat_of_mem_byteChars (hc : 128 ≤ c.toNat) :
    ∀ d ∈ byteChars c, 128 ≤ d.toNat := by
  intro d hd
  obtain ⟨b, hb, rfl⟩ := List.mem_map.1 hd
  rw [toNat_byteChar]
  have hv : ¬ c.val.toNat ≤ 127 := Nat.not_le.2 hc
  simp only [String.utf8EncodeChar, if_neg hv] at hb
  split at hb
  · simp only [List.mem_cons, List.not_mem_nil, or_false] at hb
    rcases hb with rfl | rfl <;> simp <;> omega
  split at hb
  · simp only [List.mem_cons, List.not_mem_nil, or_false] at hb
    rcases hb with rfl | rfl | rfl <;> simp <;> omega
  · simp only [List.mem_cons, List.not_mem_nil, or_false] at hb
    rcases hb with rfl | rfl | rfl | rfl <;> simp <;> omega

/-- The bytes of two texts are counted one after the other. -/
theorem byteCount_append (xs ys : List Char) :
    byteCount (xs ++ ys) = byteCount xs + byteCount ys := by
  rw [← length_flatMap_byteChars, List.flatMap_append, List.length_append,
    length_flatMap_byteChars, length_flatMap_byteChars]

/-- The size of a text is the number of bytes of its characters. -/
theorem utf8ByteSize_ofList (cs : List Char) : (String.ofList cs).utf8ByteSize = byteCount cs := by
  rw [← String.size_toByteArray, String.toByteArray_ofList, ← length_flatMap_byteChars]
  simp [List.utf8Encode, byteChars, List.length_flatMap]

/-- The characters from the byte `first` up to and without the byte `last`. There are none if the
two are the wrong way round, or one of them is within a character or after the end. -/
def slice? (s : String) (first last : Nat) : Option (List Char) :=
  if first ≤ last then bytesBetween? first (last - first) s.toList else none

/-- Two cuts between characters, in order, cut out what is between them. -/
theorem slice?_append (xs ys zs : List Char) :
    slice? (String.ofList (xs ++ ys ++ zs)) (byteCount xs) (byteCount (xs ++ ys)) = some ys := by
  have hle : byteCount xs ≤ byteCount (xs ++ ys) := by
    rw [byteCount_append]
    exact Nat.le_add_right _ _
  rw [slice?, if_pos hle, String.toList_ofList, bytesBetween?, List.append_assoc,
    bytesSuffix?_append, byteCount_append, Nat.add_sub_cancel_left]
  exact bytesPrefix?_append ys zs

end Text

/-- What is cut out of the bytes of a text; there is nothing if a cut cannot be made. -/
def Cut.token? (s : String) (c : Cut) : Option Token := do
  let key ← Text.slice? s c.keyStart c.keyEnd
  let value ← Text.slice? s c.valueStart c.stop
  some ⟨key, Text.trim value⟩

/-- A cut of the bytes of a text delimits a key and a value, with an equals sign right before the
value, and is made between characters. -/
structure Cut.Safe (s : String) (c : Cut) : Prop where
  key : c.keyStart < c.keyEnd
  assign : c.keyEnd < c.valueStart
  value : c.valueStart ≤ c.stop
  equals : s.toByteArray.data[c.valueStart - 1]? = some '='.toUInt8
  boundary : ∀ p ∈ [c.keyStart, c.keyEnd, c.valueStart, c.stop], String.Pos.Raw.IsValid s ⟨p⟩

namespace Tokenizer

variable {s : String} {t u : Tokenizer} {c d : Char} {i j : Nat}

/-- The tokenizer of the bytes of a text: it looks at each as at the character with its number. -/
def ofBytes (s : String) : Tokenizer :=
  ⟨s.toByteArray.data.map Text.byteChar, 0, .start, 0, 0, 0⟩

/-- The tokenizer looks at the bytes of all characters, one after the other. -/
theorem input_ofBytes (s : String) :
    (ofBytes s).input.toList = s.toList.flatMap Text.byteChars := by
  have hdata : s.toByteArray.data.toList = s.toList.flatMap String.utf8EncodeChar := by
    obtain ⟨cs, rfl⟩ : ∃ cs, s = String.ofList cs := ⟨s.toList, String.ofList_toList.symm⟩
    rw [String.toByteArray_ofList, String.toList_ofList]
    simp [List.utf8Encode]
  rw [ofBytes, Array.toList_map, hdata, List.map_flatMap]
  rfl

/-- Its input is as long as the text has bytes. -/
theorem size_ofBytes (s : String) : (ofBytes s).input.size = s.utf8ByteSize := by
  rw [← String.size_toByteArray]
  exact Array.size_map

/-! ### Characters and their bytes -/

/-- The number of bytes before the character at a position. -/
def offset (t : Tokenizer) (i : Nat) : Nat :=
  Text.byteCount (t.input.toList.take i)

/-- The tokenizer `u` has read the bytes of the characters that `t` has read. -/
structure Reads (t u : Tokenizer) : Prop where
  input : u.input.toList = t.input.toList.flatMap Text.byteChars
  state : u.state = t.state
  pos : u.pos = t.offset t.pos
  keyStart : u.keyStart = t.offset t.keyStart
  keyEnd : u.keyEnd = t.offset t.keyEnd
  valueStart : u.valueStart = t.offset t.valueStart

/-- The bytes ahead are those of the characters ahead. -/
theorem Reads.ahead (h : Reads t u) : u.ahead = t.ahead.flatMap Text.byteChars := by
  have hsplit := congrArg (List.flatMap Text.byteChars) (List.take_append_drop t.pos t.input.toList)
  rw [List.flatMap_append] at hsplit
  rw [Tokenizer.ahead, h.input, ← hsplit]
  exact List.drop_left' (by rw [Text.length_flatMap_byteChars, h.pos, offset])

/-- What is ahead is counted from the position on. -/
theorem getElem?_ahead (t : Tokenizer) (j : Nat) : t.ahead[j]? = t.input[t.pos + j]? := by
  rw [Tokenizer.ahead, List.getElem?_drop, Array.getElem?_toList]

/-- Where the characters have ended, the bytes have ended. -/
theorem Reads.input_eq_none (h : Reads t u) (hc : t.input[t.pos]? = none) :
    u.input[u.pos]? = none := by
  have hahead := h.ahead
  rw [ahead_eq_nil hc, List.flatMap_nil] at hahead
  simpa [hahead] using (getElem?_ahead u 0).symm

/-- At the position of a character stand its bytes. -/
theorem Reads.input_eq_byteChars (h : Reads t u) (hc : t.input[t.pos]? = some c)
    (hj : j < (Text.byteChars c).length) :
    u.input[u.pos + j]? = some (Text.byteChars c)[j] := by
  rw [← getElem?_ahead, h.ahead, ahead_eq_cons hc, List.flatMap_cons, List.getElem?_append_left hj,
    List.getElem?_eq_getElem hj]

/-- After a character come its bytes more. -/
theorem offset_succ (hc : t.input[i]? = some c) :
    t.offset (i + 1) = t.offset i + c.utf8Size := by
  rw [← Array.getElem?_toList] at hc
  rw [offset, List.take_add_one, hc, Text.byteCount_append, offset]
  rfl

/-- The bytes before a position depend on the input only. -/
theorem offset_congr (h : u.input = t.input) : u.offset = t.offset := by
  funext i
  rw [offset, h, offset]

/-! ### One character, and its bytes -/

/-- Both go to another state. -/
theorem Reads.goto (h : Reads t u) (state : ScanState) : Reads (t.goto state) (u.goto state) :=
  ⟨h.input, rfl, h.pos, h.keyStart, h.keyEnd, h.valueStart⟩

/-- Both consume an ASCII character, which is one byte. -/
theorem Reads.consume (h : Reads t u) (hpos : u.pos + 1 = t.offset (t.pos + 1))
    (state : ScanState) : Reads (t.consume state) (u.consume state) :=
  ⟨h.input, rfl, hpos, h.keyStart, h.keyEnd, h.valueStart⟩

/-- A key begins at the first byte of its first character. -/
theorem Reads.keyBegins (h : Reads t u) : Reads
    { t with keyStart := t.pos, state := .matchingKey }
    { u with keyStart := u.pos, state := .matchingKey } :=
  ⟨h.input, rfl, h.pos, h.pos, h.keyEnd, h.valueStart⟩

/-- A key ends before the first byte of the next character. -/
theorem Reads.keyEnds (h : Reads t u) :
    Reads { t with keyEnd := t.pos } { u with keyEnd := u.pos } :=
  ⟨h.input, h.state, h.pos, h.keyStart, h.pos, h.valueStart⟩

/-- A value begins after the one byte of the equals sign. -/
theorem Reads.beginValue (h : Reads t u) (hpos : u.pos + 1 = t.offset (t.pos + 1)) :
    Reads t.beginValue u.beginValue :=
  ⟨h.input, rfl, hpos, h.keyStart, h.keyEnd, hpos⟩

/-- Both would cut at the same place. -/
theorem Reads.cutHere (h : Reads t u) : u.cutHere = t.cutHere.map t.offset := by
  simp only [Tokenizer.cutHere, Cut.map, h.pos, h.keyStart, h.keyEnd, h.valueStart]

/-- One transition of each, with the same outcome. -/
def Together (t u : Tokenizer) : Prop :=
  Reads t.step.2 u.step.2 ∧ u.step.1.isSome = t.step.1.isSome

/-- In a malformed segment the character does not matter. -/
theorem Reads.together_of_malformed (h : Reads t u) (hs : t.state = .malformed) :
    Together t u := by
  simp only [Together, Tokenizer.step, hs, h.state.trans hs]
  exact ⟨h.goto _, trivial⟩

/-- After the end of the input nothing happens any more. -/
theorem Reads.together_of_finished (h : Reads t u) (hs : t.state = .finished) :
    Together t u := by
  simp only [Together, Tokenizer.step, hs, h.state.trans hs]
  exact ⟨h, trivial⟩

/-- The end of the input is found together. -/
theorem Reads.together_of_none (h : Reads t u) (hc : t.input[t.pos]? = none) : Together t u := by
  have hd := h.input_eq_none hc
  unfold Together
  cases hs : t.state with
  | start | matchingKey | awaitingAssign | skipping =>
    simp only [Tokenizer.step, hs, h.state.trans hs, hc, hd]
    exact ⟨h.goto _, trivial⟩
  | readingValue =>
    simp only [Tokenizer.step, hs, h.state.trans hs, hc, hd]
    exact ⟨h.goto _, rfl⟩
  | malformed => exact h.together_of_malformed hs
  | finished => exact h.together_of_finished hs

/-- The same character is treated alike. -/
theorem Reads.together_of_eq (h : Reads t u) (hc : t.input[t.pos]? = some c)
    (hd : u.input[u.pos]? = some c) (hpos : u.pos + 1 = t.offset (t.pos + 1)) :
    Together t u := by
  unfold Together
  cases hs : t.state with
  | start =>
    simp only [Tokenizer.step, hs, h.state.trans hs, hc, hd]
    split
    · exact ⟨h.consume hpos _, rfl⟩
    split
    · exact ⟨h.goto _, rfl⟩
    · exact ⟨h.keyBegins, rfl⟩
  | matchingKey =>
    simp only [Tokenizer.step, hs, h.state.trans hs, hc, hd]
    split
    · exact ⟨h.keyEnds.beginValue hpos, rfl⟩
    split
    · exact ⟨h.keyEnds.consume hpos _, rfl⟩
    split
    · exact ⟨h.goto _, rfl⟩
    · exact ⟨h.consume hpos _, rfl⟩
  | awaitingAssign =>
    simp only [Tokenizer.step, hs, h.state.trans hs, hc, hd]
    split
    · exact ⟨h.consume hpos _, rfl⟩
    split
    · exact ⟨h.beginValue hpos, rfl⟩
    · exact ⟨h.goto _, rfl⟩
  | readingValue =>
    simp only [Tokenizer.step, hs, h.state.trans hs, hc, hd]
    split
    · exact ⟨h.consume hpos _, rfl⟩
    · exact ⟨h.consume hpos _, rfl⟩
  | skipping =>
    simp only [Tokenizer.step, hs, h.state.trans hs, hc, hd]
    split
    · exact ⟨h.consume hpos _, rfl⟩
    · exact ⟨h.consume hpos _, rfl⟩
  | malformed => exact h.together_of_malformed hs
  | finished => exact h.together_of_finished hs

/-- A character that separates nothing. -/
def Plain (c : Char) : Prop :=
  isGap c = false ∧ c ≠ '=' ∧ c ≠ ';'

/-- Neither a character beyond ASCII nor the character of one of its bytes separates anything. -/
theorem plain_of_le (hc : 128 ≤ c.toNat) : Plain c := by
  have hne : ∀ d : Char, d.toNat < 128 → c ≠ d := by
    rintro d hd rfl
    exact absurd hc (Nat.not_le.2 hd)
  refine ⟨?_, hne _ (by decide), hne _ (by decide)⟩
  simp [isGap, hne ' ' (by decide), hne '\t' (by decide)]

/-- What passes over plain characters: a key, a value or a malformed segment. -/
def Passing (state : ScanState) : Prop :=
  state = .matchingKey ∨ state = .readingValue ∨ state = .skipping

/-- A plain character is consumed, and the state stays. -/
theorem step_of_passing (hs : Passing t.state) (hc : t.input[t.pos]? = some c) (hplain : Plain c) :
    t.step = (none, t.consume t.state) := by
  obtain ⟨hgap, hassign, hsemicolon⟩ := hplain
  rcases hs with hs | hs | hs <;> simp [step, hs, hc, hgap, hassign, hsemicolon]

/-- Plain characters can be passed over at once. -/
theorem cuts_of_passing {n : Nat} (hs : Passing t.state)
    (hplain : ∀ j < n, ∃ c, t.input[t.pos + j]? = some c ∧ Plain c) :
    t.cuts = { t with pos := t.pos + n }.cuts := by
  induction n generalizing t with
  | zero => rfl
  | succ n ih =>
    obtain ⟨c, hc, hfirst⟩ := hplain 0 (Nat.succ_pos n)
    have hstep := step_of_passing hs hc hfirst
    have hrest : ∀ j < n, ∃ c, t.input[t.pos + 1 + j]? = some c ∧ Plain c := by
      intro j hj
      rw [Nat.add_assoc, Nat.add_comm 1 j]
      exact hplain (j + 1) (Nat.succ_lt_succ hj)
    rw [cuts_of_none (by rw [hstep]), hstep]
    refine (ih (t := t.consume t.state) hs hrest).trans ?_
    rw [Nat.add_comm n 1, ← Nat.add_assoc]
    rfl

/-- Elsewhere one plain character has the effect of another, and none is consumed. -/
theorem Reads.together_of_plain (h : Reads t u) (hs : ¬ Passing t.state)
    (hc : t.input[t.pos]? = some c) (hd : u.input[u.pos]? = some d) (hplainc : Plain c)
    (hplaind : Plain d) : Together t u := by
  obtain ⟨hgapc, hassignc, hsemicolonc⟩ := hplainc
  obtain ⟨hgapd, hassignd, hsemicolond⟩ := hplaind
  unfold Together
  cases hstate : t.state with
  | start =>
    simp only [Tokenizer.step, hstate, h.state.trans hstate, hc, hd, hgapc, hgapd, hassignc,
      hassignd, hsemicolonc, hsemicolond, beq_iff_eq, Bool.false_or, if_false]
    exact ⟨h.keyBegins, trivial⟩
  | awaitingAssign =>
    simp only [Tokenizer.step, hstate, h.state.trans hstate, hc, hd, hgapc, hgapd, hassignc,
      hassignd, beq_iff_eq, if_false, Bool.false_eq_true]
    exact ⟨h.goto _, trivial⟩
  | malformed => exact h.together_of_malformed hstate
  | finished => exact h.together_of_finished hstate
  | matchingKey => exact absurd (Or.inl hstate) hs
  | readingValue => exact absurd (Or.inr (Or.inl hstate)) hs
  | skipping => exact absurd (Or.inr (Or.inr hstate)) hs

/-- The cuts that `u` is to make are the one that `t` makes now, if any, and those that a tokenizer
makes that has read what `t` has read after its transition. -/
def Follows (t u : Tokenizer) : Prop :=
  ∃ v, Reads t.step.2 v ∧
    u.cuts = if t.step.1.isSome then t.cutHere.map t.offset :: v.cuts else v.cuts

/-- One transition of each, with the same outcome, is a simple way to follow. -/
theorem Reads.follows_of_together (h : Reads t u) (htogether : Together t u) : Follows t u := by
  obtain ⟨hreads, hsome⟩ := htogether
  exact ⟨u.step.2, hreads, by rw [cuts_step, hsome, h.cutHere]⟩

/-- A character beyond ASCII is passed over byte by byte. -/
theorem Reads.follows_of_passing (h : Reads t u) (hs : Passing t.state)
    (hc : t.input[t.pos]? = some c) (hle : 128 ≤ c.toNat) : Follows t u := by
  have hstep := step_of_passing hs hc (plain_of_le hle)
  have hbytes : ∀ j < c.utf8Size, ∃ d, u.input[u.pos + j]? = some d ∧ Plain d := by
    intro j hj
    rw [← Text.length_byteChars] at hj
    exact ⟨_, h.input_eq_byteChars hc hj,
      plain_of_le (Text.le_toNat_of_mem_byteChars hle _ (List.getElem_mem hj))⟩
  refine ⟨{ u with pos := u.pos + c.utf8Size }, ?_, ?_⟩
  · rw [hstep]
    refine ⟨h.input, h.state, ?_, h.keyStart, h.keyEnd, h.valueStart⟩
    rw [h.pos]
    exact (offset_succ hc).symm
  · rw [hstep]
    exact cuts_of_passing (h.state ▸ hs) hbytes

/-- A transition over a character is followed by transitions over its bytes. -/
theorem Reads.step (h : Reads t u) : Follows t u := by
  rcases hc : t.input[t.pos]? with _ | c
  · exact h.follows_of_together (h.together_of_none hc)
  have hfirst : 0 < (Text.byteChars c).length := by
    rw [Text.length_byteChars]
    exact c.utf8Size_pos
  rcases Nat.lt_or_ge c.toNat 128 with hlt | hle
  · have hbytes := Text.byteChars_of_ascii hlt
    have hsize : c.utf8Size = 1 := by rw [← Text.length_byteChars, hbytes, List.length_singleton]
    refine h.follows_of_together (h.together_of_eq hc ?_ ?_)
    · simpa [hbytes] using h.input_eq_byteChars hc hfirst
    · rw [h.pos, offset_succ hc, hsize]
  · by_cases hs : Passing t.state
    · exact h.follows_of_passing hs hc hle
    · exact h.follows_of_together (h.together_of_plain hs hc (h.input_eq_byteChars hc hfirst)
        (plain_of_le hle) (plain_of_le (Text.le_toNat_of_mem_byteChars hle _ (List.getElem_mem _))))

/-- The bytes are cut where the characters are. -/
theorem Reads.cuts (h : Reads t u) : u.cuts = t.cuts.map (Cut.map t.offset) := by
  fun_induction Tokenizer.cuts t generalizing u with
  | case1 t hs => rw [cuts_of_finished (h.state.trans hs), List.map_nil]
  | case2 t hs hlt hsome ih =>
    obtain ⟨v, hv, hcuts⟩ := h.step
    rw [hcuts, if_pos hsome, ih hv, offset_congr (input_step t), List.map_cons]
  | case3 t hs hlt hsome ih =>
    obtain ⟨v, hv, hcuts⟩ := h.step
    rw [hcuts, if_neg hsome, ih hv, offset_congr (input_step t)]

/-! ### The cuts of a text -/

/-- At the start, neither tokenizer has read anything. -/
theorem reads_ofBytes (s : String) : Reads (ofString s) (ofBytes s) :=
  ⟨by rw [input_ofBytes]; rfl, rfl, rfl, rfl, rfl, rfl⟩

/-- At the start of the characters all positions are in order. -/
theorem placed_ofString (s : String) : (ofString s).Placed :=
  placed_of_state (Nat.zero_le _) (Or.inl rfl)

/-- At the start of the bytes all positions are in order. -/
theorem placed_ofBytes (s : String) : (ofBytes s).Placed :=
  placed_of_state (Nat.zero_le _) (Or.inl rfl)

/-- The bytes of a text are cut at the bytes before the cuts of its characters. -/
theorem cuts_ofBytes (s : String) :
    (ofBytes s).cuts = (ofString s).cuts.map (Cut.map (ofString s).offset) :=
  (reads_ofBytes s).cuts

/-- The bytes before a character end between two characters. -/
theorem isValid_offset (s : String) (i : Nat) :
    String.Pos.Raw.IsValid s ⟨(ofString s).offset i⟩ := by
  refine String.Pos.Raw.isValid_iff_exists_append.2
    ⟨String.ofList (s.toList.take i), String.ofList (s.toList.drop i), ?_, ?_⟩
  · rw [← String.ofList_append, List.take_append_drop, String.ofList_toList]
  · exact String.Pos.Raw.ext (Text.utf8ByteSize_ofList _).symm

/-- What is between two such places can be cut out. -/
theorem slice?_offset (s : String) {i j : Nat} (hij : i ≤ j) :
    Text.slice? s ((ofString s).offset i) ((ofString s).offset j) =
      some ((ofString s).input.extract i j).toList := by
  have htake : s.toList.take j = s.toList.take i ++ (s.toList.drop i).take (j - i) := by
    rw [← List.take_add, Nat.add_sub_cancel' hij]
  have hslice : ((ofString s).input.extract i j).toList = (s.toList.drop i).take (j - i) := by
    simp [ofString, List.extract]
  have hcut := Text.slice?_append (s.toList.take i) ((s.toList.drop i).take (j - i))
    (s.toList.drop j)
  rw [← htake, List.take_append_drop, String.ofList_toList] at hcut
  rw [hslice]
  exact hcut

/-- A cut of the characters, made among the bytes, cuts out the same token. -/
theorem token?_map_offset {s : String} {c : Cut} (hc : c.Delimits (ofString s).input) :
    (c.map (ofString s).offset).token? s = some (c.token (ofString s).input) := by
  simp only [Cut.token?, Cut.map, slice?_offset s (Nat.le_of_lt hc.key), slice?_offset s hc.value]
  rfl

/-- Every cut of the bytes is safe. -/
theorem safe_of_mem_cuts {c : Cut} (hc : c ∈ (ofBytes s).cuts) : c.Safe s := by
  have hdelimits := (placed_ofBytes s).delimits_of_mem_cuts c hc
  refine ⟨hdelimits.key, hdelimits.assign, hdelimits.value, ?_, ?_⟩
  · have hequals : (s.toByteArray.data.map Text.byteChar)[c.valueStart - 1]? = some '=' :=
      hdelimits.equals
    rw [Array.getElem?_map] at hequals
    obtain ⟨b, hb, hchar⟩ := Option.map_eq_some_iff.1 hequals
    rw [hb, (Text.byteChar_eq_iff (by decide)).1 hchar]
    rfl
  · rw [cuts_ofBytes] at hc
    obtain ⟨d, -, rfl⟩ := List.mem_map.1 hc
    simp only [Cut.map, List.forall_mem_cons, List.not_mem_nil, false_imp_iff, implies_true,
      and_true]
    exact ⟨isValid_offset s _, isValid_offset s _, isValid_offset s _, isValid_offset s _⟩

/-- What the cuts cut out are the tokens of the text. -/
theorem mapM_token?_cuts (s : String) :
    (ofBytes s).cuts.mapM (Cut.token? s) = some (tokens s) := by
  have htokens : tokens s = (ofString s).cuts.map (Cut.token (ofString s).input) :=
    run_eq_map_cuts (ofString s)
  have hdelimits := (placed_ofString s).delimits_of_mem_cuts
  rw [cuts_ofBytes, htokens]
  generalize (ofString s).cuts = cuts at hdelimits
  induction cuts with
  | nil => rfl
  | cons c cs ih =>
    rw [List.map_cons, List.mapM_cons, token?_map_offset (hdelimits c List.mem_cons_self),
      ih fun d hd => hdelimits d (List.mem_cons_of_mem c hd)]
    rfl

end Tokenizer

open Tokenizer in
/-- Scanning the bytes of a text comes to an end and cuts nothing in two. Every transition makes the
work that remains smaller, and no position is past the end. Each token is cut out at four places
between characters, in order, the value right after an equals sign; so no cut fails, and the cuts
give the tokens of the text, from separate stretches of it, from left to right. Each call makes the
next of these cuts as long as there are any; after that the input has ended, and no call gives
anything. -/
theorem scans_safely (s : String) :
    (∀ n, ((ofBytes s).after n).pos ≤ s.utf8ByteSize ∧
      (((ofBytes s).after n).state ≠ .finished →
        ((ofBytes s).after (n + 1)).measure < ((ofBytes s).after n).measure) ∧
      (((ofBytes s).after n).step.1.isSome = true →
        ((ofBytes s).after n).cutHere ∈ (ofBytes s).cuts)) ∧
    (∀ c ∈ (ofBytes s).cuts, c.Safe s) ∧
    (ofBytes s).cuts.mapM (Cut.token? s) = some (tokens s) ∧
    ((ofBytes s).cuts.Pairwise fun c d => c.stop < d.keyStart) ∧
    ∀ k, (∃ n, (ofBytes s).called k = (ofBytes s).after n) ∧
      ((ofBytes s).called k).cuts = (ofBytes s).cuts.drop k ∧
      (((ofBytes s).called k).next.1.isSome = true ↔ k < (tokens s).length) ∧
      (((ofBytes s).called k).next.1 = none →
        ∀ j > k, ((ofBytes s).called j).state = .finished ∧
          ((ofBytes s).called j).next.1 = none) := by
  refine ⟨fun n => ⟨?_, measure_step, cutHere_mem_cuts⟩, fun c => safe_of_mem_cuts,
    mapM_token?_cuts s, pairwise_cuts _,
    fun k => ⟨exists_after_called _ k, cuts_called _ k, ?_, fun hnone j hj => ?_⟩⟩
  · have hinside := ((placed_ofBytes s).after n).inside
    rwa [input_after, size_ofBytes] at hinside
  · have htokens : tokens s = (ofString s).cuts.map (Cut.token (ofString s).input) :=
      run_eq_map_cuts (ofString s)
    rw [isSome_next_called, cuts_ofBytes, htokens, List.length_map, List.length_map]
  · have hfinished : ((ofBytes s).called (k + 1)).state = .finished := next_of_none hnone
    obtain ⟨i, rfl⟩ := Nat.exists_eq_add_of_lt hj
    rw [Nat.add_right_comm, called_add, called_of_finished hfinished, next_of_finished hfinished]
    exact ⟨hfinished, rfl⟩

example : (Tokenizer.ofBytes "ä=x;größe= ü").cuts = [⟨0, 2, 3, 4⟩, ⟨5, 12, 13, 16⟩] := by cbv

end WidgetStage
