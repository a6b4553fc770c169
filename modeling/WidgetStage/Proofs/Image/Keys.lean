import WidgetStage.Proofs.Image.Segments
import WidgetStage.Proofs.Text.Trimming

/-!
# White space around keys and values

A token is a key and a value out of one segment. Around the value all white space is dropped. Around
the key only spaces and tabs are: any other white space there becomes a part of the key, and then
the key is another one.

## Main results

* `Token.ofSegment?_eq_some_iff`: how a segment has to look to make a token.
* `Token.trimmed_key_iff`: the key is trimmed if there is no other white space around it than spaces
  and tabs.
* `keys_trimmed_iff`: for which texts all keys are trimmed, and before which options white space is
  passed over.
-/

namespace WidgetStage

open Text (Trimmed isBlank)

namespace Token

/-- A segment that makes a token: the key, with gaps around it, and after the equals sign the value,
with white space around it. -/
def Made (t : Token) (seg : List Char) : Prop :=
  ∃ front gap rest, seg = front ++ t.key ++ gap ++ '=' :: rest ∧
    (∀ c ∈ front, Tokenizer.isGap c = true) ∧ (∀ c ∈ gap, Tokenizer.isGap c = true) ∧
    t.key ≠ [] ∧ (∀ c ∈ t.key, isKeyChar c = true) ∧ t.value = Text.trim rest

/-- There is no white space at the ends of a text but spaces and tabs. -/
def PlainEdges (cs : List Char) : Prop :=
  (∀ c ∈ cs.takeWhile isBlank, Tokenizer.isGap c = true) ∧
    ∀ c ∈ cs.reverse.takeWhile isBlank, Tokenizer.isGap c = true

variable {seg front gap key : List Char} {t : Token} {c : Char}

/-- What separates keys is white space. -/
theorem isBlank_of_isGap (h : Tokenizer.isGap c = true) : isBlank c = true := by
  simp only [Tokenizer.isGap, Bool.or_eq_true, beq_iff_eq] at h
  rcases h with rfl | rfl <;> decide

/-- White space separates no segments. -/
theorem not_semicolon_of_isBlank (h : isBlank c = true) : c ≠ ';' := by
  rintro rfl
  exact absurd h (by decide)

/-! ### Segments that make a token -/

/-- Gaps before a key do not matter. -/
theorem ofSegment?_gaps (h : ∀ c ∈ front, Tokenizer.isGap c = true) :
    ofSegment? (front ++ seg) = ofSegment? seg := by
  simp only [ofSegment?, List.dropWhile_append_of_pos h]

/-- Nor do gaps after it. -/
theorem assigned?_gaps (h : ∀ c ∈ gap, Tokenizer.isGap c = true) :
    assigned? key (gap ++ seg) = assigned? key seg := by
  simp only [assigned?, List.dropWhile_append_of_pos h]

/-- A segment makes a token exactly if it looks like one. -/
theorem ofSegment?_eq_some_iff : ofSegment? seg = some t ↔ t.Made seg := by
  constructor
  · intro h
    rw [ofSegment?] at h
    split at h
    · cases h
    next hne =>
    rw [assigned?] at h
    split at h
    next rest hrest =>
      cases h
      refine ⟨seg.takeWhile Tokenizer.isGap,
        ((seg.dropWhile Tokenizer.isGap).dropWhile isKeyChar).takeWhile Tokenizer.isGap, rest, ?_,
        fun c hc => List.mem_takeWhile_imp hc, fun c hc => List.mem_takeWhile_imp hc, hne,
        fun c hc => List.mem_takeWhile_imp hc, rfl⟩
      rw [List.append_assoc, ← hrest, List.takeWhile_append_dropWhile, List.append_assoc,
        List.takeWhile_append_dropWhile, List.takeWhile_append_dropWhile]
    · cases h
  · rintro ⟨front, gap, rest, rfl, hfront, hgap, hne, hkey, hvalue⟩
    have hend : ∀ c, (gap ++ '=' :: rest).head? = some c → isKeyChar c = false := by
      intro c hc
      rcases gap with _ | ⟨d, gap⟩
      · cases hc
        rfl
      · cases hc
        simp [isKeyChar, hgap c List.mem_cons_self]
    rw [List.append_assoc, List.append_assoc, ofSegment?_gaps hfront, ofSegment?_key hne hkey hend,
      assigned?_gaps hgap, assigned?_equals, ← hvalue]

/-! ### Edges of keys -/

/-- White space at the front of a key, behind gaps, is not a gap. -/
theorem plain_front_iff (hfront : ∀ c ∈ front, Tokenizer.isGap c = true) (hne : key ≠ [])
    (hkey : ∀ c ∈ key, Tokenizer.isGap c = false) (seg : List Char) :
    (∀ c ∈ (front ++ key ++ seg).takeWhile isBlank, Tokenizer.isGap c = true) ↔
      ∀ c, key.head? = some c → isBlank c = false := by
  have hblank : ∀ c ∈ front, isBlank c = true := fun c hc => isBlank_of_isGap (hfront c hc)
  obtain ⟨d, key, rfl⟩ := List.exists_cons_of_ne_nil hne
  have hd := hkey d List.mem_cons_self
  rw [List.append_assoc, List.takeWhile_append_of_pos hblank, List.cons_append]
  constructor
  · intro h c hc
    cases hc
    by_contra hblank
    rw [Bool.not_eq_false] at hblank
    have hgap := h d (by simp [List.takeWhile_cons_of_pos hblank])
    simp [hd] at hgap
  · intro h c hc
    rw [List.takeWhile_cons_of_neg (by simp [h d rfl]), List.append_nil] at hc
    exact hfront c hc

/-- The key of a token is trimmed if there is no other white space around it than gaps. -/
theorem trimmed_key_iff (h : t.Made seg) :
    Trimmed t.key ↔ PlainEdges (seg.takeWhile (· ≠ '=')) := by
  obtain ⟨front, gap, rest, rfl, hfront, hgap, hne, hkey, -⟩ := h
  have hassign : ∀ c ∈ front ++ t.key ++ gap, decide (c ≠ '=') = true := by
    intro c hc
    rw [decide_eq_true_iff]
    rintro rfl
    rcases List.mem_append.1 hc with hc | hc
    · rcases List.mem_append.1 hc with hc | hc
      · exact absurd (hfront _ hc) (by decide)
      · exact absurd (hkey _ hc) (by decide)
    · exact absurd (hgap _ hc) (by decide)
  have hbefore : (front ++ t.key ++ gap ++ '=' :: rest).takeWhile (· ≠ '=') =
      front ++ t.key ++ gap := by
    rw [List.takeWhile_append_of_pos hassign, List.takeWhile_cons_of_neg (by simp),
      List.append_nil]
  have hkey' : ∀ c ∈ t.key, Tokenizer.isGap c = false := fun c hc => isGap_of_isKeyChar (hkey c hc)
  have hreverse : (front ++ t.key ++ gap).reverse = gap.reverse ++ t.key.reverse ++ front.reverse :=
    by simp
  rw [hbefore, PlainEdges, hreverse, plain_front_iff hfront hne hkey',
    plain_front_iff (by simpa using hgap) (by simpa using hne) (by simpa using hkey'),
    List.head?_reverse, Trimmed]

/-- A key begins with the first character that is no gap. -/
theorem head?_key (h : ofSegment? seg = some t) :
    t.key.head? = (seg.dropWhile Tokenizer.isGap).head? := by
  obtain ⟨front, gap, rest, rfl, hfront, -, hne, hkey, -⟩ := ofSegment?_eq_some_iff.1 h
  obtain ⟨c, key, hcons⟩ := List.exists_cons_of_ne_nil hne
  have hc := isGap_of_isKeyChar (hkey c (by simp [hcons]))
  rw [List.append_assoc, List.append_assoc, List.dropWhile_append_of_pos hfront, hcons,
    List.cons_append, List.dropWhile_cons_of_neg (by simp [hc])]
  rfl

/-- White space before a segment that begins with none is passed over if it consists of gaps, and
not otherwise. -/
theorem ofSegment?_blanks_iff {ws : List Char} (hws : ∀ c ∈ ws, isBlank c = true)
    (hseg : ∀ c, seg.head? = some c → isBlank c = false) (h : ofSegment? seg = some t) :
    ofSegment? (ws ++ seg) = some t ↔ ∀ c ∈ ws, Tokenizer.isGap c = true := by
  constructor
  · intro h'
    by_contra hgaps
    have hrest : ws.dropWhile Tokenizer.isGap ≠ [] := by rwa [ne_eq, List.dropWhile_eq_nil_iff]
    obtain ⟨c, cs, hcons⟩ := List.exists_cons_of_ne_nil hrest
    have hc : isBlank c = true :=
      hws c ((List.dropWhile_sublist _).subset (by rw [hcons]; exact List.mem_cons_self))
    -- the key would begin with white space in one segment, and without it in the other
    have hwith := head?_key h'
    have hwithout := head?_key h
    rw [List.dropWhile_append, if_neg (by simpa using hrest), hcons] at hwith
    rcases seg with _ | ⟨d, seg⟩
    · cases h
    have hd : isBlank d = false := hseg d rfl
    have hgap : ¬ Tokenizer.isGap d = true := fun hgap => by simp [isBlank_of_isGap hgap] at hd
    rw [hwith, List.dropWhile_cons_of_neg hgap] at hwithout
    cases hwithout
    simp [hc] at hd
  · intro hgaps
    rw [ofSegment?_gaps hgaps, h]

end Token

/-! ### Tokens of a text -/

/-- A piece between semicolons holds none. -/
theorem not_mem_of_mem_splitOn {cs piece : List Char} (h : piece ∈ cs.splitOn ';') :
    ';' ∉ piece := by
  rw [← Text.cut_eq_splitOn] at h
  intro hmem
  exact absurd (Text.mem_cut piece h _ hmem) (by decide)

/-- The tokens of a text are those that its segments make. -/
theorem mem_tokens_iff {s : String} {t : Token} :
    t ∈ tokens s ↔ ∃ seg ∈ s.toList.splitOn ';', t.Made seg := by
  simp only [tokens_eq_filterMap_ofSegment, List.mem_filterMap, Token.ofSegment?_eq_some_iff]

/-- A text of one segment has the token of the segment, if there is one. -/
theorem tokens_of_segment {s : String} (hs : ';' ∉ s.toList) :
    tokens s = (Token.ofSegment? s.toList).toList := by
  rw [tokens_eq_filterMap_ofSegment, List.splitOn_eq_singleton hs, List.filterMap_cons]
  cases Token.ofSegment? s.toList <;> rfl

/-- Every token has a key, and its value is trimmed. The keys of a text are trimmed too exactly if,
wherever a segment makes a token, there is no other white space around the key than spaces and tabs.
Therefore an option is recognised behind white space exactly if this consists of spaces and tabs. -/
theorem keys_trimmed_iff (s : String) :
    (∀ t ∈ tokens s, t.key ≠ [] ∧ (∀ c ∈ t.key, Token.isKeyChar c = true ∧ c ≠ ';') ∧
      Trimmed t.value) ∧
    ((∀ t ∈ tokens s, Trimmed t.key) ↔ ∀ seg ∈ s.toList.splitOn ';',
      (Token.ofSegment? seg).isSome = true → Token.PlainEdges (seg.takeWhile (· ≠ '='))) ∧
    (';' ∉ s.toList → tokens s ≠ [] → (∀ c, s.toList.head? = some c → isBlank c = false) →
      ∀ ws : String, (∀ c ∈ ws.toList, isBlank c = true) →
        (tokens (ws ++ s) = tokens s ↔ ∀ c ∈ ws.toList, Tokenizer.isGap c = true)) := by
  refine ⟨fun t ht => ?_, ?_, fun hs hne hhead ws hws => ?_⟩
  · obtain ⟨seg, hseg, front, gap, rest, rfl, -, -, hne, hkey, hvalue⟩ := mem_tokens_iff.1 ht
    refine ⟨hne, fun c hc => ⟨hkey c hc, ?_⟩, hvalue ▸ Text.trimmed_trim rest⟩
    rintro rfl
    exact not_mem_of_mem_splitOn hseg (by simp [hc])
  · simp only [mem_tokens_iff, Option.isSome_iff_exists, Token.ofSegment?_eq_some_iff]
    constructor
    · rintro h seg hseg ⟨t, ht⟩
      exact (Token.trimmed_key_iff ht).1 (h t ⟨seg, hseg, ht⟩)
    · rintro h t ⟨seg, hseg, ht⟩
      exact (Token.trimmed_key_iff ht).2 (h seg hseg ⟨t, ht⟩)
  · have hws' : ';' ∉ (ws ++ s).toList := by
      rw [String.toList_append, List.mem_append, not_or]
      exact ⟨fun hmem => Token.not_semicolon_of_isBlank (hws _ hmem) rfl, hs⟩
    rw [tokens_of_segment hs] at hne ⊢
    rw [tokens_of_segment hws', String.toList_append]
    rcases h : Token.ofSegment? s.toList with _ | t
    · simp [h] at hne
    · rw [← Token.ofSegment?_blanks_iff hws hhead h]
      rcases Token.ofSegment? (ws.toList ++ s.toList) with _ | u <;> simp

/-- A key that stands on a line of its own begins with the end of the line before. -/
theorem key_after_newline :
    ¬ ∀ s, ∀ t ∈ tokens s, t.key ≠ [] ∧ Trimmed t.key ∧ Trimmed t.value := by
  have hs : tokens "\na=1" = [⟨['\n', 'a'], ['1']⟩] := by
    rw [tokens_eq_filterMap_ofSegment]
    decide
  intro h
  obtain ⟨-, hkey, -⟩ := h "\na=1" ⟨['\n', 'a'], ['1']⟩ (by rw [hs]; exact List.mem_cons_self)
  exact absurd (hkey.1 '\n' rfl) (by decide)

end WidgetStage
