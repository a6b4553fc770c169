import WidgetStage.Proofs.Image.Deciding
import WidgetStage.Proofs.Image.Keys
import WidgetStage.Proofs.Text.Separated

/-!
# Writing image options

Options are written as segments, one for each key: the flags and the mode of filling always, a size
and a shadow only if there is one. There is much freedom in this. The segments may come in any
order, with segments among them that assign nothing; words and digits may be in either case; and
there may be gaps around keys, and white space around values and their parts. All these texts are
read back as the same options.

A text that writes options is described from the inside: how a value is spelled, how a segment looks
that writes it, and how the segments are put together. The proof goes through the same three layers,
and ends with what the tokens decide.

## Main results

* `Spells.plain`, `Spells.reads`: what is spelled stands in a segment as a whole, and says what it
  spells.
* `Writes.made`: a segment that writes an option makes a token of its key.
* `Written.decided`: the tokens of a text decide each option as it is written.
* `written_write`: there is such a text for all options.
* `writable_iff`: options are within their bounds exactly if some text is read as them.
* `written_read_back`: whatever text is written for options, they are read back from it.
-/

namespace WidgetStage

namespace Text

/-- A character that neither ends a segment nor is trimmed off a value. -/
def isPlain (c : Char) : Bool :=
  !isBlank c && c != ';'

/-- Letters are plain. -/
theorem isPlain_of_letter {c : Char} (hlow : 65 ≤ c.toNat) (hhigh : c.toNat ≤ 122) :
    isPlain c = true := by
  have hsemicolon : c ≠ ';' := by
    rintro rfl
    exact absurd hlow (by decide)
  have hblank : isBlank c = false := by
    simp only [isBlank, Bool.or_eq_false_iff, Bool.and_eq_false_iff, decide_eq_false_iff_not,
      beq_eq_false_iff_ne]
    omega
  simp [isPlain, hblank, hsemicolon]

/-- Lower case changes nothing about plainness. -/
theorem isPlain_toLower (c : Char) : isPlain c.toLower = isPlain c := by
  rcases toLower_cases c with h | ⟨hupper, hlower⟩
  · rw [h]
  · rw [isPlain_of_letter (by omega) (by omega), isPlain_of_letter (by omega) (by omega)]

end Text

namespace ImageOptions

open Text

/-- The options that have a key. -/
inductive Key
  | aspect
  | orient
  | fill
  | size
  | shadow
  deriving DecidableEq

/-- The key as it is written. -/
def Key.name : Key → String
  | .aspect => "aspect"
  | .orient => "orient"
  | .fill => "fill"
  | .size => "size"
  | .shadow => "shadow"

/-- Whether there is anything to write for a key. -/
def isSet (o : ImageOptions) : Key → Bool
  | .size => o.explicitSize.isSome
  | .shadow => o.shadow.enabled
  | _ => true

/-- The keys to be written. -/
def keys (o : ImageOptions) : List Key :=
  [.aspect, .orient, .fill, .size, .shadow].filter o.isSet

/-- Options that are within their bounds: size and shadow are 32-bit integers, and are all at their
default if they are not set. -/
structure Writable (o : ImageOptions) : Prop where
  size : o.width = -1 ∧ o.height = -1 ∨
    (0 ≤ o.width ∧ o.width ≤ int32Max) ∧ 0 ≤ o.height ∧ o.height ≤ int32Max
  shadow : o.shadow = .none ∨ o.shadow.enabled = true ∧
    (int32Min ≤ o.shadow.angle ∧ o.shadow.angle ≤ int32Max) ∧
    (int32Min ≤ o.shadow.offset ∧ o.shadow.offset ≤ int32Max) ∧
    (int32Min ≤ o.shadow.softness ∧ o.shadow.softness ≤ int32Max) ∧ o.shadow.color ≤ 4294967295

/-! ### Texts that write options -/

/-- The value of an option as it may be spelled. -/
def Spells (o : ImageOptions) : Key → List Char → Prop
  | .aspect, value => sameLetters value (toString o.aspect).toList = true
  | .orient, value => sameLetters value (toString o.orient).toList = true
  | .fill, value => sameLetters value o.fill.word.toList = true
  | .size, value => ∃ width height, IntegerLiteral width o.width ∧ IntegerLiteral height o.height ∧
      Separated isTimes [width, height] value
  | .shadow, value => ∃ angle offset softness, ∃ mark ∈ ["", "0x", "0X", "#"], ∃ digits,
      IntegerLiteral angle o.shadow.angle ∧ IntegerLiteral offset o.shadow.offset ∧
      IntegerLiteral softness o.shadow.softness ∧ Numeral 16 digits o.shadow.color ∧
      Separated (· == ',') [angle, offset, softness, mark.toList ++ digits] value

/-- A segment that writes an option: the key, with gaps around it, and after the equals sign its
value, with white space around it. -/
def Writes (o : ImageOptions) (k : Key) (seg : List Char) : Prop :=
  ∃ front gap value rest, seg = front ++ k.name.toList ++ gap ++ '=' :: rest ∧
    (∀ c ∈ front, Tokenizer.isGap c = true) ∧ (∀ c ∈ gap, Tokenizer.isGap c = true) ∧
    Padded value rest ∧ o.Spells k value

/-- A text that writes options: the segments with an equals sign write one key each, in any order,
and all others assign nothing. An empty one at the end stands for a last semicolon. -/
def Written (o : ImageOptions) (s : String) : Prop :=
  ∃ (segs : List (List Char)) (writing : Key → List Char), s.toList = [';'].intercalate segs ∧
    (∀ seg ∈ segs, '=' ∉ seg → ';' ∉ seg) ∧
    (segs.filter ('=' ∈ ·)).Perm (o.keys.map writing) ∧ ∀ k ∈ o.keys, o.Writes k (writing k)

variable {o : ImageOptions} {k : Key} {value word seg : List Char} {s : String}

/-! ### Values -/

/-- A word of the same letters as a plain one is plain. -/
theorem plain_of_sameLetters (h : sameLetters value word = true)
    (hword : ∀ c ∈ word, isPlain c = true) : ∀ c ∈ value, isPlain c = true := by
  rw [sameLetters, beq_iff_eq] at h
  intro c hc
  have hlower : c.toLower ∈ word.map Char.toLower := h ▸ List.mem_map_of_mem hc
  obtain ⟨d, hd, hcd⟩ := List.mem_map.1 hlower
  rw [← isPlain_toLower, ← hcd, isPlain_toLower, hword d hd]

/-- Plain characters are no white space. -/
theorem trimmed_of_plain (h : ∀ c ∈ value, isPlain c = true) : Trimmed value := by
  refine trimmed_of_forall fun c hc => ?_
  have hplain := h c hc
  simp only [isPlain, Bool.and_eq_true, Bool.not_eq_true'] at hplain
  exact hplain.1

/-- A part of a value: something without white space, semicolons and separators. -/
structure Field (sep : Char → Bool) (part : List Char) : Prop where
  ne_nil : part ≠ []
  plain : ∀ c ∈ part, isPlain c = true
  not_sep : ∀ c ∈ part, sep c = false

/-- Plain characters without a separator make a field. -/
theorem field_of_forall {sep : Char → Bool} {part : List Char} (hne : part ≠ [])
    (h : ∀ c ∈ part, (isPlain c && !sep c) = true) : Field sep part := by
  simp only [Bool.and_eq_true, Bool.not_eq_true'] at h
  exact ⟨hne, fun c hc => (h c hc).1, fun c hc => (h c hc).2⟩

/-- A number is a field of a size. -/
theorem field_isTimes {cs : List Char} {n : Int} (h : IntegerLiteral cs n) : Field isTimes cs :=
  field_of_forall h.ne_nil (h.forall (by decide) (by decide))

/-- A number is a field of a shadow. -/
theorem field_comma {cs : List Char} {n : Int} (h : IntegerLiteral cs n) : Field (· == ',') cs :=
  field_of_forall h.ne_nil (h.forall (by decide) (by decide))

/-- So is a colour, with any of its marks. -/
theorem field_color {mark : String} {digits : List Char} {n : Nat}
    (hmark : mark ∈ ["", "0x", "0X", "#"]) (h : Numeral 16 digits n) :
    Field (· == ',') (mark.toList ++ digits) := by
  have hmarks : ∀ mark ∈ ["", "0x", "0X", "#"],
      mark.toList.all (fun c => isPlain c && !c == ',') = true := by decide
  have hdigits : ∀ c ∈ digits, (isPlain c && !c == ',') = true :=
    h.forall (p := fun c => isPlain c && !c == ',') (Nat.le_refl 16) (by decide)
  refine field_of_forall (by simp [h.ne_nil]) fun c hc => ?_
  exact (List.mem_append.1 hc).elim (List.all_eq_true.1 (hmarks mark hmark) c) (hdigits c)

/-- A value of such parts stands in a segment as a whole. -/
theorem whole_of_fields {sep : Char → Bool} {parts : List (List Char)}
    (h : Separated sep parts value) (hparts : ∀ part ∈ parts, Field sep part)
    (hsep : sep ';' = false) : Trimmed value ∧ ';' ∉ value := by
  refine ⟨(h.trimmed fun part hpart => ?_).1, fun hmem => ?_⟩
  · exact ⟨trimmed_of_plain (hparts part hpart).plain, (hparts part hpart).ne_nil⟩
  · have hall : ∀ c ∈ value, (c != ';') = true := by
      refine h.forall (fun part hpart c hc => ?_) (fun c hc => ?_) fun c hc => ?_
      · have hplain := (hparts part hpart).plain c hc
        rw [isPlain, Bool.and_eq_true] at hplain
        exact hplain.2
      · rw [bne_iff_ne]
        rintro rfl
        simp [hsep] at hc
      · rw [bne_iff_ne]
        exact Token.not_semicolon_of_isBlank hc
    exact absurd (hall ';' hmem) (by decide)

/-- And its parts are found again. -/
theorem map_trim_splitOn_of_fields {parts : List (List Char)}
    (h : Separated (· == ',') parts value) (hparts : ∀ part ∈ parts, Field (· == ',') part) :
    (value.splitOn ',').map trim = parts := by
  rw [← cut_eq_splitOn]
  refine h.map_trim_cut (fun part hpart => ?_) fun c hc => ?_
  · exact ⟨trimmed_of_plain (hparts part hpart).plain, (hparts part hpart).not_sep⟩
  · rw [beq_eq_false_iff_ne]
    rintro rfl
    exact absurd hc (by decide)

/-- What is spelled for an option stands in a segment as a whole. -/
theorem Spells.whole (h : o.Spells k value) : Trimmed value ∧ ';' ∉ value := by
  have hword : ∀ {word : List Char}, sameLetters value word = true →
      word.all isPlain = true → Trimmed value ∧ ';' ∉ value := by
    intro word h hplain
    have hvalue := plain_of_sameLetters h (List.all_eq_true.1 hplain)
    exact ⟨trimmed_of_plain hvalue, fun hmem => absurd (hvalue ';' hmem) (by decide)⟩
  cases k with
  | aspect => exact hword h (by cases o.aspect <;> decide)
  | orient => exact hword h (by cases o.orient <;> decide)
  | fill => exact hword h (by cases o.fill <;> decide)
  | size =>
      obtain ⟨width, height, hw, hh, hvalue⟩ := h
      refine whole_of_fields hvalue ?_ rfl
      simp [field_isTimes hw, field_isTimes hh]
  | shadow =>
      obtain ⟨angle, offset, softness, mark, hmark, digits, ha, ho, hs, hc, hvalue⟩ := h
      refine whole_of_fields hvalue ?_ rfl
      simp [field_comma ha, field_comma ho, field_comma hs, field_color hmark hc]

/-! ### Reading what is spelled -/

/-- The first four letters of a flag fill four bytes, and tell it from the other one. -/
theorem readsFlag_of_spells {flag : Bool} (h : sameLetters value (toString flag).toList = true) :
    ReadsFlag value flag := by
  have hhead := sameLetters_take h 4
  refine ⟨value.take 4, value.drop 4, (List.take_append_drop 4 value).symm, ?_, ?_⟩
  · rw [byteCount_eq_of_sameLetters hhead]
    cases flag <;> decide
  · rw [sameLetters_congr hhead]
    cases flag <;> decide

/-- The word of a fill mode is read as the mode, in either case. -/
theorem readsFill_of_spells {mode : FillMode} (h : sameLetters value mode.word.toList = true) :
    ReadsFill value mode := by
  rw [← fillMode_eq_iff, fillMode_congr h]
  cases mode <;> decide

/-- Two numbers with a separator between them are read as a size. -/
theorem readsSize_of_separated {width height : List Char} {size : Int × Int}
    (h : Separated isTimes [width, height] value) (hw : IntegerLiteral width size.1)
    (hh : IntegerLiteral height size.2) (hw' : 0 ≤ size.1 ∧ size.1 ≤ int32Max)
    (hh' : 0 ≤ size.2 ∧ size.2 ≤ int32Max) : ReadsSize value size := by
  have hmin : int32Min ≤ 0 := by decide
  obtain ⟨times, mid, htimes, hmid, rfl⟩ : ∃ times mid, isTimes times = true ∧
      Padded [times] mid ∧ value = width ++ mid ++ height := by
    cases h with
    | more _ htimes hmid h =>
        cases h with
        | one => exact ⟨_, _, htimes, hmid, rfl⟩
        | more _ _ _ h => cases h
  obtain ⟨before, after, rfl, hbefore, hafter⟩ := hmid
  have htrim : trim (width ++ before) = width :=
    (trimmed_of_plain (field_isTimes hw).plain).trim_eq ⟨[], before, by simp, nofun, hbefore⟩
  have htrim' : trim (after ++ height) = height :=
    (trimmed_of_plain (field_isTimes hh).plain).trim_eq ⟨after, [], by simp, hafter, nofun⟩
  refine ⟨width ++ before, times, after ++ height, by simp, htimes, fun c hc => ?_, ?_, ?_, hw'.1,
    hh'.1⟩
  · rcases List.mem_append.1 hc with hc | hc
    · exact (field_isTimes hw).not_sep c hc
    · rw [isTimes, Bool.or_eq_false_iff, beq_eq_false_iff_ne, beq_eq_false_iff_ne]
      constructor <;> rintro rfl <;> exact absurd (hbefore _ hc) (by decide)
  · rw [htrim]
    exact ⟨hw, Int.le_trans hmin hw'.1, hw'.2⟩
  · rw [htrim']
    exact ⟨hh, Int.le_trans hmin hh'.1, hh'.2⟩

/-- Width and height are within bounds if they are set. -/
theorem Writable.readsSize (ho : o.Writable) (hset : o.isSet .size = true)
    (h : o.Spells .size value) : ReadsSize value (o.width, o.height) := by
  obtain ⟨hw, hh⟩ := isSome_explicitSize_iff.1 hset
  obtain ⟨width, height, hwidth, hheight, hvalue⟩ := h
  rcases ho.size with ⟨hunset, -⟩ | ⟨hw', hh'⟩
  · omega
  · exact readsSize_of_separated hvalue hwidth hheight hw' hh'

/-- So are the fields of a shadow. -/
theorem Writable.readsShadow (ho : o.Writable) (hset : o.isSet .shadow = true)
    (h : o.Spells .shadow value) : ReadsShadow value o.shadow := by
  have hset' : o.shadow.enabled = true := hset
  obtain ⟨angle, offset, softness, mark, hmark, digits, ha, hoff, hs, hc, hvalue⟩ := h
  rcases ho.shadow with hnone | ⟨-, ha', hoff', hs', hc'⟩
  · rw [hnone] at hset'
    cases hset'
  · refine ⟨angle, offset, softness, mark.toList ++ digits, ?_, hset', ⟨ha, ha'⟩, ⟨hoff, hoff'⟩,
      ⟨hs, hs'⟩, mark, hmark, digits, rfl, .bare hc, hc'⟩
    refine map_trim_splitOn_of_fields hvalue ?_
    simp [field_comma ha, field_comma hoff, field_comma hs, field_color hmark hc]

/-! ### Segments -/

/-- The names of the keys can be written as keys. -/
theorem Key.isKeyChar_name (k : Key) :
    k.name.toList ≠ [] ∧ (∀ c ∈ k.name.toList, Token.isKeyChar c = true) ∧ ';' ∉ k.name.toList := by
  have hchars : k.name.toList.all Token.isKeyChar = true := by cases k <;> decide
  exact ⟨by cases k <;> decide, List.all_eq_true.1 hchars, by cases k <;> decide⟩

/-- No two keys have one name. -/
theorem Key.name_injective {k k' : Key} (h : k.name.toList = k'.name.toList) : k = k' := by
  cases k <;> cases k' <;> first | rfl | exact absurd h (by decide)

/-- A segment that writes an option makes a token of its key. -/
theorem Writes.made (h : o.Writes k seg) :
    ∃ t : Token, t.Made seg ∧ t.key = k.name.toList ∧ o.Spells k t.value := by
  obtain ⟨front, gap, value, rest, rfl, hfront, hgap, hrest, hvalue⟩ := h
  obtain ⟨hne, hkey, -⟩ := k.isKeyChar_name
  exact ⟨⟨k.name.toList, value⟩, ⟨front, gap, rest, rfl, hfront, hgap, hne, hkey,
    (hvalue.whole.1.trim_eq hrest).symm⟩, rfl, hvalue⟩

/-- What is written for a key has an equals sign. -/
theorem Writes.equals_mem (h : o.Writes k seg) : '=' ∈ seg := by
  obtain ⟨front, gap, value, rest, rfl, -⟩ := h
  simp

/-- What is written for a key is a single segment. -/
theorem Writes.not_semicolon (h : o.Writes k seg) : ';' ∉ seg := by
  obtain ⟨front, gap, value, rest, rfl, hfront, hgap, ⟨before, after, rfl, hbefore, hafter⟩,
    hvalue⟩ := h
  have hblank : ∀ {cs : List Char}, (∀ c ∈ cs, isBlank c = true) → ';' ∉ cs :=
    fun hcs hmem => Token.not_semicolon_of_isBlank (hcs ';' hmem) rfl
  have hgaps : ∀ {cs : List Char}, (∀ c ∈ cs, Tokenizer.isGap c = true) → ';' ∉ cs :=
    fun hcs => hblank fun c hc => Token.isBlank_of_isGap (hcs c hc)
  simp [hgaps hfront, hgaps hgap, k.isKeyChar_name.2.2, hblank hbefore, hblank hafter,
    hvalue.whole.2]

/-! ### Texts -/

/-- A key is written if it is set. -/
theorem mem_keys : k ∈ o.keys ↔ o.isSet k = true := by
  rw [keys, List.mem_filter]
  exact and_iff_right (by cases k <;> decide)

/-- The segments of a text are those it has been put together from, and its tokens are the options
that they write. -/
theorem Written.tokens_spell (h : Written o s) :
    (∀ t ∈ tokens s, ∃ k, o.isSet k = true ∧ t.key = k.name.toList ∧ o.Spells k t.value) ∧
      ∀ k, o.isSet k = true → ∃ t ∈ tokens s, t.key = k.name.toList := by
  obtain ⟨segs, writing, hs, hjunk, hperm, hwrites⟩ := h
  have hmem : ∀ seg, seg ∈ segs ∧ '=' ∈ seg ↔ ∃ k ∈ o.keys, writing k = seg := by
    intro seg
    rw [← List.mem_map, ← hperm.mem_iff, List.mem_filter, decide_eq_true_iff]
  have hsemicolon : ∀ seg ∈ segs, ';' ∉ seg := by
    intro seg hseg
    by_cases hequals : '=' ∈ seg
    · obtain ⟨k, hk, rfl⟩ := (hmem seg).1 ⟨hseg, hequals⟩
      exact (hwrites k hk).not_semicolon
    · exact hjunk seg hseg hequals
  have hne : segs ≠ [] := by
    have haspect := (hmem _).2 ⟨.aspect, mem_keys.2 rfl, rfl⟩
    exact List.ne_nil_of_mem haspect.1
  have hsplit : s.toList.splitOn ';' = segs := by
    rw [hs, List.splitOn_intercalate ';' hsemicolon hne]
  simp only [mem_tokens_iff, hsplit]
  constructor
  · rintro t ⟨seg, hseg, ht⟩
    have hequals : '=' ∈ seg := by
      obtain ⟨front, gap, rest, rfl, -⟩ := ht
      simp
    obtain ⟨k, hk, rfl⟩ := (hmem seg).1 ⟨hseg, hequals⟩
    obtain ⟨u, hu, hkey, hvalue⟩ := (hwrites k hk).made
    -- a segment makes one token only
    rw [← Token.ofSegment?_eq_some_iff] at ht hu
    obtain rfl : t = u := Option.some.inj (ht.symm.trans hu)
    exact ⟨k, mem_keys.1 hk, hkey, hvalue⟩
  · intro k hset
    have hk := mem_keys.2 hset
    obtain ⟨t, ht, hkey, -⟩ := (hwrites k hk).made
    exact ⟨t, ⟨writing k, ((hmem _).2 ⟨k, hk, rfl⟩).1, ht⟩, hkey⟩

/-- The tokens of a text decide an option as it is written, and leave it at its default if it is not
set. -/
theorem Written.decided {α : Type} {reads : List Char → α → Prop} {default v : α} (h : Written o s)
    (k : Key) (hreads : ∀ value, o.isSet k = true → o.Spells k value → reads value v)
    (hunset : o.isSet k = false → v = default) : Decided k.name reads default (tokens s) v := by
  obtain ⟨hall, hex⟩ := h.tokens_spell
  refine .of_forall (fun t ht hkey => ?_) ?_
  · obtain ⟨k', hset, hkey', hvalue⟩ := hall t ht
    obtain rfl := Key.name_injective (hkey'.symm.trans hkey)
    exact hreads t.value hset hvalue
  · cases hset : o.isSet k with
    | false => exact .inr (hunset hset)
    | true => exact .inl (hex k hset)

/-- A size that is not set is that of no size. -/
theorem Writable.size_unset (ho : o.Writable) (h : o.isSet .size = false) :
    (o.width, o.height) = (-1, -1) := by
  rcases ho.size with ⟨hw, hh⟩ | ⟨hw, hh⟩
  · rw [hw, hh]
  · have hset : o.isSet .size = true := isSome_explicitSize_iff.2 ⟨hw.1, hh.1⟩
    simp [hset] at h

/-- A shadow that is not set is no shadow. -/
theorem Writable.shadow_unset (ho : o.Writable) (h : o.isSet .shadow = false) :
    o.shadow = .none := by
  rcases ho.shadow with hnone | ⟨henabled, -⟩
  · exact hnone
  · have hset : o.isSet .shadow = true := henabled
    simp [hset] at h

/-- What is written for options decides for them. -/
theorem Written.decidedBy (h : Written o s) (ho : o.Writable) : DecidedBy (tokens s) o where
  aspect := h.decided .aspect (fun _ _ => readsFlag_of_spells) nofun
  orient := h.decided .orient (fun _ _ => readsFlag_of_spells) nofun
  fill := h.decided .fill (fun _ _ => readsFill_of_spells) nofun
  size := h.decided .size (fun _ => ho.readsSize) ho.size_unset
  shadow := h.decided .shadow (fun _ => ho.readsShadow) ho.shadow_unset

/-! ### Writing -/

/-- The plain spelling of an option. -/
def spelling (o : ImageOptions) : Key → List Char
  | .aspect => (toString o.aspect).toList
  | .orient => (toString o.orient).toList
  | .fill => o.fill.word.toList
  | .size => (toString o.width).toList ++ ['x'] ++ (toString o.height).toList
  | .shadow => (toString o.shadow.angle).toList ++ [','] ++ ((toString o.shadow.offset).toList ++
      [','] ++ ((toString o.shadow.softness).toList ++ [','] ++ Nat.toDigits 16 o.shadow.color))

/-- A text that writes options, without anything that could be left out. -/
def write (o : ImageOptions) : String :=
  String.ofList ([';'].intercalate (o.keys.map fun k => k.name.toList ++ '=' :: o.spelling k))

/-- The plain spelling is one of those that are allowed. -/
theorem spells_spelling (o : ImageOptions) (k : Key) : o.Spells k (o.spelling k) := by
  cases k with
  | aspect => exact beq_self_eq_true _
  | orient => exact beq_self_eq_true _
  | fill => exact beq_self_eq_true _
  | size =>
      exact ⟨_, _, integerLiteral_toString _, integerLiteral_toString _,
        .more _ (c := 'x') rfl (padded_self _) (.one _)⟩
  | shadow =>
      exact ⟨_, _, _, "", by simp, _, integerLiteral_toString _, integerLiteral_toString _,
        integerLiteral_toString _, numeral_toDigits (by decide) _,
        .more _ (c := ',') rfl (padded_self _) (.more _ (c := ',') rfl (padded_self _)
          (.more _ (c := ',') rfl (padded_self _) (.one _)))⟩

/-- There is a text for all options. -/
theorem written_write (o : ImageOptions) : Written o o.write := by
  have hwrites : ∀ k ∈ o.keys, o.Writes k (k.name.toList ++ '=' :: o.spelling k) := fun k _ =>
    ⟨[], [], o.spelling k, o.spelling k, by simp, nofun, nofun, padded_self _, spells_spelling o k⟩
  have hequals : ∀ seg ∈ o.keys.map fun k => k.name.toList ++ '=' :: o.spelling k, '=' ∈ seg := by
    intro seg hseg
    obtain ⟨k, hk, rfl⟩ := List.mem_map.1 hseg
    exact (hwrites k hk).equals_mem
  refine ⟨_, _, String.toList_ofList, fun seg hseg hne => absurd (hequals seg hseg) hne, ?_,
    hwrites⟩
  rw [List.filter_eq_self.2 fun seg hseg => decide_eq_true (hequals seg hseg)]

/-- What is written for options is read as these options. -/
theorem Written.parse_eq (h : Written o s) (ho : o.Writable) : parse (some s) = o :=
  (decidedBy_parse s).unique (h.decidedBy ho)

/-- Whatever options are read are within their bounds. -/
theorem writable_parse (s : String) : (parse (some s)).Writable := by
  have h := decidedBy_parse s
  constructor
  · rcases h.size_cases with ⟨-, -, t, -, -, hsize⟩ | ⟨hw, hh, -⟩
    · obtain ⟨_, _, _, -, -, -, ⟨-, -, hw⟩, ⟨-, -, hh⟩, hw', hh'⟩ := hsize
      exact .inr ⟨⟨hw', hw⟩, hh', hh⟩
    · exact .inl ⟨hw, hh⟩
  · rcases h.shadow.exists_or with ⟨t, -, -, hshadow⟩ | ⟨hnone, -⟩
    · obtain ⟨_, _, _, _, -, henabled, ⟨-, ha⟩, ⟨-, hoff⟩, ⟨-, hs⟩, _, -, _, -, -, hc⟩ := hshadow
      exact .inr ⟨henabled, ha, hoff, hs, hc⟩
    · exact .inl hnone

/-- So the options that can be written are those that can be read. -/
theorem writable_iff : o.Writable ↔ ∃ s, parse (some s) = o := by
  constructor
  · intro ho
    exact ⟨o.write, (written_write o).parse_eq ho⟩
  · rintro ⟨s, rfl⟩
    exact writable_parse s

/-- All options within their bounds can be written, and are read back from every text that writes
them. -/
theorem written_read_back (o : ImageOptions) (ho : o.Writable) :
    Written o o.write ∧ ∀ s, Written o s → parse (some s) = o :=
  ⟨written_write o, fun _ hs => hs.parse_eq ho⟩

/-- Numbers at their bounds, written with all that is allowed. -/
theorem written_read_back_decorated :
    Writable ⟨true, false, .overSize, 0, 2147483647,
      ⟨true, -2147483648, 2147483647, 0, 4294967295⟩⟩ ∧
    parse (some (";".intercalate ["junk", "size=0 X\n2147483647", " ", "\torient \t= TrUe\n",
      "shadow=-2147483648 ,2147483647,\t0 ,0XfFfFFFFf", "", "fill =Over-Size", "aspect= FALSE",
      ""])) =
    ⟨true, false, .overSize, 0, 2147483647,
      ⟨true, -2147483648, 2147483647, 0, 4294967295⟩⟩ := by
  have ho : Writable ⟨true, false, .overSize, 0, 2147483647,
      ⟨true, -2147483648, 2147483647, 0, 4294967295⟩⟩ :=
    ⟨by decide, by decide⟩
  have hlit : ∀ {cs n}, int32? cs = some n → IntegerLiteral cs n := fun h =>
    (int32?_eq_some_iff.1 h).1
  have hhex : ∀ {cs n}, numeral? 16 cs = some n → Numeral 16 cs n :=
    (numeral?_eq_some_iff (Nat.le_refl 16)).1
  have hgap : ∀ {cs : List Char}, cs.all Tokenizer.isGap = true →
      ∀ c ∈ cs, Tokenizer.isGap c = true := List.all_eq_true.1
  have hpad : ∀ front core back : List Char, front.all isBlank = true → back.all isBlank = true →
      Padded core (front ++ core ++ back) := fun front _ back hfront hback =>
    ⟨front, back, rfl, List.all_eq_true.1 hfront, List.all_eq_true.1 hback⟩
  refine ⟨ho, (written_read_back _ ho).2 _ ⟨_, fun
      | .aspect => "aspect= FALSE".toList
      | .orient => "\torient \t= TrUe\n".toList
      | .fill => "fill =Over-Size".toList
      | .size => "size=0 X\n2147483647".toList
      | .shadow => "shadow=-2147483648 ,2147483647,\t0 ,0XfFfFFFFf".toList,
    String.toList_intercalate, by decide, by decide, fun k _ => ?_⟩⟩
  cases k with
  | aspect =>
      exact ⟨[], [], _, _, by decide, nofun, nofun, hpad [' '] "FALSE".toList [] rfl rfl, rfl⟩
  | orient =>
      exact ⟨['\t'], [' ', '\t'], _, _, by decide, hgap rfl, hgap rfl,
        hpad [' '] "TrUe".toList ['\n'] rfl rfl, rfl⟩
  | fill =>
      exact ⟨[], [' '], "Over-Size".toList, _, by decide, nofun, hgap rfl, padded_self _, rfl⟩
  | size =>
      refine ⟨[], [], _, _, ?_, nofun, nofun, padded_self _, "0".toList, "2147483647".toList,
        hlit (by decide), hlit (by decide),
        .more _ (c := 'X') rfl (hpad [' '] ['X'] ['\n'] rfl rfl) (.one _)⟩
      decide
  | shadow =>
      refine ⟨[], [], _, _, ?_, nofun, nofun, padded_self _, "-2147483648".toList,
        "2147483647".toList, "0".toList, "0X", by simp, "fFfFFFFf".toList, hlit (by decide),
        hlit (by decide), hlit (by decide), hhex (by decide),
        .more _ (c := ',') rfl (hpad [' '] [','] [] rfl rfl)
          (.more _ (c := ',') rfl (hpad [] [','] ['\t'] rfl rfl)
            (.more _ (c := ',') rfl (hpad [' '] [','] [] rfl rfl) (.one _)))⟩
      decide

end ImageOptions

end WidgetStage
