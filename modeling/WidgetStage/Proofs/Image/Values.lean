import WidgetStage.Image.Options
import WidgetStage.Proofs.Text.Numerals
import WidgetStage.Proofs.Text.Trimming

/-!
# Values of image options

Each key has a reader for its value, which takes the value apart from the left. Here is what a value
says, as a relation between the value and what it stands for. A value that stands for nothing leaves
the options as they were.

## Main results

* `flag?_eq_some_iff`, `fillMode_eq_iff`, `dimensions?_eq_some_iff`, `colorWord?_eq_some_iff`,
  `shadow?_eq_some_iff`: the readers read what the values say, and nothing else.
-/

namespace WidgetStage

namespace Text

variable {n : Nat} {cs head : List Char}

/-- The first characters that fill `n` bytes. -/
theorem bytesPrefix?_eq_some_iff :
    bytesPrefix? n cs = some head ↔ byteCount head = n ∧ ∃ rest, cs = head ++ rest := by
  constructor
  · intro h
    fun_induction bytesPrefix? n cs generalizing head with
    | case1 cs =>
        cases h
        exact ⟨rfl, cs, rfl⟩
    | case2 n => cases h
    | case3 n c cs hc ih =>
        obtain ⟨head, hhead, rfl⟩ := Option.map_eq_some_iff.1 h
        obtain ⟨hn, rest, rfl⟩ := ih hhead
        exact ⟨by rw [byteCount]; omega, rest, rfl⟩
    | case4 n c cs hc => cases h
  · rintro ⟨rfl, rest, rfl⟩
    exact bytesPrefix?_append head rest

/-- Only capital letters are changed, into the small letters behind them. -/
theorem toLower_cases (c : Char) : c.toLower = c ∨
    (65 ≤ c.toNat ∧ c.toNat ≤ 90) ∧ c.toLower.toNat = c.toNat + 32 := by
  unfold Char.toLower
  split
  · next h =>
    have hlow : 65 ≤ c.val.toNat := UInt32.le_iff_toNat_le.1 h.1
    have hhigh : c.val.toNat ≤ 90 := UInt32.le_iff_toNat_le.1 h.2
    refine .inr ⟨⟨hlow, hhigh⟩, ?_⟩
    have hadd : (c.val + 32).toNat = c.val.toNat + 32 := by
      rw [UInt32.toNat_add]
      exact Nat.mod_eq_of_lt (Nat.lt_of_le_of_lt (Nat.add_le_add_right hhigh 32) (by decide))
    exact hadd
  · exact .inl rfl

/-- A small letter takes as many bytes as the capital. -/
theorem utf8Size_toLower (c : Char) : c.toLower.utf8Size = c.utf8Size := by
  rcases toLower_cases c with h | ⟨hupper, hlower⟩
  · rw [h]
  · have hone : ∀ c : Char, c.toNat ≤ 127 → c.utf8Size = 1 := fun c hc =>
      Char.utf8Size_eq_one_iff.2 (UInt32.le_iff_toNat_le.2 hc)
    rw [hone c (by omega), hone c.toLower (by omega)]

/-- Letters have as many bytes in lower case. -/
theorem byteCount_map_toLower (cs : List Char) :
    byteCount (cs.map Char.toLower) = byteCount cs := by
  induction cs with
  | nil => rfl
  | cons c cs ih => rw [List.map_cons, byteCount, utf8Size_toLower, ih, byteCount]

end Text

/-- The word for a mode. -/
def FillMode.word : FillMode → String
  | .disable => "disable"
  | .inSize => "in-size"
  | .overSize => "over-size"
  | .fitSize => "fit-size"

namespace ImageOptions

open Text

/-- A flag: some characters at the front fill four bytes, and it is set if they spell `true`. -/
def ReadsFlag (value : List Char) (flag : Bool) : Prop :=
  ∃ head rest, value = head ++ rest ∧ byteCount head = 4 ∧ sameLetters head "true".toList = flag

/-- A mode of filling: the one with this word, and none for a word that no other mode has. -/
inductive ReadsFill (value : List Char) : FillMode → Prop
  | word {mode : FillMode} (hmode : mode ≠ .disable)
      (h : sameLetters value mode.word.toList = true) : ReadsFill value mode
  | unknown (h : ∀ mode ≠ FillMode.disable, sameLetters value mode.word.toList = false) :
      ReadsFill value .disable

/-- A width and a height, neither of them negative, on the two sides of the first sign that can
stand between them. -/
def ReadsSize (value : List Char) (size : Int × Int) : Prop :=
  ∃ front times back, value = front ++ times :: back ∧ isTimes times = true ∧
    (∀ c ∈ front, isTimes c = false) ∧ Int32Literal (trim front) size.1 ∧
    Int32Literal (trim back) size.2 ∧ 0 ≤ size.1 ∧ 0 ≤ size.2

/-- A colour word in base sixteen, after one mark or none. -/
def ReadsColor (field : List Char) (color : Nat) : Prop :=
  ∃ mark ∈ ["", "0x", "0X", "#"], ∃ digits, field = mark.toList ++ digits ∧
    NaturalLiteral 16 digits color ∧ color ≤ 4294967295

/-- A shadow: four fields between commas. -/
def ReadsShadow (value : List Char) (shadow : ShadowOptions) : Prop :=
  ∃ angle offset softness color,
    (value.splitOn ',').map trim = [angle, offset, softness, color] ∧ shadow.enabled = true ∧
      Int32Literal angle shadow.angle ∧ Int32Literal offset shadow.offset ∧
      Int32Literal softness shadow.softness ∧ ReadsColor color shadow.color

variable {value field word : List Char} {flag : Bool} {mode : FillMode} {size : Int × Int}
  {color : Nat} {shadow : ShadowOptions}

/-! ### Words in either case -/

/-- Words of the same letters match the same words. -/
theorem sameLetters_congr (h : sameLetters value word = true) (cs : List Char) :
    sameLetters value cs = sameLetters word cs := by
  rw [sameLetters, beq_iff_eq] at h
  rw [sameLetters, h, sameLetters]

/-- Words of the same letters begin with the same letters. -/
theorem sameLetters_take (h : sameLetters value word = true) (n : Nat) :
    sameLetters (value.take n) (word.take n) = true := by
  rw [sameLetters, beq_iff_eq] at h
  rw [sameLetters, List.map_take, h, ← List.map_take, beq_iff_eq]

/-- Words of the same letters are equally long. -/
theorem length_eq_of_sameLetters (h : sameLetters value word = true) :
    value.length = word.length := by
  rw [sameLetters, beq_iff_eq] at h
  rw [← List.length_map (f := Char.toLower), h, List.length_map]

/-- Words of the same letters have as many bytes. -/
theorem byteCount_eq_of_sameLetters (h : sameLetters value word = true) :
    byteCount value = byteCount word := by
  rw [sameLetters, beq_iff_eq] at h
  rw [← byteCount_map_toLower, h, byteCount_map_toLower]

/-! ### Readers -/

/-- Flags are read as the relation says. -/
theorem flag?_eq_some_iff : flag? value = some flag ↔ ReadsFlag value flag := by
  simp only [flag?, Option.map_eq_some_iff, bytesPrefix?_eq_some_iff, ReadsFlag]
  constructor
  · rintro ⟨head, ⟨hfour, rest, rfl⟩, rfl⟩
    exact ⟨head, rest, rfl, hfour, rfl⟩
  · rintro ⟨head, rest, rfl, hfour, rfl⟩
    exact ⟨head, ⟨hfour, rest, rfl⟩, rfl⟩

/-- The case of letters does not matter to a mode of filling. -/
theorem fillMode_congr (h : sameLetters value word = true) : fillMode value = fillMode word := by
  rw [fillMode, sameLetters_congr h, sameLetters_congr h, sameLetters_congr h, fillMode]

/-- Fill modes are read as the relation says. -/
theorem fillMode_eq_iff : fillMode value = mode ↔ ReadsFill value mode := by
  constructor
  · rintro rfl
    unfold fillMode
    split
    next h => exact .word (by decide) h
    next hin =>
    split
    next h => exact .word (by decide) h
    next hover =>
    split
    next h => exact .word (by decide) h
    next hfit =>
    refine .unknown fun mode hmode => ?_
    cases mode with
    | disable => exact absurd rfl hmode
    | inSize => exact Bool.eq_false_iff.2 hin
    | overSize => exact Bool.eq_false_iff.2 hover
    | fitSize => exact Bool.eq_false_iff.2 hfit
  · intro h
    cases h with
    | word hmode h =>
        rw [fillMode_congr h]
        cases mode <;> decide
    | unknown h =>
        have hin := h .inSize (by decide)
        have hover := h .overSize (by decide)
        have hfit := h .fitSize (by decide)
        simp only [FillMode.word] at hin hover hfit
        simp only [fillMode, hin, hover, hfit, Bool.false_eq_true, if_false]

/-- Sizes are read as the relation says. -/
theorem dimensions?_eq_some_iff : dimensions? value = some size ↔ ReadsSize value size := by
  constructor
  · intro h
    rw [dimensions?] at h
    split at h
    · cases h
    next times back hback =>
    have htimes : isTimes times = true := by
      have hhead := List.head?_dropWhile_not (fun c => !isTimes c) value
      rw [hback] at hhead
      simpa using hhead
    split at h
    next w h' hw hh =>
      split at h
      next hsign =>
        cases h
        refine ⟨_, times, back, ?_, htimes, fun c hc => ?_, int32?_eq_some_iff.1 hw,
          int32?_eq_some_iff.1 hh, hsign.1, hsign.2⟩
        · rw [← hback, List.takeWhile_append_dropWhile]
        · simpa using List.mem_takeWhile_imp hc
      · cases h
    · cases h
  · rintro ⟨front, times, back, rfl, htimes, hfront, hw, hh, hsign⟩
    have hfront' : ∀ c ∈ front, (!isTimes c) = true := fun c hc => by simp [hfront c hc]
    have hdrop : (times :: back).dropWhile (fun c => !isTimes c) = times :: back :=
      List.dropWhile_cons_of_neg (by simp [htimes])
    have htake : (times :: back).takeWhile (fun c => !isTimes c) = [] :=
      List.takeWhile_cons_of_neg (by simp [htimes])
    rw [dimensions?, List.dropWhile_append_of_pos hfront', List.takeWhile_append_of_pos hfront',
      hdrop, htake, List.append_nil]
    simp only [int32?_eq_some_iff.2 hw, int32?_eq_some_iff.2 hh]
    rw [if_pos hsign]

/-- A size that is read has no negative dimension. -/
theorem ReadsSize.nonneg (h : ReadsSize value size) : 0 ≤ size.1 ∧ 0 ≤ size.2 := by
  obtain ⟨_, _, _, -, -, -, -, -, hsign⟩ := h
  exact hsign

/-- The marks of a colour word hold no digit. -/
theorem not_digit_of_naturalLiteral {c : Char} {digits : List Char}
    (h : NaturalLiteral 16 digits color) (hc : c ∈ digits) : c ≠ 'x' ∧ c ≠ 'X' ∧ c ≠ '#' := by
  have hdigit : ∀ {cs : List Char}, Numeral 16 cs color → c ∈ cs →
      (c != 'x' && (c != 'X' && c != '#')) = true :=
    fun h hc => h.forall (p := fun c => c != 'x' && (c != 'X' && c != '#')) (Nat.le_refl 16)
      (by decide) c hc
  cases h with
  | bare h => simpa using hdigit h hc
  | plus h =>
      rcases List.mem_cons.1 hc with rfl | hc
      · decide
      · simpa using hdigit h hc

/-- Colours are read as the relation says. -/
theorem colorWord?_eq_some_iff : colorWord? field = some color ↔ ReadsColor field color := by
  have hread : ∀ {digits}, natural? 16 4294967295 digits = some color ↔
      NaturalLiteral 16 digits color ∧ color ≤ 4294967295 :=
    natural?_eq_some_iff (Nat.le_refl 16)
  constructor
  · intro h
    unfold colorWord? at h
    split at h
    · next digits => exact ⟨"0x", by simp, digits, rfl, hread.1 h⟩
    · next digits => exact ⟨"0X", by simp, digits, rfl, hread.1 h⟩
    · next digits => exact ⟨"#", by simp, digits, rfl, hread.1 h⟩
    · exact ⟨"", by simp, field, rfl, hread.1 h⟩
  · rintro ⟨mark, hmark, digits, rfl, hcolor⟩
    simp only [List.mem_cons, List.not_mem_nil, or_false] at hmark
    rcases hmark with rfl | rfl | rfl | rfl
    · -- without a mark the digits do not begin like one
      rw [String.toList_empty, List.nil_append]
      unfold colorWord?
      split
      · next r => exact absurd rfl (not_digit_of_naturalLiteral hcolor.1 (c := 'x') (by simp)).1
      · next r => exact absurd rfl (not_digit_of_naturalLiteral hcolor.1 (c := 'X') (by simp)).2.1
      · next r => exact absurd rfl (not_digit_of_naturalLiteral hcolor.1 (c := '#') (by simp)).2.2
      · exact hread.2 hcolor
    · exact hread.2 hcolor
    · exact hread.2 hcolor
    · exact hread.2 hcolor

/-- Shadows are read as the relation says. -/
theorem shadow?_eq_some_iff : shadow? value = some shadow ↔ ReadsShadow value shadow := by
  rw [shadow?, cut_eq_splitOn]
  constructor
  · intro h
    split at h
    next angle offset softness color hfields =>
      split at h
      next a o s c ha ho hs hc =>
        cases h
        exact ⟨angle, offset, softness, color, hfields, rfl, int32?_eq_some_iff.1 ha,
          int32?_eq_some_iff.1 ho, int32?_eq_some_iff.1 hs, colorWord?_eq_some_iff.1 hc⟩
      · cases h
    · cases h
  · rintro ⟨angle, offset, softness, color, hfields, henabled, ha, ho, hs, hc⟩
    simp only [hfields, int32?_eq_some_iff.2 ha, int32?_eq_some_iff.2 ho, int32?_eq_some_iff.2 hs,
      colorWord?_eq_some_iff.2 hc, ← henabled]

end ImageOptions

end WidgetStage
