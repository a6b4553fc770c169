import WidgetStage.Proofs.Image.Deciding

/-!
# Flags by bytes and by characters

A flag is meant to be judged by the first four characters of its value. It is judged by the first
four bytes. This is the same as long as the characters at the front take one byte each, and it makes
no difference to a flag that is set, since `true` takes four bytes. But a value of four characters
may have one across the fourth byte, and then it does not put the flag out; and a value of fewer
characters may fill four bytes, and then it does.

## Main results

* `flag?_eq_some_true_iff`, `flagByCharacters?_eq_some_true_iff`: a flag is set by the same values
  either way.
* `fillsFourBytes_iff_of_ascii`: a value of ASCII characters is judged alike.
* `flags_by_characters_iff`: when a token does to a flag what its first four characters say.
-/

namespace WidgetStage

namespace Text

/-- A text of ASCII characters has as many bytes as characters. -/
theorem byteCount_of_ascii {cs : List Char} (h : ∀ c ∈ cs, c.utf8Size = 1) :
    byteCount cs = cs.length := by
  induction cs with
  | nil => rfl
  | cons c cs ih =>
      rw [byteCount, h c List.mem_cons_self, ih fun d hd => h d (List.mem_cons_of_mem c hd),
        List.length_cons, Nat.add_comm]

end Text

namespace ImageOptions

open Text

/-- A flag as it is meant: judged by its first four characters. A shorter value decides nothing. -/
def flagByCharacters? (value : List Char) : Option Bool :=
  if 4 ≤ value.length then some (sameLetters (value.take 4) "true".toList) else none

/-- Some characters at the front fill four bytes. -/
def FillsFourBytes (value : List Char) : Prop :=
  ∃ head rest, value = head ++ rest ∧ byteCount head = 4

/-- The options after a token, with flags as they are meant. -/
def assignByCharacters (o : ImageOptions) (t : Token) : ImageOptions :=
  { assign o t with
    aspect := (says? "aspect" flagByCharacters? t).getD o.aspect
    orient := (says? "orient" flagByCharacters? t).getD o.orient }

/-- The options of a text, with flags as they are meant. -/
def parseByCharacters (s : String) : ImageOptions :=
  (tokens s).foldl assignByCharacters unset

variable {value : List Char} {key : String} {o : ImageOptions} {t : Token}
  {ts : List Token}

/-! ### Values -/

/-- Four characters that spell `true` fill four bytes. -/
theorem flag?_eq_some_true_iff :
    flag? value = some true ↔ sameLetters (value.take 4) "true".toList = true := by
  rw [flag?_eq_some_iff]
  constructor
  · rintro ⟨head, rest, rfl, -, h⟩
    have hfour : head.length = 4 := length_eq_of_sameLetters h
    rwa [← hfour, List.take_left]
  · intro h
    exact ⟨value.take 4, value.drop 4, (List.take_append_drop 4 value).symm,
      byteCount_eq_of_sameLetters h, h⟩

/-- By characters, a flag is set if the first four characters are the letters of the word. -/
theorem flagByCharacters?_eq_some_true_iff :
    flagByCharacters? value = some true ↔ sameLetters (value.take 4) "true".toList = true := by
  rw [flagByCharacters?, Option.ite_none_right_eq_some, Option.some.injEq]
  refine and_iff_right_of_imp fun h => ?_
  have hfour : (value.take 4).length = 4 := length_eq_of_sameLetters h
  rw [List.length_take] at hfour
  omega

/-- By bytes, a value says something if four bytes can be cut off. -/
theorem isSome_flag?_iff : (flag? value).isSome = true ↔ FillsFourBytes value := by
  simp only [Option.isSome_iff_exists, flag?_eq_some_iff]
  constructor
  · rintro ⟨flag, head, rest, rfl, hfour, -⟩
    exact ⟨head, rest, rfl, hfour⟩
  · rintro ⟨head, rest, rfl, hfour⟩
    exact ⟨_, head, rest, rfl, hfour, rfl⟩

/-- By characters, a value says something if there are four of them. -/
theorem isSome_flagByCharacters?_iff :
    (flagByCharacters? value).isSome = true ↔ 4 ≤ value.length := by
  rw [flagByCharacters?, Option.isSome_ite]

/-- Where every character takes one byte, four characters are four bytes. -/
theorem fillsFourBytes_iff_of_ascii (h : ∀ c ∈ value, c.utf8Size = 1) :
    FillsFourBytes value ↔ 4 ≤ value.length := by
  constructor
  · rintro ⟨head, rest, rfl, hfour⟩
    rw [byteCount_of_ascii fun c hc => h c (List.mem_append_left rest hc)] at hfour
    rw [List.length_append]
    omega
  · intro hlen
    refine ⟨value.take 4, value.drop 4, (List.take_append_drop 4 value).symm, ?_⟩
    rw [byteCount_of_ascii fun c hc => h c (List.mem_of_mem_take hc), List.length_take]
    omega

/-! ### Tokens -/

/-- Two judgements that set a flag alike leave it alike if it is not set, or if both decide or
neither does. -/
theorem getD_eq_getD_iff {a b : Option Bool} {flag : Bool} (h : a = some true ↔ b = some true) :
    a.getD flag = b.getD flag ↔ flag = false ∨ (b.isSome = true ↔ a.isSome = true) := by
  rcases a with _ | _ | _ <;> rcases b with _ | _ | _ <;> cases flag <;> simp at h ⊢

/-- Both readings agree on what was set before if they agree on whether the value says anything. -/
theorem getD_flag?_iff {flag : Bool} :
    (flag? value).getD flag = (flagByCharacters? value).getD flag ↔
      flag = false ∨ (4 ≤ value.length ↔ FillsFourBytes value) := by
  rw [getD_eq_getD_iff (flag?_eq_some_true_iff.trans flagByCharacters?_eq_some_true_iff.symm),
    isSome_flag?_iff, isSome_flagByCharacters?_iff]

/-- A token whose key is no flag, or whose value is judged alike, does the same either way. -/
theorem getD_says?_byCharacters {flag : Bool}
    (h : t.key = key.toList → (4 ≤ t.value.length ↔ FillsFourBytes t.value)) :
    (says? key flagByCharacters? t).getD flag = (says? key flag? t).getD flag := by
  by_cases hkey : t.key = key.toList
  · rw [says?, says?, if_pos hkey, if_pos hkey]
    exact (getD_flag?_iff.2 (.inr (h hkey))).symm
  · rw [says?, says?, if_neg hkey, if_neg hkey]

/-- A token is assigned alike under both readings if they agree on whether its value says anything.
-/
theorem assignByCharacters_eq
    (h : t.key = "aspect".toList ∨ t.key = "orient".toList →
      (4 ≤ t.value.length ↔ FillsFourBytes t.value)) :
    assignByCharacters o t = assign o t := by
  rw [assignByCharacters, getD_says?_byCharacters fun hkey => h (.inl hkey),
    getD_says?_byCharacters fun hkey => h (.inr hkey), assign_eq]

/-- So does a run over such tokens. -/
theorem foldl_assignByCharacters
    (h : ∀ t ∈ ts, t.key = "aspect".toList ∨ t.key = "orient".toList →
      (4 ≤ t.value.length ↔ FillsFourBytes t.value)) (o : ImageOptions) :
    ts.foldl assignByCharacters o = ts.foldl assign o := by
  induction ts generalizing o with
  | nil => rfl
  | cons t ts ih =>
      rw [List.foldl_cons, List.foldl_cons, assignByCharacters_eq (h t List.mem_cons_self),
        ih fun u hu => h u (List.mem_cons_of_mem t hu)]

/-- A token does to its flag what its first four characters say exactly if the flag has not been
set, or the value has four characters just when some characters at its front fill four bytes. The
options of a text are as they are meant if this is so of all its flags. -/
theorem flags_by_characters_iff (o : ImageOptions) (t : Token) :
    (t.key = "aspect".toList →
      ((assign o t).aspect = (flagByCharacters? t.value).getD o.aspect ↔
        o.aspect = false ∨ (4 ≤ t.value.length ↔ FillsFourBytes t.value))) ∧
    (t.key = "orient".toList →
      ((assign o t).orient = (flagByCharacters? t.value).getD o.orient ↔
        o.orient = false ∨ (4 ≤ t.value.length ↔ FillsFourBytes t.value))) ∧
    ∀ s, (∀ u ∈ tokens s, u.key = "aspect".toList ∨ u.key = "orient".toList →
      (4 ≤ u.value.length ↔ FillsFourBytes u.value)) → parse (some s) = parseByCharacters s := by
  refine ⟨fun hkey => ?_, fun hkey => ?_, fun s h => (foldl_assignByCharacters h unset).symm⟩
  · simp only [assign_eq, says?, if_pos hkey]
    exact getD_flag?_iff
  · simp only [assign_eq, says?, if_pos hkey]
    exact getD_flag?_iff

/-- A flag that stays although the last value has four characters, and one that goes although it has
two. -/
theorem flags_by_bytes :
    (parse (some "aspect=true;aspect=abcé")).aspect = true ∧
      (parseByCharacters "aspect=true;aspect=abcé").aspect = false ∧
      (parse (some "orient=true;orient=éé")).orient = false ∧
      (parseByCharacters "orient=true;orient=éé").orient = true := by
  have haspect : tokens "aspect=true;aspect=abcé" =
      [⟨"aspect".toList, "true".toList⟩, ⟨"aspect".toList, "abcé".toList⟩] := by
    rw [tokens_eq_filterMap_ofSegment]
    decide
  have horient : tokens "orient=true;orient=éé" =
      [⟨"orient".toList, "true".toList⟩, ⟨"orient".toList, "éé".toList⟩] := by
    rw [tokens_eq_filterMap_ofSegment]
    decide
  rw [parse, parse, parseByCharacters, parseByCharacters, haspect, horient]
  decide

end ImageOptions

end WidgetStage
