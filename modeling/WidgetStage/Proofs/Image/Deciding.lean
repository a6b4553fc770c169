import Mathlib.Data.List.Induction
import Mathlib.Data.String.Basic
import Mathlib.Logic.Relation
import WidgetStage.Proofs.Image.Segments
import WidgetStage.Proofs.Image.Values

/-!
# Which token decides an option

The options of a text are made token by token, and each token may change one part of them. What
comes out can be read off the tokens at the end: every option goes back to one token, the last of
its key that says anything, and is not set if there is none.

It follows that tokens of different keys can change places, and that tokens which say nothing can
come and go.

## Main results

* `assign_eq`: every option after a token is what the token says about it, or what it has been.
* `decided_foldl`: the last token that says anything decides.
* `Decided.unique`: it decides in one way only.
* `assign_comm`, `assign_of_silent`: tokens of different keys, and tokens that say nothing.
* `last_token_decides`: the options of a text are the ones that its tokens decide.
-/

namespace WidgetStage.ImageOptions

open Relation (EqvGen)

/-- The last among the tokens of a key that says anything says `v`, or there is none and `v` is the
default. -/
inductive Decided {α : Type} (key : String) (reads : List Char → α → Prop) (default : α) :
    List Token → α → Prop
  | last {before after : List Token} {t : Token} {v : α} (hkey : t.key = key.toList)
      (hv : reads t.value v) (hafter : ∀ u ∈ after, u.key = key.toList → ∀ w, ¬ reads u.value w) :
      Decided key reads default (before ++ t :: after) v
  | default {ts : List Token} (h : ∀ u ∈ ts, u.key = key.toList → ∀ w, ¬ reads u.value w) :
      Decided key reads default ts default

/-- The options that tokens decide, each by the tokens of its own key. -/
structure DecidedBy (ts : List Token) (o : ImageOptions) : Prop where
  aspect : Decided "aspect" ReadsFlag false ts o.aspect
  orient : Decided "orient" ReadsFlag false ts o.orient
  fill : Decided "fill" ReadsFill .disable ts o.fill
  size : Decided "size" ReadsSize (-1, -1) ts (o.width, o.height)
  shadow : Decided "shadow" ReadsShadow .none ts o.shadow

/-- A token that says nothing: its key is not known, or its value cannot be read. Every value can be
read as a mode of filling. -/
structure Silent (t : Token) : Prop where
  flag : t.key = "aspect".toList ∨ t.key = "orient".toList → ∀ flag, ¬ ReadsFlag t.value flag
  fill : t.key ≠ "fill".toList
  size : t.key = "size".toList → ∀ size, ¬ ReadsSize t.value size
  shadow : t.key = "shadow".toList → ∀ shadow, ¬ ReadsShadow t.value shadow

/-- Two neighbours of different keys change places, or a token that says nothing comes in. -/
inductive Harmless : List Token → List Token → Prop
  | swap {t u : Token} (before after : List Token) (h : t.key ≠ u.key) :
      Harmless (before ++ t :: u :: after) (before ++ u :: t :: after)
  | insert {t : Token} (before after : List Token) (h : Silent t) :
      Harmless (before ++ after) (before ++ t :: after)

/-- What a token says about the option with this key. -/
def says? {α : Type} (key : String) (read : List Char → Option α) (t : Token) : Option α :=
  if t.key = key.toList then read t.value else none

variable {α : Type} {key : String} {reads : List Char → α → Prop} {default v w : α}
  {read : List Char → Option α} {ts us : List Token} {t u : Token} {o o' : ImageOptions}

/-! ### One token -/

/-- A token says a value if it has the key and its value is read so. -/
theorem says?_eq_some_iff :
    says? key read t = some v ↔ t.key = key.toList ∧ read t.value = some v :=
  Option.ite_none_right_eq_some

/-- A token says nothing if it has another key or its value cannot be read. -/
theorem says?_eq_none_iff (hread : ∀ value v, read value = some v ↔ reads value v) :
    says? key read t = none ↔ (t.key = key.toList → ∀ v, ¬ reads t.value v) := by
  simp only [Option.eq_none_iff_forall_ne_some, ne_eq, says?_eq_some_iff, hread, not_and]
  exact ⟨fun h hkey v => h v hkey, fun h v hkey => h hkey v⟩

/-- Every option is what the token says about it, or what it has been. -/
theorem assign_eq (o : ImageOptions) (t : Token) :
    assign o t =
      { aspect := (says? "aspect" flag? t).getD o.aspect
        orient := (says? "orient" flag? t).getD o.orient
        fill := (says? "fill" (fun value => some (fillMode value)) t).getD o.fill
        width := ((says? "size" dimensions? t).getD (o.width, o.height)).1
        height := ((says? "size" dimensions? t).getD (o.width, o.height)).2
        shadow := (says? "shadow" shadow? t).getD o.shadow } := by
  have hkey : ∀ key, t.key = key.toList ↔ String.ofList t.key = key :=
    fun key => String.ofList_eq.symm
  simp only [says?, hkey]
  unfold assign
  split
  next h => simp [h]
  next h => simp [h]
  next h => simp [h]
  next h => cases dimensions? t.value <;> simp [h]
  next h => simp [h]
  next haspect horient hfill hsize hshadow =>
    rw [if_neg haspect, if_neg horient, if_neg hfill, if_neg hsize, if_neg hshadow]
    rfl

/-- A token that says nothing changes nothing. -/
theorem assign_of_silent (ht : Silent t) : assign o t = o := by
  have haspect : says? "aspect" flag? t = none :=
    (says?_eq_none_iff fun _ _ => flag?_eq_some_iff).2 fun hkey => ht.flag (.inl hkey)
  have horient : says? "orient" flag? t = none :=
    (says?_eq_none_iff fun _ _ => flag?_eq_some_iff).2 fun hkey => ht.flag (.inr hkey)
  have hfill : says? "fill" (fun value => some (fillMode value)) t = none := if_neg ht.fill
  have hsize : says? "size" dimensions? t = none :=
    (says?_eq_none_iff fun _ _ => dimensions?_eq_some_iff).2 ht.size
  have hshadow : says? "shadow" shadow? t = none :=
    (says?_eq_none_iff fun _ _ => shadow?_eq_some_iff).2 ht.shadow
  rw [assign_eq, haspect, horient, hfill, hsize, hshadow]
  rfl

/-- Of two tokens with different keys only one can speak about an option. -/
theorem getD_says?_comm (h : t.key ≠ u.key) (key : String) (read : List Char → Option α) (v : α) :
    (says? key read t).getD ((says? key read u).getD v) =
      (says? key read u).getD ((says? key read t).getD v) := by
  by_cases ht : t.key = key.toList
  · have hu : says? key read u = none := if_neg fun hu => h (ht.trans hu.symm)
    rw [hu, Option.getD_none, Option.getD_none]
  · have ht' : says? key read t = none := if_neg ht
    rw [ht', Option.getD_none, Option.getD_none]

/-- Tokens with different keys change different options. -/
theorem assign_comm (h : t.key ≠ u.key) (o : ImageOptions) :
    assign (assign o t) u = assign (assign o u) t := by
  simp only [assign_eq, mk.injEq]
  exact ⟨getD_says?_comm h.symm .., getD_says?_comm h.symm .., getD_says?_comm h.symm ..,
    congrArg Prod.fst (getD_says?_comm h.symm ..), congrArg Prod.snd (getD_says?_comm h.symm ..),
    getD_says?_comm h.symm ..⟩

/-! ### All tokens -/

/-- A token at the end that says nothing decides nothing. -/
theorem Decided.append_silent (h : Decided key reads default ts v)
    (ht : t.key = key.toList → ∀ w, ¬ reads t.value w) :
    Decided key reads default (ts ++ [t]) v := by
  cases h with
  | last hkey hv hafter =>
      rw [List.append_assoc, List.cons_append]
      refine .last hkey hv fun u hu => ?_
      rcases List.mem_append.1 hu with hu | hu
      · exact hafter u hu
      · rw [List.mem_singleton.1 hu]
        exact ht
  | default h =>
      refine .default fun u hu => ?_
      rcases List.mem_append.1 hu with hu | hu
      · exact h u hu
      · rw [List.mem_singleton.1 hu]
        exact ht

/-- An option about which all tokens of its key say the same is so, and has its default if there is
none. -/
theorem Decided.of_forall (hall : ∀ t ∈ ts, t.key = key.toList → reads t.value v)
    (h : (∃ t ∈ ts, t.key = key.toList) ∨ v = default) : Decided key reads default ts v := by
  induction ts using List.reverseRecOn with
  | nil =>
      rcases h with ⟨t, ht, -⟩ | rfl
      · cases ht
      · exact .default nofun
  | append_singleton ts t ih =>
      by_cases hkey : t.key = key.toList
      · exact .last hkey (hall t (by simp) hkey) nofun
      · refine (ih (fun u hu => hall u (List.mem_append_left _ hu)) ?_).append_silent
          fun hkey' => absurd hkey' hkey
        refine h.imp_left ?_
        rintro ⟨u, hu, hkey'⟩
        rcases List.mem_append.1 hu with hu | hu
        · exact ⟨u, hu, hkey'⟩
        · rw [List.mem_singleton.1 hu] at hkey'
          exact absurd hkey' hkey

/-- If a token changes an option by what it says about it, then the last token that says anything
decides. -/
theorem decided_foldl (get : ImageOptions → α)
    (hread : ∀ value v, read value = some v ↔ reads value v)
    (hget : ∀ o t, get (assign o t) = (says? key read t).getD (get o)) (o : ImageOptions)
    (ts : List Token) : Decided key reads (get o) ts (get (ts.foldl assign o)) := by
  induction ts using List.reverseRecOn with
  | nil => exact .default nofun
  | append_singleton ts t ih =>
      rw [List.foldl_append, List.foldl_cons, List.foldl_nil, hget]
      cases hsays : says? key read t with
      | none => exact ih.append_silent ((says?_eq_none_iff hread).1 hsays)
      | some v =>
          obtain ⟨hkey, hv⟩ := says?_eq_some_iff.1 hsays
          exact .last hkey ((hread _ _).1 hv) nofun

/-- A token that decides is the last that says anything, so that there is no other one. -/
theorem Decided.eq_getLast (h : Decided key reads default ts v)
    (hread : ∀ value v, read value = some v ↔ reads value v) :
    v = (ts.filterMap (says? key read)).getLast?.getD default := by
  cases h with
  | @last before after t v hkey hv hafter =>
      have hsays : says? key read t = some v := says?_eq_some_iff.2 ⟨hkey, (hread _ _).2 hv⟩
      have hnone : after.filterMap (says? key read) = [] :=
        List.filterMap_eq_nil_iff.2 fun u hu => (says?_eq_none_iff hread).2 (hafter u hu)
      rw [List.filterMap_append, List.filterMap_cons_some hsays, hnone, List.getLast?_append_cons]
      rfl
  | default h =>
      have hnone : ts.filterMap (says? key read) = [] :=
        List.filterMap_eq_nil_iff.2 fun u hu => (says?_eq_none_iff hread).2 (h u hu)
      rw [hnone]
      rfl

/-- The last token that says something decides for one value only. -/
theorem Decided.unique (h : Decided key reads default ts v) (h' : Decided key reads default ts w)
    (hread : ∀ value v, read value = some v ↔ reads value v) : v = w :=
  (h.eq_getLast hread).trans (h'.eq_getLast hread).symm

/-- Every value is read as a fill mode. -/
theorem reads_fill (value : List Char) (mode : FillMode) :
    some (fillMode value) = some mode ↔ ReadsFill value mode := by
  rw [Option.some.injEq, fillMode_eq_iff]

/-- The options that are read are decided by the tokens, key by key. -/
theorem decidedBy_parse (s : String) : DecidedBy (tokens s) (parse (some s)) where
  aspect := decided_foldl aspect (fun _ _ => flag?_eq_some_iff)
    (fun o t => by rw [assign_eq]) unset (tokens s)
  orient := decided_foldl orient (fun _ _ => flag?_eq_some_iff)
    (fun o t => by rw [assign_eq]) unset (tokens s)
  fill := decided_foldl fill reads_fill (fun o t => by rw [assign_eq]) unset (tokens s)
  size := decided_foldl (fun o => (o.width, o.height)) (fun _ _ => dimensions?_eq_some_iff)
    (fun o t => by rw [assign_eq]) unset (tokens s)
  shadow := decided_foldl shadow (fun _ _ => shadow?_eq_some_iff)
    (fun o t => by rw [assign_eq]) unset (tokens s)

/-- Tokens decide for one record of options only. -/
theorem DecidedBy.unique (h : DecidedBy ts o) (h' : DecidedBy ts o') : o = o' := by
  obtain ⟨a, b, c, d, e, f⟩ := o
  obtain ⟨a', b', c', d', e', f'⟩ := o'
  obtain rfl := h.aspect.unique h'.aspect fun _ _ => flag?_eq_some_iff
  obtain rfl := h.orient.unique h'.orient fun _ _ => flag?_eq_some_iff
  obtain rfl := h.fill.unique h'.fill reads_fill
  obtain rfl := h.shadow.unique h'.shadow fun _ _ => shadow?_eq_some_iff
  cases h.size.unique h'.size fun _ _ => dimensions?_eq_some_iff
  rfl

/-- A harmless change of the tokens keeps the options. -/
theorem Harmless.foldl_eq (h : Harmless ts us) (o : ImageOptions) :
    ts.foldl assign o = us.foldl assign o := by
  cases h with
  | swap before after h =>
      simp only [List.foldl_append, List.foldl_cons]
      rw [assign_comm h]
  | insert before after h =>
      simp only [List.foldl_append, List.foldl_cons]
      rw [assign_of_silent h]

/-- So do any number of them, there and back. -/
theorem foldl_eq_of_eqvGen (h : EqvGen Harmless ts us) (o : ImageOptions) :
    ts.foldl assign o = us.foldl assign o := by
  induction h with
  | rel ts us h => exact h.foldl_eq o
  | refl ts => rfl
  | symm ts us _ ih => exact ih.symm
  | trans ts us vs _ _ ih ih' => exact ih.trans ih'

/-! ### The size -/

/-- What is decided is said by a token, or nothing is said. -/
theorem Decided.exists_or (h : Decided key reads default ts v) :
    (∃ t ∈ ts, t.key = key.toList ∧ reads t.value v) ∨
      v = default ∧ ∀ t ∈ ts, t.key = key.toList → ∀ w, ¬ reads t.value w := by
  cases h with
  | last hkey hv hafter => exact .inl ⟨_, by simp, hkey, hv⟩
  | default h => exact .inr ⟨rfl, h⟩

/-- Width and height are set together, and only by a token that says both. -/
theorem DecidedBy.size_cases (h : DecidedBy ts o) :
    (0 ≤ o.width ∧ 0 ≤ o.height ∧
      ∃ t ∈ ts, t.key = "size".toList ∧ ReadsSize t.value (o.width, o.height)) ∨
    (o.width = -1 ∧ o.height = -1 ∧
      ∀ t ∈ ts, t.key = "size".toList → ∀ size, ¬ ReadsSize t.value size) := by
  rcases h.size.exists_or with ⟨t, ht, hkey, hsize⟩ | ⟨hunset, hnone⟩
  · exact .inl ⟨hsize.nonneg.1, hsize.nonneg.2, t, ht, hkey, hsize⟩
  · exact .inr ⟨congrArg Prod.fst hunset, congrArg Prod.snd hunset, hnone⟩

/-- A size is explicit if neither dimension is negative. -/
theorem isSome_explicitSize_iff :
    o.explicitSize.isSome = true ↔ 0 ≤ o.width ∧ 0 ≤ o.height := by
  rw [explicitSize, Option.isSome_ite]

/-- The options of a text are the ones that its tokens decide, each by the last token of its key
that says anything. A size is either set on both sides or not at all, and there is one exactly if
some token says one. Tokens of different keys can be reordered, and tokens with other keys or with
values that cannot be read can be put in or left out. -/
theorem last_token_decides (s : String) :
    (∀ o, parse (some s) = o ↔ DecidedBy (tokens s) o) ∧
    ((parse (some s)).width = -1 ∧ (parse (some s)).height = -1 ∨
      0 ≤ (parse (some s)).width ∧ 0 ≤ (parse (some s)).height) ∧
    ((parse (some s)).explicitSize.isSome = true ↔
      ∃ t ∈ tokens s, t.key = "size".toList ∧ ∃ size, ReadsSize t.value size) ∧
    ∀ s', EqvGen Harmless (tokens s) (tokens s') → parse (some s') = parse (some s) := by
  have hs := decidedBy_parse s
  have hsize := hs.size_cases
  refine ⟨fun o => ⟨?_, fun ho => hs.unique ho⟩, ?_, ?_, fun s' h => ?_⟩
  · rintro rfl
    exact hs
  · rcases hsize with ⟨hw, hh, -⟩ | ⟨hw, hh, -⟩
    · exact .inr ⟨hw, hh⟩
    · exact .inl ⟨hw, hh⟩
  · rw [isSome_explicitSize_iff]
    rcases hsize with ⟨hw, hh, t, ht, hkey, hread⟩ | ⟨hw, -, hnone⟩
    · exact ⟨fun _ => ⟨t, ht, hkey, _, hread⟩, fun _ => ⟨hw, hh⟩⟩
    · constructor
      · rintro ⟨hpos, -⟩
        omega
      · rintro ⟨t, ht, hkey, size, hread⟩
        exact absurd hread (hnone t ht hkey size)
  · exact (foldl_eq_of_eqvGen h unset).symm

/-- A size before a flag, and after it behind two tokens that say nothing. -/
theorem last_token_decides_reordered :
    EqvGen Harmless (tokens "size=2x3;aspect=true") (tokens "size=2;glow=1;aspect=true;size=2x3") ∧
      parse (some "size=2;glow=1;aspect=true;size=2x3") = parse (some "size=2x3;aspect=true") := by
  have hs : tokens "size=2x3;aspect=true" =
      [⟨"size".toList, "2x3".toList⟩, ⟨"aspect".toList, "true".toList⟩] := by
    rw [tokens_eq_filterMap_ofSegment]
    decide
  have hs' : tokens "size=2;glow=1;aspect=true;size=2x3" =
      [⟨"size".toList, "2".toList⟩, ⟨"glow".toList, "1".toList⟩,
        ⟨"aspect".toList, "true".toList⟩, ⟨"size".toList, "2x3".toList⟩] := by
    rw [tokens_eq_filterMap_ofSegment]
    decide
  have hglow : Silent ⟨"glow".toList, "1".toList⟩ :=
    ⟨fun h => absurd h (by decide), by decide, fun h => absurd h (by decide),
      fun h => absurd h (by decide)⟩
  have hshort : Silent ⟨"size".toList, "2".toList⟩ := by
    refine ⟨fun h => absurd h (by decide), by decide, fun _ size hsize => ?_,
      fun h => absurd h (by decide)⟩
    have hnone : dimensions? "2".toList = none := by decide
    rw [← dimensions?_eq_some_iff, hnone] at hsize
    cases hsize
  have h : EqvGen Harmless (tokens "size=2x3;aspect=true")
      (tokens "size=2;glow=1;aspect=true;size=2x3") := by
    rw [hs, hs']
    refine .trans _ _ _ (.rel _ _ (.swap [] [] (by decide))) ?_
    exact .trans _ _ _ (.rel _ _ (.insert [] _ hglow)) (.rel _ _ (.insert [] _ hshort))
  exact ⟨h, (last_token_decides "size=2x3;aspect=true").2.2.2 _ h⟩

end WidgetStage.ImageOptions
