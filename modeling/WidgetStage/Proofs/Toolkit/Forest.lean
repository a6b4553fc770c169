import Mathlib.Logic.Relation
import WidgetStage.Proofs.Table
import WidgetStage.Toolkit.Basic

/-!
# The forest of a toolkit

Objects hold other objects in their parts, and deleting an object deletes what is below it. The
walk that collects these objects is bounded by the number of live objects. In a forest, where a
content is always newer than what holds it, the bound is never reached.

## Main results

* `Forest`: contents are live and newer than their container, and nothing is held twice.
* `Forest.cascadeTo_eq_cascade`: any greater bound leads to the same walk, so the walk ends by
  itself (`Forest.cascade_eq`).
* `Forest.mem_cascade_iff`, `Forest.nodup_cascade`: the walk meets exactly what is at and below
  the object, each object once.
-/

namespace WidgetStage.Toolkit

/-- An object exists. -/
def Live (t : Toolkit) (o : ObjectId) : Prop :=
  (t.object? o).isSome

/-- What a live object is. -/
def kind? (t : Toolkit) (o : ObjectId) : Option ObjectKind :=
  (t.object? o).map ToolkitObject.kind

/-- Whether an object is a live layout. -/
def isLayout (t : Toolkit) (o : ObjectId) : Bool :=
  (t.kind? o).any ObjectKind.isLayout

/-- The second object is swallowed into a part of the first one. -/
def Holds (t : Toolkit) (p c : ObjectId) : Prop :=
  ∃ part, t.swallowed? p part = some c

/-- The second object is the first one or held, directly or not, by it. -/
def Below (t : Toolkit) (o x : ObjectId) : Prop :=
  Relation.ReflTransGen t.Holds o x

/-- No part of an object has two contents. -/
def Tidy (t : Toolkit) : Prop :=
  ∀ o r, t.object? o = some r → r.parts.Distinct

/-- The parts of live objects make a forest. -/
structure Forest (t : Toolkit) : Prop where
  tidy : t.Tidy
  /-- The numbers of the next objects are not in use. -/
  fresh : ∀ o, t.Live o → o < t.nextObject
  /-- Only live objects are held. -/
  content_live : ∀ p part c, t.swallowed? p part = some c → t.Live c
  /-- An object is older than its contents. -/
  older : ∀ p part c, t.swallowed? p part = some c → p < c
  /-- An object is held in one part of one object only. -/
  held_once : ∀ p q part part' c, t.swallowed? p part = some c → t.swallowed? q part' = some c →
    p = q ∧ part = part'

variable {t : Toolkit} {o p q c x : ObjectId} {part : String} {r : ToolkitObject} {depth : Nat}

/-- An object is live if there is something to know about it. -/
theorem live_iff : t.Live o ↔ ∃ r, t.object? o = some r :=
  Option.isSome_iff_exists

/-- Every live object is of a kind. -/
theorem live_iff_kind? : t.Live o ↔ ∃ k, t.kind? o = some k := by
  simp [Live, kind?, Option.isSome_iff_exists]

/-- Of an object that is not live nothing is known. -/
theorem not_live_iff : ¬ t.Live o ↔ t.object? o = none := by
  simp [Live]

/-- Whether an object is a layout is a matter of its kind. -/
theorem isLayout_iff : t.isLayout o = true ↔ ∃ k, t.kind? o = some k ∧ k.isLayout = true := by
  rw [isLayout, Option.any_eq_true]

/-- Layouts are live. -/
theorem live_of_isLayout (h : t.isLayout o = true) : t.Live o := by
  obtain ⟨k, hk, -⟩ := isLayout_iff.1 h
  exact live_iff_kind?.2 ⟨k, hk⟩

/-- The content of a part is found with the object. -/
theorem swallowed?_of_object (h : t.object? o = some r) :
    t.swallowed? o part = r.parts.find? part := by
  simp [swallowed?, h]

/-- What holds something is live. -/
theorem live_of_swallowed? (h : t.swallowed? p part = some c) : t.Live p := by
  unfold swallowed? at h
  obtain ⟨r, hr, -⟩ := Option.bind_eq_some_iff.1 h
  exact live_iff.2 ⟨r, hr⟩

/-- Nothing is below an object that does not exist. -/
theorem eq_of_below_of_not_live (ho : ¬ t.Live o) (h : t.Below o x) : x = o := by
  rcases Relation.ReflTransGen.cases_head_iff.1 h with rfl | ⟨c, ⟨part, hc⟩, -⟩
  · rfl
  · exact absurd (live_of_swallowed? hc) ho

/-- What holds of an object and passes on to contents holds of all that is below it. -/
theorem of_below {P : ObjectId → Prop} (hclosed : ∀ p c, t.Holds p c → P p → P c)
    (h : t.Below o x) (ho : P o) : P x := by
  induction h with
  | refl => exact ho
  | tail _ hc ih => exact hclosed _ _ hc ih

namespace Forest

/-- What is below a live object is live. -/
theorem live_of_below (ht : t.Forest) (ho : t.Live o) (h : t.Below o x) : t.Live x := by
  rcases Relation.ReflTransGen.cases_tail_iff _ _ _ |>.1 h with rfl | ⟨p, -, part, hp⟩
  · exact ho
  · exact ht.content_live p part x hp

/-- What is below an object is not older. -/
theorem le_of_below (ht : t.Forest) (h : t.Below o x) : o ≤ x := by
  induction h with
  | refl => exact Nat.le_refl o
  | tail _ hp ih =>
      obtain ⟨part, hp⟩ := hp
      exact Nat.le_of_lt (Nat.lt_of_le_of_lt ih (ht.older _ part _ hp))

/-- Two objects above a third one are above each other. -/
theorem below_total (ht : t.Forest) (hp : t.Below p x) (hq : t.Below q x) :
    t.Below p q ∨ t.Below q p := by
  have hunique : Relator.RightUnique (Function.swap t.Holds) := by
    rintro c p q ⟨part, hp⟩ ⟨part', hq⟩
    exact (ht.held_once p q part part' c hp hq).1
  rcases Relation.ReflTransGen.total_of_right_unique hunique (Relation.reflTransGen_swap.2 hp)
    (Relation.reflTransGen_swap.2 hq) with h | h
  · exact Or.inr (Relation.reflTransGen_swap.1 h)
  · exact Or.inl (Relation.reflTransGen_swap.1 h)

/-- An object is above a content, and not the content itself, if it is above the container. -/
theorem below_container (ht : t.Forest) (hc : t.swallowed? p part = some c) (h : t.Below o c)
    (hne : c ≠ o) : t.Below o p := by
  rcases Relation.ReflTransGen.cases_tail_iff _ _ _ |>.1 h with rfl | ⟨q, hq, part', hc'⟩
  · exact absurd rfl hne
  · obtain ⟨rfl, -⟩ := ht.held_once p q part part' c hc hc'
    exact hq

/-! ### The walk -/

/-- The number of live objects that are not older than an object. -/
def rank (t : Toolkit) (o : ObjectId) : Nat :=
  (t.objects.keys.filter fun k => o ≤ k).length

/-- No more objects than there are come after another one. -/
theorem rank_le_liveCount (t : Toolkit) (o : ObjectId) : rank t o ≤ t.liveCount := by
  have hle := List.length_filter_le (fun k => decide (o ≤ k)) t.objects.keys
  rwa [Table.keys, List.length_map] at hle

/-- A live object is not older than itself. -/
theorem rank_pos (ho : t.Live o) : 0 < rank t o := by
  refine List.length_pos_of_mem (a := o) (List.mem_filter.2 ⟨?_, by simp⟩)
  exact Table.mem_keys_iff.2 ho

/-- The rank decreases from a container to its contents. -/
theorem rank_lt (ht : t.Forest) (hc : t.swallowed? p part = some c) : rank t c < rank t p := by
  have hlt := ht.older p part c hc
  have hmem : p ∈ t.objects.keys.filter fun k => p ≤ k :=
    List.mem_filter.2 ⟨Table.mem_keys_iff.2 (live_of_swallowed? hc), by simp⟩
  have hsub : (t.objects.keys.filter fun k => c ≤ k) =
      (t.objects.keys.filter fun k => p ≤ k).filter fun k => c ≤ k := by
    rw [List.filter_filter]
    refine List.filter_congr fun k _ => ?_
    rw [Bool.eq_iff_iff, Bool.and_eq_true, decide_eq_true_eq, decide_eq_true_eq]
    exact ⟨fun hk => ⟨hk, Nat.le_trans (Nat.le_of_lt hlt) hk⟩, fun hk => hk.1⟩
  rw [rank, rank, hsub]
  exact List.length_filter_lt_length_iff_exists.2 ⟨p, hmem, by simpa using hlt⟩

/-- The contents of an object are the values of its parts. -/
theorem mem_values_iff (ht : t.Forest) (ho : t.object? o = some r) :
    c ∈ r.parts.values ↔ ∃ part, t.swallowed? o part = some c := by
  rw [(ht.tidy o r ho).mem_values_iff]
  simp only [swallowed?_of_object ho]

/-- From an object that is not live the walk comes to nothing. -/
theorem cascadeTo_of_not_live (ho : t.object? o = none) : t.cascadeTo depth o = [] := by
  cases depth with
  | zero => rfl
  | succ depth => simp only [cascadeTo, ho]

/-- Beyond the rank of an object the bound of its walk does not matter. -/
theorem cascadeTo_congr (ht : t.Forest) {depth depth' : Nat} (h : rank t o ≤ depth)
    (h' : rank t o ≤ depth') : t.cascadeTo depth o = t.cascadeTo depth' o := by
  induction depth generalizing depth' o with
  | zero =>
      have ho : ¬ t.Live o := fun ho => by
        have hpos := rank_pos ho
        omega
      rw [not_live_iff] at ho
      rw [cascadeTo_of_not_live ho, cascadeTo_of_not_live ho]
  | succ depth ih =>
      rcases ho : t.object? o with _ | r
      · rw [cascadeTo_of_not_live ho, cascadeTo_of_not_live ho]
      · have hpos := rank_pos (live_iff.2 ⟨r, ho⟩)
        obtain ⟨depth', rfl⟩ : ∃ d, depth' = d + 1 := ⟨depth' - 1, by omega⟩
        have hbelow : r.parts.values.flatMap (t.cascadeTo depth) =
            r.parts.values.flatMap (t.cascadeTo depth') := by
          refine List.flatMap_congr fun c hc => ?_
          obtain ⟨part, hc⟩ := (ht.mem_values_iff ho).1 hc
          have hlt := ht.rank_lt hc
          exact ih (by omega) (by omega)
        simp only [cascadeTo, ho, hbelow]

/-- Any greater bound than the number of live objects leads to the same walk. -/
theorem cascadeTo_eq_cascade (ht : t.Forest) (h : t.liveCount ≤ depth) :
    t.cascadeTo depth o = t.cascade o :=
  ht.cascadeTo_congr (Nat.le_trans (rank_le_liveCount t o) h) (rank_le_liveCount t o)

/-- The walk needs no bound: it is what walking the contents leads to, and the object itself. -/
theorem cascade_eq (ht : t.Forest) :
    t.cascade o =
      match t.object? o with
      | none => []
      | some r =>
        match t.destroyOrder with
        | .parentFirst => o :: r.parts.values.flatMap t.cascade
        | .childrenFirst => r.parts.values.flatMap t.cascade ++ [o] := by
  rw [← ht.cascadeTo_eq_cascade (Nat.le_succ t.liveCount)]
  rfl

/-- Whatever the order, a walk consists of the object and the walks of its contents. -/
theorem cascade_perm (ht : t.Forest) (ho : t.object? o = some r) :
    (t.cascade o).Perm (o :: r.parts.values.flatMap t.cascade) := by
  rw [ht.cascade_eq, ho]
  dsimp only
  cases t.destroyOrder with
  | parentFirst => exact List.Perm.refl _
  | childrenFirst => exact List.perm_append_singleton _ _

/-- What holds of an object if it holds of its contents holds of every object. -/
theorem induction_on_contents (ht : t.Forest) {P : ObjectId → Prop}
    (h : ∀ o, (∀ part c, t.swallowed? o part = some c → P c) → P o) (o : ObjectId) : P o := by
  induction hn : rank t o using Nat.strongRecOn generalizing o with
  | _ n ih =>
      subst hn
      exact h o fun part c hc => ih _ (ht.rank_lt hc) c rfl

/-- The walk meets exactly what is at and below a live object. -/
theorem mem_cascade_iff (ht : t.Forest) : x ∈ t.cascade o ↔ t.Live o ∧ t.Below o x := by
  induction o using ht.induction_on_contents with
  | h o ih =>
      rcases ho : t.object? o with _ | r
      · rw [ht.cascade_eq, ho]
        simp [not_live_iff.2 ho]
      · rw [(ht.cascade_perm ho).mem_iff, List.mem_cons, List.mem_flatMap,
          and_iff_right (live_iff.2 ⟨r, ho⟩), Below, Relation.ReflTransGen.cases_head_iff,
          eq_comm (a := x)]
        refine or_congr_right ⟨?_, ?_⟩
        · rintro ⟨c, hc, hx⟩
          obtain ⟨part, hc⟩ := (ht.mem_values_iff ho).1 hc
          exact ⟨c, ⟨part, hc⟩, ((ih part c hc).1 hx).2⟩
        · rintro ⟨c, ⟨part, hc⟩, hx⟩
          exact ⟨c, (ht.mem_values_iff ho).2 ⟨part, hc⟩,
            (ih part c hc).2 ⟨ht.content_live o part c hc, hx⟩⟩

/-- Whether the walk meets a live object. -/
theorem mem_cascade_iff_of_live (ht : t.Forest) (hx : t.Live x) :
    x ∈ t.cascade o ↔ t.Below o x := by
  rw [ht.mem_cascade_iff]
  refine and_iff_right_of_imp fun h => ?_
  by_contra ho
  exact ho (eq_of_below_of_not_live ho h ▸ hx)

/-- The walk meets no object twice. -/
theorem nodup_cascade (ht : t.Forest) (o : ObjectId) : (t.cascade o).Nodup := by
  induction o using ht.induction_on_contents with
  | h o ih =>
      rcases ho : t.object? o with _ | r
      · rw [ht.cascade_eq, ho]
        exact List.nodup_nil
      · have hvalues : r.parts.values.Nodup := by
          refine (ht.tidy o r ho).nodup_values fun j k v hj hk => ?_
          rw [← swallowed?_of_object ho] at hj hk
          exact (ht.held_once o o j k v hj hk).2
        rw [(ht.cascade_perm ho).nodup_iff, List.nodup_cons, List.nodup_flatMap]
        refine ⟨?_, fun c hc => ?_, ?_⟩
        · rw [List.mem_flatMap]
          rintro ⟨c, hc, hoc⟩
          obtain ⟨part, hc⟩ := (ht.mem_values_iff ho).1 hc
          have hlt := ht.older o part c hc
          exact Nat.not_le_of_lt hlt (ht.le_of_below (ht.mem_cascade_iff.1 hoc).2)
        · obtain ⟨part, hc⟩ := (ht.mem_values_iff ho).1 hc
          exact ih part c hc
        · refine hvalues.imp_of_mem fun {c d} hc hd hne => ?_
          obtain ⟨part, hc⟩ := (ht.mem_values_iff ho).1 hc
          obtain ⟨part', hd⟩ := (ht.mem_values_iff ho).1 hd
          have happart : ∀ {a b : ObjectId} {s s' : String}, t.swallowed? o s = some a →
              t.swallowed? o s' = some b → a ≠ b → ¬ t.Below a b := by
            intro a b s s' ha hb hab h
            have hlt := ht.older o s a ha
            exact Nat.not_le_of_lt hlt (ht.le_of_below (ht.below_container hb h hab.symm))
          intro x hx hx'
          rcases ht.below_total (ht.mem_cascade_iff.1 hx).2 (ht.mem_cascade_iff.1 hx').2 with h | h
          · exact happart hc hd hne h
          · exact happart hd hc hne.symm h

end Forest

end WidgetStage.Toolkit
