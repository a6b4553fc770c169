import WidgetStage.Proofs.Toolkit.Forest

/-!
# Changes of a toolkit

Which objects there are and what is swallowed where is all that the forest of a toolkit depends
on. What calls do to these two is said by three relations: nothing (`Alike`), some objects are
gone (`Shrunk`), one object is new (`Allocated`, and `Placed` once it is swallowed).

## Main results

* `shrunk_delete`: deleting an object takes away exactly what is at and below it.
* `shrunk_clear`: so does deleting what was taken out of a part.
* `Allocated.discard`: deleting a new object at once leaves everything as it was.
* `Allocated.placed`: what a new object in an empty part changes.
* `Shrunk.forest`, `Allocated.forest`, `Placed.forest`: all of them keep the forest.
-/

namespace WidgetStage.Toolkit

variable {t t' t'' : Toolkit} {o p q c x : ObjectId} {part : String} {k kind : ObjectKind}
  {gone : ObjectId → Prop}

/-- The same objects with the same contents. -/
structure Alike (t t' : Toolkit) : Prop where
  nextObject : t'.nextObject = t.nextObject
  kind? : ∀ o, t'.kind? o = t.kind? o
  swallowed? : ∀ p part, t'.swallowed? p part = t.swallowed? p part
  tidy : t.Tidy → t'.Tidy

/-- `t'` is `t` without the objects `gone`. -/
structure Shrunk (gone : ObjectId → Prop) (t t' : Toolkit) : Prop where
  nextObject : t.nextObject ≤ t'.nextObject
  kind? : ∀ o k, t'.kind? o = some k ↔ t.kind? o = some k ∧ ¬ gone o
  swallowed? : ∀ p part c,
    t'.swallowed? p part = some c ↔ t.swallowed? p part = some c ∧ ¬ gone c
  tidy : t.Tidy → t'.Tidy

/-- `t'` is `t` with the new object `c`, which neither holds anything nor is held. -/
structure Allocated (c : ObjectId) (kind : ObjectKind) (t t' : Toolkit) : Prop where
  number : c = t.nextObject
  nextObject : t'.nextObject = t.nextObject + 1
  kind? : ∀ o, t'.kind? o = if o = c then some kind else t.kind? o
  swallowed? : ∀ p part, t'.swallowed? p part = t.swallowed? p part
  tidy : t.Tidy → t'.Tidy

/-- `t'` is `t` with the new object `c` in a part that was empty. -/
structure Placed (p : ObjectId) (part : String) (c : ObjectId) (kind : ObjectKind)
    (t t' : Toolkit) : Prop where
  number : c = t.nextObject
  nextObject : t'.nextObject = t.nextObject + 1
  live : t.Live p
  empty : t.swallowed? p part = none
  kind? : ∀ o, t'.kind? o = if o = c then some kind else t.kind? o
  swallowed? : ∀ q s, t'.swallowed? q s = if q = p ∧ s = part then some c else t.swallowed? q s
  tidy : t.Tidy → t'.Tidy

/-! ### The same objects -/

theorem Alike.rfl : Alike t t :=
  ⟨Eq.refl _, fun _ => Eq.refl _, fun _ _ => Eq.refl _, id⟩

/-- Nothing that concerns objects is changed. -/
theorem alike_of_objects_eq (hnext : t'.nextObject = t.nextObject)
    (hobjects : t'.objects = t.objects) : Alike t t' := by
  have hobject : ∀ o, t'.object? o = t.object? o := fun o => by rw [object?, object?, hobjects]
  exact {
    nextObject := hnext
    kind? o := by rw [Toolkit.kind?, Toolkit.kind?, hobject]
    swallowed? p part := by rw [Toolkit.swallowed?, Toolkit.swallowed?, hobject]
    tidy ht o r ho := ht o r (hobject o ▸ ho) }

/-- A change of an object is not seen at any other one. -/
theorem object?_modifyObject (f : ToolkitObject → ToolkitObject) :
    (t.modifyObject o f).object? x = if x = o then (t.object? x).map f else t.object? x :=
  Table.find?_modify ..

/-- A change that concerns neither what an object is nor its contents. -/
theorem alike_modifyObject {f : ToolkitObject → ToolkitObject} (hkind : ∀ r, (f r).kind = r.kind)
    (hparts : ∀ r, (f r).parts = r.parts) : Alike t (t.modifyObject o f) where
  nextObject := Eq.refl _
  kind? x := by
    rw [Toolkit.kind?, Toolkit.kind?, object?_modifyObject]
    split
    · rw [Option.map_map]
      exact congrArg (t.object? x).map (funext hkind)
    · exact Eq.refl _
  swallowed? p part := by
    rw [Toolkit.swallowed?, Toolkit.swallowed?, object?_modifyObject]
    split
    · rw [Option.bind_map]
      exact congrArg (t.object? p).bind (funext fun r => by rw [Function.comp, hparts])
    · exact Eq.refl _
  tidy ht x r hx := by
    rw [object?_modifyObject] at hx
    split at hx
    · obtain ⟨r', hr', rfl⟩ := Option.map_eq_some_iff.1 hx
      rw [hparts]
      exact ht x r' hr'
    · exact ht x r hx

/-! ### Fewer objects -/

/-- Where nothing is gone, the toolkit has shrunk by nothing. -/
theorem Alike.shrunk (h : Alike t t') : Shrunk (fun _ => False) t t' where
  nextObject := Nat.le_of_eq h.nextObject.symm
  kind? o k := by rw [h.kind?, not_false_eq_true, and_true]
  swallowed? p part c := by rw [h.swallowed?, not_false_eq_true, and_true]
  tidy := h.tidy

/-- What is left is live. -/
theorem Shrunk.live_iff (h : Shrunk gone t t') : t'.Live o ↔ t.Live o ∧ ¬ gone o := by
  rw [live_iff_kind?, live_iff_kind?]
  simp only [h.kind?, exists_and_right]

/-- Layouts that are left are layouts. -/
theorem Shrunk.isLayout_iff (h : Shrunk gone t t') :
    t'.isLayout o = true ↔ t.isLayout o = true ∧ ¬ gone o := by
  rw [Toolkit.isLayout_iff, Toolkit.isLayout_iff]
  simp only [h.kind?]
  exact ⟨fun ⟨k, ⟨hk, hgone⟩, hl⟩ => ⟨⟨k, hk, hl⟩, hgone⟩,
    fun ⟨⟨k, hk, hl⟩, hgone⟩ => ⟨k, ⟨hk, hgone⟩, hl⟩⟩

/-- What is held was held before. -/
theorem Shrunk.holds (h : Shrunk gone t t') (hc : t'.Holds p c) : t.Holds p c := by
  obtain ⟨part, hc⟩ := hc
  exact ⟨part, ((h.swallowed? p part c).1 hc).1⟩

/-- What is not gone, nor below anything that is, stays where it is. -/
theorem Shrunk.below_iff (h : Shrunk gone t t') (hclosed : ∀ p c, t.Holds p c → gone p → gone c)
    (hx : ¬ gone x) : t'.Below o x ↔ t.Below o x := by
  constructor
  · exact Relation.ReflTransGen.mono (fun _ _ => h.holds) o x
  · intro hbelow
    induction hbelow with
    | refl => exact .refl
    | @tail p c _ hc ih =>
        obtain ⟨part, hc⟩ := hc
        exact (ih fun hp => hx (hclosed p c ⟨part, hc⟩ hp)).tail
          ⟨part, (h.swallowed? p part c).2 ⟨hc, hx⟩⟩

/-- Without some of its objects a forest is a forest. -/
theorem Shrunk.forest (h : Shrunk gone t t') (ht : t.Forest) : t'.Forest where
  tidy := h.tidy ht.tidy
  fresh o ho := Nat.lt_of_lt_of_le (ht.fresh o (h.live_iff.1 ho).1) h.nextObject
  content_live p part c hc := by
    obtain ⟨hc, hgone⟩ := (h.swallowed? p part c).1 hc
    exact h.live_iff.2 ⟨ht.content_live p part c hc, hgone⟩
  older p part c hc := ht.older p part c ((h.swallowed? p part c).1 hc).1
  held_once p q part part' c hp hq :=
    ht.held_once p q part part' c ((h.swallowed? p part c).1 hp).1 ((h.swallowed? q part' c).1 hq).1

/-- Deleted objects are gone, and the top one is taken out of the part that held it. -/
theorem object?_delete :
    (t.delete o).2.object? x =
      if x ∈ t.cascade o then none
      else (t.object? x).map fun r => { r with parts := r.parts.filterValues (· != o) } := by
  simp only [delete, object?, release, Table.find?_foldl_erase, Table.find?_mapValues]

/-- An object that does not hold another one has it in none of its parts. -/
theorem Forest.filterValues_eq_self {r : ToolkitObject} (ht : t.Forest) (hr : t.object? o = some r)
    (hc : ¬ t.Holds o c) : r.parts.filterValues (· != c) = r.parts := by
  rw [Table.filterValues, List.filter_eq_self.2]
  rintro ⟨part, x⟩ hx
  rw [bne_iff_ne]
  rintro rfl
  refine hc ⟨part, ?_⟩
  rw [swallowed?_of_object hr]
  exact (ht.tidy o r hr).mem_entries_iff.1 hx

/-- Deleting an object takes away exactly what is at and below it. -/
theorem shrunk_delete (ht : t.Forest) : Shrunk (t.Below o) t (t.delete o).2 where
  nextObject := Nat.le_refl _
  kind? x k := by
    rw [Toolkit.kind?, Toolkit.kind?, object?_delete]
    rcases hx : t.object? x with _ | r
    · simp
    · have hmem := ht.mem_cascade_iff_of_live (o := o) (live_iff.2 ⟨r, hx⟩)
      by_cases hgone : x ∈ t.cascade o
      · simp [hgone, hmem.1 hgone]
      · simp [hgone, hmem.not.1 hgone]
  swallowed? p part c := by
    rw [Toolkit.swallowed?, object?_delete]
    rcases hp : t.object? p with _ | r
    · simp [Toolkit.swallowed?, hp]
    · have hmem := ht.mem_cascade_iff_of_live (o := o) (live_iff.2 ⟨r, hp⟩)
      by_cases hgone : p ∈ t.cascade o
      · rw [if_pos hgone, Option.bind_none]
        refine iff_of_false (Option.some_ne_none c).symm ?_
        rintro ⟨hc, hkept⟩
        exact hkept ((hmem.1 hgone).tail ⟨part, hc⟩)
      · rw [if_neg hgone, Option.map_some, Option.bind_some, (ht.tidy p r hp).find?_filterValues,
          ← swallowed?_of_object hp, Option.filter_eq_some_iff, bne_iff_ne]
        refine and_congr_right fun hc => ⟨fun hne h => hgone ?_, fun h hco => h (hco ▸ .refl)⟩
        exact hmem.2 (ht.below_container hc h hne)
  tidy htidy x r hx := by
    rw [object?_delete] at hx
    split at hx
    · cases hx
    · obtain ⟨r', hr', rfl⟩ := Option.map_eq_some_iff.1 hx
      exact (htidy x r' hr').filterValues _

/-- Taking out the content of a part changes that part only. -/
theorem swallowed?_unswallow (q : ObjectId) (s : String) :
    (t.unswallow p part).2.swallowed? q s =
      if q = p ∧ s = part then none else t.swallowed? q s := by
  simp only [Toolkit.swallowed?, unswallow, object?_modifyObject]
  by_cases hq : q = p
  · subst hq
    rcases t.object? q with _ | r
    · simp
    · simp [Table.find?_erase]
  · simp [hq]

/-- Taking out the content of a part takes it from the parts, and else leaves everything as it
is. -/
theorem kind?_unswallow : (t.unswallow p part).2.kind? x = t.kind? x := by
  simp only [Toolkit.kind?, unswallow, object?_modifyObject]
  split
  · rw [Option.map_map]
    rfl
  · rfl

/-- Emptying a part gives no other part a second content. -/
theorem tidy_unswallow (ht : t.Tidy) : (t.unswallow p part).2.Tidy := by
  intro x r hx
  simp only [unswallow, object?_modifyObject] at hx
  split at hx
  · obtain ⟨r', hr', rfl⟩ := Option.map_eq_some_iff.1 hx
    exact (ht x r' hr').erase part
  · exact ht x r hx

/-- What was in a part is free after it was taken out, and nothing else has changed for what is
held. -/
theorem forest_unswallow (ht : t.Forest) (p : ObjectId) (part : String) :
    (t.unswallow p part).2.Forest := by
  have hlive : ∀ o, (t.unswallow p part).2.Live o ↔ t.Live o := fun o => by
    rw [live_iff_kind?, live_iff_kind?, kind?_unswallow]
  have hheld : ∀ {q s c}, (t.unswallow p part).2.swallowed? q s = some c →
      t.swallowed? q s = some c := by
    intro q s c h
    rw [swallowed?_unswallow] at h
    split at h
    · cases h
    · exact h
  exact {
    tidy := tidy_unswallow ht.tidy
    fresh o ho := ht.fresh o ((hlive o).1 ho)
    content_live q s c h := (hlive c).2 (ht.content_live q s c (hheld h))
    older q s c h := ht.older q s c (hheld h)
    held_once q q' s s' c h h' := ht.held_once q q' s s' c (hheld h) (hheld h') }

/-- What is below the content of a part is below it after it was taken out. -/
theorem below_unswallow_iff (ht : t.Forest) (hc : t.swallowed? p part = some c) :
    (t.unswallow p part).2.Below c x ↔ t.Below c x := by
  constructor
  · refine Relation.ReflTransGen.mono (fun q y => ?_) c x
    rintro ⟨s, hy⟩
    rw [swallowed?_unswallow] at hy
    split at hy
    · cases hy
    · exact ⟨s, hy⟩
  · intro h
    induction h with
    | refl => exact .refl
    | @tail q y hq hy ih =>
        obtain ⟨s, hy⟩ := hy
        refine ih.tail ⟨s, ?_⟩
        -- the container is older than all that is below its content
        have hne : q ≠ p := by
          rintro rfl
          exact Nat.not_le_of_lt (ht.older q part c hc) (ht.le_of_below hq)
        rw [swallowed?_unswallow, if_neg fun h => hne h.1]
        exact hy

/-- What is destroyed when the content of a part is taken out and deleted. -/
theorem mem_clear_iff (ht : t.Forest) (hc : t.swallowed? p part = some c) :
    x ∈ ((t.unswallow p part).2.delete c).1 ↔ t.Below c x := by
  change x ∈ (t.unswallow p part).2.cascade c ↔ _
  rw [(forest_unswallow ht p part).mem_cascade_iff, below_unswallow_iff ht hc]
  refine and_iff_right ?_
  rw [live_iff_kind?, kind?_unswallow, ← live_iff_kind?]
  exact ht.content_live p part c hc

/-- Deleting what was taken out of a part takes away exactly what is at and below it. -/
theorem shrunk_clear (ht : t.Forest) (hc : t.swallowed? p part = some c) :
    Shrunk (t.Below c) t ((t.unswallow p part).2.delete c).2 := by
  have h := shrunk_delete (o := c) (forest_unswallow ht p part)
  exact {
    nextObject := h.nextObject
    kind? x k := by rw [h.kind?, kind?_unswallow, below_unswallow_iff ht hc]
    swallowed? q s x := by
      rw [h.swallowed?, swallowed?_unswallow, below_unswallow_iff ht hc]
      by_cases hq : q = p ∧ s = part
      · obtain ⟨rfl, rfl⟩ := hq
        simp only [hc, and_self, if_true, reduceCtorEq, false_and, Option.some.injEq, false_iff,
          not_and, not_not]
        rintro rfl
        exact .refl
      · rw [if_neg hq]
    tidy htidy := h.tidy (tidy_unswallow htidy) }

/-! ### One more object -/

/-- The next number belongs to no live object. -/
theorem Forest.not_live_next (ht : t.Forest) (hc : c = t.nextObject) : ¬ t.Live c := by
  intro hlive
  exact Nat.lt_irrefl c (hc ▸ ht.fresh c hlive)

/-- An object that gets a kind is live. -/
theorem live_iff_of_new
    (hkind : ∀ o, t'.kind? o = if o = c then some kind else t.kind? o) :
    t'.Live o ↔ o = c ∨ t.Live o := by
  rw [live_iff_kind?, live_iff_kind?, hkind]
  by_cases ho : o = c
  · simp [ho]
  · simp [ho]

/-- Every live object has been given its number, also after one more. -/
theorem Forest.fresh_of_new (ht : t.Forest) (hc : c = t.nextObject)
    (hnext : t'.nextObject = t.nextObject + 1) (ho : o = c ∨ t.Live o) : o < t'.nextObject := by
  rw [hnext]
  rcases ho with rfl | ho
  · rw [hc]
    exact Nat.lt_succ_self _
  · exact Nat.lt_succ_of_lt (ht.fresh o ho)

/-- A new object gets the next number, and holds nothing. -/
theorem allocated_allocate (ht : t.Forest) (kind : ObjectKind) (size : Option Size) :
    Allocated t.nextObject kind t (t.allocate kind size).2 where
  number := rfl
  nextObject := rfl
  kind? o := by
    rw [Toolkit.kind?, live_allocate]
    split <;> rfl
  swallowed? p part := by
    rw [Toolkit.swallowed?, live_allocate]
    split
    · next hp =>
      have hnone : t.object? p = none := by
        rw [← not_live_iff]
        exact fun hlive => Nat.lt_irrefl p (hp ▸ ht.fresh p hlive)
      simp [Toolkit.swallowed?, hnone, ToolkitObject.fresh]
    · rfl
  tidy htidy o r ho := by
    rw [live_allocate] at ho
    split at ho
    · cases ho
      exact Table.distinct_empty
    · exact htidy o r ho

namespace Allocated

/-- What is set about objects afterwards does not matter. -/
theorem trans_alike (h : Allocated c kind t t') (h' : Alike t' t'') : Allocated c kind t t'' where
  number := h.number
  nextObject := h'.nextObject.trans h.nextObject
  kind? o := (h'.kind? o).trans (h.kind? o)
  swallowed? p part := (h'.swallowed? p part).trans (h.swallowed? p part)
  tidy ht := h'.tidy (h.tidy ht)

/-- One object more is live. -/
theorem live_iff (h : Allocated c kind t t') : t'.Live o ↔ o = c ∨ t.Live o :=
  live_iff_of_new h.kind?

/-- The new object was not there before. -/
theorem not_live (h : Allocated c kind t t') (ht : t.Forest) : ¬ t.Live c :=
  ht.not_live_next h.number

/-- Nothing comes to be above or below anything else. -/
theorem below_congr (h : Allocated c kind t t') : t'.Below o x ↔ t.Below o x := by
  have hholds : t'.Holds = t.Holds := by
    funext p q
    simp only [Holds, h.swallowed?]
  rw [Below, Below, hholds]

/-- The new object holds nothing. -/
theorem swallowed?_self (h : Allocated c kind t t') (ht : t.Forest) :
    t'.swallowed? c part = none := by
  rw [h.swallowed?, Toolkit.swallowed?, not_live_iff.1 (h.not_live ht), Option.bind_none]

/-- With one object more a forest is a forest. -/
theorem forest (h : Allocated c kind t t') (ht : t.Forest) : t'.Forest where
  tidy := h.tidy ht.tidy
  fresh o ho := ht.fresh_of_new h.number h.nextObject (h.live_iff.1 ho)
  content_live p part x hx := by
    rw [h.swallowed?] at hx
    exact h.live_iff.2 (Or.inr (ht.content_live p part x hx))
  older p part x hx := by
    rw [h.swallowed?] at hx
    exact ht.older p part x hx
  held_once p q part part' x hp hq := by
    rw [h.swallowed?] at hp hq
    exact ht.held_once p q part part' x hp hq

/-- Only the new object is at or below it. -/
theorem below_iff (h : Allocated c kind t t') (ht : t.Forest) : t'.Below c x ↔ x = c := by
  constructor
  · intro hx
    rcases Relation.ReflTransGen.cases_head_iff.1 hx with rfl | ⟨y, ⟨part, hy⟩, -⟩
    · rfl
    · rw [h.swallowed?_self ht] at hy
      cases hy
  · rintro rfl
    exact .refl

/-- Deleting the new object destroys nothing else. -/
theorem mem_delete_iff (h : Allocated c kind t t') (ht : t.Forest) :
    x ∈ (t'.delete c).1 ↔ x = c := by
  change x ∈ t'.cascade c ↔ _
  rw [(h.forest ht).mem_cascade_iff, h.below_iff ht]
  exact and_iff_right (h.live_iff.2 (Or.inl rfl))

/-- Deleting the new object leaves everything as it was. -/
theorem discard (h : Allocated c kind t t') (ht : t.Forest) :
    Shrunk (fun _ => False) t (t'.delete c).2 where
  nextObject := by
    have hle := (shrunk_delete (o := c) (h.forest ht)).nextObject
    rw [h.nextObject] at hle
    exact Nat.le_of_succ_le hle
  kind? o k := by
    rw [(shrunk_delete (h.forest ht)).kind?, h.below_iff ht, h.kind?, not_false_eq_true, and_true]
    by_cases ho : o = c
    · subst ho
      have hnone : t.kind? o = none := by
        rw [Toolkit.kind?, not_live_iff.1 (h.not_live ht), Option.map_none]
      simp [hnone]
    · simp [ho]
  swallowed? p part x := by
    rw [(shrunk_delete (h.forest ht)).swallowed?, h.below_iff ht, h.swallowed?,
      not_false_eq_true, and_true]
    refine and_iff_left_of_imp fun hx hxc => h.not_live ht ?_
    exact hxc ▸ ht.content_live p part x hx
  tidy htidy := (shrunk_delete (h.forest ht)).tidy (h.tidy htidy)

end Allocated

/-- Loading a layout creates an object, unless the toolkit is told to fail. -/
theorem loadLayout_eq_ok_iff {path group : String} {loaded : ObjectId × Toolkit} :
    t.loadLayout path group = .ok loaded ↔
      t.loadFailure = none ∧ loaded = t.allocate (.layout path group) none := by
  rw [loadLayout]
  cases t.loadFailure with
  | none => simp [eq_comm]
  | some e => simp

/-- A new object is deleted alone. -/
theorem Forest.cascade_allocate (ht : t.Forest) (kind : ObjectKind) (size : Option Size) :
    (t.allocate kind size).2.cascade t.nextObject = [t.nextObject] := by
  have hobject : (t.allocate kind size).2.object? t.nextObject = some (.fresh kind size) := by
    rw [live_allocate, if_pos rfl]
  rw [((allocated_allocate ht kind size).forest ht).cascade_eq, hobject]
  dsimp only
  split <;> rfl

/-- Deleting a new object at once leaves the objects as they were. What is left of it is its
number, and that it was deleted. -/
theorem Forest.delete_allocate (ht : t.Forest) (hd : t.objects.Distinct) (kind : ObjectKind)
    (size : Option Size) :
    ((t.allocate kind size).2.delete t.nextObject).2 =
      { t with nextObject := t.nextObject + 1, deleted := t.deleted ++ [t.nextObject] } := by
  have hnew : ¬ t.Live t.nextObject := ht.not_live_next rfl
  have hunheld : ∀ o r, (o, r) ∈ t.objects.entries →
      { r with parts := r.parts.filterValues (· != t.nextObject) } = r := by
    intro o r hr
    have hobject : t.object? o = some r := hd.mem_entries_iff.1 hr
    rw [ht.filterValues_eq_self hobject]
    rintro ⟨part, hheld⟩
    exact hnew (ht.content_live o part _ hheld)
  have hobjects : ((t.allocate kind size).2.release t.nextObject).objects.erase t.nextObject =
      t.objects := by
    rw [release, Table.erase_mapValues]
    exact (congrArg _ (Table.erase_insert (not_live_iff.1 hnew) _)).trans
      (Table.mapValues_eq_self hunheld)
  rw [delete, ht.cascade_allocate, List.foldl_cons, List.foldl_nil, hobjects]
  rfl

/-! ### One more content -/

/-- Swallowing succeeds for live containers only, and puts the content in place of what was in
the part. -/
theorem swallow_eq_ok (h : t.swallow p part c = .ok t') :
    t.Live p ∧ t'.nextObject = t.nextObject ∧ (∀ o, t'.kind? o = t.kind? o) ∧
      (∀ q s, t'.swallowed? q s = if q = p ∧ s = part then some c else t.swallowed? q s) ∧
      (t.Tidy → t'.Tidy) := by
  unfold swallow at h
  split at h
  · cases h
  split at h
  · cases h
  next r hp =>
  cases h
  refine ⟨live_iff.2 ⟨r, hp⟩, rfl, fun o => ?_, fun q s => ?_, fun htidy o r ho => ?_⟩
  · rw [Toolkit.kind?, Toolkit.kind?, object?_modifyObject]
    split
    · rw [Option.map_map]
      rfl
    · rfl
  · rw [Toolkit.swallowed?, Toolkit.swallowed?, object?_modifyObject]
    by_cases hq : q = p
    · subst hq
      simp [hp, Table.find?_insert]
    · simp [hq]
  · rw [object?_modifyObject] at ho
    split at ho
    · obtain ⟨r', hr', rfl⟩ := Option.map_eq_some_iff.1 ho
      exact (htidy o r' hr').insert part c
    · exact htidy o r ho

/-- A new object that is swallowed into an empty part of an old one. -/
theorem Allocated.placed (h : Allocated c kind t t') (hswallow : t'.swallow p part c = .ok t'')
    (hp : p < t.nextObject) (hempty : t.swallowed? p part = none) :
    Placed p part c kind t t'' := by
  obtain ⟨hlive, hnext, hkind, hheld, htidy⟩ := swallow_eq_ok hswallow
  refine ⟨h.number, hnext.trans h.nextObject, ?_, hempty, fun o => (hkind o).trans (h.kind? o),
    fun q s => by rw [hheld, h.swallowed?], fun ht => htidy (h.tidy ht)⟩
  rcases h.live_iff.1 hlive with rfl | hlive
  · exact absurd (h.number ▸ hp) (Nat.lt_irrefl _)
  · exact hlive

namespace Placed

/-- One object more is live. -/
theorem live_iff (h : Placed p part c kind t t') : t'.Live o ↔ o = c ∨ t.Live o :=
  live_iff_of_new h.kind?

/-- The new object was not there before. -/
theorem not_live (h : Placed p part c kind t t') (ht : t.Forest) : ¬ t.Live c :=
  ht.not_live_next h.number

/-- What is held is the new object in its part, or what was held before. -/
theorem swallowed?_iff (h : Placed p part c kind t t') (q : ObjectId) (s : String) :
    t'.swallowed? q s = some x ↔ (q = p ∧ s = part ∧ x = c) ∨ t.swallowed? q s = some x := by
  rw [h.swallowed?]
  by_cases hq : q = p ∧ s = part
  · obtain ⟨rfl, rfl⟩ := hq
    simp [h.empty, eq_comm]
  · rw [if_neg hq]
    refine (or_iff_right ?_).symm
    rintro ⟨hqp, hs, -⟩
    exact hq ⟨hqp, hs⟩

/-- What is below an object was so before, or is the new object. -/
theorem below_iff (h : Placed p part c kind t t') (ht : t.Forest) :
    t'.Below o x ↔ t.Below o x ∨ (x = c ∧ t.Below o p) := by
  have hne : c ≠ p := fun hcp => h.not_live ht (hcp ▸ h.live)
  constructor
  · intro hbelow
    induction hbelow with
    | refl => exact Or.inl .refl
    | @tail q y _ hy ih =>
        obtain ⟨s, hy⟩ := hy
        rcases (h.swallowed?_iff q s).1 hy with ⟨rfl, -, rfl⟩ | hy
        · exact Or.inr ⟨rfl, ih.resolve_right fun hq => hne hq.1.symm⟩
        · rcases ih with hq | ⟨rfl, -⟩
          · exact Or.inl (hq.tail ⟨s, hy⟩)
          · exact absurd (live_of_swallowed? hy) (h.not_live ht)
  · have hold : ∀ y, t.Below o y → t'.Below o y := by
      refine Relation.ReflTransGen.mono (fun q y => ?_) o
      rintro ⟨s, hy⟩
      exact ⟨s, (h.swallowed?_iff q s).2 (Or.inr hy)⟩
    rintro (hx | ⟨rfl, hp⟩)
    · exact hold x hx
    · exact (hold p hp).tail ⟨part, (h.swallowed?_iff p part).2 (Or.inl ⟨rfl, rfl, rfl⟩)⟩

/-- The new object is held in one part only, and by an older one. -/
theorem forest (h : Placed p part c kind t t') (ht : t.Forest) : t'.Forest where
  tidy := h.tidy ht.tidy
  fresh o ho := ht.fresh_of_new h.number h.nextObject (h.live_iff.1 ho)
  content_live q s x hx := by
    rcases (h.swallowed?_iff q s).1 hx with ⟨-, -, rfl⟩ | hx
    · exact h.live_iff.2 (Or.inl rfl)
    · exact h.live_iff.2 (Or.inr (ht.content_live q s x hx))
  older q s x hx := by
    rcases (h.swallowed?_iff q s).1 hx with ⟨rfl, -, rfl⟩ | hx
    · rw [h.number]
      exact ht.fresh q h.live
    · exact ht.older q s x hx
  held_once q q' s s' x hq hq' := by
    rcases (h.swallowed?_iff q s).1 hq with ⟨rfl, rfl, rfl⟩ | hold
    · rcases (h.swallowed?_iff q' s').1 hq' with ⟨rfl, rfl, -⟩ | hold'
      · exact ⟨rfl, rfl⟩
      · exact absurd (ht.content_live q' s' x hold') (h.not_live ht)
    · rcases (h.swallowed?_iff q' s').1 hq' with ⟨-, -, rfl⟩ | hold'
      · exact absurd (ht.content_live q s x hold) (h.not_live ht)
      · exact ht.held_once q q' s s' x hold hold'

end Placed

end WidgetStage.Toolkit
