import Mathlib.Data.List.Perm.Basic
import WidgetStage.Toolkit.Basic

/-!
# The order of destruction

A toolkit may report a deleted object before its contents or after them. This shows in the lists of
destroyed objects only, and there as a permutation. Two toolkits that differ in nothing else answer
every call alike, and differ in nothing else after it.

## Main results

* `Reordered`: toolkits that differ in the order of destruction only.
* `Reordered.map`: so they do after every call that does not delete anything.
* `Reordered.delete_perm`, `Reordered.delete`: and after one that does.
-/

namespace WidgetStage.Toolkit

variable {t t' : Toolkit} {o : ObjectId}

/-- `t'` is `t` with another order of destruction, and with the same deleted objects in some
order. -/
def Reordered (t t' : Toolkit) : Prop :=
  ∃ order deleted, List.Perm deleted t.deleted ∧
    t' = { t with destroyOrder := order, deleted := deleted }

/-- Two empty toolkits differ in their order of destruction only. -/
theorem reordered_start (order order' : DestroyOrder) : Reordered (start order) (start order') :=
  ⟨order', [], .nil, rfl⟩

/-- A call that neither looks at the order of destruction nor deletes anything. -/
theorem Reordered.map {f : Toolkit → Toolkit} (h : Reordered t t')
    (hdeleted : ∀ t, (f t).deleted = t.deleted)
    (hf : ∀ t order deleted, f { t with destroyOrder := order, deleted := deleted } =
      { f t with destroyOrder := order, deleted := deleted }) : Reordered (f t) (f t') := by
  obtain ⟨order, deleted, hperm, rfl⟩ := h
  exact ⟨order, deleted, by rwa [hdeleted], hf t order deleted⟩

/-- Whatever does not concern the order of destruction is the same in both toolkits. -/
theorem Reordered.same {α : Type} {f : Toolkit → α} (h : Reordered t t')
    (hf : ∀ t order deleted, f { t with destroyOrder := order, deleted := deleted } = f t) :
    f t' = f t := by
  obtain ⟨order, deleted, -, rfl⟩ := h
  exact hf t order deleted

/-- The objects are the same in both toolkits. -/
theorem Reordered.objects (h : Reordered t t') : t'.objects = t.objects :=
  h.same fun _ _ _ => rfl

/-- The next number is the same in both toolkits. -/
theorem Reordered.nextObject (h : Reordered t t') : t'.nextObject = t.nextObject :=
  h.same fun _ _ _ => rfl

/-- Loading a layout fails in both toolkits or in none. -/
theorem Reordered.loadFailure (h : Reordered t t') : t'.loadFailure = t.loadFailure :=
  h.same fun _ _ _ => rfl

/-- Both toolkits have as many live objects. -/
theorem Reordered.liveCount (h : Reordered t t') : t'.liveCount = t.liveCount :=
  h.same fun _ _ _ => rfl

/-- Swallowing fails in both toolkits, or in none. -/
theorem Reordered.swallow (h : Reordered t t') (p : ObjectId) (part : String) (c : ObjectId) :
    (∃ e, t.swallow p part c = .error e ∧ t'.swallow p part c = .error e) ∨
      ∃ u u', t.swallow p part c = .ok u ∧ t'.swallow p part c = .ok u' ∧ Reordered u u' := by
  have hfailure : t'.swallowFailure = t.swallowFailure := h.same fun _ _ _ => rfl
  have hobject : t'.object? p = t.object? p := by rw [object?, object?, h.objects]
  unfold Toolkit.swallow
  rw [hfailure, hobject]
  rcases t.swallowFailure with _ | e
  · rcases t.object? p with _ | r
    · exact Or.inl ⟨_, rfl, rfl⟩
    · exact Or.inr ⟨_, _, rfl, rfl, h.map
        (f := fun t => t.modifyObject p fun r => { r with parts := r.parts.insert part c })
        (fun _ => rfl) fun _ _ _ => rfl⟩
  · exact Or.inl ⟨e, rfl, rfl⟩

/-- The walks through both toolkits meet the same objects. -/
theorem Reordered.cascadeTo (h : Reordered t t') (depth : Nat) (o : ObjectId) :
    (t'.cascadeTo depth o).Perm (t.cascadeTo depth o) := by
  induction depth generalizing o with
  | zero => exact .nil
  | succ depth ih =>
      have hobject : t'.object? o = t.object? o := by rw [object?, object?, h.objects]
      rw [Toolkit.cascadeTo, Toolkit.cascadeTo, hobject]
      rcases t.object? o with _ | r
      · exact .nil
      · have hbelow := List.Perm.flatMap_left r.parts.values fun c _ => ih c
        dsimp only
        cases t'.destroyOrder <;> cases t.destroyOrder
        · exact hbelow.cons o
        · exact (hbelow.cons o).trans (List.perm_append_singleton o _).symm
        · exact (List.perm_append_singleton o _).trans (hbelow.cons o)
        · exact hbelow.append_right [o]

/-- Both toolkits destroy the same objects. -/
theorem Reordered.delete_perm (h : Reordered t t') (o : ObjectId) :
    (t'.delete o).1.Perm (t.delete o).1 := by
  change (t'.cascadeTo t'.liveCount o).Perm (t.cascadeTo t.liveCount o)
  rw [h.liveCount]
  exact h.cascadeTo t.liveCount o

/-- Both toolkits are the same afterwards. -/
theorem Reordered.delete (h : Reordered t t') (o : ObjectId) :
    Reordered (t.delete o).2 (t'.delete o).2 := by
  have hperm := h.delete_perm o
  have herase : RightCommutative (Table.erase : Table ObjectId ToolkitObject → _) :=
    ⟨fun objects a b => by
      simp only [Table.erase, List.filter_filter]
      congr 1
      exact List.filter_congr fun e _ => Bool.and_comm _ _⟩
  have hobjects := hperm.foldl_eq (f := Table.erase) (t.release o).objects
  obtain ⟨order, deleted, hdeleted, rfl⟩ := h
  refine ⟨order, _, hdeleted.append hperm, ?_⟩
  simp only [Toolkit.delete, release] at hobjects ⊢
  rw [hobjects]

end WidgetStage.Toolkit
