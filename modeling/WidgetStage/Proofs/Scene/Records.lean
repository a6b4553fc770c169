import Mathlib.Data.List.Nodup
import WidgetStage.Scene.Graph

/-!
# Records and slots

Everything that can be asked about a node is read off its record, so each step of an operation
on a scene graph is described here by what it does to `SceneGraph.record?`. What cannot be seen
through nodes, the free list and the number of stored records, is described slot by slot.

## Main results

* `record?_modifyRecord`, `record?_reclaim`, `record?_store`, `record?_clear`: the records after
  each step.
* `FreeListed`: the free list lists the slots without a record, each once; every step keeps it
  (`FreeListed.modifyRecord`, `FreeListed.reclaim`, `FreeListed.store`, `FreeListed.clear`).
* `length_records_modify`: what a changed slot means for the number of records. A reclaimed node is
  one record less (`liveCount_reclaim`), and a stored one is one more
  (`FreeListed.liveCount_store`).
-/

namespace WidgetStage.SceneGraph

variable {g : SceneGraph} {n m : NodeId} {r : SceneNode}

/-! ### Reading a record -/

/-- The record of a node is what its slot holds, if the slot has the generation of the node. -/
theorem record?_eq_some_iff :
    g.record? n = some r ↔ g.slots[n.index]? = some ⟨n.generation, some r⟩ := by
  unfold record?
  rcases g.slots[n.index]? with _ | ⟨generation, record⟩
  · simp
  · by_cases hg : generation = n.generation
    · simp [hg]
    · simp [hg]

theorem lifecycle_of_record (h : g.record? n = some r) : g.lifecycle n = r.lifecycle := by
  simp [lifecycle, h]

theorem object?_of_record (h : g.record? n = some r) : g.object? n = some r.object := by
  simp [object?, h]

theorem parent?_of_record (h : g.record? n = some r) : g.parent? n = r.parent := by
  simp [parent?, h]

theorem children_of_record (h : g.record? n = some r) : g.children n = r.children := by
  simp [children, h]

theorem children_of_record_none (h : g.record? n = none) : g.children n = [] := by
  simp [children, h]

theorem parent?_of_record_none (h : g.record? n = none) : g.parent? n = none := by
  simp [parent?, h]

/-- A node is alive if its record says so. -/
theorem lifecycle_eq_alive_iff :
    g.lifecycle n = .alive ↔ ∃ r, g.record? n = some r ∧ r.lifecycle = .alive := by
  rcases h : g.record? n with _ | r
  · simp [lifecycle, h]
  · simp [lifecycle, h]

/-- A node is pending if its record says so. -/
theorem lifecycle_eq_pendingDelete_iff :
    g.lifecycle n = .pendingDelete ↔
      ∃ r, g.record? n = some r ∧ r.lifecycle = .pendingDelete := by
  rcases h : g.record? n with _ | r
  · simp [lifecycle, h]
  · simp [lifecycle, h]

/-- The stored records are those of nodes. -/
theorem mem_records_iff : r ∈ g.records ↔ ∃ n, g.record? n = some r := by
  simp only [records, List.mem_filterMap]
  constructor
  · rintro ⟨slot, hslot, hr⟩
    obtain ⟨i, hi⟩ := List.mem_iff_getElem?.1 hslot
    refine ⟨⟨i, slot.generation⟩, record?_eq_some_iff.2 ?_⟩
    rw [hi, ← hr]
  · rintro ⟨n, hn⟩
    exact ⟨_, List.mem_of_getElem? (record?_eq_some_iff.1 hn), rfl⟩

/-! ### Records after each step -/

/-- A change of a record is not seen at any other node. -/
theorem record?_modifyRecord (f : SceneNode → SceneNode) :
    (g.modifyRecord n f).record? m = if m = n then (g.record? m).map f else g.record? m := by
  obtain ⟨i, γ⟩ := n
  obtain ⟨j, δ⟩ := m
  simp only [record?, modifyRecord, List.getElem?_modify, NodeId.mk.injEq]
  rcases hs : g.slots[j]? with _ | ⟨generation, record⟩
  · simp
  · by_cases hij : i = j
    · subst hij
      by_cases hg : generation = γ <;> by_cases hd : generation = δ <;> simp_all
      exact fun h => absurd h.symm hd
    · simp [hij, Ne.symm hij]

/-- A node that is reclaimed has no record, whatever generation its slot goes on with. -/
theorem record?_reclaim :
    (g.reclaim n).record? m = if m = n then none else g.record? m := by
  unfold reclaim
  split
  · next h => split <;> simp_all
  · next r h =>
    obtain ⟨i, γ⟩ := n
    obtain ⟨j, δ⟩ := m
    rw [record?_eq_some_iff] at h
    simp only [record?, List.getElem?_modify, NodeId.mk.injEq]
    by_cases hij : i = j
    · subst hij
      by_cases hd : δ = γ
      · simp [h, hd]
      · simp [h, hd, Ne.symm hd]
    · simp [hij, Ne.symm hij]

/-- The free list lists the slots without a record, each of them once. -/
structure FreeListed (g : SceneGraph) : Prop where
  free_nodup : g.freeList.Nodup
  mem_free_iff : ∀ i, i ∈ g.freeList ↔ ∃ generation, g.slots[i]? = some ⟨generation, none⟩

/-- The next node has no record yet. -/
theorem FreeListed.record?_nextNode (hg : g.FreeListed) : g.record? g.nextNode = none := by
  rcases hl : g.freeList with _ | ⟨i, rest⟩
  · simp [nextNode, hl, record?]
  · obtain ⟨γ, hγ⟩ := (hg.mem_free_iff i).1 (by simp [hl])
    simp [nextNode, hl, record?, hγ]

/-- Storing a record under the next node changes no other record. -/
theorem FreeListed.record?_store (hg : g.FreeListed) :
    (g.store g.nextNode r).record? m = if m = g.nextNode then some r else g.record? m := by
  obtain ⟨j, δ⟩ := m
  rcases hl : g.freeList with _ | ⟨i, rest⟩
  · simp only [nextNode, store, hl, record?, NodeId.mk.injEq]
    by_cases hj : j < g.slots.length
    · simp [List.getElem?_append_left hj, Nat.ne_of_lt hj]
    · by_cases he : j = g.slots.length
      · subst he
        by_cases hd : δ = 0
        · simp [hd]
        · simp [hd, Ne.symm hd]
      · have hold : g.slots[j]? = none := List.getElem?_eq_none (by omega)
        have hnew : (g.slots ++ [⟨0, some r⟩])[j]? = none :=
          List.getElem?_eq_none (by rw [List.length_append, List.length_singleton]; omega)
        simp [he, hold, hnew]
  · obtain ⟨γ, hγ⟩ := (hg.mem_free_iff i).1 (by simp [hl])
    simp only [nextNode, store, hl, record?, NodeId.mk.injEq, List.getElem?_modify]
    by_cases hij : i = j
    · subst hij
      by_cases hd : δ = γ
      · simp [hγ, hd]
      · simp [hγ, hd, Ne.symm hd]
    · simp [hij, Ne.symm hij]

/-- No record is left after everything is dropped. -/
theorem record?_clear : g.clear.record? n = none := by
  simp only [clear, record?, List.getElem?_map]
  rcases g.slots[n.index]? with _ | ⟨generation, _ | r⟩ <;> simp

/-! ### The free list after each step -/

/-- A change of a record frees no slot. -/
theorem FreeListed.modifyRecord (hg : g.FreeListed) (f : SceneNode → SceneNode) :
    (g.modifyRecord n f).FreeListed where
  free_nodup := hg.free_nodup
  mem_free_iff i := by
    refine (hg.mem_free_iff i).trans ?_
    simp only [SceneGraph.modifyRecord, List.getElem?_modify]
    rcases hs : g.slots[i]? with _ | ⟨γ, _ | r⟩
    · simp
    · by_cases hn : n.index = i <;> by_cases hγ : γ = n.generation <;> simp [hn, hγ]
    · by_cases hn : n.index = i <;> by_cases hγ : γ = n.generation <;> simp [hn, hγ]

/-- A reclaimed slot goes to the free list, where it was not before. -/
theorem FreeListed.reclaim (hg : g.FreeListed) : (g.reclaim n).FreeListed := by
  unfold SceneGraph.reclaim
  split
  · exact hg
  · next r h =>
    rw [record?_eq_some_iff] at h
    have hfresh : n.index ∉ g.freeList := by
      rw [hg.mem_free_iff, h]
      simp
    refine ⟨List.nodup_cons.2 ⟨hfresh, hg.free_nodup⟩, fun i => ?_⟩
    simp only [List.mem_cons, hg.mem_free_iff i, List.getElem?_modify]
    by_cases hi : n.index = i
    · subst hi
      simp [h]
    · simp [hi, Ne.symm hi]

/-- A slot that is filled leaves the free list, if it came from there. -/
theorem FreeListed.store (hg : g.FreeListed) : (g.store g.nextNode r).FreeListed := by
  rcases hl : g.freeList with _ | ⟨i, rest⟩
  · refine ⟨by simp [SceneGraph.store, hl], fun j => ?_⟩
    have hnone := hg.mem_free_iff j
    simp only [hl, List.not_mem_nil, false_iff] at hnone
    simp only [SceneGraph.store, hl, List.not_mem_nil, false_iff]
    by_cases hj : j < g.slots.length
    · rwa [List.getElem?_append_left hj]
    · rw [List.getElem?_append_right (by omega)]
      rcases hk : j - g.slots.length with _ | k <;> simp
  · have hnd := hg.free_nodup
    rw [hl, List.nodup_cons] at hnd
    refine ⟨by simpa [SceneGraph.store, hl] using hnd.2, fun j => ?_⟩
    have hj := hg.mem_free_iff j
    simp only [hl, List.mem_cons] at hj
    simp only [SceneGraph.store, nextNode, hl, List.getElem?_modify]
    by_cases hij : i = j
    · subst hij
      rcases g.slots[i]? with _ | slot <;> simp [hnd.1]
    · simpa [hij, Ne.symm hij] using hj

/-- After a clear every slot is free. -/
theorem FreeListed.clear (hg : g.FreeListed) : g.clear.FreeListed := by
  have hheld : ∀ i, i ∈ (List.range g.slots.length).filter
      (fun i => ((g.slots[i]?).bind Slot.record).isSome) ↔
        ∃ γ r, g.slots[i]? = some ⟨γ, some r⟩ := by
    intro i
    rcases hs : g.slots[i]? with _ | ⟨γ, _ | r⟩
    · simp [hs]
    · simp [hs]
    · obtain ⟨hi, hget⟩ := List.getElem?_eq_some_iff.1 hs
      simp [hi, hget]
  refine ⟨List.nodup_append.2 ⟨?_, hg.free_nodup, ?_⟩, fun i => ?_⟩
  · exact List.nodup_reverse.2 (List.nodup_range.filter _)
  · intro i hi j hj hij
    subst hij
    obtain ⟨γ, r, hr⟩ := (hheld i).1 (List.mem_reverse.1 hi)
    obtain ⟨δ, hδ⟩ := (hg.mem_free_iff i).1 hj
    simp [hr] at hδ
  · simp only [SceneGraph.clear, List.mem_append, List.mem_reverse, hheld, hg.mem_free_iff,
      List.getElem?_map]
    rcases g.slots[i]? with _ | ⟨γ, _ | r⟩ <;> simp

/-! ### The number of records after each step -/

/-- A change of a record stores nothing. -/
theorem liveCount_modifyRecord (f : SceneNode → SceneNode) :
    (g.modifyRecord n f).liveCount = g.liveCount := by
  simp only [liveCount, records, modifyRecord]
  by_cases hi : n.index < g.slots.length
  · obtain ⟨l₁, ⟨γ, record⟩, l₂, hl, -, hm⟩ := List.exists_of_modify (fun slot : Slot =>
      if slot.generation = n.generation then { slot with record := slot.record.map f }
        else slot) hi
    rw [hm, hl]
    by_cases hγ : γ = n.generation <;> cases record <;> simp [hγ]
  · rw [List.modify_eq_self (by omega)]

/-- A slot that is changed gives its old record for its new one. -/
theorem length_records_modify {slots : List Slot} {i : Nat} {slot : Slot}
    (h : slots[i]? = some slot) (f : Slot → Slot) :
    ((slots.modify i f).filterMap Slot.record).length + slot.record.toList.length =
      (slots.filterMap Slot.record).length + (f slot).record.toList.length := by
  obtain ⟨hi, -⟩ := List.getElem?_eq_some_iff.1 h
  obtain ⟨l₁, slot', l₂, hslots, hlen, hm⟩ := List.exists_of_modify f hi
  have hslot : slot' = slot := by
    rw [hslots, ← hlen, List.getElem?_append_right (Nat.le_refl _)] at h
    simpa using h
  have hcons : ∀ (s : Slot) l, ((s :: l).filterMap Slot.record).length =
      s.record.toList.length + (l.filterMap Slot.record).length := by
    intro s l
    cases hs : s.record with
    | none => simp [hs]
    | some r => simp [hs, Nat.add_comm]
  rw [hm, hslots, hslot, List.filterMap_append, List.filterMap_append, List.length_append,
    List.length_append, hcons, hcons]
  omega

/-- A reclaimed node is one record less. -/
theorem liveCount_reclaim (h : g.record? n = some r) :
    (g.reclaim n).liveCount + 1 = g.liveCount := by
  have hcount := length_records_modify (record?_eq_some_iff.1 h)
    fun slot => ⟨slot.generation + 1, none⟩
  simp only [liveCount, records, reclaim, h]
  exact hcount

/-- A record that is stored under the next node takes no place of another one. -/
theorem FreeListed.liveCount_store (hg : g.FreeListed) (r : SceneNode) :
    (g.store g.nextNode r).liveCount = g.liveCount + 1 := by
  rcases hl : g.freeList with _ | ⟨i, rest⟩
  · simp [liveCount, records, SceneGraph.store, hl]
  · obtain ⟨γ, hγ⟩ := (hg.mem_free_iff i).1 (by simp [hl])
    have hcount := length_records_modify hγ fun slot => { slot with record := some r }
    simp only [liveCount, records, SceneGraph.store, nextNode, hl]
    exact hcount

/-- Nothing is left when everything is dropped. -/
theorem liveCount_clear : g.clear.liveCount = 0 := by
  rw [liveCount, List.length_eq_zero_iff, List.eq_nil_iff_forall_not_mem]
  intro r hr
  obtain ⟨n, hn⟩ := mem_records_iff.1 hr
  rw [record?_clear] at hn
  cases hn

end WidgetStage.SceneGraph
