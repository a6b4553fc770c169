import WidgetStage.Proofs.Scene.Destruction

/-!
# Tracked objects

Who uses a scene graph asks by objects and ids: which node stands for an object, which object is
that of the root. This module says what the operations of a well-formed graph do to these
answers.

## Main results

* `WellFormed.find_eq_none_iff`: nothing is found by an id that no alive node has.
* `WellFormed.nodeOf?_destroyAll`: reports take away exactly the nodes of the reported objects.
* `WellFormed.rootObject?_eq_some_iff`: the object that is found without an id is the root.
* `Attached.isRoot_iff`: a node with an id is not the root, and leaves the root as it is.
* `Attached.takeBack`: reporting a new object at once takes back that it was attached.
-/

namespace WidgetStage.SceneGraph

variable {g g' : SceneGraph} {n m : NodeId} {o x : ObjectId} {id : Option String}
  {parent : Option (NodeId × String)} {xs : List ObjectId}

/-- The object is that of the node without an id. -/
def IsRoot (g : SceneGraph) (o : ObjectId) : Prop :=
  ∃ n, g.nodeOf? o = some n ∧ g.id? n = none

/-- The id of a node is that of its record. -/
theorem id?_of_record {r : SceneNode} (h : g.record? n = some r) : g.id? n = r.id := by
  simp [id?, h]

namespace WellFormed

/-- The registered nodes are the alive ones, each with its id. -/
theorem mem_registry_iff (hg : g.WellFormed) :
    (n, id) ∈ g.registry.entries ↔ g.lifecycle n = .alive ∧ g.id? n = id := by
  rw [hg.registered, lifecycle_eq_alive_iff]
  constructor
  · rintro ⟨r, hr, hl, hid⟩
    exact ⟨⟨r, hr, hl⟩, (id?_of_record hr).trans hid⟩
  · rintro ⟨⟨r, hr, hl⟩, hid⟩
    exact ⟨r, hr, hl, (id?_of_record hr).symm.trans hid⟩

/-- Nothing is found by an id that no alive node has. -/
theorem find_eq_none_iff (hg : g.WellFormed) :
    g.find id = none ↔ ∀ n, g.lifecycle n = .alive → g.id? n ≠ id := by
  simp only [find, Registry.find, Option.map_eq_none_iff, List.find?_eq_none, Prod.forall,
    hg.mem_registry_iff, beq_iff_eq]
  constructor
  · intro h n hl hid
    exact h n id ⟨hl, hid⟩ rfl
  · rintro h n i ⟨hl, rfl⟩ hid
    exact h n hl hid

/-- An id is in the registry if an alive node has it. -/
theorem containsId_iff (hg : g.WellFormed) {name : String} :
    g.registry.containsId name = true ↔ ∃ n, g.lifecycle n = .alive ∧ g.id? n = some name := by
  have hnone : g.registry.find (some name) = none ↔
      ∀ n, g.lifecycle n = .alive → g.id? n ≠ some name := hg.find_eq_none_iff
  rw [Registry.containsId, ← not_iff_not, Option.not_isSome_iff_eq_none, hnone]
  simp only [not_exists, not_and, ne_eq]

/-- What is found by an id stands for an object. -/
theorem exists_object_of_find (hg : g.WellFormed) (h : g.find id = some n) :
    ∃ o, g.object? n = some o := by
  obtain ⟨⟨m, i⟩, hfind, rfl⟩ := Option.map_eq_some_iff.1 h
  obtain ⟨r, hr, -⟩ := (hg.registered m i).1 (List.mem_of_find?_eq_some hfind)
  exact ⟨r.object, object?_of_record hr⟩

/-- A node that is found by an id stands for an object and has the id. -/
theorem nodeOf?_of_find (hg : g.WellFormed) (h : g.find id = some n) (ho : g.object? n = some o) :
    g.nodeOf? o = some n ∧ g.id? n = id := by
  simp only [find, Registry.find, Option.map_eq_some_iff] at h
  obtain ⟨⟨k, i⟩, hfind, rfl⟩ := h
  obtain rfl : i = id := by simpa using List.find?_some hfind
  obtain ⟨r, hr, hl, hi⟩ := (hg.registered k i).1 (List.mem_of_find?_eq_some hfind)
  rw [object?_of_record hr, Option.some.injEq] at ho
  exact ⟨(hg.bound o k).2 ⟨r, hr, hl, ho⟩, (id?_of_record hr).trans hi⟩

/-- The alive nodes are those of tracked objects. -/
theorem alive_iff (hg : g.WellFormed) :
    g.lifecycle n = .alive ↔ ∃ o, g.nodeOf? o = some n := by
  simp only [lifecycle_eq_alive_iff, hg.bound]
  constructor
  · rintro ⟨r, hr, hl⟩
    exact ⟨r.object, r, hr, hl, rfl⟩
  · rintro ⟨o, r, hr, hl, -⟩
    exact ⟨r, hr, hl⟩

/-- A tracked object is registered under its id. -/
theorem mem_registry_of_nodeOf? (hg : g.WellFormed) (h : g.nodeOf? o = some n) :
    (n, g.id? n) ∈ g.registry.entries := by
  obtain ⟨r, hr, hl, -⟩ := (hg.bound o n).1 h
  exact (hg.registered n _).2 ⟨r, hr, hl, (id?_of_record hr).symm⟩

/-- The object that is found without an id is the root. -/
theorem rootObject?_eq_some_iff (hg : g.WellFormed) :
    (g.find none).bind g.object? = some o ↔ g.IsRoot o := by
  constructor
  · intro h
    obtain ⟨n, hn, ho⟩ := Option.bind_eq_some_iff.1 h
    obtain ⟨hnode, hid⟩ := hg.nodeOf?_of_find hn ho
    exact ⟨n, hnode, hid⟩
  · rintro ⟨n, hn, hid⟩
    have hmem := hg.mem_registry_of_nodeOf? hn
    rw [hid] at hmem
    have hsome : (g.registry.entries.find? fun e => e.2 == none).isSome := by
      rw [List.find?_isSome]
      exact ⟨_, hmem, rfl⟩
    obtain ⟨⟨k, i⟩, hfind⟩ := Option.isSome_iff_exists.1 hsome
    obtain rfl : i = none := by simpa using List.find?_some hfind
    obtain rfl := hg.one_root k n (List.mem_of_find?_eq_some hfind) hmem
    rw [find, Registry.find, hfind, Option.map_some, Option.bind_some]
    exact hg.object?_of_nodeOf? hn

/-- Reports take away exactly the nodes of the reported objects. -/
theorem nodeOf?_destroyAll (hg : g.WellFormed) (xs : List ObjectId) (o : ObjectId) :
    (g.destroyAll xs).nodeOf? o = if o ∈ xs then none else g.nodeOf? o := by
  rw [(hg.pruned_destroyAll xs).nodeOf?]
  rcases h : g.nodeOf? o with _ | n
  · simp
  · have hgone : g.notified xs n = true ↔ o ∈ xs := by
      rw [notified_eq_true_iff]
      refine ⟨fun ⟨x, hx, hn⟩ => hg.nodeOf?_inj h hn ▸ hx, fun ho => ⟨o, ho, h⟩⟩
    by_cases ho : o ∈ xs
    · simp [ho, hgone.2 ho, Option.filter]
    · simp [ho, hgone.not.2 ho, Option.filter]

/-- A node of which no object is reported keeps its id. -/
theorem id?_destroyAll (hg : g.WellFormed) (h : (g.destroyAll xs).nodeOf? o = some n) :
    (g.destroyAll xs).id? n = g.id? n := by
  obtain ⟨r, hr, hl, -⟩ := ((hg.destroyAll xs).bound o n).1 h
  have hid := ((hg.pruned_destroyAll xs).exists_alive_iff (m := n) (P := fun r' => r'.id = r.id)
    (fun _ _ => Iff.rfl)).1 ⟨r, hr, hl, rfl⟩
  obtain ⟨-, r', hr', -, hid⟩ := hid
  rw [id?_of_record hr, id?_of_record hr', hid]

/-- What is found by an id is found by it as long as it is not reported. -/
theorem find_destroyAll (hg : g.WellFormed) (h : g.find id = some n) (ho : g.nodeOf? o = some n)
    (hkept : o ∉ xs) : (g.destroyAll xs).find id = some n := by
  have hstays : g.notified xs n = false := by
    rw [← Bool.not_eq_true, notified_eq_true_iff]
    rintro ⟨x, hx, hn⟩
    exact hkept (hg.nodeOf?_inj ho hn ▸ hx)
  rw [find, Registry.find] at h ⊢
  obtain ⟨e, he, rfl⟩ := Option.map_eq_some_iff.1 h
  obtain ⟨hid, before, after, hentries, hbefore⟩ := List.find?_eq_some_iff_append.1 he
  -- the entries before it had other ids, and those of them that are left still have
  rw [(hg.pruned_destroyAll xs).registry, hentries, List.filter_append,
    List.filter_cons_of_pos (by rw [hstays]; rfl), List.find?_append,
    List.find?_eq_none.2 fun e' he' => ?_, List.find?_cons_of_pos (by exact hid)]
  · rfl
  · simpa using hbefore e' (List.mem_of_mem_filter he')

/-- The root stays unless it is reported. -/
theorem isRoot_destroyAll_iff (hg : g.WellFormed) (xs : List ObjectId) :
    (g.destroyAll xs).IsRoot o ↔ g.IsRoot o ∧ o ∉ xs := by
  constructor
  · rintro ⟨n, hn, hid⟩
    rw [hg.id?_destroyAll hn] at hid
    rw [hg.nodeOf?_destroyAll] at hn
    split at hn
    · cases hn
    · next ho => exact ⟨⟨n, hn, hid⟩, ho⟩
  · rintro ⟨⟨n, hn, hid⟩, ho⟩
    have hn' : (g.destroyAll xs).nodeOf? o = some n := by
      rw [hg.nodeOf?_destroyAll, if_neg ho, hn]
    exact ⟨n, hn', (hg.id?_destroyAll hn').trans hid⟩

end WellFormed

/-- Alive nodes stand for different objects. -/
theorem WellFormed.nodup_objects (hg : g.WellFormed)
    (halive : ∀ r ∈ g.records, r.lifecycle = .alive) :
    (g.records.map SceneNode.object).Nodup := by
  have hslots : g.slots.Pairwise fun a b =>
      ∀ r ∈ a.record, ∀ r' ∈ b.record, r.object ≠ r'.object := by
    rw [List.pairwise_iff_getElem]
    intro i j hi hj hij r hr r' hr' hobj
    have hnode : ∀ (k : Nat) (hk : k < g.slots.length) (d : SceneNode), g.slots[k].record = some d →
        g.nodeOf? d.object = some ⟨k, g.slots[k].generation⟩ := by
      intro k hk d hd
      have hrecord : g.record? ⟨k, g.slots[k].generation⟩ = some d := by
        rw [record?_eq_some_iff, List.getElem?_eq_getElem hk, ← hd]
      have hmem : d ∈ g.records := mem_records_iff.2 ⟨_, hrecord⟩
      exact (hg.bound _ _).2 ⟨d, hrecord, halive d hmem, rfl⟩
    have hsame := hnode i hi r hr
    rw [hobj, hnode j hj r' hr', Option.some.injEq, NodeId.mk.injEq] at hsame
    exact Nat.ne_of_lt hij hsame.1.symm
  rw [List.Nodup, List.pairwise_map, records, List.pairwise_filterMap]
  exact hslots

/-! ### Fewer tracked objects -/

/-- `g'` tracks nothing that `g` does not track, under the same nodes and the same ids. -/
structure Within (g' g : SceneGraph) : Prop where
  wellFormed : g'.WellFormed
  nodeOf? : ∀ o n, g'.nodeOf? o = some n → g.nodeOf? o = some n
  id? : ∀ o n, g'.nodeOf? o = some n → g'.id? n = g.id? n

/-- A graph with fewer objects has no other root. -/
theorem Within.isRoot (h : g'.Within g) (ho : g'.IsRoot o) : g.IsRoot o := by
  obtain ⟨n, hn, hid⟩ := ho
  exact ⟨n, h.nodeOf? o n hn, (h.id? o n hn).symm.trans hid⟩

/-- A graph tracks what it tracks. -/
theorem WellFormed.within_self (hg : g.WellFormed) : g.Within g :=
  ⟨hg, fun _ _ h => h, fun _ _ _ => rfl⟩

/-- Reports only end that objects are tracked. -/
theorem WellFormed.within_destroyAll (hg : g.WellFormed) (xs : List ObjectId) :
    (g.destroyAll xs).Within g where
  wellFormed := hg.destroyAll xs
  nodeOf? o n hn := by
    rw [hg.nodeOf?_destroyAll] at hn
    split at hn
    · cases hn
    · exact hn
  id? o n hn := hg.id?_destroyAll hn

/-! ### New objects -/

/-- Both graphs store, register and bind the same nodes. They may differ in the slots that are
free and in the count of reclaimed nodes. -/
structure SameNodes (g g' : SceneGraph) : Prop where
  record? : ∀ n, g'.record? n = g.record? n
  registry : g'.registry.entries = g.registry.entries
  nodeOf? : ∀ o, g'.nodeOf? o = g.nodeOf? o

namespace Attached

/-- The new node has the given id; no other node changes its id. -/
theorem id? (h : Attached g o id parent n g') :
    g'.id? m = if m = n then id else g.id? m := by
  by_cases hm : m = n
  · simp [SceneGraph.id?, h.record?, hm, SceneNode.fresh]
  · rcases hr : g.record? m with _ | r <;> simp [SceneGraph.id?, h.record?, hm, hr]

/-- A node with an id is not the root, and leaves the root as it is. -/
theorem isRoot_iff {name : String} (h : Attached g o (some name) parent n g')
    (hg : g.WellFormed) : g'.IsRoot x ↔ g.IsRoot x := by
  constructor
  · rintro ⟨m, hm, hid⟩
    rw [h.id?] at hid
    split at hid
    · cases hid
    next hmn =>
    rw [h.nodeOf?] at hm
    split at hm
    · cases hm
      exact absurd rfl hmn
    · exact ⟨m, hm, hid⟩
  · rintro ⟨m, hm, hid⟩
    have hxo : x ≠ o := by
      rintro rfl
      simp [h.untracked] at hm
    refine ⟨m, ?_, ?_⟩
    · rw [h.nodeOf?, if_neg hxo, hm]
    · rw [h.id?, if_neg (h.ne_of_nodeOf? hg hm), hid]

/-- A node without an id, in a graph without nodes, is the root. -/
theorem isRoot_of_empty (h : Attached empty o none parent n g') : g'.IsRoot x ↔ x = o := by
  have hnone : ∀ y, empty.nodeOf? y = none := fun y => rfl
  constructor
  · rintro ⟨m, hm, -⟩
    rw [h.nodeOf?, hnone] at hm
    by_contra hx
    simp [hx] at hm
  · rintro rfl
    exact ⟨n, by rw [h.nodeOf?, if_pos rfl], by rw [h.id?, if_pos rfl]⟩

/-- Only the new node is concerned if only its object is reported. -/
theorem notified_iff (h : Attached g o id parent n g') (hxs : ∀ x, x ∈ xs ↔ x = o) :
    g'.notified xs m = true ↔ m = n := by
  rw [notified_eq_true_iff]
  simp only [hxs, exists_eq_left, h.nodeOf?, if_true, Option.some.injEq]
  exact eq_comm

/-- Reporting the new object takes back that it was attached. -/
theorem sameNodes_takeBack (h : Attached g o id parent n g') (hg : g.WellFormed)
    (hxs : ∀ x, x ∈ xs ↔ x = o) : SameNodes g (g'.destroyAll xs) where
  record? m := by
    have hgone : ∀ k, k ≠ n → g'.notified xs k = false := fun k hk => by
      simpa using (h.notified_iff hxs).not.2 hk
    rw [((h.wellFormed hg).pruned_destroyAll xs).record?, h.record?]
    by_cases hm : m = n
    · have hn : g'.notified xs n = true := (h.notified_iff hxs).2 rfl
      rw [hm, if_pos rfl, Option.bind_some, h.unstored]
      simp [SceneNode.remaining, SceneNode.fresh, hn]
    · rw [if_neg hm, Option.bind_map]
      rcases hr : g.record? m with _ | r
      · rfl
      · have hedges : (edgesUnder parent n m).filter (fun e => !g'.notified xs e.node) = [] := by
          refine List.filter_eq_nil_iff.2 fun e he => ?_
          obtain ⟨slot, -, rfl⟩ := mem_edgesUnder.1 he
          simpa using (h.notified_iff hxs).2 rfl
        have hold : ∀ e ∈ r.children, g'.notified xs e.node = false := fun e he =>
          hgone e.node (h.ne_of_edge hg (children_of_record hr ▸ he))
        rw [Option.bind_some, ← hg.remaining_eq_self hr (fun _ => hgone m hm) hold]
        simp only [Function.comp, SceneNode.remaining, List.filter_append, hedges, List.append_nil]
  registry := by
    rw [((h.wellFormed hg).pruned_destroyAll xs).registry, h.registry, List.filter_append]
    have hold : (g.registry.entries.filter fun e => !g'.notified xs e.1) = g.registry.entries := by
      refine List.filter_eq_self.2 fun e he => ?_
      simpa using (h.notified_iff hxs).not.2 (h.ne_of_registered hg he)
    have hnew : ([(n, id)].filter fun e => !g'.notified xs e.1) = [] := by
      refine List.filter_eq_nil_iff.2 fun e he => ?_
      rw [List.mem_singleton.1 he]
      simpa using (h.notified_iff hxs).2 rfl
    rw [hold, hnew, List.append_nil]
  nodeOf? x := by
    rw [(h.wellFormed hg).nodeOf?_destroyAll, h.nodeOf?]
    by_cases hx : x = o
    · rw [if_pos ((hxs x).2 hx), hx, h.untracked]
    · rw [if_neg ((hxs x).not.2 hx), if_neg hx]

/-- So objects have the nodes, and nodes the children, that they had before. -/
theorem takeBack (h : Attached g o id parent n g') (hg : g.WellFormed)
    (hxs : ∀ x, x ∈ xs ↔ x = o) :
    (∀ x, (g'.destroyAll xs).nodeOf? x = g.nodeOf? x) ∧
      ∀ m, (g'.destroyAll xs).children m = g.children m := by
  have hsame := h.sameNodes_takeBack hg hxs
  exact ⟨hsame.nodeOf?, fun m => by rw [SceneGraph.children, SceneGraph.children, hsame.record?]⟩

/-- The root is as before, too. -/
theorem isRoot_takeBack_iff {name : String} (h : Attached g o (some name) parent n g')
    (hg : g.WellFormed) (hxs : ∀ x, x ∈ xs ↔ x = o) :
    (g'.destroyAll xs).IsRoot x ↔ g.IsRoot x := by
  rw [(h.wellFormed hg).isRoot_destroyAll_iff, h.isRoot_iff hg, hxs]
  refine and_iff_left_of_imp ?_
  rintro ⟨m, hm, -⟩ rfl
  rw [h.untracked] at hm
  cases hm

/-- When the new object is reported again, nothing new is tracked. -/
theorem within_takeBack (h : Attached g o id parent n g') (hg : g.WellFormed)
    (hxs : ∀ x, x ∈ xs ↔ x = o) : (g'.destroyAll xs).Within g where
  wellFormed := (h.wellFormed hg).destroyAll xs
  nodeOf? x m hm := by rwa [(h.takeBack hg hxs).1] at hm
  id? x m hm := by
    rw [(h.wellFormed hg).id?_destroyAll hm, h.id?, if_neg]
    rw [(h.takeBack hg hxs).1] at hm
    exact h.ne_of_nodeOf? hg hm

end Attached

end WidgetStage.SceneGraph
