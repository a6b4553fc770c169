import Mathlib.Logic.Relation
import WidgetStage.Proofs.Scene.Records

/-!
# Well-formed scene graphs

A scene graph keeps what it knows in five places: the slots with their records, the free list,
the registry, the table of objects, and the child lists. `SceneGraph.WellFormed` says how they
agree. Only alive nodes have parents: a node loses its parent when it is destroyed, so a pending
node is a root of the forest that waits for its children.

## Main results

* `attached_of_attach`: what attaching does to a graph is said once, by `Attached`.
* `Attached.wellFormed`: attaching keeps a graph well-formed.
* `WellFormed.clear`: so does dropping everything.

Destroying is the subject of `WidgetStage.Proofs.Scene.Destruction`.
-/

namespace WidgetStage.SceneGraph

/-- The five places in which a graph keeps its nodes agree. -/
structure WellFormed (g : SceneGraph) : Prop extends FreeListed g where
  /-- Objects are bound to exactly the alive nodes that stand for them. -/
  bound : ∀ o n, g.nodeOf? o = some n ↔
    ∃ r, g.record? n = some r ∧ r.lifecycle = .alive ∧ r.object = o
  /-- The registry holds exactly the alive nodes, with the ids of their records. -/
  registered : ∀ n id, (n, id) ∈ g.registry.entries ↔
    ∃ r, g.record? n = some r ∧ r.lifecycle = .alive ∧ r.id = id
  /-- No node is registered twice. -/
  registered_once : (g.registry.entries.map Prod.fst).Nodup
  /-- At most one node is registered without an id. -/
  one_root : ∀ m n, (m, none) ∈ g.registry.entries → (n, none) ∈ g.registry.entries → m = n
  /-- A node is listed as a child exactly by its parent. -/
  linked : ∀ p c, (∃ e ∈ g.children p, e.node = c) ↔ g.parent? c = some p
  /-- No child is listed twice. -/
  linked_once : ∀ p, ((g.children p).map ChildEdge.node).Nodup
  /-- A node with a parent is alive, and the parent is stored. -/
  parent_stored : ∀ c p, g.parent? c = some p → g.lifecycle c = .alive ∧
    (g.lifecycle p = .alive ∨ g.lifecycle p = .pendingDelete)
  /-- A pending node has no parent any more, and still has children. -/
  pending_waits : ∀ n, g.lifecycle n = .pendingDelete → g.parent? n = none ∧ g.children n ≠ []
  /-- Nothing is stored about a reclaimed node. -/
  not_reclaimed : ∀ n r, g.record? n = some r → r.lifecycle ≠ .reclaimed
  /-- No node is above itself. -/
  forest : ∀ n, ¬ Relation.TransGen (fun c p => g.parent? c = some p) n n

variable {g g' : SceneGraph} {n m : NodeId} {r : SceneNode} {o : ObjectId} {id : Option String}
  {parent : Option (NodeId × String)}

/-! ### First consequences -/

namespace WellFormed

/-- A stored node is alive or pending. -/
theorem alive_or_pending (hg : g.WellFormed) (h : g.record? n = some r) :
    r.lifecycle = .alive ∨ r.lifecycle = .pendingDelete := by
  have hr := hg.not_reclaimed n r h
  cases hl : r.lifecycle with
  | alive => exact Or.inl rfl
  | pendingDelete => exact Or.inr rfl
  | reclaimed => exact absurd hl hr

/-- No node is its own parent. -/
theorem parent?_ne_self (hg : g.WellFormed) : g.parent? n ≠ some n :=
  fun h => hg.forest n (.single h)

/-- A parent is stored. -/
theorem exists_record_of_parent (hg : g.WellFormed) {p : NodeId} (h : g.parent? n = some p) :
    ∃ rp, g.record? p = some rp := by
  obtain ⟨-, hp | hp⟩ := hg.parent_stored n p h
  · obtain ⟨rp, hrp, -⟩ := lifecycle_eq_alive_iff.1 hp
    exact ⟨rp, hrp⟩
  · obtain ⟨rp, hrp, -⟩ := lifecycle_eq_pendingDelete_iff.1 hp
    exact ⟨rp, hrp⟩

/-- Only stored nodes are listed as children. -/
theorem exists_record_of_edge (hg : g.WellFormed) {p : NodeId} {e : ChildEdge}
    (he : e ∈ g.children p) : ∃ r, g.record? e.node = some r ∧ r.parent = some p := by
  have hp := (hg.linked p e.node).1 ⟨e, he, rfl⟩
  rcases h : g.record? e.node with _ | r
  · simp [parent?, h] at hp
  · exact ⟨r, rfl, by simpa [parent?, h] using hp⟩

/-- A bound object is that of its node. -/
theorem object?_of_nodeOf? (hg : g.WellFormed) (h : g.nodeOf? o = some n) :
    g.object? n = some o := by
  obtain ⟨r, hr, -, ho⟩ := (hg.bound o n).1 h
  rw [object?_of_record hr, ho]

/-- Two objects are not bound to one node. -/
theorem nodeOf?_inj (hg : g.WellFormed) {o' : ObjectId} (h : g.nodeOf? o = some n)
    (h' : g.nodeOf? o' = some n) : o = o' := by
  have ho := hg.object?_of_nodeOf? h
  rw [hg.object?_of_nodeOf? h'] at ho
  exact (Option.some.inj ho).symm

end WellFormed

/-! ### Graphs without nodes -/

/-- A graph without records, registered nodes and bound objects is well-formed. -/
theorem wellFormed_of_bare (hfree : g.FreeListed) (hrecord : ∀ n, g.record? n = none)
    (hregistry : g.registry = .empty) (hobjects : g.byObject = []) : g.WellFormed where
  toFreeListed := hfree
  bound o n := by simp [nodeOf?, hobjects, hrecord]
  registered n id := by simp [hregistry, Registry.empty, hrecord]
  registered_once := by simp [hregistry, Registry.empty]
  one_root m n hm := by simp [hregistry, Registry.empty] at hm
  linked p c := by simp [children_of_record_none (hrecord p), parent?_of_record_none (hrecord c)]
  linked_once p := by simp [children_of_record_none (hrecord p)]
  parent_stored c p h := by simp [parent?_of_record_none (hrecord c)] at h
  pending_waits n h := by simp [lifecycle, hrecord n] at h
  not_reclaimed n r h := by simp [hrecord n] at h
  forest n h := by
    obtain ⟨p, hp, -⟩ := Relation.TransGen.head'_iff.1 h
    simp [parent?_of_record_none (hrecord n)] at hp

/-- The graph without nodes is well-formed. -/
theorem wellFormed_empty : empty.WellFormed :=
  wellFormed_of_bare ⟨List.nodup_nil, fun i => by simp [empty]⟩ (fun n => by simp [record?, empty])
    rfl rfl

/-- Dropping everything keeps a graph well-formed. -/
theorem WellFormed.clear (hg : g.WellFormed) : g.clear.WellFormed :=
  wellFormed_of_bare hg.toFreeListed.clear (fun _ => record?_clear) rfl rfl

/-! ### Attaching -/

/-- The edges that a new child brings to a node: one if it is the parent. -/
def edgesUnder (parent : Option (NodeId × String)) (child m : NodeId) : List ChildEdge :=
  match parent with
  | some (p, slot) => if p = m then [⟨child, slot⟩] else []
  | none => []

/-- The only new edge is the one from the given parent to the child. -/
theorem mem_edgesUnder {child : NodeId} {e : ChildEdge} :
    e ∈ edgesUnder parent child m ↔ ∃ slot, parent = some (m, slot) ∧ e = ⟨child, slot⟩ := by
  rcases parent with _ | ⟨p, slot⟩
  · simp [edgesUnder]
  · by_cases hp : p = m
    · simp [edgesUnder, hp]
    · simp [edgesUnder, hp]

/-- A new child has at most one new edge, under its parent. -/
theorem exists_edgesUnder_iff {child c : NodeId} :
    (∃ e ∈ edgesUnder parent child m, e.node = c) ↔ c = child ∧ parent.map Prod.fst = some m := by
  simp only [mem_edgesUnder, Option.map_eq_some_iff]
  constructor
  · rintro ⟨e, ⟨slot, hp, rfl⟩, rfl⟩
    exact ⟨rfl, ⟨m, slot⟩, hp, rfl⟩
  · rintro ⟨rfl, ⟨p, slot⟩, hp, rfl⟩
    exact ⟨⟨c, slot⟩, ⟨slot, hp, rfl⟩, rfl⟩

/-- A new node is one child at most. -/
theorem nodup_edgesUnder {child : NodeId} :
    ((edgesUnder parent child m).map ChildEdge.node).Nodup := by
  rcases parent with _ | ⟨p, slot⟩
  · simp [edgesUnder]
  · by_cases hp : p = m
    · simp [edgesUnder, hp]
    · simp [edgesUnder, hp]

/-- What attaching does: `g'` is `g` with the new node `n` of an object that was not tracked. -/
structure Attached (g : SceneGraph) (o : ObjectId) (id : Option String)
    (parent : Option (NodeId × String)) (n : NodeId) (g' : SceneGraph) : Prop where
  untracked : g.nodeOf? o = none
  parent_alive : ∀ p slot, parent = some (p, slot) → g.lifecycle p = .alive
  no_root : id = none → ∀ m, (m, none) ∉ g.registry.entries
  unstored : g.record? n = none
  free : g'.FreeListed
  registry : g'.registry.entries = g.registry.entries ++ [(n, id)]
  nodeOf? : ∀ x, g'.nodeOf? x = if x = o then some n else g.nodeOf? x
  record? : ∀ m, g'.record? m =
    if m = n then some (.fresh o id (parent.map Prod.fst))
    else (g.record? m).map fun r => { r with children := r.children ++ edgesUnder parent n m }

/-- What is registered comes last, and a root only if there is no root yet. -/
theorem register_eq_ok {reg reg' : Registry} (h : reg.register n id = .ok reg') :
    reg'.entries = reg.entries ++ [(n, id)] ∧ (id = none → ∀ m, (m, none) ∉ reg.entries) := by
  unfold Registry.register at h
  split at h
  · cases h
  · next hroot =>
    cases h
    refine ⟨rfl, fun hid m hm => ?_⟩
    subst hid
    have hnone : reg.root = none := by
      cases hr : reg.root with
      | none => rfl
      | some root => exact absurd hr (hroot root rfl)
    simp only [Registry.root, Registry.find, Option.map_eq_none_iff, List.find?_eq_none] at hnone
    exact absurd (hnone _ hm) (by simp)

/-- The check does not pass with a parent that is not alive. -/
theorem parentAlive_eq_ok (h : g.parentAlive parent = .ok ()) (p : NodeId) (slot : String)
    (hp : parent = some (p, slot)) : g.lifecycle p = .alive := by
  subst hp
  by_contra hne
  simp [parentAlive, hne] at h

/-- The graph with a record under the next node, before its parent hears of it. -/
def tracking (g : SceneGraph) (o : ObjectId) (r : SceneNode) (reg : Registry) : SceneGraph :=
  { g.store g.nextNode r with registry := reg, byObject := (o, g.nextNode) :: g.byObject }

/-- The graph in which the parent of a node, if it has one, lists it. -/
def listing (g : SceneGraph) (parent : Option (NodeId × String)) (n : NodeId) : SceneGraph :=
  match parent with
  | some (p, slot) => g.modifyRecord p fun r => r.addChild ⟨n, slot⟩
  | none => g

/-- Storing a record does not look at the table of objects. -/
theorem store_byObject : (g.store n r).byObject = g.byObject := by
  unfold store
  split <;> rfl

/-- The only way to attach a node: nothing refuses it, the next node is stored, and the parent
gets an edge to it. -/
theorem attach_ok_cases (h : g.attach o id parent = .ok (n, g')) :
    g.nodeOf? o = none ∧ g.parentAlive parent = .ok () ∧ n = g.nextNode ∧
      ∃ reg, g.registry.register n id = .ok reg ∧
        g' = (g.tracking o (.fresh o id (parent.map Prod.fst)) reg).listing parent n := by
  unfold attach at h
  split at h
  · cases h
  next hun =>
  cases hpar : g.parentAlive parent with
  | error e => simp [hpar] at h
  | ok u =>
      cases hreg : g.registry.register g.nextNode id with
      | error e => simp [hpar, hreg] at h
      | ok reg =>
          refine ⟨by simpa using hun, rfl, ?_⟩
          rcases parent with _ | ⟨p, slot⟩
          · simp only [hpar, hreg, Except.ok.injEq, Prod.mk.injEq] at h
            obtain ⟨rfl, rfl⟩ := h
            exact ⟨rfl, reg, hreg, by simp only [listing, tracking, store_byObject]⟩
          · simp only [hpar, hreg, Except.ok.injEq, Prod.mk.injEq] at h
            obtain ⟨rfl, rfl⟩ := h
            exact ⟨rfl, reg, hreg, by simp only [listing, tracking, store_byObject]⟩

/-- A node is attached if nothing stands against it. -/
theorem exists_attach (huntracked : g.nodeOf? o = none)
    (halive : ∀ p slot, parent = some (p, slot) → g.lifecycle p = .alive)
    (hroot : id = none → g.find none = none) : ∃ n g', g.attach o id parent = .ok (n, g') := by
  have hparent : g.parentAlive parent = .ok () := by
    rcases parent with _ | ⟨p, slot⟩
    · rfl
    · rw [parentAlive, if_pos (halive p slot rfl)]
  obtain ⟨reg, hreg⟩ : ∃ reg, g.registry.register g.nextNode id = .ok reg := by
    rcases id with _ | id
    · have hnone : g.registry.root = none := hroot rfl
      simp [Registry.register, hnone]
    · exact ⟨_, rfl⟩
  rcases parent with _ | ⟨p, slot⟩
  · simp [attach, huntracked, hparent, hreg]
  · simp [attach, huntracked, hparent, hreg]

/-- A stored node is found at its object, and every other one where it was. -/
theorem nodeOf?_tracking (r : SceneNode) (reg : Registry) (x : ObjectId) :
    (g.tracking o r reg).nodeOf? x = if x = o then some g.nextNode else g.nodeOf? x := by
  by_cases hx : x = o
  · simp [nodeOf?, tracking, hx]
  · have hb : (x == o) = false := by simpa using hx
    simp [nodeOf?, tracking, List.lookup_cons, hb, hx]

/-- An attached node brings exactly what `Attached` says. -/
theorem attached_of_attach (hg : g.FreeListed) (h : g.attach o id parent = .ok (n, g')) :
    Attached g o id parent n g' := by
  obtain ⟨hun, hpar, rfl, reg, hreg, rfl⟩ := attach_ok_cases h
  obtain ⟨hentries, hroot⟩ := register_eq_ok hreg
  have halive := parentAlive_eq_ok hpar
  have hnone := hg.record?_nextNode
  have hrecord : ∀ r m, (g.tracking o r reg).record? m =
      if m = g.nextNode then some r else g.record? m := fun r m => hg.record?_store
  have hfree : ∀ r, (g.tracking o r reg).FreeListed := fun r =>
    ⟨(hg.store (r := r)).1, (hg.store (r := r)).2⟩
  rcases parent with _ | ⟨p, slot⟩
  · refine ⟨hun, halive, hroot, hnone, hfree _, hentries, nodeOf?_tracking _ reg, fun m => ?_⟩
    simp [listing, hrecord, edgesUnder]
  · refine ⟨hun, halive, hroot, hnone, (hfree _).modifyRecord _, hentries,
      nodeOf?_tracking (.fresh o id (some p)) reg, fun m => ?_⟩
    have hp : p ≠ g.nextNode := by
      rintro rfl
      simpa [lifecycle, hnone] using halive _ slot rfl
    rw [listing, record?_modifyRecord, hrecord]
    by_cases hm : m = p
    · subst hm
      simp [hp, edgesUnder, SceneNode.addChild]
    · by_cases hn : m = g.nextNode
      · simp [hn, Ne.symm hp]
      · simp [hm, hn, edgesUnder, Ne.symm hm]

namespace Attached

/-- The new node is alive; no other node changes its state. -/
theorem lifecycle (h : Attached g o id parent n g') :
    g'.lifecycle m = if m = n then .alive else g.lifecycle m := by
  by_cases hm : m = n
  · simp [SceneGraph.lifecycle, h.record?, hm, SceneNode.fresh]
  · rcases hr : g.record? m with _ | r <;> simp [SceneGraph.lifecycle, h.record?, hm, hr]

/-- The new node has the given parent; no other node changes its parent. -/
theorem parent? (h : Attached g o id parent n g') :
    g'.parent? m = if m = n then parent.map Prod.fst else g.parent? m := by
  by_cases hm : m = n
  · simp [SceneGraph.parent?, h.record?, hm, SceneNode.fresh]
  · rcases hr : g.record? m with _ | r <;> simp [SceneGraph.parent?, h.record?, hm, hr]

/-- The parent of the new node lists it last; no other list of children changes. -/
theorem children (h : Attached g o id parent n g') :
    g'.children m = g.children m ++ edgesUnder parent n m := by
  by_cases hm : m = n
  · subst hm
    have hself : edgesUnder parent m m = [] := by
      refine List.eq_nil_iff_forall_not_mem.2 fun e he => ?_
      obtain ⟨slot, hp, -⟩ := mem_edgesUnder.1 he
      simpa [SceneGraph.lifecycle, h.unstored] using h.parent_alive m slot hp
    simp [SceneGraph.children, h.record?, h.unstored, hself, SceneNode.fresh]
  · rcases hr : g.record? m with _ | r
    · have hnil : edgesUnder parent n m = [] := by
        refine List.eq_nil_iff_forall_not_mem.2 fun e he => ?_
        obtain ⟨slot, hp, -⟩ := mem_edgesUnder.1 he
        simpa [SceneGraph.lifecycle, hr] using h.parent_alive m slot hp
      simp [SceneGraph.children, h.record?, hm, hr, hnil]
    · simp [SceneGraph.children, h.record?, hm, hr]

/-- What a record says, its children apart, is not changed for any other node. -/
theorem exists_record_iff (h : Attached g o id parent n g') {P : SceneNode → Prop}
    (hP : ∀ r children, P { r with children := children } ↔ P r) (hm : m ≠ n) :
    (∃ r, g'.record? m = some r ∧ P r) ↔ ∃ r, g.record? m = some r ∧ P r := by
  rcases hr : g.record? m with _ | r
  · simp [h.record?, hm, hr]
  · simp [h.record?, hm, hr, hP]

/-- The new node stands for no old object. -/
theorem ne_of_nodeOf? (h : Attached g o id parent n g') (hg : g.WellFormed) {x : ObjectId}
    (hx : g.nodeOf? x = some m) : m ≠ n := by
  rintro rfl
  obtain ⟨r, hr, -⟩ := (hg.bound x m).1 hx
  simp [h.unstored] at hr

/-- It was not registered. -/
theorem ne_of_registered (h : Attached g o id parent n g') (hg : g.WellFormed)
    {i : Option String} (hi : (m, i) ∈ g.registry.entries) : m ≠ n := by
  rintro rfl
  obtain ⟨r, hr, -⟩ := (hg.registered m i).1 hi
  simp [h.unstored] at hr

/-- It was no child. -/
theorem ne_of_edge (h : Attached g o id parent n g') (hg : g.WellFormed) {e : ChildEdge}
    (he : e ∈ g.children m) : e.node ≠ n := by
  intro hen
  obtain ⟨r, hr, -⟩ := hg.exists_record_of_edge he
  simp [hen, h.unstored] at hr

/-- A parent exists before its child comes. -/
theorem ne_of_parent (h : Attached g o id parent n g') (hg : g.WellFormed) {c p : NodeId}
    (hp : g'.parent? c = some p) : p ≠ n := by
  rintro rfl
  rw [h.parent?] at hp
  split at hp
  · obtain ⟨⟨q, slot⟩, hq, rfl⟩ := Option.map_eq_some_iff.1 hp
    simpa [SceneGraph.lifecycle, h.unstored] using h.parent_alive q slot hq
  · obtain ⟨rp, hrp⟩ := hg.exists_record_of_parent hp
    simp [h.unstored] at hrp

/-- A way up from an old node stays among the old nodes. -/
theorem transGen_of_ne (h : Attached g o id parent n g') (hg : g.WellFormed) {a b : NodeId}
    (hab : Relation.TransGen (fun c p => g'.parent? c = some p) a b) (ha : a ≠ n) :
    Relation.TransGen (fun c p => g.parent? c = some p) a b := by
  induction hab using Relation.TransGen.head_induction_on with
  | single hp =>
      rw [h.parent?, if_neg ha] at hp
      exact .single hp
  | head hp _ ih =>
      have hne := h.ne_of_parent hg hp
      rw [h.parent?, if_neg ha] at hp
      exact .head hp (ih hne)

/-- Attaching keeps a graph well-formed. -/
theorem wellFormed (h : Attached g o id parent n g') (hg : g.WellFormed) : g'.WellFormed where
  toFreeListed := h.free
  bound x k := by
    rw [h.nodeOf?]
    by_cases hk : k = n
    · subst hk
      have hx : g.nodeOf? x ≠ some k := fun hx => h.ne_of_nodeOf? hg hx rfl
      by_cases hxo : x = o
      · simp [h.record?, hxo, SceneNode.fresh]
      · simpa [h.record?, hxo, SceneNode.fresh, Ne.symm hxo] using hx
    · rw [h.exists_record_iff (P := fun r => r.lifecycle = .alive ∧ r.object = x)
        (fun _ _ => Iff.rfl) hk, ← hg.bound x k]
      by_cases hxo : x = o
      · simp [hxo, h.untracked, Ne.symm hk]
      · simp [hxo]
  registered k i := by
    rw [h.registry, List.mem_append, List.mem_singleton, Prod.mk.injEq]
    by_cases hk : k = n
    · subst hk
      have hold : (k, i) ∉ g.registry.entries := fun hi => h.ne_of_registered hg hi rfl
      simp [hold, h.record?, SceneNode.fresh, eq_comm]
    · rw [h.exists_record_iff (P := fun r => r.lifecycle = .alive ∧ r.id = i)
        (fun _ _ => Iff.rfl) hk, ← hg.registered k i]
      simp [hk]
  registered_once := by
    rw [h.registry, List.map_append, List.nodup_append]
    refine ⟨hg.registered_once, List.nodup_singleton n, fun k hk k' hk' hkk => ?_⟩
    obtain ⟨⟨k, i⟩, hi, rfl⟩ := List.mem_map.1 hk
    exact h.ne_of_registered hg hi (hkk.trans (List.mem_singleton.1 hk'))
  one_root k k' hk hk' := by
    simp only [h.registry, List.mem_append, List.mem_singleton, Prod.mk.injEq] at hk hk'
    rcases hk with hk | ⟨rfl, hid⟩ <;> rcases hk' with hk' | ⟨rfl, hid'⟩
    · exact hg.one_root k k' hk hk'
    · exact absurd hk (h.no_root hid'.symm k)
    · exact absurd hk' (h.no_root hid.symm k')
    · rfl
  linked p c := by
    simp only [h.children, List.mem_append, or_and_right, exists_or, h.parent?]
    rw [hg.linked, exists_edgesUnder_iff]
    by_cases hc : c = n
    · simp [hc, parent?_of_record_none h.unstored]
    · simp [hc]
  linked_once p := by
    rw [h.children, List.map_append, List.nodup_append]
    refine ⟨hg.linked_once p, nodup_edgesUnder, fun c hc c' hc' hcc => ?_⟩
    obtain ⟨e, he, rfl⟩ := List.mem_map.1 hc
    obtain ⟨hnew, -⟩ := exists_edgesUnder_iff.1 (List.mem_map.1 hc')
    exact h.ne_of_edge hg he (hcc.trans hnew)
  parent_stored c p hp := by
    have hpn := h.ne_of_parent hg hp
    rw [h.lifecycle, h.lifecycle, if_neg hpn]
    rw [h.parent?] at hp
    split at hp
    · next hc =>
      obtain ⟨⟨q, slot⟩, hq, rfl⟩ := Option.map_eq_some_iff.1 hp
      exact ⟨if_pos hc, Or.inl (h.parent_alive q slot hq)⟩
    · next hc =>
      rw [if_neg hc]
      exact hg.parent_stored c p hp
  pending_waits k hk := by
    rw [h.lifecycle] at hk
    split at hk
    · cases hk
    · next hkn =>
      obtain ⟨hp, hc⟩ := hg.pending_waits k hk
      rw [h.parent?, if_neg hkn, h.children]
      exact ⟨hp, List.append_ne_nil_of_left_ne_nil hc _⟩
  not_reclaimed k r hk := by
    rw [h.record?] at hk
    split at hk
    · cases hk
      simp [SceneNode.fresh]
    · obtain ⟨r, hr, rfl⟩ := Option.map_eq_some_iff.1 hk
      exact hg.not_reclaimed k r hr
  forest k hk := by
    refine hg.forest k (h.transGen_of_ne hg hk ?_)
    obtain ⟨p, -, hp⟩ := Relation.TransGen.tail'_iff.1 hk
    exact h.ne_of_parent hg hp

end Attached

end WidgetStage.SceneGraph
