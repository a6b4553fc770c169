import Mathlib.Data.List.Sigma
import Mathlib.Logic.Equiv.Basic
import WidgetStage.Proofs.Scene.Runs
import WidgetStage.Proofs.Scene.Tracking

/-!
# Renamed scene graphs

Which slots are free, and which of them was freed last, shows in the names of new nodes and nowhere
else. Two graphs that are the same up to the names of their nodes stay so: a new node is attached to
both, whatever its name is in either, and reports about the same objects reach both, in whatever
order. The renaming is a permutation of all names; a new node extends it by a swap of two names
that neither graph uses.

## Main results

* `Renamed`: the second graph is the first one under other names.
* `Renamed.exists_attached`: a new node keeps graphs renamed.
* `Renamed.destroyAll`: so do reports about the same objects.
* `Renamed.liveCount_eq`, `Renamed.stats_eq`: renamed graphs count the same.
-/

namespace WidgetStage

/-- An edge to the renamed child. -/
def ChildEdge.rename (ρ : NodeId → NodeId) (e : ChildEdge) : ChildEdge :=
  { e with node := ρ e.node }

/-- What is stored about a node, with the names of other nodes changed. -/
def SceneNode.rename (ρ : NodeId → NodeId) (r : SceneNode) : SceneNode :=
  { r with parent := r.parent.map ρ, children := r.children.map (ChildEdge.rename ρ) }

/-- A parent under its new name, and the slot that it has for a child. -/
def renameParent (ρ : NodeId → NodeId) (parent : Option (NodeId × String)) :
    Option (NodeId × String) :=
  parent.map fun e => (ρ e.1, e.2)

namespace SceneGraph

/-- `g'` is `g` with every node `n` called `ρ n`. -/
structure Renamed (ρ : Equiv.Perm NodeId) (g g' : SceneGraph) : Prop where
  record? : ∀ n, g'.record? (ρ n) = (g.record? n).map (SceneNode.rename ρ)
  registry : g'.registry.entries = g.registry.entries.map fun e => (ρ e.1, e.2)
  nodeOf? : ∀ o, g'.nodeOf? o = (g.nodeOf? o).map ρ
  reclaimedTotal : g'.reclaimedTotal = g.reclaimedTotal

variable {ρ ρ' : Equiv.Perm NodeId} {g g' d d' : SceneGraph} {n n' m : NodeId} {o : ObjectId}
  {id : Option String} {parent : Option (NodeId × String)} {xs ys : List ObjectId}
  {r : SceneNode}

/-! ### Names that are in use -/

/-- A record does not change under the names that its nodes have. -/
theorem rename_refl (r : SceneNode) : r.rename (Equiv.refl NodeId) = r := by
  have hedge : ChildEdge.rename (Equiv.refl NodeId) = id := rfl
  have hname : (Equiv.refl NodeId : NodeId → NodeId) = id := rfl
  rw [SceneNode.rename, hedge, hname, List.map_id, Option.map_id]
  rfl

/-- A graph is itself under the names that it has. -/
theorem renamed_refl (g : SceneGraph) : Renamed (Equiv.refl NodeId) g g where
  record? n := by
    have hid : SceneNode.rename (Equiv.refl NodeId) = id := funext rename_refl
    rw [hid, Option.map_id]
    rfl
  registry := (List.map_id _).symm
  nodeOf? o := by
    rcases g.nodeOf? o with _ | n <;> rfl
  reclaimedTotal := rfl

/-- Names that are not in use can be exchanged for others. -/
theorem Renamed.congr (h : Renamed ρ g g') (hg : g.WellFormed)
    (hsame : ∀ n, (g.record? n).isSome → ρ' n = ρ n) : Renamed ρ' g g' where
  record? n := by
    rcases hr : g.record? n with _ | r
    · -- `ρ' n` is the name under `ρ` of a node that is not stored either
      have hback : ρ (ρ.symm (ρ' n)) = ρ' n := ρ.apply_symm_apply _
      rw [← hback, h.record?, Option.map_none, Option.map_eq_none_iff]
      by_contra hstored
      have hm := hsame _ (Option.isSome_iff_ne_none.2 hstored)
      rw [hback] at hm
      rw [ρ'.injective hm, hr] at hstored
      exact hstored rfl
    · have hn : ρ' n = ρ n := hsame n (by rw [hr]; rfl)
      have hparent : r.parent.map ρ' = r.parent.map ρ := by
        rcases hp : r.parent with _ | p
        · rfl
        · obtain ⟨rp, hrp⟩ := hg.exists_record_of_parent ((parent?_of_record hr).trans hp)
          rw [Option.map_some, Option.map_some, hsame p (by rw [hrp]; rfl)]
      have hchildren : r.children.map (ChildEdge.rename ρ') =
          r.children.map (ChildEdge.rename ρ) := by
        refine List.map_congr_left fun e he => ?_
        obtain ⟨rc, hrc, -⟩ := hg.exists_record_of_edge (children_of_record hr ▸ he)
        rw [ChildEdge.rename, ChildEdge.rename, hsame e.node (by rw [hrc]; rfl)]
      rw [hn, h.record?, hr, Option.map_some, Option.map_some, SceneNode.rename, SceneNode.rename,
        hparent, hchildren]
  registry := by
    rw [h.registry]
    refine List.map_congr_left fun e he => ?_
    obtain ⟨r, hr, -⟩ := (hg.registered e.1 e.2).1 he
    rw [hsame e.1 (by rw [hr]; rfl)]
  nodeOf? o := by
    rw [h.nodeOf?]
    rcases ho : g.nodeOf? o with _ | n
    · rfl
    · obtain ⟨r, hr, -⟩ := (hg.bound o n).1 ho
      rw [Option.map_some, Option.map_some, hsame n (by rw [hr]; rfl)]
  reclaimedTotal := h.reclaimedTotal

/-! ### What is found -/

/-- A node has the same object under its new name. -/
theorem Renamed.object? (h : Renamed ρ g g') : g'.object? (ρ n) = g.object? n := by
  rw [SceneGraph.object?, SceneGraph.object?, h.record?, Option.map_map]
  rfl

/-- An id is found at the new name of the node that it was found at. -/
theorem Renamed.find (h : Renamed ρ g g') (id : Option String) :
    g'.find id = (g.find id).map ρ := by
  rw [SceneGraph.find, SceneGraph.find, Registry.find, Registry.find, h.registry, List.find?_map,
    Option.map_map, Option.map_map]
  rfl

/-! ### New nodes -/

/-- The edge to a new node goes by the new names, too. -/
theorem edgesUnder_rename (parent : Option (NodeId × String)) (n m : NodeId) :
    edgesUnder (renameParent ρ parent) (ρ n) (ρ m) =
      (edgesUnder parent n m).map (ChildEdge.rename ρ) := by
  rcases parent with _ | ⟨p, slot⟩
  · rfl
  · by_cases hp : p = m
    · simp [renameParent, edgesUnder, hp, ChildEdge.rename]
    · simp [renameParent, edgesUnder, hp]

/-- Attaching a node gives up none. -/
theorem reclaimedTotal_attach (h : g.attach o id parent = .ok (n, g')) :
    g'.reclaimedTotal = g.reclaimedTotal := by
  obtain ⟨-, -, -, reg, -, rfl⟩ := attach_ok_cases h
  have hstore : ∀ r, (g.tracking o r reg).reclaimedTotal = g.reclaimedTotal := by
    intro r
    unfold tracking store
    dsimp only
    split <;> rfl
  rcases parent with _ | ⟨p, slot⟩ <;> exact hstore _

/-- A new node whose name is as the renaming has it keeps graphs renamed. -/
theorem Renamed.attached (h : Renamed ρ g g') (hd : Attached g o id parent n d)
    (hd' : Attached g' o id (renameParent ρ parent) (ρ n) d')
    (htotal : d.reclaimedTotal = g.reclaimedTotal)
    (htotal' : d'.reclaimedTotal = g'.reclaimedTotal) : Renamed ρ d d' where
  record? m := by
    rw [hd'.record?, hd.record?, h.record?, edgesUnder_rename]
    by_cases hm : m = n
    · have hparent : (renameParent ρ parent).map Prod.fst = (parent.map Prod.fst).map ρ := by
        rcases parent with _ | p <;> rfl
      rw [if_pos hm, if_pos (congrArg ρ hm), hparent]
      rfl
    · rw [if_neg hm, if_neg (ρ.injective.ne hm), Option.map_map, Option.map_map]
      congr 1
      funext r
      simp [SceneNode.rename]
  registry := by
    rw [hd'.registry, hd.registry, h.registry, List.map_append, List.map_singleton]
  nodeOf? x := by
    rw [hd'.nodeOf?, hd.nodeOf?, h.nodeOf?]
    split <;> rfl
  reclaimedTotal := by rw [htotal', htotal, h.reclaimedTotal]

/-- Names that neither graph uses can be given to each other by a swap. -/
theorem Renamed.exists_swapped (h : Renamed ρ g g') (hn : g.record? n = none)
    (hn' : g'.record? n' = none) :
    ∃ ρ' : Equiv.Perm NodeId, ρ' n = n' ∧ ∀ m, (g.record? m).isSome → ρ' m = ρ m := by
  have hback : ρ (ρ.symm n') = n' := ρ.apply_symm_apply n'
  have hunstored : g.record? (ρ.symm n') = none := by
    rwa [← hback, h.record?, Option.map_eq_none_iff] at hn'
  refine ⟨(Equiv.swap n (ρ.symm n')).trans ρ, ?_, fun m hm => ?_⟩
  · rw [Equiv.trans_apply, Equiv.swap_apply_left, hback]
  · have hne : ∀ k, g.record? k = none → m ≠ k := by
      rintro k hk rfl
      rw [hk] at hm
      cases hm
    rw [Equiv.trans_apply, Equiv.swap_apply_of_ne_of_ne (hne n hn) (hne _ hunstored)]

/-- A new node keeps graphs renamed, whatever its names are: they are exchanged for names that are
not in use. -/
theorem Renamed.exists_attached (h : Renamed ρ g g') (hg : g.WellFormed)
    (hd : Attached g o id parent n d) (hd' : Attached g' o id (renameParent ρ parent) n' d')
    (htotal : d.reclaimedTotal = g.reclaimedTotal)
    (htotal' : d'.reclaimedTotal = g'.reclaimedTotal) : ∃ ρ', Renamed ρ' d d' := by
  obtain ⟨ρ', rfl, hsame⟩ := h.exists_swapped hd.unstored hd'.unstored
  have hparent : renameParent ρ parent = renameParent ρ' parent := by
    rcases parent with _ | ⟨p, slot⟩
    · rfl
    · obtain ⟨r, hr, -⟩ := lifecycle_eq_alive_iff.1 (hd.parent_alive p slot rfl)
      rw [renameParent, renameParent, Option.map_some, Option.map_some,
        hsame p (by rw [hr]; rfl)]
  rw [hparent] at hd'
  exact ⟨ρ', (h.congr hg hsame).attached hd hd' htotal htotal'⟩

/-! ### Counting -/

/-- The stored nodes with their records, in the order of their slots. -/
def stored (g : SceneGraph) : List (NodeId × SceneNode) :=
  g.slots.zipIdx.filterMap fun s => s.1.record.map fun r => (⟨s.2, s.1.generation⟩, r)

/-- What is stored is what is found by name. -/
theorem mem_stored_iff : (n, r) ∈ g.stored ↔ g.record? n = some r := by
  rw [record?_eq_some_iff]
  simp only [stored, List.mem_filterMap, Option.map_eq_some_iff, Prod.mk.injEq, Prod.exists,
    List.mem_zipIdx_iff_getElem?]
  constructor
  · rintro ⟨⟨γ, record⟩, i, hslot, r', hr, rfl, rfl⟩
    rw [hslot]
    exact congrArg some (congrArg (Slot.mk γ) hr)
  · intro h
    exact ⟨⟨n.generation, some r⟩, n.index, h, r, rfl, rfl, rfl⟩

/-- No node is stored twice. -/
theorem nodup_stored : (g.stored.map Prod.fst).Nodup := by
  have hslots : g.slots.zipIdx.Pairwise fun s s' => s.2 ≠ s'.2 :=
    List.pairwise_map.1 (List.nodup_zipIdx_map_snd g.slots)
  rw [stored, List.Nodup, List.pairwise_map, List.pairwise_filterMap]
  refine hslots.imp fun {s s'} hne e he e' he' hee => hne ?_
  obtain ⟨r, -, rfl⟩ := Option.map_eq_some_iff.1 he
  obtain ⟨r', -, rfl⟩ := Option.map_eq_some_iff.1 he'
  exact congrArg NodeId.index hee

/-- Without their names, the stored nodes are the records. -/
theorem map_snd_stored : g.stored.map Prod.snd = g.records := by
  rw [stored, List.map_filterMap, records]
  conv_rhs => rw [← List.zipIdx_map_fst 0 g.slots, List.filterMap_map]
  refine List.filterMap_congr fun s _ => ?_
  rw [Option.map_map]
  exact congrFun Option.map_id _

/-- The records under other names are the records, in another order and with other names of nodes
in them. -/
theorem records_perm (h : ∀ n, g'.record? (ρ n) = (g.record? n).map (SceneNode.rename ρ)) :
    g'.records.Perm (g.records.map (SceneNode.rename ρ)) := by
  have hperm : g'.stored.Perm (g.stored.map fun e => (ρ e.1, e.2.rename ρ)) := by
    have hnames : ((g.stored.map fun e => (ρ e.1, e.2.rename ρ)).map Prod.fst).Nodup := by
      have hmap := (nodup_stored (g := g)).map ρ.injective
      rw [List.map_map] at hmap ⊢
      exact hmap
    rw [List.perm_ext_iff_of_nodup nodup_stored.of_map hnames.of_map]
    rintro ⟨n', r'⟩
    obtain ⟨n, rfl⟩ := ρ.surjective n'
    rw [mem_stored_iff, h, Option.map_eq_some_iff, List.mem_map]
    constructor
    · rintro ⟨r, hr, rfl⟩
      exact ⟨(n, r), mem_stored_iff.2 hr, rfl⟩
    · rintro ⟨⟨m, r⟩, hr, he⟩
      obtain ⟨hm, rfl⟩ := Prod.mk.inj he
      exact ⟨r, mem_stored_iff.1 (ρ.injective hm ▸ hr), rfl⟩
  have hrecords := hperm.map Prod.snd
  rw [map_snd_stored, List.map_map] at hrecords
  rw [← map_snd_stored (g := g), List.map_map]
  exact hrecords

/-- Renaming nodes neither adds nor removes any. -/
theorem liveCount_of_record? (h : ∀ n, g'.record? (ρ n) = (g.record? n).map (SceneNode.rename ρ)) :
    g'.liveCount = g.liveCount := by
  rw [liveCount, (records_perm h).length_eq, List.length_map, liveCount]

/-- Renamed graphs have equally many nodes. -/
theorem Renamed.liveCount_eq (h : Renamed ρ g g') : g'.liveCount = g.liveCount :=
  liveCount_of_record? h.record?

/-- Renamed graphs count the same. -/
theorem Renamed.stats_eq (h : Renamed ρ g g') : g'.stats = g.stats := by
  have hcount : ∀ l : Lifecycle, g'.records.countP (fun r => r.lifecycle == l) =
      g.records.countP (fun r => r.lifecycle == l) := by
    intro l
    rw [(records_perm h.record?).countP_eq, List.countP_map]
    rfl
  rw [stats, stats, hcount, hcount, h.reclaimedTotal]

/-! ### Reports -/

/-- What is left of a node does not depend on the names of its children. -/
theorem remaining_rename {gone gone' : NodeId → Bool} (h : ∀ k, gone' (ρ k) = gone k)
    (r : SceneNode) :
    (r.rename ρ).remaining gone' (ρ n) = (r.remaining gone n).map (SceneNode.rename ρ) := by
  have hrest : ((r.rename ρ).children.filter fun e => !gone' e.node) =
      (r.children.filter fun e => !gone e.node).map (ChildEdge.rename ρ) := by
    rw [SceneNode.rename, List.filter_map]
    congr 1
    refine List.filter_congr fun e _ => ?_
    rw [Function.comp, ChildEdge.rename, h]
  have hlifecycle : (r.rename ρ).lifecycle = r.lifecycle := rfl
  simp only [SceneNode.remaining, hrest, hlifecycle, h, List.map_eq_nil_iff]
  split
  · rfl
  · split <;> rfl

/-- Reports about the same objects, in whatever order, keep graphs renamed. -/
theorem Renamed.destroyAll (h : Renamed ρ g g') (hg : g.WellFormed) (hg' : g'.WellFormed)
    (hxs : ∀ o, o ∈ xs ↔ o ∈ ys) : Renamed ρ (g.destroyAll xs) (g'.destroyAll ys) := by
  have hgone : ∀ k, g'.notified ys (ρ k) = g.notified xs k := by
    intro k
    rw [Bool.eq_iff_iff, notified_eq_true_iff, notified_eq_true_iff]
    refine exists_congr fun o => and_congr (hxs o).symm ?_
    rw [h.nodeOf?, Option.map_eq_some_iff]
    exact ⟨fun ⟨m, hm, hmk⟩ => ρ.injective hmk ▸ hm, fun hk => ⟨k, hk, rfl⟩⟩
  have hp := hg.pruned_destroyAll xs
  have hp' := hg'.pruned_destroyAll ys
  have hrecord : ∀ k, (g'.destroyAll ys).record? (ρ k) =
      ((g.destroyAll xs).record? k).map (SceneNode.rename ρ) := by
    intro k
    rw [hp'.record?, hp.record?, h.record?, Option.bind_map, Option.map_bind]
    exact congrArg (g.record? k).bind (funext fun r => remaining_rename hgone r)
  refine ⟨hrecord, ?_, fun o => ?_, ?_⟩
  · rw [hp'.registry, hp.registry, h.registry, List.filter_map]
    congr 1
    refine List.filter_congr fun e _ => ?_
    rw [Function.comp, hgone]
  · rw [hp'.nodeOf?, hp.nodeOf?, h.nodeOf?]
    rcases g.nodeOf? o with _ | n
    · rfl
    · rw [Option.map_some, Option.filter_some, Option.filter_some, hgone]
      split <;> rfl
  · have hcount := reclaimed_add_liveCount_destroyAll (g := g) xs
    have hcount' := reclaimed_add_liveCount_destroyAll (g := g') ys
    have hlive := h.liveCount_eq
    have hleft := liveCount_of_record? hrecord
    have htotal := h.reclaimedTotal
    omega

/-- The order of reports does show in the name that the next node will have. -/
example :
    let g := empty.run [.attach 1 none none, .attach 2 (some "a") (some (⟨0, 0⟩, "s")),
      .attach 3 (some "b") (some (⟨1, 0⟩, "s")), .attach 4 (some "c") (some (⟨2, 0⟩, "s"))]
    (g.destroyAll [2, 3, 4]).nextNode = ⟨2, 1⟩ ∧ (g.destroyAll [4, 3, 2]).nextNode = ⟨1, 1⟩ := by
  decide

end SceneGraph

end WidgetStage
