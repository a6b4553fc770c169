import WidgetStage.Proofs.Scene.Attaching
import WidgetStage.Proofs.Scene.Generations

/-!
# What one report does

A report about a destroyed object edits the node, the registry, the table of objects and the
parent, and may give up two records. Its outcome names all of that: the node, what became of it,
and a pending parent that has lost its last child. There is no longer cascade, because a pending
node has no parent that could wait for it.

## Main results

* `waitingParent?`: the parent that waits for a node only; it is given up with it.
* `WellFormed.requestDestroy_of_nodeOf?`: the outcome of a report and the count of reclaimed nodes,
  read off the graph before it.
* `WellFormed.departed_destroy`: what a report changes, and that it changes nothing else.
* `requestDestroy_exact`: both after every run.
-/

namespace WidgetStage.SceneGraph

variable {g g' : SceneGraph} {n m p : NodeId} {r : SceneNode} {o : ObjectId}

/-- The parent of a node, if it is pending and the node is its only child. -/
def waitingParent? (g : SceneGraph) (n : NodeId) : Option NodeId :=
  (g.parent? n).filter fun p =>
    g.lifecycle p = .pendingDelete ∧ (g.children p).map ChildEdge.node = [n]

/-- A parent waits for a child if it is pending and has no other child. -/
theorem waitingParent?_eq_some_iff :
    g.waitingParent? n = some p ↔ g.parent? n = some p ∧ g.lifecycle p = .pendingDelete ∧
      (g.children p).map ChildEdge.node = [n] := by
  simp [waitingParent?, Option.filter_eq_some_iff]

namespace WellFormed

/-- A node is the only child if every child is that node. -/
theorem map_node_eq_singleton_iff (hg : g.WellFormed) (hp : g.parent? n = some p) :
    (g.children p).map ChildEdge.node = [n] ↔ ∀ e ∈ g.children p, e.node = n := by
  constructor
  · intro h e he
    have hmem : e.node ∈ (g.children p).map ChildEdge.node := List.mem_map_of_mem he
    rwa [h, List.mem_singleton] at hmem
  · intro h
    obtain ⟨e, he, hen⟩ := (hg.linked p n).2 hp
    have honce := hg.linked_once p
    rcases hc : g.children p with _ | ⟨a, _ | ⟨b, rest⟩⟩
    · rw [hc] at he
      cases he
    · rw [hc] at h
      rw [List.map_singleton, h a (by simp)]
    · rw [hc] at h honce
      have hab : a.node = b.node := (h a (by simp)).trans (h b (by simp)).symm
      simp [hab] at honce

/-- The parent that waits for a node only is the pending node all of whose children are that
node. -/
theorem waitingParent?_iff (hg : g.WellFormed) :
    g.waitingParent? n = some p ↔
      g.lifecycle p = .pendingDelete ∧ ∀ e ∈ g.children p, e.node = n := by
  rw [waitingParent?_eq_some_iff]
  constructor
  · rintro ⟨hp, hl, hc⟩
    exact ⟨hl, (hg.map_node_eq_singleton_iff hp).1 hc⟩
  · rintro ⟨hl, hc⟩
    -- a pending node has a child, and so it is the parent of this one
    obtain ⟨e, he⟩ := List.exists_mem_of_ne_nil _ (hg.pending_waits p hl).2
    have hp : g.parent? n = some p := (hg.linked p n).1 ⟨e, he, hc e he⟩
    exact ⟨hp, hl, (hg.map_node_eq_singleton_iff hp).2 hc⟩

end WellFormed

/-- Whether a parent waits for a node only can be told from what is left of it without the node. -/
theorem WellFormed.waitingParent?_of_parent (hg : g.WellFormed) (hp : g.parent? n = some p)
    (hr : g.record? p = some r) :
    g.waitingParent? n =
      if r.lifecycle = .pendingDelete ∧ (r.dropChild n).children = [] then some p else none := by
  have hleft : (r.dropChild n).children = [] ↔ (g.children p).map ChildEdge.node = [n] := by
    rw [hg.children_dropChild hr, hg.map_node_eq_singleton_iff hp, children_of_record hr]
    simp
  rw [waitingParent?, hp, Option.filter_some, ← lifecycle_of_record hr]
  simp only [hleft, Bool.decide_and, Bool.and_eq_true, decide_eq_true_eq]

/-! ### The outcome -/

/-- A node is unlinked before it is given up, and not counted yet. -/
theorem reclaimedTotal_detach : (g.detach n).2.reclaimedTotal = g.reclaimedTotal := by
  rw [detach]
  split <;> rfl

/-- What becomes of a node whose object is gone. -/
theorem settle_of_record (hr : g.record? n = some r) :
    (g.settle n).1 = (if r.children = [] then .reclaimed else .pendingDelete) ∧
      (g.settle n).2.reclaimedTotal = g.reclaimedTotal + if r.children = [] then 1 else 0 := by
  by_cases hc : r.children = []
  · simp [settle, isChildless, hr, hc, reclaimedTotal_reclaim hr]
  · simp [settle, isChildless, hr, hc, modifyRecord]

/-- What becomes of its parent. -/
theorem settleParent_of_record (hr : g.record? p = some r) :
    (g.settleParent (some p)).1 =
      (if r.lifecycle = .pendingDelete ∧ r.children = [] then some p else none) ∧
      (g.settleParent (some p)).2.reclaimedTotal =
        g.reclaimedTotal + (g.settleParent (some p)).1.toList.length := by
  by_cases hd : r.lifecycle = .pendingDelete ∧ r.children = []
  · simp [settleParent, isDrained, hr, hd, reclaimedTotal_reclaim hr]
  · simp [settleParent, isDrained, hr, hd]

/-- The outcome of a report about a tracked object: its node, what became of it, and the parent
that has waited for it only. As many nodes as that are counted as reclaimed. -/
theorem WellFormed.requestDestroy_of_nodeOf? (hg : g.WellFormed) (h : g.nodeOf? o = some n) :
    g.requestDestroy o =
      (some ⟨n, if g.children n = [] then .reclaimed else .pendingDelete, g.waitingParent? n⟩,
        g.destroy o) ∧
    (g.destroy o).reclaimedTotal = g.reclaimedTotal + (if g.children n = [] then 1 else 0) +
      (g.waitingParent? n).toList.length := by
  obtain ⟨r, hr, -⟩ := (hg.bound o n).1 h
  have hsteps : g.requestDestroy o = (some ⟨n, (((g.forget o n).detach n).2.settle n).1,
      ((((g.forget o n).detach n).2.settle n).2.settleParent ((g.forget o n).detach n).1).1⟩,
      g.destroy o) := by
    rw [destroy_of_nodeOf? h]
    simp only [requestDestroy, h]
  rw [hsteps, destroy_of_nodeOf? h, children_of_record hr]
  rcases hp : g.parent? n with _ | p
  · have hp' : (g.forget o n).parent? n = none := hp
    have hr' : (g.forget o n).record? n = some r := hr
    obtain ⟨hstate, htotal⟩ := settle_of_record hr'
    have hnone : g.waitingParent? n = none := by simp [waitingParent?, hp]
    rw [detach_of_root hp', hstate, hnone]
    exact ⟨rfl, htotal⟩
  · have hne : p ≠ n := fun hpn => hg.parent?_ne_self (hpn ▸ hp)
    obtain ⟨rp, hrp⟩ := hg.exists_record_of_parent hp
    have hrecord : ∀ k, ((g.forget o n).detach n).2.record? k = _ := fun k =>
      record?_detach (g := g.forget o n) (m := k) hr hp hrp hne
    have hcount : ((g.forget o n).detach n).2.reclaimedTotal = g.reclaimedTotal :=
      reclaimedTotal_detach
    have hp' : (g.forget o n).parent? n = some p := hp
    rw [detach_fst, hp']
    generalize ((g.forget o n).detach n).2 = d at hrecord hcount ⊢
    obtain ⟨hstate, htotal⟩ := settle_of_record ((hrecord n).trans (if_pos rfl))
    have hp2 : (d.settle n).2.record? p = some (rp.dropChild n) := by
      rw [record?_settle ((hrecord n).trans (if_pos rfl)), if_neg hne, hrecord, if_neg hne,
        if_pos rfl]
    obtain ⟨hparent, hboth⟩ := settleParent_of_record hp2
    have hwaiting : ((d.settle n).2.settleParent (some p)).1 = g.waitingParent? n := by
      rw [hparent, hg.waitingParent?_of_parent hp hrp]
      rfl
    rw [hstate, hboth, htotal, hcount, hwaiting]
    exact ⟨rfl, rfl⟩

/-! ### What changes -/

/-- `g'` is `g` after the node `n` of the object `o` has come to the state `state`, and `lost` has
been given up with it. Nothing else is affected. -/
structure Departed (g : SceneGraph) (o : ObjectId) (n : NodeId) (state : Lifecycle)
    (lost : Option NodeId) (g' : SceneGraph) : Prop where
  state_eq : state = if g.children n = [] then .reclaimed else .pendingDelete
  lifecycle : g'.lifecycle n = state
  lost_iff : ∀ p, lost = some p ↔ g.parent? n = some p ∧ g.lifecycle p = .pendingDelete ∧
    (g.children p).map ChildEdge.node = [n]
  lost_reclaimed : ∀ p, lost = some p → g'.lifecycle p = .reclaimed
  /-- The two are counted, and no others. -/
  reclaimedTotal : g'.reclaimedTotal =
    g.reclaimedTotal + (if state = .reclaimed then 1 else 0) + lost.toList.length
  registry : g'.registry.entries = g.registry.entries.filter fun e => e.1 ≠ n
  nodeOf? : ∀ x, g'.nodeOf? x = if x = o then none else g.nodeOf? x
  children : ∀ m, g'.children m = (g.children m).filter fun e => e.node ≠ n
  /-- The node waits for its children under its object and its id, but has no parent. -/
  waits : state = .pendingDelete → g'.object? n = some o ∧ g'.id? n = g.id? n ∧
    g'.parent? n = none ∧ g'.children n = g.children n
  others : ∀ m, m ≠ n → lost ≠ some m → g'.lifecycle m = g.lifecycle m ∧
    g'.object? m = g.object? m ∧ g'.id? m = g.id? m ∧ g'.parent? m = g.parent? m
  other_children : ∀ m, g.parent? n ≠ some m → g'.children m = g.children m

namespace WellFormed

/-- A node that is neither reported nor given up with it keeps its state. -/
theorem lifecycle_destroy_of_ne (hg : g.WellFormed) (h : g.nodeOf? o = some n) (hm : m ≠ n)
    (hlost : g.waitingParent? n ≠ some m) : (g.destroy o).lifecycle m = g.lifecycle m := by
  have hmn : (m == n) = false := by simpa using hm
  rw [(hg.pruned_of_nodeOf? h).lifecycle]
  cases hl : g.lifecycle m with
  | alive => simp [hmn]
  | pendingDelete =>
      have hkept : ¬ ∀ e ∈ g.children m, (e.node == n) = true := by
        intro hall
        exact hlost (hg.waitingParent?_iff.2 ⟨hl, fun e he => by simpa using hall e he⟩)
      rw [if_neg (by simp), if_neg hkept]
  | reclaimed =>
      have hnil : g.children m = [] := children_of_record_none (record?_of_reclaimed hg hl)
      simp [hnil]

/-- Nothing about such a node changes, its children apart. -/
theorem destroy_of_ne (hg : g.WellFormed) (h : g.nodeOf? o = some n) (hm : m ≠ n)
    (hlost : g.waitingParent? n ≠ some m) :
    (g.destroy o).lifecycle m = g.lifecycle m ∧ (g.destroy o).object? m = g.object? m ∧
      (g.destroy o).id? m = g.id? m ∧ (g.destroy o).parent? m = g.parent? m := by
  have hlife := hg.lifecycle_destroy_of_ne h hm hlost
  have hmn : (m == n) = false := by simpa using hm
  exact ⟨hlife, (hg.pruned_of_nodeOf? h).kept hg hmn hlife⟩

/-- What a report changes, and that it changes nothing else. -/
theorem departed_destroy (hg : g.WellFormed) (h : g.nodeOf? o = some n) :
    g.Departed o n (if g.children n = [] then .reclaimed else .pendingDelete)
      (g.waitingParent? n) (g.destroy o) := by
  have hpruned := hg.pruned_of_nodeOf? h
  have hown : ∀ m, g.parent? n ≠ some m → ∀ e ∈ g.children m, e.node ≠ n := by
    rintro m hp e he rfl
    exact hp ((hg.linked m e.node).1 ⟨e, he, rfl⟩)
  have hkept : ∀ m, g.parent? n ≠ some m → (g.destroy o).children m = g.children m := by
    intro m hp
    rw [hpruned.children]
    exact List.filter_eq_self.2 fun e he => by simpa using hown m hp e he
  have hgone : (∀ e ∈ g.children n, (e.node == n) = true) ↔ g.children n = [] := by
    rw [List.eq_nil_iff_forall_not_mem]
    refine forall_congr' fun e => imp_congr_right fun he => ?_
    simpa using hown n hg.parent?_ne_self e he
  have hlife : (g.destroy o).lifecycle n =
      if g.children n = [] then .reclaimed else .pendingDelete := by
    rw [hpruned.lifecycle, if_neg (by simp)]
    simp only [hgone]
  exact {
    state_eq := rfl
    lifecycle := hlife
    lost_iff p := waitingParent?_eq_some_iff
    lost_reclaimed p hp := by
      obtain ⟨hl, hall⟩ := hg.waitingParent?_iff.1 hp
      rw [hpruned.lifecycle, if_neg (by simp [hl]), if_pos (by simpa using hall)]
    reclaimedTotal := by
      rw [(hg.requestDestroy_of_nodeOf? h).2]
      by_cases hc : g.children n = [] <;> simp [hc]
    registry := by
      rw [hpruned.registry]
      exact List.filter_congr fun e _ => by simp [beq_eq_decide]
    nodeOf? x := by
      have hone : g.destroy o = g.destroyAll [o] := rfl
      rw [hone, hg.nodeOf?_destroyAll]
      simp only [List.mem_singleton]
    children m := by
      rw [hpruned.children]
      exact List.filter_congr fun e _ => by simp [beq_eq_decide]
    waits hstate := by
      have hstored : (g.destroy o).lifecycle n ≠ .reclaimed := by
        rw [hlife, hstate]
        simp
      obtain ⟨hobject, hid⟩ := hpruned.stored hstored
      refine ⟨hobject.trans (hg.object?_of_nodeOf? h), hid, ?_, hkept n hg.parent?_ne_self⟩
      rw [hpruned.parent? hg, if_pos (by simp)]
    others m hm hlost := hg.destroy_of_ne h hm hlost
    other_children := hkept }

end WellFormed

/-- After every run, a report about an object that is bound to no alive node is answered with
nothing, and leaves the graph as it is. A report about any other object is answered with its node,
with what became of the node, and with the parent that has waited for it only; these are the
changes, they are counted, and nothing else is affected. -/
theorem requestDestroy_exact (cmds : List SceneCommand) (o : ObjectId) :
    (¬ (empty.run cmds).Tracks o →
      (empty.run cmds).requestDestroy o = (none, empty.run cmds)) ∧
    ∀ n, (empty.run cmds).lifecycle n = .alive → (empty.run cmds).object? n = some o →
      ∃ state lost g', (empty.run cmds).requestDestroy o = (some ⟨n, state, lost⟩, g') ∧
        (empty.run cmds).Departed o n state lost g' := by
  have hg := reachable_wellFormed cmds
  refine ⟨fun hun => ?_, fun n hl ho => ?_⟩
  · rw [requestDestroy, hg.nodeOf?_eq_none_iff.2 hun]
  · have hnode := hg.nodeOf?_eq_some_iff.2 ⟨hl, ho⟩
    exact ⟨_, _, _, (hg.requestDestroy_of_nodeOf? hnode).1, hg.departed_destroy hnode⟩

/-- The last child takes its pending parent along, but not the parent of that one. -/
example : ((empty.run [.attach 1 none none, .attach 2 (some "row") (some (⟨0, 0⟩, "slot")),
    .attach 3 (some "cell") (some (⟨1, 0⟩, "slot")), .destroy 1, .destroy 2]).requestDestroy 3).1 =
      some ⟨⟨2, 0⟩, .reclaimed, some ⟨1, 0⟩⟩ := by
  decide

end WidgetStage.SceneGraph
