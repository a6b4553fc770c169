import WidgetStage.Proofs.Scene.WellFormed

/-!
# Destroyed objects in any order

The reports about destroyed objects are taken one at a time, and each of them edits records,
child lists, the registry and perhaps the parent of the node. What a whole series of them does
has a closed form, `Pruned`: which nodes are gone decides everything, and the order of the
reports does not enter.

A node that is gone leaves the children of its parent. An alive node that is not gone keeps its
record, its children apart. Every other stored node only waits for its children: it is left
without a record once all of them are gone.

## Main results

* `WellFormed.pruned_destroy`: one report prunes the node of its object.
* `Pruned.trans`: pruning twice is pruning once.
* `WellFormed.pruned_destroyAll`: a series of reports prunes the nodes of all its objects.
* `Pruned.wellFormed`: a pruned graph is well-formed, so reports keep a graph well-formed
  (`WellFormed.destroy`, `WellFormed.destroyAll`).
* `reclaimed_add_liveCount_destroyAll`: every record that is lost is counted as reclaimed.
-/

namespace WidgetStage

/-- What is left of a node of which `gone` says whether it and its children are destroyed: an
alive node stays, any other node is pending as long as it has a child. -/
def SceneNode.remaining (gone : NodeId → Bool) (n : NodeId) (r : SceneNode) : Option SceneNode :=
  let rest := r.children.filter fun e => !gone e.node
  if r.lifecycle = .alive ∧ gone n = false then some { r with children := rest }
  else if rest = [] then none
  else some { r with children := rest, parent := none, lifecycle := .pendingDelete }

/-- Pruning a record twice is pruning it once. -/
theorem SceneNode.remaining_bind (a b : NodeId → Bool) (n : NodeId) (r : SceneNode) :
    (r.remaining a n).bind (remaining b n) = r.remaining (fun k => a k || b k) n := by
  have hfilter : (r.children.filter fun e => !a e.node).filter (fun e => !b e.node) =
      r.children.filter fun e => !(a e.node || b e.node) := by
    rw [List.filter_filter]
    exact List.filter_congr fun e _ => by rw [Bool.not_or, Bool.and_comm]
  by_cases halive : r.lifecycle = .alive ∧ a n = false
  · simp [remaining, halive, hfilter]
  · have hor : ¬ (r.lifecycle = .alive ∧ (a n || b n) = false) := by
      rintro ⟨hl, hab⟩
      exact halive ⟨hl, (Bool.or_eq_false_iff.1 hab).1⟩
    by_cases hrest : (r.children.filter fun e => !a e.node) = []
    · have hboth : (r.children.filter fun e => !(a e.node || b e.node)) = [] := by
        rw [← hfilter, hrest, List.filter_nil]
      simp only [remaining, if_neg halive, if_neg hor, if_pos hrest, if_pos hboth,
        Option.bind_none]
    · simp only [remaining, if_neg halive, if_neg hor, if_neg hrest, Option.bind_some, hfilter]
      simp

/-- Removing the first element with a key removes all of them, if keys do not repeat. -/
theorem eraseP_eq_filter {α β : Type} [DecidableEq β] {f : α → β} (b : β) {l : List α}
    (h : (l.map f).Nodup) :
    l.eraseP (fun a => f a == b) = l.filter fun a => !(f a == b) := by
  induction l with
  | nil => rfl
  | cons a l ih =>
      rw [List.map_cons, List.nodup_cons] at h
      by_cases hab : f a = b
      · have hall : l.filter (fun a => !(f a == b)) = l := by
          refine List.filter_eq_self.2 fun c hc => ?_
          have hcb : f c ≠ b := fun hcb => h.1 (hab ▸ hcb ▸ List.mem_map_of_mem hc)
          simpa using hcb
        simp [hab, hall]
      · simp [hab, ih h.2]

namespace SceneGraph

variable {g g' g'' : SceneGraph} {n m p : NodeId} {r : SceneNode} {o : ObjectId}

/-- `g'` is `g` after the nodes `gone` are destroyed. -/
structure Pruned (gone : NodeId → Bool) (g g' : SceneGraph) : Prop where
  record? : ∀ m, g'.record? m = (g.record? m).bind (SceneNode.remaining gone m)
  registry : g'.registry.entries = g.registry.entries.filter fun e => !gone e.1
  nodeOf? : ∀ o, g'.nodeOf? o = (g.nodeOf? o).filter fun n => !gone n

/-- Pruning twice is pruning once. -/
theorem Pruned.trans {a b : NodeId → Bool} (h : Pruned a g g') (h' : Pruned b g' g'') :
    Pruned (fun k => a k || b k) g g'' where
  record? m := by
    rw [h'.record?, h.record?, Option.bind_assoc]
    simp only [SceneNode.remaining_bind]
  registry := by
    rw [h'.registry, h.registry, List.filter_filter]
    exact List.filter_congr fun e _ => by rw [Bool.not_or, Bool.and_comm]
  nodeOf? o := by
    rw [h'.nodeOf?, h.nodeOf?, Option.filter_filter]
    congr 1
    funext k
    rw [Bool.not_or, Bool.and_comm]

/-- A node stays as it is if neither its children nor, as long as it is alive, it itself is
gone. -/
theorem WellFormed.remaining_eq_self (hg : g.WellFormed) {gone : NodeId → Bool}
    (hr : g.record? m = some r) (hm : r.lifecycle = .alive → gone m = false)
    (hc : ∀ e ∈ r.children, gone e.node = false) : r.remaining gone m = some r := by
  have hrest : (r.children.filter fun e => !gone e.node) = r.children :=
    List.filter_eq_self.2 fun e he => by rw [hc e he]; rfl
  rcases hg.alive_or_pending hr with hl | hl
  · simp only [SceneNode.remaining, hrest, if_pos (And.intro hl (hm hl))]
  · obtain ⟨hp, hne⟩ := hg.pending_waits m (lifecycle_of_record hr ▸ hl)
    rw [parent?_of_record hr] at hp
    rw [children_of_record hr] at hne
    have hdead : ¬ (r.lifecycle = .alive ∧ gone m = false) := by simp [hl]
    simp only [SceneNode.remaining, hrest, if_neg hdead, if_neg hne, ← hp, ← hl]

/-- Where nothing is gone nothing changes. -/
theorem WellFormed.pruned_self (hg : g.WellFormed) : Pruned (fun _ => false) g g where
  record? m := by
    rcases hr : g.record? m with _ | r
    · rfl
    · have hself : r.remaining (fun _ => false) m = some r :=
        hg.remaining_eq_self hr (fun _ => rfl) fun _ _ => rfl
      exact hself.symm
  registry := by simp
  nodeOf? o := by cases g.nodeOf? o <;> rfl

/-! ### One report -/

/-- Destroying a tracked object forgets it, takes its node from the parent, and settles both. -/
theorem destroy_of_nodeOf? (h : g.nodeOf? o = some n) :
    g.destroy o = ((((g.forget o n).detach n).2.settle n).2.settleParent
      ((g.forget o n).detach n).1).2 := by
  simp only [destroy, requestDestroy, h]

/-- Settling a node reclaims it, or lets it wait for its children. -/
theorem record?_settle (hr : g.record? n = some r) :
    (g.settle n).2.record? m =
      if m = n then
        if r.children = [] then none else some { r with lifecycle := .pendingDelete }
      else g.record? m := by
  by_cases hc : r.children = []
  · simp [settle, isChildless, hr, hc, record?_reclaim]
  · by_cases hm : m = n
    · subst hm
      simp [settle, isChildless, hr, hc, record?_modifyRecord]
    · simp [settle, isChildless, hr, hc, record?_modifyRecord, hm]

/-- Settling a parent reclaims it if it has waited for this child only. -/
theorem record?_settleParent (hr : g.record? p = some r) :
    (g.settleParent (some p)).2.record? m =
      if m = p then
        if r.lifecycle = .pendingDelete ∧ r.children = [] then none else some r
      else g.record? m := by
  by_cases hd : r.lifecycle = .pendingDelete ∧ r.children = []
  · simp [settleParent, isDrained, hr, hd, record?_reclaim]
  · by_cases hm : m = p
    · subst hm
      simp [settleParent, isDrained, hr, hd]
    · simp [settleParent, isDrained, hr, hd, hm]

/-- A node without a parent is not taken from anywhere. -/
theorem detach_of_root (hp : g.parent? n = none) : g.detach n = (none, g) := by
  simp [detach, hp]

/-- The answer is the parent that the node had. -/
theorem detach_fst : (g.detach n).1 = g.parent? n := by
  rw [detach]
  rcases g.parent? n with _ | p <;> rfl

/-- The records after a node is taken from its parent. -/
theorem record?_detach {rp : SceneNode} (hr : g.record? n = some r) (hp : g.parent? n = some p)
    (hrp : g.record? p = some rp) (hne : p ≠ n) :
    (g.detach n).2.record? m =
      if m = n then some { r with parent := none }
      else if m = p then some (rp.dropChild n) else g.record? m := by
  rw [detach, hp]
  dsimp only
  rw [record?_modifyRecord, record?_modifyRecord]
  by_cases hmn : m = n
  · subst hmn
    simp [hr, Ne.symm hne]
  · by_cases hmp : m = p
    · subst hmp
      simp [hrp, hmn]
    · simp [hmn, hmp]

/-- The records after a report, if the node has no parent. -/
theorem record?_destroy_of_root (h : g.nodeOf? o = some n) (hr : g.record? n = some r)
    (hp : g.parent? n = none) :
    (g.destroy o).record? m =
      if m = n then
        if r.children = [] then none else some { r with lifecycle := .pendingDelete }
      else g.record? m := by
  have hp' : (g.forget o n).parent? n = none := hp
  rw [destroy_of_nodeOf? h, detach_of_root hp']
  exact record?_settle (g := g.forget o n) hr

/-- The records after a report, if the node has a parent. -/
theorem record?_destroy_of_parent {rp : SceneNode} (h : g.nodeOf? o = some n)
    (hr : g.record? n = some r) (hp : g.parent? n = some p) (hrp : g.record? p = some rp)
    (hne : p ≠ n) :
    (g.destroy o).record? m =
      if m = n then
        if r.children = [] then none
        else some { r with parent := none, lifecycle := .pendingDelete }
      else if m = p then
        if rp.lifecycle = .pendingDelete ∧ (rp.dropChild n).children = [] then none
        else some (rp.dropChild n)
      else g.record? m := by
  have hp' : (g.forget o n).parent? n = some p := hp
  have hrecord : ∀ k, ((g.forget o n).detach n).2.record? k = _ := fun k =>
    record?_detach (g := g.forget o n) (m := k) hr hp' hrp hne
  rw [destroy_of_nodeOf? h, detach_fst, hp']
  generalize ((g.forget o n).detach n).2 = d at hrecord ⊢
  have hsettle : ∀ k, (d.settle n).2.record? k = _ := fun k =>
    record?_settle (m := k) ((hrecord n).trans (if_pos rfl))
  have hp2 : (d.settle n).2.record? p = some (rp.dropChild n) := by
    rw [hsettle, if_neg hne, hrecord, if_neg hne, if_pos rfl]
  rw [record?_settleParent hp2, hsettle, hrecord]
  by_cases hmn : m = n
  · simp [hmn, Ne.symm hne]
  · by_cases hmp : m = p
    · subst hmp
      simp only [if_neg hmn, if_true]
      rfl
    · simp only [if_neg hmn, if_neg hmp]
      rfl

/-- What holds of the graph that has forgotten a destroyed object, and is kept when records are
edited or reclaimed, holds after the report. -/
theorem destroy_induction {P : SceneGraph → Prop} (h : g.nodeOf? o = some n)
    (hforget : P (g.forget o n)) (hmodify : ∀ g k f, P g → P (g.modifyRecord k f))
    (hreclaim : ∀ g k, P g → P (g.reclaim k)) : P (g.destroy o) := by
  have hdetach : P ((g.forget o n).detach n).2 := by
    unfold detach
    split
    · exact hforget
    · exact hmodify _ _ _ (hmodify _ _ _ hforget)
  have hsettle : P (((g.forget o n).detach n).2.settle n).2 := by
    unfold settle
    split
    · exact hreclaim _ _ hdetach
    · exact hmodify _ _ _ hdetach
  rw [destroy_of_nodeOf? h]
  generalize ((g.forget o n).detach n).1 = parent
  rcases parent with _ | p
  · exact hsettle
  · by_cases hdrained : ((((g.forget o n).detach n).2.settle n).2).isDrained p
    · simpa only [settleParent, if_pos hdrained] using hreclaim _ p hsettle
    · simpa only [settleParent, if_neg hdrained] using hsettle

/-- Giving up a node leaves the registry to others. -/
theorem registry_reclaim : (g.reclaim n).registry = g.registry := by
  unfold reclaim
  split <;> rfl

/-- Giving up a node leaves the table of objects to others. -/
theorem byObject_reclaim : (g.reclaim n).byObject = g.byObject := by
  unfold reclaim
  split <;> rfl

/-- A report edits the registry and the table of objects only where the object is forgotten. -/
theorem destroy_tables (h : g.nodeOf? o = some n) :
    (g.destroy o).registry = g.registry.remove n ∧
      (g.destroy o).byObject = g.byObject.filter fun e => e.1 != o :=
  destroy_induction (P := fun d => d.registry = g.registry.remove n ∧
      d.byObject = g.byObject.filter fun e => e.1 != o) h ⟨rfl, rfl⟩ (fun _ _ _ hd => hd)
    fun _ _ hd => ⟨registry_reclaim.trans hd.1, byObject_reclaim.trans hd.2⟩

/-- Looking up a key in a table from which another one was removed. -/
theorem lookup_filter_ne {β : Type} (l : List (ObjectId × β)) (a x : ObjectId) :
    (l.filter fun e => e.1 != a).lookup x = if x = a then none else l.lookup x := by
  induction l with
  | nil => simp
  | cons e l ih =>
      obtain ⟨b, v⟩ := e
      by_cases hb : b = a
      · subst hb
        by_cases hx : x = b
        · simpa [hx] using ih
        · have hxb : (x == b) = false := by simpa using hx
          simpa [List.lookup_cons, hxb, hx] using ih
      · by_cases hx : x = b
        · simp [hx, hb]
        · have hxb : (x == b) = false := by simpa using hx
          simpa [hb, List.lookup_cons, hxb] using ih

/-- A node that is not listed by `m` does not matter to the children of `m`. -/
theorem WellFormed.ne_of_parent?_ne (hg : g.WellFormed) (hr : g.record? m = some r)
    (hp : g.parent? n ≠ some m) : ∀ e ∈ r.children, (e.node == n) = false := by
  intro e he
  rw [← children_of_record hr] at he
  rw [beq_eq_false_iff_ne]
  rintro rfl
  exact hp ((hg.linked m e.node).1 ⟨e, he, rfl⟩)

/-- What is left of the destroyed node itself. -/
theorem WellFormed.remaining_gone (hg : g.WellFormed) (hr : g.record? n = some r) :
    r.remaining (fun k => k == n) n =
      if r.children = [] then none
      else some { r with parent := none, lifecycle := .pendingDelete } := by
  have hrest : (r.children.filter fun e => !(e.node == n)) = r.children :=
    List.filter_eq_self.2 fun e he => by
      rw [hg.ne_of_parent?_ne hr hg.parent?_ne_self e he]
      rfl
  simp [SceneNode.remaining, hrest]

/-- Taking a child from a node takes all of its edges to that child, since there is one at most. -/
theorem WellFormed.children_dropChild (hg : g.WellFormed) (hr : g.record? p = some r) :
    (r.dropChild n).children = r.children.filter fun e => !(e.node == n) := by
  refine eraseP_eq_filter n ?_
  rw [← children_of_record hr]
  exact hg.linked_once p

/-- What is left of the parent of the destroyed node: without the node it may have nothing to
wait for any more. -/
theorem WellFormed.remaining_parent (hg : g.WellFormed) (hr : g.record? p = some r)
    (hne : p ≠ n) :
    r.remaining (fun k => k == n) p =
      if r.lifecycle = .pendingDelete ∧ (r.dropChild n).children = [] then none
      else some (r.dropChild n) := by
  have hpn : (p == n) = false := by simpa using hne
  have hdrop : r.children.eraseP (fun e => e.node == n) =
      r.children.filter fun e => !(e.node == n) := hg.children_dropChild hr
  rcases hg.alive_or_pending hr with hl | hl
  · simp [SceneNode.remaining, hl, hpn, hdrop, SceneNode.dropChild]
  · obtain ⟨hnone, -⟩ := hg.pending_waits p ((lifecycle_of_record hr).trans hl)
    rw [parent?_of_record hr] at hnone
    simp [SceneNode.remaining, hl, hdrop, SceneNode.dropChild, hnone]

/-- A node that is neither the destroyed one nor its parent stays as it is. -/
theorem WellFormed.bind_remaining_of_ne (hg : g.WellFormed) (hne : m ≠ n)
    (hp : g.parent? n ≠ some m) :
    (g.record? m).bind (SceneNode.remaining (fun k => k == n) m) = g.record? m := by
  rcases hr : g.record? m with _ | r
  · rfl
  · have hmn : (m == n) = false := by simpa using hne
    have hself : r.remaining (fun k => k == n) m = some r :=
      hg.remaining_eq_self hr (fun _ => hmn) (hg.ne_of_parent?_ne hr hp)
    exact hself

/-- A tracked object takes its node with it, whether or not the node has children and whether or
not its parent has waited for it. -/
theorem WellFormed.pruned_of_nodeOf? (hg : g.WellFormed) (h : g.nodeOf? o = some n) :
    Pruned (fun k => k == n) g (g.destroy o) where
  record? m := by
    obtain ⟨r, hr, -⟩ := (hg.bound o n).1 h
    rcases hp : g.parent? n with _ | p
    · rw [record?_destroy_of_root h hr hp]
      split
      · next hm =>
        subst hm
        rw [hr, Option.bind_some, hg.remaining_gone hr]
        rw [parent?_of_record hr] at hp
        rw [← hp]
      · next hm => exact (hg.bind_remaining_of_ne hm (by simp [hp])).symm
    · have hne : p ≠ n := fun hpn => hg.parent?_ne_self (hpn ▸ hp)
      obtain ⟨rp, hrp⟩ := hg.exists_record_of_parent hp
      rw [record?_destroy_of_parent h hr hp hrp hne]
      split
      · next hm =>
        subst hm
        rw [hr, Option.bind_some, hg.remaining_gone hr]
      · next hm =>
        split
        · next hmp =>
          subst hmp
          rw [hrp, Option.bind_some, hg.remaining_parent hrp hm]
        · next hmp => exact (hg.bind_remaining_of_ne hm (by simp [hp, Ne.symm hmp])).symm
  registry := by
    rw [(destroy_tables h).1]
    exact eraseP_eq_filter n hg.registered_once
  nodeOf? x := by
    rw [nodeOf?, (destroy_tables h).2, lookup_filter_ne]
    by_cases hx : x = o
    · have hlookup : g.byObject.lookup o = some n := h
      simp [nodeOf?, hx, hlookup, Option.filter]
    · rw [if_neg hx]
      rcases hk : g.nodeOf? x with _ | k
      · exact hk
      · have hkn : (k == n) = false := by
          rw [beq_eq_false_iff_ne]
          rintro rfl
          exact hx (hg.nodeOf?_inj hk h)
        rw [Option.filter_some, if_pos (by rw [hkn]; rfl)]
        exact hk

/-- The nodes that reports about the objects `xs` concern. -/
def notified (g : SceneGraph) (xs : List ObjectId) (n : NodeId) : Bool :=
  xs.any fun o => g.nodeOf? o == some n

/-- A node is notified if a reported object is found at it. -/
theorem notified_eq_true_iff {xs : List ObjectId} :
    g.notified xs n = true ↔ ∃ o ∈ xs, g.nodeOf? o = some n := by
  simp [notified]

/-- One report prunes the node of its object, if there is one. -/
theorem WellFormed.pruned_destroy (hg : g.WellFormed) (o : ObjectId) :
    Pruned (g.notified [o]) g (g.destroy o) := by
  rcases h : g.nodeOf? o with _ | n
  · have hnone : g.notified [o] = fun _ => false := by
      funext k
      simp [notified, h]
    rw [hnone, destroy_of_untracked h]
    exact hg.pruned_self
  · have hone : g.notified [o] = fun k => k == n := by
      funext k
      rw [Bool.eq_iff_iff, notified_eq_true_iff, beq_iff_eq]
      simp only [List.mem_singleton, exists_eq_left, h, Option.some.injEq]
      exact eq_comm
    rw [hone]
    exact hg.pruned_of_nodeOf? h

/-! ### Well-formedness -/

namespace Pruned

variable {gone : NodeId → Bool}

/-- The state of a node is decided by what is gone: the node itself, or its children. -/
theorem lifecycle (h : Pruned gone g g') :
    g'.lifecycle m =
      if g.lifecycle m = .alive ∧ gone m = false then .alive
      else if ∀ e ∈ g.children m, gone e.node = true then .reclaimed
      else .pendingDelete := by
  rcases hr : g.record? m with _ | r
  · simp [SceneGraph.lifecycle, SceneGraph.children, h.record?, hr]
  · simp only [SceneGraph.lifecycle, SceneGraph.children, h.record?, hr, Option.bind_some,
      Option.map_some, Option.getD_some, SceneNode.remaining]
    have hrest : (r.children.filter fun e => !gone e.node) = [] ↔
        ∀ e ∈ r.children, gone e.node = true := by simp
    by_cases hm : r.lifecycle = .alive ∧ gone m = false
    · simp [hm]
    · by_cases hc : (r.children.filter fun e => !gone e.node) = []
      · simp only [if_neg hm, if_pos hc, if_pos (hrest.1 hc)]
      · simp only [if_neg hm, if_neg hc, if_neg (hc ∘ hrest.2)]

/-- The nodes that are alive afterwards are the alive ones that are not gone. -/
theorem lifecycle_alive_iff (h : Pruned gone g g') :
    g'.lifecycle m = .alive ↔ g.lifecycle m = .alive ∧ gone m = false := by
  rw [h.lifecycle]
  split
  · next hm => simp [hm]
  · next hm => split <;> simp [hm]

/-- A node loses the children that are gone. -/
theorem children (h : Pruned gone g g') :
    g'.children m = (g.children m).filter fun e => !gone e.node := by
  rcases hr : g.record? m with _ | r
  · simp [SceneGraph.children, h.record?, hr]
  · simp only [SceneGraph.children, h.record?, hr, Option.bind_some, Option.map_some,
      Option.getD_some, SceneNode.remaining]
    split
    · rfl
    · split
      · next hc => simp [hc]
      · rfl

/-- A node that is gone loses its parent. -/
theorem parent? (h : Pruned gone g g') (hg : g.WellFormed) :
    g'.parent? m = if gone m = true then none else g.parent? m := by
  rcases hr : g.record? m with _ | r
  · simp [SceneGraph.parent?, h.record?, hr]
  · simp only [SceneGraph.parent?, h.record?, hr, Option.bind_some, SceneNode.remaining]
    rcases hg.alive_or_pending hr with hl | hl
    · cases hm : gone m with
      | false => simp [hl]
      | true =>
          simp only [hl, Bool.true_eq_false, and_false, if_false, if_true]
          split <;> rfl
    · obtain ⟨hp, -⟩ := hg.pending_waits m ((lifecycle_of_record hr).trans hl)
      rw [parent?_of_record hr] at hp
      simp only [hl, reduceCtorEq, false_and, if_false, hp, ite_self]
      split <;> rfl

/-- A node that is still stored stands for the same object, under the same id. -/
theorem stored (h : Pruned gone g g') (hm : g'.lifecycle m ≠ .reclaimed) :
    g'.object? m = g.object? m ∧ g'.id? m = g.id? m := by
  rcases hr : g.record? m with _ | r
  · simp [SceneGraph.lifecycle, h.record?, hr] at hm
  · rcases hr' : g'.record? m with _ | r'
    · simp [SceneGraph.lifecycle, hr'] at hm
    · have hrest := h.record? m
      rw [hr, hr', Option.bind_some] at hrest
      simp only [SceneGraph.object?, SceneGraph.id?, hr, hr', Option.map_some, Option.bind_some]
      dsimp only [SceneNode.remaining] at hrest
      split at hrest
      · cases hrest
        exact ⟨rfl, rfl⟩
      · split at hrest <;> cases hrest
        exact ⟨rfl, rfl⟩

/-- A node that is not gone and keeps its state is what it was, its children apart. -/
theorem kept (h : Pruned gone g g') (hg : g.WellFormed) (hm : gone m = false)
    (hlife : g'.lifecycle m = g.lifecycle m) :
    g'.object? m = g.object? m ∧ g'.id? m = g.id? m ∧ g'.parent? m = g.parent? m := by
  have hparent : g'.parent? m = g.parent? m := by rw [h.parent? hg, if_neg (by simp [hm])]
  rcases hr : g.record? m with _ | r
  · have hr' : g'.record? m = none := by rw [h.record?, hr, Option.bind_none]
    refine ⟨?_, ?_, hparent⟩
    · rw [SceneGraph.object?, SceneGraph.object?, hr, hr']
    · rw [SceneGraph.id?, SceneGraph.id?, hr, hr']
  · have hstored : g'.lifecycle m ≠ .reclaimed := by
      rw [hlife, lifecycle_of_record hr]
      exact hg.not_reclaimed m r hr
    obtain ⟨hobject, hid⟩ := h.stored hstored
    exact ⟨hobject, hid, hparent⟩

/-- A node that stays keeps its parent, as a parent goes with all below it. -/
theorem parent?_eq_some_iff (h : Pruned gone g g') (hg : g.WellFormed) :
    g'.parent? m = some p ↔ gone m = false ∧ g.parent? m = some p := by
  rw [h.parent? hg]
  cases gone m with
  | true => simp
  | false => simp

/-- Edges stay unless they lead to a node that is gone. -/
theorem exists_edge_iff (h : Pruned gone g g') :
    (∃ e ∈ g'.children p, e.node = m) ↔ gone m = false ∧ ∃ e ∈ g.children p, e.node = m := by
  simp only [h.children, List.mem_filter, Bool.not_eq_true']
  constructor
  · rintro ⟨e, ⟨he, hgone⟩, rfl⟩
    exact ⟨hgone, e, he, rfl⟩
  · rintro ⟨hgone, e, he, rfl⟩
    exact ⟨e, ⟨he, hgone⟩, rfl⟩

/-- An alive node is what it was, its children apart. -/
theorem exists_alive_iff (h : Pruned gone g g') {P : SceneNode → Prop}
    (hP : ∀ r children, P { r with children := children } ↔ P r) :
    (∃ r, g'.record? m = some r ∧ r.lifecycle = .alive ∧ P r) ↔
      gone m = false ∧ ∃ r, g.record? m = some r ∧ r.lifecycle = .alive ∧ P r := by
  rcases hr : g.record? m with _ | r
  · simp [h.record?, hr]
  · simp only [h.record?, hr, Option.bind_some, SceneNode.remaining, Option.some.injEq,
      exists_eq_left']
    by_cases hm : r.lifecycle = .alive ∧ gone m = false
    · rw [if_pos hm]
      simp only [Option.some.injEq, exists_eq_left', hP, hm.2, true_and]
    · rw [if_neg hm]
      split
      · simpa using fun hgone hl => absurd ⟨hl, hgone⟩ hm
      · simpa using fun hgone hl => absurd ⟨hl, hgone⟩ hm

/-- Pruning keeps a graph well-formed if its free list is kept. -/
theorem wellFormed (h : Pruned gone g g') (hg : g.WellFormed) (hfree : g'.FreeListed) :
    g'.WellFormed where
  toFreeListed := hfree
  bound o k := by
    rw [h.exists_alive_iff (P := fun r => r.object = o) (fun _ _ => Iff.rfl), h.nodeOf?,
      Option.filter_eq_some_iff, hg.bound, Bool.not_eq_true', and_comm]
  registered k i := by
    rw [h.exists_alive_iff (P := fun r => r.id = i) (fun _ _ => Iff.rfl), h.registry,
      List.mem_filter, hg.registered, Bool.not_eq_true', and_comm]
  registered_once := by
    rw [h.registry]
    exact hg.registered_once.sublist (List.filter_sublist.map _)
  one_root k k' hk hk' := by
    rw [h.registry, List.mem_filter] at hk hk'
    exact hg.one_root k k' hk.1 hk'.1
  linked p c := by rw [h.exists_edge_iff, hg.linked, h.parent?_eq_some_iff hg]
  linked_once p := by
    rw [h.children]
    exact (hg.linked_once p).sublist (List.filter_sublist.map _)
  parent_stored c p hp := by
    obtain ⟨hc, hp⟩ := (h.parent?_eq_some_iff hg).1 hp
    obtain ⟨hcl, -⟩ := hg.parent_stored c p hp
    refine ⟨h.lifecycle_alive_iff.2 ⟨hcl, hc⟩, ?_⟩
    -- the parent keeps at least this child
    obtain ⟨e, he, rfl⟩ := (hg.linked p c).2 hp
    rw [h.lifecycle]
    split
    · exact Or.inl rfl
    · rw [if_neg fun hall => by simp [hall e he] at hc]
      exact Or.inr rfl
  pending_waits k hk := by
    rw [h.lifecycle] at hk
    split at hk
    · cases hk
    next hdead =>
    split at hk
    · cases hk
    next hall =>
    refine ⟨?_, ?_⟩
    · rw [h.parent? hg]
      cases hgone : gone k with
      | true => rfl
      | false =>
          rcases hr : g.record? k with _ | r
          · simp [SceneGraph.parent?, hr]
          · rcases hg.alive_or_pending hr with hl | hl
            · exact absurd ⟨(lifecycle_of_record hr).trans hl, hgone⟩ hdead
            · simpa using (hg.pending_waits k ((lifecycle_of_record hr).trans hl)).1
    · simpa [h.children] using hall
  not_reclaimed k r hk := by
    rw [h.record?] at hk
    obtain ⟨r', -, hr⟩ := Option.bind_eq_some_iff.1 hk
    unfold SceneNode.remaining at hr
    dsimp only at hr
    split at hr
    · next hl =>
      cases hr
      simp [hl]
    · split at hr <;> cases hr
      simp
  forest k hk := by
    refine hg.forest k (Relation.TransGen.mono (fun c p hp => ?_) k k hk)
    exact ((h.parent?_eq_some_iff hg).1 hp).2

end Pruned

/-- A report keeps the free list. -/
theorem FreeListed.destroy (hg : g.FreeListed) (o : ObjectId) : (g.destroy o).FreeListed := by
  rcases h : g.nodeOf? o with _ | n
  · rwa [destroy_of_untracked h]
  · exact destroy_induction h ⟨hg.1, hg.2⟩ (fun _ _ f hd => hd.modifyRecord f)
      fun _ _ hd => hd.reclaim

/-- A report keeps a graph well-formed. -/
theorem WellFormed.destroy (hg : g.WellFormed) (o : ObjectId) : (g.destroy o).WellFormed :=
  (hg.pruned_destroy o).wellFormed hg (hg.toFreeListed.destroy o)

/-! ### A series of reports -/

/-- A series of reports keeps a graph well-formed. -/
theorem WellFormed.destroyAll (hg : g.WellFormed) (xs : List ObjectId) :
    (g.destroyAll xs).WellFormed := by
  induction xs generalizing g with
  | nil => exact hg
  | cons x xs ih => exact ih (hg.destroy x)

/-- A series of reports prunes the nodes of all its objects, in whatever order they come. -/
theorem WellFormed.pruned_destroyAll (hg : g.WellFormed) (xs : List ObjectId) :
    Pruned (g.notified xs) g (g.destroyAll xs) := by
  induction xs generalizing g with
  | nil => exact hg.pruned_self
  | cons x xs ih =>
      have hx := hg.pruned_destroy x
      have hrest := hx.trans (ih (hg.destroy x))
      have hgone : (fun k => g.notified [x] k || (g.destroy x).notified xs k) =
          g.notified (x :: xs) := by
        funext k
        rw [Bool.eq_iff_iff, Bool.or_eq_true]
        simp only [notified_eq_true_iff, hx.nodeOf?, Option.filter_eq_some_iff,
          Bool.not_eq_true', List.mem_cons, List.not_mem_nil, or_false, exists_eq_left,
          exists_eq_or_imp]
        cases hk : g.notified [x] k with
        | true => simp [(by simpa [notified_eq_true_iff] using hk : g.nodeOf? x = some k)]
        | false => simp
      rw [hgone] at hrest
      exact hrest

/-! ### Counting -/

/-- Reports neither make slots nor give them up. -/
theorem length_slots_destroyAll (xs : List ObjectId) :
    (g.destroyAll xs).slots.length = g.slots.length := by
  induction xs generalizing g with
  | nil => rfl
  | cons x xs ih =>
      refine (ih (g := g.destroy x)).trans ?_
      rcases h : g.nodeOf? x with _ | n
      · rw [destroy_of_untracked h]
      · refine destroy_induction (P := fun d => d.slots.length = g.slots.length) h rfl
          (fun d k f hd => ?_) fun d k hd => ?_
        · rw [modifyRecord, List.length_modify, hd]
        · unfold reclaim
          split
          · exact hd
          · rw [List.length_modify, hd]

/-- A reclaimed node is counted. -/
theorem reclaimedTotal_reclaim (h : g.record? n = some r) :
    (g.reclaim n).reclaimedTotal = g.reclaimedTotal + 1 := by
  simp [reclaim, h]

/-- Every record that is lost by reports is counted as reclaimed. -/
theorem reclaimed_add_liveCount_destroyAll (xs : List ObjectId) :
    (g.destroyAll xs).reclaimedTotal + (g.destroyAll xs).liveCount =
      g.reclaimedTotal + g.liveCount := by
  induction xs generalizing g with
  | nil => rfl
  | cons x xs ih =>
      refine (ih (g := g.destroy x)).trans ?_
      rcases h : g.nodeOf? x with _ | n
      · rw [destroy_of_untracked h]
      · refine destroy_induction (P := fun d => d.reclaimedTotal + d.liveCount =
          g.reclaimedTotal + g.liveCount) h rfl (fun d k f hd => ?_) fun d k hd => ?_
        · rw [liveCount_modifyRecord]
          exact hd
        · rcases hr : d.record? k with _ | r
          · simpa [reclaim, hr] using hd
          · have hlost := liveCount_reclaim hr
            have hcounted := reclaimedTotal_reclaim hr
            omega

end SceneGraph

end WidgetStage
