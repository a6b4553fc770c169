import WidgetStage.Proofs.Scene.Attaching
import WidgetStage.Proofs.Scene.Generations

/-!
# Subtrees that are replaced

When the objects of a whole subtree are reported destroyed, in whatever order, its nodes are
reclaimed and nothing else is affected, except that the parent of the subtree loses an edge. The
next node may take a slot that has just become free. Its name is a new one all the same, because
that slot has gone on with the next generation.

## Main results

* `Under`: the nodes at and below a node, as far as there is one.
* `Replaced`: a subtree in a slot of a node is gone, and a new node may have come in its place.
* `WellFormed.replaced_of_pruned`: what is left when exactly a subtree is gone.
* `Replaced.joined`: a new node in the place of the subtree.
-/

namespace WidgetStage.SceneGraph

open Relation (ReflTransGen TransGen)

variable {g g' g'' : SceneGraph} {n m k source : NodeId} {c : ObjectId} {slot name : String}
  {old : Option NodeId}

/-- The node is `top`, or going up from it leads there. -/
def Under (g : SceneGraph) (top : Option NodeId) (m : NodeId) : Prop :=
  ∃ k, top = some k ∧ ReflTransGen (fun c p => g.parent? c = some p) m k

/-- A node that comes in the place of a subtree. -/
structure Newcomer where
  node : NodeId
  object : ObjectId
  id : String

/-- `g'` is `g` without the subtree at `old`, which has stood in a slot of `source`, and with the
node `new` in its place, if there is one. -/
structure Replaced (g : SceneGraph) (source : NodeId) (slot : String) (old : Option NodeId)
    (new : Option Newcomer) (g' : SceneGraph) : Prop where
  old_edge : ∀ k, old = some k → ⟨k, slot⟩ ∈ g.children source
  source_kept : ¬ g.Under old source
  gone : ∀ m, g.Under old m → g.lifecycle m = .alive ∧ g'.lifecycle m = .reclaimed
  /-- The name of the new node was not in use, not even by a node of the subtree. -/
  came : ∀ e, new = some e → g.lifecycle e.node = .reclaimed ∧ g'.lifecycle e.node = .alive ∧
    g'.object? e.node = some e.object ∧ g'.id? e.node = some e.id ∧
      g'.parent? e.node = some source ∧ g'.children e.node = []
  kept : ∀ m, ¬ g.Under old m → (∀ e, new = some e → m ≠ e.node) →
    g'.lifecycle m = g.lifecycle m ∧ g'.object? m = g.object? m ∧ g'.id? m = g.id? m ∧
      g'.parent? m = g.parent? m
  kept_children : ∀ m, ¬ g.Under old m → (∀ e, new = some e → m ≠ e.node) → m ≠ source →
    g'.children m = g.children m
  /-- The old edge is lost, and the new one is the last. -/
  source_children : g'.children source =
    (g.children source).filter (fun e => some e.node ≠ old) ++
      (new.map fun e => ⟨e.node, slot⟩).toList
  /-- What is still alive is registered as before, and the new node is the last. -/
  registry : g'.registry.entries =
    g.registry.entries.filter (fun e => g'.lifecycle e.1 = .alive) ++
      (new.map fun e => (e.node, some e.id)).toList

/-- A subtree contains the children of its nodes. -/
theorem under_of_parent (hm : g.Under old m) (hn : g.parent? n = some m) : g.Under old n := by
  obtain ⟨k, hk, hup⟩ := hm
  exact ⟨k, hk, .head hn hup⟩

/-- A node of a subtree is at its top, or its parent belongs to the subtree. -/
theorem under_cases (hn : g.Under old n) :
    old = some n ∨ ∃ m, g.parent? n = some m ∧ g.Under old m := by
  obtain ⟨k, hk, hup⟩ := hn
  rcases ReflTransGen.cases_head_iff.1 hup with rfl | ⟨m, hm, hup⟩
  · exact Or.inl hk
  · exact Or.inr ⟨m, hm, k, hk, hup⟩

namespace WellFormed

/-- A subtree below a node consists of alive nodes. -/
theorem alive_of_under (hg : g.WellFormed) (hold : ∀ k, old = some k → g.parent? k = some source)
    (hm : g.Under old m) : g.lifecycle m = .alive := by
  rcases under_cases hm with hk | ⟨p, hp, -⟩
  · exact (hg.parent_stored m source (hold m hk)).1
  · exact (hg.parent_stored m p hp).1

/-- The node above a subtree does not belong to it. -/
theorem not_under_source (hg : g.WellFormed)
    (hold : ∀ k, old = some k → g.parent? k = some source) : ¬ g.Under old source := by
  rintro ⟨k, hk, hup⟩
  exact hg.forest k (TransGen.head' (hold k hk) hup)

/-- Of the children of a node that is no part of the subtree, only its top belongs to it. -/
theorem under_child_iff (hg : g.WellFormed) (hm : ¬ g.Under old m) {e : ChildEdge}
    (he : e ∈ g.children m) : g.Under old e.node ↔ old = some e.node := by
  refine ⟨fun hunder => ?_, fun hk => ⟨e.node, hk, .refl⟩⟩
  rcases under_cases hunder with hk | ⟨p, hp, hup⟩
  · exact hk
  · have hparent := (hg.linked m e.node).1 ⟨e, he, rfl⟩
    obtain rfl : p = m := Option.some.inj (hp.symm.trans hparent)
    exact absurd hup hm

end WellFormed

/-- If no node is pending and exactly the nodes of a subtree are destroyed, then they are reclaimed,
and nothing else is affected but the edge to the top of the subtree. -/
theorem WellFormed.replaced_of_pruned {gone : NodeId → Bool} (hg : g.WellFormed)
    (h : Pruned gone g g') (hsettled : ∀ m, g.lifecycle m ≠ .pendingDelete)
    (hedge : ∀ k, old = some k → ⟨k, slot⟩ ∈ g.children source)
    (hgone : ∀ m, gone m = true ↔ g.Under old m) : g.Replaced source slot old none g' := by
  have hold : ∀ k, old = some k → g.parent? k = some source :=
    fun k hk => (hg.linked source k).1 ⟨_, hedge k hk, rfl⟩
  have hkept : ∀ m, ¬ g.Under old m → gone m = false :=
    fun m hm => Bool.eq_false_iff.2 fun hm' => hm ((hgone m).1 hm')
  have hsource := hg.not_under_source hold
  have hlife : ∀ m, ¬ g.Under old m → g'.lifecycle m = g.lifecycle m := by
    intro m hm
    rw [h.lifecycle]
    cases hl : g.lifecycle m with
    | alive => rw [if_pos ⟨rfl, hkept m hm⟩]
    | pendingDelete => exact absurd hl (hsettled m)
    | reclaimed =>
        have hnil : g.children m = [] := children_of_record_none (record?_of_reclaimed hg hl)
        simp [hnil]
  have hchild : ∀ m, ¬ g.Under old m → ∀ e ∈ g.children m,
      (!gone e.node) = decide (some e.node ≠ old) := by
    intro m hm e he
    rw [Bool.eq_iff_iff, Bool.not_eq_true', ← Bool.not_eq_true, hgone,
      hg.under_child_iff hm he, decide_eq_true_eq, ne_eq, eq_comm]
  refine ⟨hedge, hsource, fun m hm => ⟨hg.alive_of_under hold hm, ?_⟩, nofun, fun m hm _ => ?_,
    fun m hm _ hne => ?_, ?_, ?_⟩
  · -- with a node everything below it is gone, so that it has nothing to wait for
    have hbelow : ∀ e ∈ g.children m, gone e.node = true := by
      intro e he
      exact (hgone e.node).2 (under_of_parent hm ((hg.linked m e.node).1 ⟨e, he, rfl⟩))
    rw [h.lifecycle, if_neg (by simp [(hgone m).2 hm]), if_pos hbelow]
  · exact ⟨hlife m hm, h.kept hg (hkept m hm) (hlife m hm)⟩
  · rw [h.children]
    refine List.filter_eq_self.2 fun e he => ?_
    rw [hchild m hm e he, decide_eq_true_eq]
    intro hk
    have hparent := (hg.linked m e.node).1 ⟨e, he, rfl⟩
    exact hne (Option.some.inj (hparent.symm.trans (hold e.node hk.symm)))
  · rw [h.children, List.filter_congr (hchild source hsource), Option.map_none, Option.toList_none,
      List.append_nil]
  · rw [h.registry, Option.map_none, Option.toList_none, List.append_nil]
    refine List.filter_congr fun e he => ?_
    have halive := (hg.mem_registry_iff.1 he).1
    rw [Bool.eq_iff_iff, decide_eq_true_eq, h.lifecycle_alive_iff, Bool.not_eq_true',
      and_iff_right halive]

/-- The ids that are in use when a subtree is gone are those of the alive nodes outside of it. -/
theorem Replaced.carries_iff (h : g.Replaced source slot old none g') :
    (∃ m, g'.lifecycle m = .alive ∧ g'.id? m = some name) ↔
      ∃ m, g.lifecycle m = .alive ∧ ¬ g.Under old m ∧ g.id? m = some name := by
  refine exists_congr fun m => ?_
  by_cases hm : g.Under old m
  · simp [hm, (h.gone m hm).2]
  · obtain ⟨hlife, -, hid, -⟩ := h.kept m hm nofun
    simp [hm, hlife, hid]

/-- A new node comes in the place of the subtree. -/
theorem Replaced.joined (h : g.Replaced source slot old none g') (hg : g.WellFormed)
    (hsource : g.lifecycle source = .alive) (hn : g.lifecycle n = .reclaimed)
    (hj : Joined g' c (some name) (some (source, slot)) n g'') :
    g.Replaced source slot old (some ⟨n, c, name⟩) g'' := by
  have hne : ∀ m, g.lifecycle m = .alive → m ≠ n := by
    rintro m hm rfl
    rw [hn] at hm
    cases hm
  refine ⟨h.old_edge, h.source_kept, fun m hm => ?_, fun e he => ?_, fun m hm hnew => ?_,
    fun m hm hnew hms => ?_, ?_, ?_⟩
  · obtain ⟨hl, hl'⟩ := h.gone m hm
    rw [hj.lifecycle, if_neg (hne m hl)]
    exact ⟨hl, hl'⟩
  · cases he
    refine ⟨hn, ?_, ?_, ?_, ?_, ?_⟩
    · rw [hj.lifecycle, if_pos rfl]
    · rw [hj.object?, if_pos rfl]
    · rw [hj.id?, if_pos rfl]
    · rw [hj.parent?, if_pos rfl]
      rfl
    · rw [hj.children, if_pos rfl]
  · have hmn : m ≠ n := hnew _ rfl
    rw [hj.lifecycle, hj.object?, hj.id?, hj.parent?, if_neg hmn, if_neg hmn, if_neg hmn,
      if_neg hmn]
    exact h.kept m hm nofun
  · rw [hj.children, if_neg (hnew _ rfl), h.kept_children m hm nofun hms, edgesUnder,
      if_neg (Ne.symm hms), List.append_nil]
  · rw [hj.children, if_neg (hne source hsource), h.source_children, edgesUnder, if_pos rfl]
    simp
  · have hsame : g.registry.entries.filter (fun e => g'.lifecycle e.1 = .alive) =
        g.registry.entries.filter (fun e => g''.lifecycle e.1 = .alive) := by
      refine List.filter_congr fun e he => ?_
      rw [hj.lifecycle, if_neg (hne e.1 (hg.mem_registry_iff.1 he).1)]
    rw [hj.registry, h.registry, hsame]
    simp

end WidgetStage.SceneGraph
