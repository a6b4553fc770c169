import Mathlib.Data.List.Induction
import WidgetStage.Proofs.Scene.Runs
import WidgetStage.Proofs.Scene.Tracking

/-!
# The history of a scene graph

A scene graph edits its registry and its child lists in place, while slots are recycled, ids are
shared and objects come back. All the same both can be read off the history alone. Every node that
was ever attached stands in it with what it was attached for; it survives as long as its object is
not reported and the graph is not cleared. What survives, in the order in which it was attached,
is what the graph lists.

## Main results

* `surviving_append`: what a further command leaves of the surviving attachments, and adds.
* `Recalls`: a graph lists what survives; every command keeps it (`Recalls.apply`).
* `lookups_eq_surviving`: what is listed and found after every run.
-/

namespace WidgetStage

/-- A node with what it was attached for. -/
structure Attachment where
  object : ObjectId
  id : Option String
  parent : Option (NodeId × String)
  node : NodeId
  deriving DecidableEq, Repr

/-- Whether a command ends what was attached for an object. -/
def SceneCommand.ends (object : ObjectId) : SceneCommand → Bool
  | .attach _ _ _ => false
  | .destroy reported => reported == object
  | .clear => true

namespace SceneGraph

/-- What a command attaches, if it succeeds in attaching something. -/
def attachment? (g : SceneGraph) : SceneCommand → Option Attachment
  | .attach object id parent =>
    match g.attach object id parent with
    | .ok (node, _) => some ⟨object, id, parent, node⟩
    | .error _ => none
  | .destroy _ => none
  | .clear => none

/-- What commands attach, in order. -/
def attachments : SceneGraph → List SceneCommand → List Attachment
  | _, [] => []
  | g, cmd :: later => (g.attachment? cmd).toList ++ (g.apply cmd).attachments later

/-- What commands attach and no later one of them ends, in order. -/
def surviving : SceneGraph → List SceneCommand → List Attachment
  | _, [] => []
  | g, cmd :: later =>
    ((g.attachment? cmd).filter fun a => !later.any (SceneCommand.ends a.object)).toList ++
      (g.apply cmd).surviving later

variable {g g' : SceneGraph} {n m : NodeId} {o : ObjectId} {id : Option String}
  {parent : Option (NodeId × String)} {a : Attachment} {l : List Attachment}
  {cmd : SceneCommand}

/-! ### What survives -/

/-- What is attached is attached by a command that succeeds. -/
theorem attachment?_eq_some (h : g.attachment? cmd = some a) :
    cmd = .attach a.object a.id a.parent ∧
      g.attach a.object a.id a.parent = .ok (a.node, g.apply cmd) := by
  cases cmd with
  | attach object id parent =>
      rcases hattach : g.attach object id parent with e | ⟨n, d⟩
      · simp [attachment?, hattach] at h
      · simp only [attachment?, hattach, Option.some.injEq] at h
        subst h
        exact ⟨rfl, by rw [apply, hattach]⟩
  | destroy object => cases h
  | clear => cases h

/-- A further command ends some of what survives, and may add to it. -/
theorem surviving_append (g : SceneGraph) (cmds : List SceneCommand) (cmd : SceneCommand) :
    g.surviving (cmds ++ [cmd]) =
      ((g.surviving cmds).filter fun a => !cmd.ends a.object) ++
        ((g.run cmds).attachment? cmd).toList := by
  induction cmds generalizing g with
  | nil => cases h : g.attachment? cmd <;> simp [surviving, run, h]
  | cons c cmds ih =>
      have hhead : ((g.attachment? c).filter fun a =>
          !(cmds ++ [cmd]).any (SceneCommand.ends a.object)).toList =
          ((g.attachment? c).filter fun a =>
            !cmds.any (SceneCommand.ends a.object)).toList.filter fun a => !cmd.ends a.object := by
        rcases g.attachment? c with _ | a
        · rfl
        · cases hlater : cmds.any (SceneCommand.ends a.object) <;>
            cases hlast : cmd.ends a.object <;> simp [Option.filter, hlater, hlast]
      rw [List.cons_append, surviving, hhead, ih, surviving, List.filter_append, List.append_assoc]
      rfl

/-! ### What a graph recalls -/

/-- The graph lists exactly the attachments, in order. -/
structure Recalls (g : SceneGraph) (l : List Attachment) : Prop where
  registry : g.registry.entries = l.map fun a => (a.node, a.id)
  children : ∀ p, g.children p = l.flatMap fun a => edgesUnder a.parent a.node p
  nodeOf? : ∀ a ∈ l, g.nodeOf? a.object = some a.node

/-- The empty graph recalls nothing. -/
theorem recalls_empty : empty.Recalls [] :=
  ⟨rfl, fun _ => rfl, fun _ ha => absurd ha List.not_mem_nil⟩

/-- A graph that was cleared recalls nothing. -/
theorem recalls_clear : g.clear.Recalls [] :=
  ⟨rfl, fun _ => children_of_record_none record?_clear, fun _ ha => absurd ha List.not_mem_nil⟩

/-- A new node is recalled last. -/
theorem Recalls.attached (h : g.Recalls l) (hnew : Attached g o id parent n g') :
    g'.Recalls (l ++ [⟨o, id, parent, n⟩]) where
  registry := by rw [hnew.registry, h.registry, List.map_append, List.map_singleton]
  children p := by rw [hnew.children, h.children, List.flatMap_append, List.flatMap_singleton]
  nodeOf? a ha := by
    rw [hnew.nodeOf?]
    rcases List.mem_append.1 ha with ha | ha
    · have hne : a.object ≠ o := by
        intro hao
        have hold := h.nodeOf? a ha
        rw [hao, hnew.untracked] at hold
        cases hold
      rw [if_neg hne, h.nodeOf? a ha]
    · rw [List.mem_singleton.1 ha, if_pos rfl]

/-- Where only some elements count, the others can be left out beforehand. -/
theorem flatMap_filter_eq {α β : Type} (keep : α → Bool) (f : α → List β) (l : List α) :
    (l.filter keep).flatMap f = l.flatMap fun a => if keep a then f a else [] := by
  induction l with
  | nil => rfl
  | cons a l ih => cases hk : keep a <;> simp [hk, ih]

/-- The edges to a node are lost with it. -/
theorem filter_edgesUnder (gone : NodeId → Bool) :
    ((edgesUnder parent n m).filter fun e => !gone e.node) =
      if !gone n then edgesUnder parent n m else [] := by
  have hnode : ∀ e ∈ edgesUnder parent n m, e.node = n := by
    intro e he
    obtain ⟨slot, -, rfl⟩ := mem_edgesUnder.1 he
    rfl
  cases hn : gone n with
  | false => exact List.filter_eq_self.2 fun e he => by rw [hnode e he, hn]; rfl
  | true => exact List.filter_eq_nil_iff.2 fun e he => by rw [hnode e he, hn]; decide

/-- Of what is recalled, a report concerns what was attached for its object. -/
theorem Recalls.notified_iff (h : g.Recalls l) (hg : g.WellFormed) (ha : a ∈ l) (o : ObjectId) :
    g.notified [o] a.node = (o == a.object) := by
  rw [Bool.eq_iff_iff, notified_eq_true_iff, beq_iff_eq]
  simp only [List.mem_singleton, exists_eq_left]
  exact ⟨fun ho => hg.nodeOf?_inj ho (h.nodeOf? a ha), fun ho => ho ▸ h.nodeOf? a ha⟩

/-- What was attached for a reported object is no longer recalled. -/
theorem Recalls.destroy (h : g.Recalls l) (hg : g.WellFormed) (o : ObjectId) :
    (g.destroy o).Recalls (l.filter fun a => !(o == a.object)) where
  registry := by
    rw [(hg.pruned_destroy o).registry, h.registry, List.filter_map]
    congr 1
    refine List.filter_congr fun a ha => ?_
    rw [Function.comp, h.notified_iff hg ha]
  children p := by
    rw [(hg.pruned_destroy o).children, h.children, List.filter_flatMap, flatMap_filter_eq]
    refine List.flatMap_congr fun a ha => ?_
    rw [filter_edgesUnder, h.notified_iff hg ha]
  nodeOf? a ha := by
    obtain ⟨hl, ho⟩ := List.mem_filter.1 ha
    have hone : g.destroy o = g.destroyAll [o] := rfl
    have hout : a.object ∉ [o] := by
      rw [List.mem_singleton]
      rintro rfl
      simp at ho
    rw [hone, hg.nodeOf?_destroyAll, if_neg hout, h.nodeOf? a hl]

/-- Every command leaves a graph that recalls what survives it. -/
theorem Recalls.apply (h : g.Recalls l) (hg : g.WellFormed) (cmd : SceneCommand) :
    (g.apply cmd).Recalls
      ((l.filter fun a => !cmd.ends a.object) ++ (g.attachment? cmd).toList) := by
  cases cmd with
  | attach object id parent =>
      have hall : (l.filter fun a => !(SceneCommand.attach object id parent).ends a.object) = l :=
        List.filter_eq_self.2 fun _ _ => rfl
      rw [hall]
      rcases hattach : g.attach object id parent with e | ⟨n, d⟩
      · simpa [SceneGraph.apply, attachment?, hattach] using h
      · simpa [SceneGraph.apply, attachment?, hattach] using
          h.attached (attached_of_attach hg.toFreeListed hattach)
  | destroy object =>
      rw [attachment?, Option.toList_none, List.append_nil]
      exact h.destroy hg object
  | clear =>
      have hnone : (l.filter fun a => !SceneCommand.clear.ends a.object) = [] :=
        List.filter_eq_nil_iff.2 fun _ _ => by simp [SceneCommand.ends]
      rw [hnone, attachment?, Option.toList_none, List.append_nil]
      exact recalls_clear

/-- After every run a graph recalls what has survived. -/
theorem recalls_run (cmds : List SceneCommand) :
    (empty.run cmds).Recalls (empty.surviving cmds) := by
  induction cmds using List.reverseRecOn with
  | nil => exact recalls_empty
  | append_singleton cmds cmd ih =>
      have hrun : empty.run (cmds ++ [cmd]) = (empty.run cmds).apply cmd := by
        rw [run, List.foldl_append]
        rfl
      rw [hrun, surviving_append]
      exact ih.apply (reachable_wellFormed cmds) cmd

/-! ### What is found -/

/-- The first child in a slot is the first one that was attached there. -/
theorem find?_edgesUnder (l : List Attachment) (p : NodeId) (slot : String) :
    ((l.flatMap fun a => edgesUnder a.parent a.node p).find? fun e => e.slot == slot).map
        ChildEdge.node =
      (l.find? fun a => a.parent == some (p, slot)).map Attachment.node := by
  induction l with
  | nil => rfl
  | cons a l ih =>
      rw [List.flatMap_cons, List.find?_append]
      rcases hparent : a.parent with _ | ⟨q, s⟩
      · simpa [edgesUnder, hparent] using ih
      · by_cases hq : q = p
        · by_cases hs : s = slot
          · simp [edgesUnder, hparent, hq, hs]
          · simpa [edgesUnder, hparent, hq, hs] using ih
        · simpa [edgesUnder, hparent, hq] using ih

namespace Recalls

/-- An id finds the first node that was attached under it. -/
theorem find (h : g.Recalls l) (id : Option String) :
    g.find id = (l.find? fun a => a.id == id).map Attachment.node := by
  rw [SceneGraph.find, Registry.find, h.registry, List.find?_map, Option.map_map]
  rfl

/-- A slot of a node finds the first child that was attached there. -/
theorem childInSlot? (h : g.Recalls l) (p : NodeId) (slot : String) :
    g.childInSlot? p slot =
      (l.find? fun a => a.parent == some (p, slot)).map Attachment.node := by
  rw [SceneGraph.childInSlot?, h.children, find?_edgesUnder]

/-- An object finds the node that was attached for it. -/
theorem nodeOf?_eq_find? (h : g.Recalls l) (hg : g.WellFormed) (o : ObjectId) :
    g.nodeOf? o = (l.find? fun a => a.object == o).map Attachment.node := by
  generalize hfind : l.find? _ = found
  rcases found with _ | a
  · rw [Option.map_none, Option.eq_none_iff_forall_ne_some]
    intro n hn
    have hmem := hg.mem_registry_of_nodeOf? hn
    rw [h.registry] at hmem
    obtain ⟨a, ha, hpair⟩ := List.mem_map.1 hmem
    have hnode : a.node = n := congrArg Prod.fst hpair
    have hobject := h.nodeOf? a ha
    rw [hnode] at hobject
    exact List.find?_eq_none.1 hfind a ha (beq_iff_eq.2 (hg.nodeOf?_inj hobject hn))
  · have hobject : a.object = o := by simpa using List.find?_some hfind
    rw [Option.map_some, ← hobject]
    exact h.nodeOf? a (List.mem_of_find?_eq_some hfind)

/-- At most one node without an id is recalled. -/
theorem countP_root_le_one (h : g.Recalls l) (hg : g.WellFormed) :
    l.countP (fun a => a.id == none) ≤ 1 := by
  have hnodes : ((l.filter fun a => a.id == none).map Attachment.node).Nodup := by
    have hall := hg.registered_once
    rw [h.registry, List.map_map] at hall
    exact hall.sublist (List.filter_sublist.map _)
  have hroot : ∀ a ∈ l.filter fun a => a.id == none, (a.node, none) ∈ g.registry.entries := by
    intro a ha
    obtain ⟨hl, hid⟩ := List.mem_filter.1 ha
    rw [h.registry]
    exact List.mem_map.2 ⟨a, hl, by rw [beq_iff_eq.1 hid]⟩
  rw [List.countP_eq_length_filter]
  generalize l.filter _ = roots at hnodes hroot ⊢
  rcases roots with _ | ⟨a, _ | ⟨b, rest⟩⟩
  · exact Nat.zero_le 1
  · exact Nat.le_refl 1
  · have hsame := hg.one_root a.node b.node (hroot a (by simp)) (hroot b (by simp))
    simp [hsame] at hnodes

end Recalls

/-- After every run, the registry lists the nodes that have survived with their ids, in the order
in which they were attached, and the children of a node are those that were attached under it and
have survived, with their slots and in the same order. So an id, a slot of a node and an object
find what was attached there first among what has survived, and one node at most has survived
without an id. -/
theorem lookups_eq_surviving (cmds : List SceneCommand) :
    ((empty.run cmds).registry.entries =
      (empty.surviving cmds).map fun a => (a.node, a.id)) ∧
    (∀ id, (empty.run cmds).find id =
      ((empty.surviving cmds).find? fun a => a.id == id).map Attachment.node) ∧
    (empty.surviving cmds).countP (fun a => a.id == none) ≤ 1 ∧
    (∀ p, (empty.run cmds).children p =
      (empty.surviving cmds).flatMap fun a => edgesUnder a.parent a.node p) ∧
    (∀ p slot, (empty.run cmds).childInSlot? p slot =
      ((empty.surviving cmds).find? fun a => a.parent == some (p, slot)).map Attachment.node) ∧
    (∀ o, (empty.run cmds).nodeOf? o =
      ((empty.surviving cmds).find? fun a => a.object == o).map Attachment.node) := by
  have h := recalls_run cmds
  have hg := reachable_wellFormed cmds
  exact ⟨h.registry, h.find, h.countP_root_le_one hg, h.children, h.childInSlot?,
    h.nodeOf?_eq_find? hg⟩

end SceneGraph

end WidgetStage
