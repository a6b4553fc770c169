import WidgetStage.Proofs.Scene.History

/-!
# When attaching fails, and what it changes

Attaching checks three things in a fixed order: that the object is not tracked yet, that the parent
is alive, and that there is no second root. The last check belongs to the registry, and comes after
the slot of the new node has been looked up. All the same a refused call leaves nothing behind, so
that it has no influence on the names of later nodes. A call that is not refused adds one node, and
changes nothing about any other name, be it of a stored node, stale, or never issued.

## Main results

* `WellFormed.attach_eq_error_iff`: a call fails exactly with what `Refuses` says, and succeeds
  exactly if nothing refuses it (`WellFormed.exists_attach_ok_iff`).
* `after_attachInPlace`: attaching in place, step by step, has the same results, and leaves the
  graph as it was if it fails.
* `WellFormed.run_refused`: refused calls are as good as not made.
* `Attached.joined`: what a call adds, asked about node by node.
* `attach_exact`: all of this after every run.
-/

namespace WidgetStage.SceneGraph

variable {g g' : SceneGraph} {n m root : NodeId} {o : ObjectId} {id : Option String}
  {parent : Option (NodeId × String)} {e : SceneError}

/-! ### What refuses a call -/

/-- The object is bound to an alive node. -/
def Tracks (g : SceneGraph) (o : ObjectId) : Prop :=
  ∃ n, g.lifecycle n = .alive ∧ g.object? n = some o

/-- Why a call is refused. What is checked first is reported first. -/
inductive Refuses (g : SceneGraph) (o : ObjectId) (id : Option String)
    (parent : Option (NodeId × String)) : SceneError → Prop
  /-- The object has a node already. -/
  | duplicate (htracked : g.Tracks o) : Refuses g o id parent (.duplicateObject o)
  /-- There is to be a parent, and it is not alive. -/
  | orphan {p : NodeId} {slot : String} (huntracked : ¬ g.Tracks o)
      (hparent : parent = some (p, slot)) (hdead : g.lifecycle p ≠ .alive) :
      Refuses g o id parent (.parentUnavailable p)
  /-- The node is to be the root, and another alive node is. -/
  | secondRoot {root : NodeId} (huntracked : ¬ g.Tracks o)
      (hparent : ∀ p slot, parent = some (p, slot) → g.lifecycle p = .alive) (hid : id = none)
      (halive : g.lifecycle root = .alive) (hroot : g.id? root = none) :
      Refuses g o id parent (.rootExists root)

/-- A node of a tracked object is the one that the object is bound to. -/
theorem WellFormed.nodeOf?_eq_some_iff (hg : g.WellFormed) :
    g.nodeOf? o = some n ↔ g.lifecycle n = .alive ∧ g.object? n = some o := by
  rw [hg.bound, lifecycle_eq_alive_iff]
  constructor
  · rintro ⟨r, hr, hl, rfl⟩
    exact ⟨⟨r, hr, hl⟩, object?_of_record hr⟩
  · rintro ⟨⟨r, hr, hl⟩, ho⟩
    rw [object?_of_record hr, Option.some.injEq] at ho
    exact ⟨r, hr, hl, ho⟩

/-- An object has no entry in the table if it is not tracked. -/
theorem WellFormed.nodeOf?_eq_none_iff (hg : g.WellFormed) :
    g.nodeOf? o = none ↔ ¬ g.Tracks o := by
  simp only [Option.eq_none_iff_forall_ne_some, Tracks, not_exists, ← hg.nodeOf?_eq_some_iff, ne_eq]

/-- The root is the alive node without an id. -/
theorem WellFormed.root_eq_some_iff (hg : g.WellFormed) :
    g.registry.root = some root ↔ g.lifecycle root = .alive ∧ g.id? root = none := by
  have hmem : ∀ k, g.registry.root = some k → (k, none) ∈ g.registry.entries := by
    intro k hk
    obtain ⟨⟨m, i⟩, hfind, rfl⟩ := Option.map_eq_some_iff.1 hk
    obtain rfl : i = none := by simpa using List.find?_some hfind
    exact List.mem_of_find?_eq_some hfind
  refine ⟨fun h => hg.mem_registry_iff.1 (hmem root h), fun h => ?_⟩
  have hentry := hg.mem_registry_iff.2 h
  rcases hr : g.registry.root with _ | k
  · exact absurd h.2 (hg.find_eq_none_iff.1 hr root h.1)
  · rw [hg.one_root k root (hmem k hr) hentry]

/-- A parent is refused if it is not alive. -/
theorem parentAlive_eq_error_iff :
    g.parentAlive parent = .error e ↔
      ∃ p slot, parent = some (p, slot) ∧ g.lifecycle p ≠ .alive ∧ e = .parentUnavailable p := by
  rcases parent with _ | ⟨p, slot⟩
  · simp [parentAlive]
  · by_cases hp : g.lifecycle p = .alive
    · simp [parentAlive, hp]
    · simpa [parentAlive, hp] using eq_comm

/-- The check passes without a parent, and with one that is alive. -/
theorem parentAlive_eq_ok_iff :
    g.parentAlive parent = .ok () ↔
      ∀ p slot, parent = some (p, slot) → g.lifecycle p = .alive := by
  refine ⟨fun h => parentAlive_eq_ok h, fun h => ?_⟩
  rcases hpar : g.parentAlive parent with e | u
  · obtain ⟨p, slot, hp, hdead, -⟩ := parentAlive_eq_error_iff.1 hpar
    exact absurd (h p slot hp) hdead
  · rfl

/-- The registry refuses a second root, and nothing else. -/
theorem register_eq_error_iff {reg : Registry} :
    reg.register n id = .error e ↔ id = none ∧ ∃ root, reg.root = some root ∧
      e = .rootExists root := by
  rcases id with _ | name
  · rcases hroot : reg.root with _ | root
    · simp [Registry.register, hroot]
    · simp [Registry.register, hroot, eq_comm]
  · simp [Registry.register]

/-- What a call answers, check by check. -/
theorem attach_eq_error_cases :
    g.attach o id parent = .error e ↔
      (∃ k, g.nodeOf? o = some k) ∧ e = .duplicateObject o ∨
      g.nodeOf? o = none ∧ g.parentAlive parent = .error e ∨
      g.nodeOf? o = none ∧ g.parentAlive parent = .ok () ∧
        g.registry.register g.nextNode id = .error e := by
  rcases hnode : g.nodeOf? o with _ | k
  · rcases hpar : g.parentAlive parent with e' | u
    · simp [attach, hnode, hpar]
    · rcases hreg : g.registry.register g.nextNode id with e' | reg
      · simp [attach, hnode, hpar, hreg]
      · rcases parent with _ | ⟨p, slot⟩ <;> simp [attach, hnode, hpar, hreg]
  · simp [attach, hnode, eq_comm]

namespace WellFormed

/-- A call fails exactly with what refuses it. -/
theorem attach_eq_error_iff (hg : g.WellFormed) :
    g.attach o id parent = .error e ↔ g.Refuses o id parent e := by
  rw [attach_eq_error_cases, hg.nodeOf?_eq_none_iff, parentAlive_eq_error_iff,
    parentAlive_eq_ok_iff, register_eq_error_iff]
  simp only [hg.nodeOf?_eq_some_iff, hg.root_eq_some_iff]
  constructor
  · rintro (⟨hk, rfl⟩ | ⟨hun, p, slot, hp, hdead, rfl⟩ | ⟨hun, hp, hid, root, ⟨hl, hroot⟩, rfl⟩)
    · exact .duplicate hk
    · exact .orphan hun hp hdead
    · exact .secondRoot hun hp hid hl hroot
  · intro h
    cases h with
    | duplicate hk => exact .inl ⟨hk, rfl⟩
    | orphan hun hp hdead => exact .inr (.inl ⟨hun, _, _, hp, hdead, rfl⟩)
    | secondRoot hun hp hid hl hroot => exact .inr (.inr ⟨hun, hp, hid, _, ⟨hl, hroot⟩, rfl⟩)

/-- A call succeeds exactly if the object is new, the parent, if there is to be one, is alive, and
the node has an id unless there is no root yet. -/
theorem exists_attach_ok_iff (hg : g.WellFormed) :
    (∃ n g', g.attach o id parent = .ok (n, g')) ↔
      ¬ g.Tracks o ∧ (∀ p slot, parent = some (p, slot) → g.lifecycle p = .alive) ∧
        (id = none → ∀ root, g.lifecycle root = .alive → g.id? root ≠ none) := by
  constructor
  · rintro ⟨n, g', h⟩
    have hno : ∀ e, ¬ g.Refuses o id parent e := by
      intro e he
      rw [hg.attach_eq_error_iff.2 he] at h
      cases h
    have hun : ¬ g.Tracks o := fun ht => hno _ (.duplicate ht)
    have halive : ∀ p slot, parent = some (p, slot) → g.lifecycle p = .alive :=
      fun p slot hp => by_contra fun hdead => hno _ (.orphan hun hp hdead)
    exact ⟨hun, halive, fun hid root hl hroot => hno _ (.secondRoot hun halive hid hl hroot)⟩
  · rintro ⟨hun, halive, hroot⟩
    rcases h : g.attach o id parent with e | ⟨n, g'⟩
    · cases hg.attach_eq_error_iff.1 h with
      | duplicate ht => exact absurd ht hun
      | orphan _ hp hdead => exact absurd (halive _ _ hp) hdead
      | secondRoot _ _ hid hl hnone => exact absurd hnone (hroot hid _ hl)
    · exact ⟨n, g', rfl⟩

end WellFormed

/-! ### Attaching in place -/

/-- Attaching, as it is done to a graph that is changed step by step: whatever has been changed
before a step fails stays changed. -/
def attachInPlace (object : ObjectId) (id : Option String) (parent : Option (NodeId × String)) :
    ExceptT SceneError (StateM SceneGraph) NodeId := do
  if ((← get).nodeOf? object).isSome then throw (.duplicateObject object)
  if let some (p, _) := parent then
    if (← get).lifecycle p ≠ .alive then throw (.parentUnavailable p)
  let node := (← get).nextNode
  match (← get).registry.register node id with
  | .error e => throw e
  | .ok registry => modify fun g => { g with registry := registry }
  modify fun g => g.store node (SceneNode.fresh object id (parent.map Prod.fst))
  modify fun g => { g with byObject := (object, node) :: g.byObject }
  if let some (p, slot) := parent then
    modify fun g => g.modifyRecord p fun r => r.addChild ⟨node, slot⟩
  return node

section After

variable {α β : Type}

/-- What a series of steps answers, and the graph that it leaves behind. -/
def after (x : ExceptT SceneError (StateM SceneGraph) α) (g : SceneGraph) :
    Except SceneError α × SceneGraph :=
  x.run.run g

/-- Steps that follow a failing one are not taken. -/
@[simp]
theorem after_bind (x : ExceptT SceneError (StateM SceneGraph) α)
    (f : α → ExceptT SceneError (StateM SceneGraph) β) (g : SceneGraph) :
    after (x >>= f) g = match after x g with
      | (.ok a, g') => after (f a) g'
      | (.error e, g') => (.error e, g') := by
  have hrun : after (x >>= f) g = StateT.run (ExceptT.run (x >>= f)) g := rfl
  have hfirst : after x g = StateT.run x.run g := rfl
  rw [hrun, hfirst, ExceptT.run_bind, StateT.run_bind]
  rcases StateT.run x.run g with ⟨e | a, g'⟩ <;> rfl

/-- Reading the graph does not change it. -/
@[simp]
theorem after_get (g : SceneGraph) :
    after (get : ExceptT SceneError (StateM SceneGraph) SceneGraph) g = (.ok g, g) :=
  rfl

/-- Changing the graph succeeds. -/
@[simp]
theorem after_modify (f : SceneGraph → SceneGraph) (g : SceneGraph) :
    after (modify f) g = (.ok ⟨⟩, f g) :=
  rfl

/-- What changed before an error is not taken back. -/
@[simp]
theorem after_throw (e : SceneError) (g : SceneGraph) :
    after (throw e : ExceptT SceneError (StateM SceneGraph) α) g = (.error e, g) :=
  rfl

/-- Giving an answer does not change the graph. -/
@[simp]
theorem after_pure (a : α) (g : SceneGraph) :
    after (pure a : ExceptT SceneError (StateM SceneGraph) α) g = (.ok a, g) :=
  rfl

end After

/-- Storing a node does not look at the registry. -/
theorem store_of_registered (reg : Registry) (r : SceneNode) :
    { g with registry := reg }.store n r = { g.store n r with registry := reg } := by
  rcases hl : g.freeList with _ | ⟨i, rest⟩ <;> simp [store, hl]

/-- Step by step, attaching leads where `attach` says, and leaves the graph as it is if it
fails. -/
theorem after_attachInPlace (g : SceneGraph) (o : ObjectId) (id : Option String)
    (parent : Option (NodeId × String)) :
    after (attachInPlace o id parent) g =
      match g.attach o id parent with
      | .ok (n, g') => (.ok n, g')
      | .error e => (.error e, g) := by
  rcases hnode : g.nodeOf? o with _ | k
  · rcases hpar : g.parentAlive parent with e | u
    · obtain ⟨p, slot, rfl, hdead, rfl⟩ := parentAlive_eq_error_iff.1 hpar
      simp [attachInPlace, attach, hnode, hpar, hdead]
    · have halive := parentAlive_eq_ok hpar
      rcases hreg : g.registry.register g.nextNode id with e | reg
      · rcases parent with _ | ⟨p, slot⟩
        · simp [attachInPlace, attach, hnode, hpar, hreg]
        · simp [attachInPlace, attach, hnode, hpar, hreg, halive p slot rfl]
      · rcases parent with _ | ⟨p, slot⟩
        · simp [attachInPlace, attach, hnode, hpar, hreg, store_of_registered, -bind_pure_comp]
        · simp [attachInPlace, attach, hnode, hpar, hreg, halive p slot rfl, store_of_registered,
            -bind_pure_comp]
  · simp [attachInPlace, attach, hnode]

/-! ### Refused calls -/

/-- The command asks for a node and is refused. -/
def IsRefused (g : SceneGraph) (cmd : SceneCommand) : Prop :=
  ∃ o id parent e, cmd = .attach o id parent ∧ g.Refuses o id parent e

/-- A refused call leaves the graph as it is, and attaches nothing. -/
theorem WellFormed.apply_refused (hg : g.WellFormed) {cmd : SceneCommand} (h : g.IsRefused cmd) :
    g.apply cmd = g ∧ g.attachment? cmd = none := by
  obtain ⟨o, id, parent, e, rfl, he⟩ := h
  have herr := hg.attach_eq_error_iff.2 he
  exact ⟨by rw [SceneGraph.apply, herr], by rw [attachment?, herr]⟩

/-- Refused calls are as good as not made: later commands lead to the same graph, and the nodes
that they attach have the same names. -/
theorem WellFormed.run_refused (hg : g.WellFormed) {refused : List SceneCommand}
    (h : ∀ cmd ∈ refused, g.IsRefused cmd) (later : List SceneCommand) :
    g.run (refused ++ later) = g.run later ∧
      g.attachments (refused ++ later) = g.attachments later := by
  induction refused with
  | nil => exact ⟨rfl, rfl⟩
  | cons cmd refused ih =>
      obtain ⟨happly, hnone⟩ := hg.apply_refused (h cmd List.mem_cons_self)
      obtain ⟨hrun, hattached⟩ := ih fun c hc => h c (List.mem_cons_of_mem cmd hc)
      refine ⟨?_, ?_⟩
      · rw [← hrun, List.cons_append, SceneGraph.run, List.foldl_cons, happly]
        rfl
      · rw [List.cons_append, attachments, happly, hnone, Option.toList_none, List.nil_append,
          hattached]

/-! ### What a call adds -/

/-- `g'` has the new node `n`, and answers about any other name as `g` does; the new node is the
last of the registry, and of the children of its parent. -/
structure Joined (g : SceneGraph) (o : ObjectId) (id : Option String)
    (parent : Option (NodeId × String)) (n : NodeId) (g' : SceneGraph) : Prop where
  unused : g.lifecycle n = .reclaimed
  lifecycle : ∀ m, g'.lifecycle m = if m = n then .alive else g.lifecycle m
  object? : ∀ m, g'.object? m = if m = n then some o else g.object? m
  id? : ∀ m, g'.id? m = if m = n then id else g.id? m
  parent? : ∀ m, g'.parent? m = if m = n then parent.map Prod.fst else g.parent? m
  children : ∀ m, g'.children m =
    if m = n then [] else g.children m ++ edgesUnder parent n m
  registry : g'.registry.entries = g.registry.entries ++ [(n, id)]
  nodeOf? : ∀ x, g'.nodeOf? x = if x = o then some n else g.nodeOf? x

namespace Attached

/-- The new node has the given object; no other node changes its object. -/
theorem object? (h : Attached g o id parent n g') :
    g'.object? m = if m = n then some o else g.object? m := by
  by_cases hm : m = n
  · simp [SceneGraph.object?, h.record?, hm, SceneNode.fresh]
  · rcases hr : g.record? m with _ | r <;> simp [SceneGraph.object?, h.record?, hm, hr]

/-- The new node has no children. -/
theorem children_self (h : Attached g o id parent n g') : g'.children n = [] := by
  simp [SceneGraph.children, h.record?, SceneNode.fresh]

/-- An attached node has joined the graph. -/
theorem joined (h : Attached g o id parent n g') : Joined g o id parent n g' where
  unused := by simp [SceneGraph.lifecycle, h.unstored]
  lifecycle _ := h.lifecycle
  object? _ := h.object?
  id? _ := h.id?
  parent? _ := h.parent?
  children m := by
    split
    · next hm => rw [hm, h.children_self]
    · exact h.children
  registry := h.registry
  nodeOf? := h.nodeOf?

end Attached

/-- After every run and for all arguments, a call fails exactly with what refuses it, and succeeds
exactly if the object is bound to no alive node, the parent, if one is given, is alive, and no
other alive node is without an id if the new one is. A failing call leaves the graph as it is, even
if it is taken step by step, so that refused calls change neither the graphs nor the names of later
nodes. A call that succeeds adds one node, and changes nothing about any other name. -/
theorem attach_exact (cmds : List SceneCommand) (o : ObjectId) (id : Option String)
    (parent : Option (NodeId × String)) :
    (∀ e, (empty.run cmds).attach o id parent = .error e ↔
      (empty.run cmds).Refuses o id parent e) ∧
    ((∃ n g', (empty.run cmds).attach o id parent = .ok (n, g')) ↔
      ¬ (empty.run cmds).Tracks o ∧
        (∀ p slot, parent = some (p, slot) → (empty.run cmds).lifecycle p = .alive) ∧
        (id = none → ∀ root, (empty.run cmds).lifecycle root = .alive →
          (empty.run cmds).id? root ≠ none)) ∧
    (∀ e, (empty.run cmds).attach o id parent = .error e →
      after (attachInPlace o id parent) (empty.run cmds) = (.error e, empty.run cmds)) ∧
    (∀ refused, (∀ cmd ∈ refused, (empty.run cmds).IsRefused cmd) → ∀ later,
      (empty.run cmds).run (refused ++ later) = (empty.run cmds).run later ∧
      (empty.run cmds).attachments (refused ++ later) = (empty.run cmds).attachments later) ∧
    (∀ n g', (empty.run cmds).attach o id parent = .ok (n, g') →
      after (attachInPlace o id parent) (empty.run cmds) = (.ok n, g') ∧
      Joined (empty.run cmds) o id parent n g') := by
  have hg := reachable_wellFormed cmds
  refine ⟨fun e => hg.attach_eq_error_iff, hg.exists_attach_ok_iff, fun e h => ?_,
    fun refused h later => hg.run_refused h later, fun n g' h => ⟨?_, ?_⟩⟩
  · rw [after_attachInPlace, h]
  · rw [after_attachInPlace, h]
  · exact (attached_of_attach hg.toFreeListed h).joined

/-- A stale name is refused as a parent before the missing id is looked at, and the next node gets
the name that it would have got anyway. -/
example : (empty.attachments [.attach 1 none none, .attach 2 none (some (⟨4, 0⟩, "slot")),
    .attach 3 none none, .attach 1 (some "item") none, .attach 4 (some "item") none]).map
      Attachment.node = [⟨0, 0⟩, ⟨1, 0⟩] := by
  decide

end WidgetStage.SceneGraph
