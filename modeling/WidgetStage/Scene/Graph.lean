import WidgetStage.Scene.Registry

/-!
# Scene graphs

A scene graph tracks the layouts of one handle: which object each node stands for, which slot of
which parent it occupies, and which ids can be addressed. The toolkit reports destroyed objects
in any order. A node whose object is gone is reclaimed at once if it has no children; otherwise
it stays, pending, until the last of them is gone.

Slots of reclaimed nodes are used again, the one freed last first, under a new generation.

* `SceneGraph.attach` — tracks a new object.
* `SceneGraph.requestDestroy` — takes the report of a destroyed object.
* `SceneGraph.clear` — drops every node.
-/

namespace WidgetStage

/-- A place for a node. The generation counts the nodes that have been reclaimed from it. -/
structure Slot where
  generation : UInt32
  record : Option SceneNode
  deriving DecidableEq, Repr

/-- What became of a node whose object was reported destroyed. -/
structure DestroyOutcome where
  node : NodeId
  state : Lifecycle
  /-- A pending parent that has lost its last child by this. -/
  parentReclaimed : Option NodeId
  deriving DecidableEq, Repr

/-- Counts of nodes: reclaimed so far, pending and alive. -/
structure SceneStats where
  reclaimed : Nat
  pending : Nat
  alive : Nat
  deriving DecidableEq, Repr

/-- The nodes of one handle. -/
structure SceneGraph where
  slots : List Slot
  /-- The slots without a node, the one freed last first. -/
  freeList : List Nat
  registry : Registry
  /-- The live node of each tracked object. -/
  byObject : List (ObjectId × NodeId)
  /-- How many nodes were reclaimed so far: a word of 64 bits, so that fewer than `2 ^ 64` are
  meant. -/
  reclaimedTotal : Nat
  deriving DecidableEq, Repr

namespace SceneGraph

/-- A graph without nodes. -/
def empty : SceneGraph :=
  ⟨[], [], .empty, [], 0⟩

/-! ### Looking at nodes -/

/-- What is stored about a node, if the slot still has its generation. -/
def record? (g : SceneGraph) (n : NodeId) : Option SceneNode :=
  match g.slots[n.index]? with
  | some slot => if slot.generation = n.generation then slot.record else none
  | none => none

/-- The state of a node. -/
def lifecycle (g : SceneGraph) (n : NodeId) : Lifecycle :=
  match g.record? n with
  | some r => r.lifecycle
  | none => .reclaimed

/-- The object of a node that has not been reclaimed. -/
def object? (g : SceneGraph) (n : NodeId) : Option ObjectId :=
  (g.record? n).map SceneNode.object

/-- The id of a node that has not been reclaimed. -/
def id? (g : SceneGraph) (n : NodeId) : Option String :=
  (g.record? n).bind SceneNode.id

/-- The parent of a node. -/
def parent? (g : SceneGraph) (n : NodeId) : Option NodeId :=
  (g.record? n).bind SceneNode.parent

/-- The children of a node, in the order in which they came. -/
def children (g : SceneGraph) (n : NodeId) : List ChildEdge :=
  ((g.record? n).map SceneNode.children).getD []

/-- The first child in a slot of a node. -/
def childInSlot? (g : SceneGraph) (n : NodeId) (slot : String) : Option NodeId :=
  ((g.children n).find? (fun edge => edge.slot == slot)).map ChildEdge.node

/-- The live node of an object. -/
def nodeOf? (g : SceneGraph) (object : ObjectId) : Option NodeId :=
  g.byObject.lookup object

/-- The live node with an id; `none` asks for the root. -/
def find (g : SceneGraph) (id : Option String) : Option NodeId :=
  g.registry.find id

/-- The stored nodes, in the order of their slots. -/
def records (g : SceneGraph) : List SceneNode :=
  g.slots.filterMap Slot.record

/-- The number of stored nodes. -/
def liveCount (g : SceneGraph) : Nat :=
  g.records.length

/-- The counts of the graph. -/
def stats (g : SceneGraph) : SceneStats where
  reclaimed := g.reclaimedTotal
  pending := g.records.countP (fun r => r.lifecycle == .pendingDelete)
  alive := g.records.countP (fun r => r.lifecycle == .alive)

/-! ### Changing nodes -/

/-- Changes what is stored about a node. -/
def modifyRecord (g : SceneGraph) (n : NodeId) (f : SceneNode → SceneNode) : SceneGraph :=
  { g with
    slots :=
      g.slots.modify n.index fun slot =>
        if slot.generation = n.generation then { slot with record := slot.record.map f } else slot }

/-- The id that the next node will have: the slot freed last, else a new one, as long as there are
fewer than `2 ^ 32` slots. -/
def nextNode (g : SceneGraph) : NodeId :=
  match g.freeList with
  | index :: _ => ⟨index, ((g.slots[index]?).map Slot.generation).getD 0⟩
  | [] => ⟨g.slots.length, 0⟩

/-- Stores a node in the slot of its id, which is a free or a new one. -/
def store (g : SceneGraph) (n : NodeId) (r : SceneNode) : SceneGraph :=
  match g.freeList with
  | _ :: rest =>
    { g with
      freeList := rest
      slots := g.slots.modify n.index fun slot => { slot with record := some r } }
  | [] => { g with slots := g.slots ++ [⟨0, some r⟩] }

/-- Gives up a node: its slot is free, under the next generation. -/
def reclaim (g : SceneGraph) (n : NodeId) : SceneGraph :=
  match g.record? n with
  | none => g
  | some _ =>
    { g with
      slots := g.slots.modify n.index fun slot => ⟨slot.generation + 1, none⟩
      freeList := n.index :: g.freeList
      reclaimedTotal := g.reclaimedTotal + 1 }

/-- Takes a node out of the children of its parent. The parent is answered. -/
def detach (g : SceneGraph) (n : NodeId) : Option NodeId × SceneGraph :=
  match g.parent? n with
  | none => (none, g)
  | some p =>
    let g := g.modifyRecord n fun r => { r with parent := none }
    (some p, g.modifyRecord p fun r => r.dropChild n)

/-- Whether a node only waits for children and has none. -/
def isDrained (g : SceneGraph) (n : NodeId) : Bool :=
  match g.record? n with
  | some r => r.lifecycle == .pendingDelete && r.children.isEmpty
  | none => false

/-- Whether a stored node has no children. -/
def isChildless (g : SceneGraph) (n : NodeId) : Bool :=
  match g.record? n with
  | some r => r.children.isEmpty
  | none => false

/-! ### Operations -/

/-- Whether a parent, if one is given, is alive. -/
def parentAlive (g : SceneGraph) : Option (NodeId × String) → Except SceneError Unit
  | none => .ok ()
  | some (p, _) => if g.lifecycle p = .alive then .ok () else .error (.parentUnavailable p)

/-- Tracks a new object, under the slot of a parent if one is given. Nothing changes if the
object is tracked already, if the parent is not alive, or if a second root is asked for. -/
def attach (g : SceneGraph) (object : ObjectId) (id : Option String)
    (parent : Option (NodeId × String)) : Except SceneError (NodeId × SceneGraph) :=
  if (g.nodeOf? object).isSome then .error (.duplicateObject object)
  else
    match g.parentAlive parent with
    | .error e => .error e
    | .ok () =>
      let node := g.nextNode
      match g.registry.register node id with
      | .error e => .error e
      | .ok registry =>
        let stored := g.store node (SceneNode.fresh object id (parent.map Prod.fst))
        let tracked :=
          { stored with registry := registry, byObject := (object, node) :: stored.byObject }
        match parent with
        | none => .ok (node, tracked)
        | some (p, slot) => .ok (node, tracked.modifyRecord p fun r => r.addChild ⟨node, slot⟩)

/-- Forgets an object: its node is neither bound nor addressable any more. -/
def forget (g : SceneGraph) (object : ObjectId) (n : NodeId) : SceneGraph :=
  { g with
    byObject := g.byObject.filter (fun e => e.1 != object)
    registry := g.registry.remove n }

/-- Reclaims a node without children, and lets one with children wait for them. -/
def settle (g : SceneGraph) (n : NodeId) : Lifecycle × SceneGraph :=
  if g.isChildless n then (.reclaimed, g.reclaim n)
  else (.pendingDelete, g.modifyRecord n fun r => { r with lifecycle := .pendingDelete })

/-- Reclaims a parent that only waited for this child. -/
def settleParent (g : SceneGraph) : Option NodeId → Option NodeId × SceneGraph
  | none => (none, g)
  | some p => if g.isDrained p then (some p, g.reclaim p) else (none, g)

/-- Takes the report that an object was destroyed. An object that is not tracked is none of the
graph's business. -/
def requestDestroy (g : SceneGraph) (object : ObjectId) : Option DestroyOutcome × SceneGraph :=
  match g.nodeOf? object with
  | none => (none, g)
  | some n =>
    let (parent, g) := (g.forget object n).detach n
    let (state, g) := g.settle n
    let (parentReclaimed, g) := g.settleParent parent
    (some ⟨n, state, parentReclaimed⟩, g)

/-- The graph after the report that an object was destroyed. -/
def destroy (g : SceneGraph) (object : ObjectId) : SceneGraph :=
  (g.requestDestroy object).2

/-- The graph after reports about several objects, in order. -/
def destroyAll (g : SceneGraph) (objects : List ObjectId) : SceneGraph :=
  objects.foldl destroy g

/-- Drops every node. Slots that held one are free under the next generation; the nodes do not
count as reclaimed. -/
def clear (g : SceneGraph) : SceneGraph :=
  let held := (List.range g.slots.length).filter fun i => ((g.slots[i]?).bind Slot.record).isSome
  { slots := g.slots.map fun slot =>
      match slot.record with
      | some _ => ⟨slot.generation + 1, none⟩
      | none => slot
    freeList := held.reverse ++ g.freeList
    registry := .empty
    byObject := []
    reclaimedTotal := g.reclaimedTotal }

/-- Drops every node, and answers how many were dropped. -/
def discard (g : SceneGraph) : Nat × SceneGraph :=
  (g.liveCount, g.clear)

/-- An untracked object leaves the graph as it is. -/
theorem destroy_of_untracked {g : SceneGraph} {object : ObjectId} (h : g.nodeOf? object = none) :
    g.destroy object = g := by
  simp [destroy, requestDestroy, h]

end SceneGraph

end WidgetStage
