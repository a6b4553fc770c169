import WidgetStage.Status

/-!
# Nodes of a scene

A scene tracks objects of the toolkit by nodes. A node id names a slot of the scene together
with the generation of that slot, so that an id that has been given up does not name the node
which takes the slot next.

* `NodeId` — slot and generation.
* `SceneNode` — what a scene stores about a node.
* `SceneError` — why a node was not attached.
-/

namespace WidgetStage

/-- Objects of the toolkit are numbered. The number of an object has 64 bits; what is said about
runs is meant as long as fewer than `2 ^ 64` objects are made. -/
abbrev ObjectId := Nat

/-- The text that names an object. -/
def objectName (o : ObjectId) : String :=
  "obj#" ++ toString o

/-- The name of a node: a slot and its generation. -/
structure NodeId where
  /-- The number of the slot. It has 32 bits; graphs with fewer than `2 ^ 32` slots are meant. -/
  index : Nat
  /-- How often the slot was freed before, modulo `2 ^ 32`. -/
  generation : UInt32
  deriving DecidableEq, Repr

/-- The text that names a node. -/
def NodeId.name (n : NodeId) : String :=
  "N" ++ toString n.index ++ "v" ++ toString n.generation.toNat

/-- The states of a node. -/
inductive Lifecycle where
  /-- The object of the node exists. -/
  | alive
  /-- The object is gone, but the node still has children. -/
  | pendingDelete
  /-- The node is gone, or never was. -/
  | reclaimed
  deriving DecidableEq, Repr

/-- The name of a state. -/
def Lifecycle.name : Lifecycle → String
  | .alive => "Alive"
  | .pendingDelete => "PendingDelete"
  | .reclaimed => "Reclaimed"

/-- A child, and the slot of its parent that it occupies. -/
structure ChildEdge where
  node : NodeId
  slot : String
  deriving DecidableEq, Repr

/-- What a scene stores about a node. Children stand in the order in which they came. -/
structure SceneNode where
  object : ObjectId
  id : Option String
  parent : Option NodeId
  children : List ChildEdge
  lifecycle : Lifecycle
  deriving DecidableEq, Repr

namespace SceneNode

/-- A node that has just been attached. -/
def fresh (object : ObjectId) (id : Option String) (parent : Option NodeId) : SceneNode :=
  ⟨object, id, parent, [], .alive⟩

/-- Appends a child. -/
def addChild (r : SceneNode) (edge : ChildEdge) : SceneNode :=
  { r with children := r.children ++ [edge] }

/-- Removes a child. -/
def dropChild (r : SceneNode) (node : NodeId) : SceneNode :=
  { r with children := r.children.eraseP (fun edge => edge.node == node) }

end SceneNode

/-- Why a node was not attached. -/
inductive SceneError where
  /-- Only one node may be without an id. -/
  | rootExists (root : NodeId)
  /-- The object has a node already. -/
  | duplicateObject (object : ObjectId)
  /-- The parent is not alive. -/
  | parentUnavailable (parent : NodeId)
  deriving DecidableEq, Repr

namespace SceneError

/-- The text of the error. -/
def message : SceneError → String
  | .rootExists root => "root node already exists (" ++ root.name ++ ")"
  | .duplicateObject object => objectName object ++ " is already tracked"
  | .parentUnavailable parent => "parent " ++ parent.name ++ " is not alive"

/-- The error of the command that attached the node. -/
def toStageError (e : SceneError) : StageError :=
  match e with
  | .rootExists _ => .invalidParameter e.message
  | .duplicateObject _ => .fault e.message
  | .parentUnavailable _ => .fault e.message

end SceneError

end WidgetStage
