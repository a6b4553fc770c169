import WidgetStage.Scene.Node

/-!
# Registry of ids

The registry lists the nodes that can be addressed, in the order in which they were registered.
The root has no id, and there is one root at most. Ids may be shared: the node that was
registered first is the one that is found.

* `Registry.find_register` — registering keeps what was found before, and the new node is found
  if nothing was.
-/

namespace WidgetStage

/-- The addressable nodes with their ids, in order of registration. -/
structure Registry where
  entries : List (NodeId × Option String)
  deriving DecidableEq, Repr

namespace Registry

/-- A registry without nodes. -/
def empty : Registry :=
  ⟨[]⟩

/-- The first node with this id; `none` asks for the root. -/
def find (r : Registry) (id : Option String) : Option NodeId :=
  (r.entries.find? (fun e => e.2 == id)).map Prod.fst

/-- The node without an id. -/
def root (r : Registry) : Option NodeId :=
  r.find none

/-- Whether some node has the id. -/
def containsId (r : Registry) (id : String) : Bool :=
  (r.find (some id)).isSome

/-- Whether the node is registered. -/
def contains (r : Registry) (node : NodeId) : Bool :=
  r.entries.any (fun e => e.1 == node)

/-- Appends a node; a second root is refused. -/
def register (r : Registry) (node : NodeId) (id : Option String) : Except SceneError Registry :=
  match id, r.root with
  | none, some root => .error (.rootExists root)
  | id, _ => .ok ⟨r.entries ++ [(node, id)]⟩

/-- Removes the first entry of a node. -/
def remove (r : Registry) (node : NodeId) : Registry :=
  ⟨r.entries.eraseP (fun e => e.1 == node)⟩

/-- The number of registered nodes. -/
def size (r : Registry) : Nat :=
  r.entries.length

/-- Registering keeps what was found before, and the new node is found if nothing was. -/
theorem find_register {r s : Registry} {node : NodeId} {id : Option String}
    (h : r.register node id = .ok s) (key : Option String) :
    s.find key = (r.find key).or (if id = key then some node else none) := by
  have hs : s = ⟨r.entries ++ [(node, id)]⟩ := by
    unfold register at h
    split at h
    · cases h
    · cases h
      rfl
  subst hs
  by_cases hid : id = key
  · simp [find, List.find?_append, hid]
    cases r.entries.find? (fun e => e.2 == key) <;> rfl
  · simp [find, List.find?_append, hid]

end Registry

end WidgetStage
