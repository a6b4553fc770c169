import WidgetStage.Buffer
import WidgetStage.Config.Basic
import WidgetStage.Files
import WidgetStage.Image.Options
import WidgetStage.Input.Staleness
import WidgetStage.Scene.Graph
import WidgetStage.SyntheticId

/-!
# The stage

A stage holds everything that is loaded: a toolkit, and a handle for every instance of a layout,
each with a scene graph of its own and a buffer into which it is rendered. Handles are numbered
and their numbers are not used again.

* `Stage` — the state between two commands.
* `Stage.address` — the object that a command is about.
* `Stage.clearPart` — empties a part and keeps the scene graph in step.
-/

namespace WidgetStage

/-- One loaded instance of a layout. -/
structure Handle where
  file : String
  group : String
  category : Option String
  graph : SceneGraph
  buffer : PixelBuffer
  input : StalenessFilter

namespace Handle

/-- The node of the root layout. -/
def root? (hd : Handle) : Option NodeId :=
  hd.graph.find none

/-- The object of the root layout. -/
def rootObject? (hd : Handle) : Option ObjectId :=
  hd.root?.bind hd.graph.object?

/-- Tells the scene graph about destroyed objects, in order. -/
def reportAll (hd : Handle) (objects : List ObjectId) : Handle :=
  { hd with graph := hd.graph.destroyAll objects }

end Handle

/-- What a command can look at outside of the stage. -/
structure Surroundings where
  files : Files
  /-- What the clock says each time the command reads it. -/
  clock : Nat → Duration

/-- The state between two commands. -/
structure Stage where
  toolkit : Toolkit
  config : Config
  handles : Table Nat Handle
  /-- The number of the next handle. -/
  nextHandle : Nat
  ids : SyntheticIds
  /-- The shadows cast so far, the first one first, if shadows can be cast at all. -/
  shadows : Option (List (ObjectId × ShadowOptions))

/-- Why there is no answer to a command. -/
inductive Failure where
  /-- The command was refused or could not be completed. -/
  | refused (error : StageError)
  /-- A time grew beyond the longest duration, which ends the run. -/
  | overflow
  deriving DecidableEq, Repr

namespace Stage

/-- An empty stage with settings that have been checked. -/
def start (toolkit : Toolkit) (config : Config) (castsShadows : Bool) : Stage :=
  ⟨toolkit, config, .empty, 1, .start, if castsShadows then some [] else none⟩

/-- An empty stage, unless the settings are out of range. -/
def new (toolkit : Toolkit) (config : Config) (castsShadows : Bool) : Except ConfigError Stage :=
  match config.check with
  | .ok config => .ok (start toolkit config castsShadows)
  | .error e => .error e

/-! ### Addressing -/

/-- The handle with a number. -/
def lookup (s : Stage) (h : Nat) : Except StageError Handle :=
  match s.handles.find? h with
  | some hd => .ok hd
  | none => .error (.handleNotFound h)

/-- The live node with an id, and its object; `none` asks for the root. -/
def resolve (g : SceneGraph) (id : Option String) : Except StageError (NodeId × ObjectId) :=
  match g.find id with
  | none => .error (.nodeNotFound id)
  | some n =>
    match g.object? n with
    | none => .error (.nodeNotFound id)
    | some o => .ok (n, o)

/-- What a command addresses by a handle and an id. -/
structure Target where
  handle : Handle
  node : NodeId
  object : ObjectId

/-- Finds what a command addresses: first the handle, then the node. -/
def address (s : Stage) (h : Nat) (id : Option String) : Except StageError Target :=
  match s.lookup h with
  | .error e => .error e
  | .ok hd =>
    match resolve hd.graph id with
    | .error e => .error e
    | .ok (n, o) => .ok ⟨hd, n, o⟩

/-! ### Changing -/

/-- Changes a handle. -/
def modifyHandle (s : Stage) (h : Nat) (f : Handle → Handle) : Stage :=
  { s with handles := s.handles.modify h f }

/-- Replaces the toolkit. -/
def withToolkit (s : Stage) (t : Toolkit) : Stage :=
  { s with toolkit := t }

/-- Deletes an object and tells the scene graph of a handle about everything destroyed. -/
def deleteReporting (s : Stage) (h : Nat) (o : ObjectId) : Stage :=
  let (destroyed, t) := s.toolkit.delete o
  (s.withToolkit t).modifyHandle h fun hd => hd.reportAll destroyed

/-- Takes out and deletes what is in a part. -/
def clearPart (s : Stage) (h : Nat) (container : ObjectId) (part : String) : Stage :=
  match s.toolkit.unswallow container part with
  | (none, _) => s
  | (some old, t) => (s.withToolkit t).deleteReporting h old

/-- The error of a layout that could not be loaded: a failure to load names its file. -/
def loadError (path : String) : ToolkitError → StageError
  | .load message => .io path message
  | e => e.toStageError

end Stage

end WidgetStage
