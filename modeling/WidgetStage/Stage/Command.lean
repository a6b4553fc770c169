import WidgetStage.Stage.Content
import WidgetStage.Stage.Input

/-!
# Commands

Everything that a host can ask of a stage, as one type, and the step that a stage takes on a
command.

* `Stage.run` — the answer to a command, and the stage after it.
-/

namespace WidgetStage

/-- What a host can ask of a stage. A node is addressed by the number of its handle and an id;
without an id the root is meant. -/
inductive Command where
  | create (path group : String) (size : Size)
  | destroy (handle : Nat)
  | objectDestroyed (handle : Nat) (object : ObjectId)
  | text (handle : Nat) (id : Option String) (part text : String)
  | image (handle : Nat) (id : Option String) (part path : String) (option : Option String)
  | script (handle : Nat) (source wanted : Option String) (part path group : String)
  | signal (handle : Nat) (id : Option String) (part signal : String)
  | drag (handle : Nat) (id : Option String) (part : String) (x y : Float)
  | size (handle : Nat) (id : Option String) (size : Size)
  | category (handle : Nat) (id category : Option String)
  | color (handle : Nat) (id : Option String) (name value : String)
  | event (handle : Nat) (raw : UInt32) (info : EventInfo)
  | render (handle : Nat)

/-- What a stage answers. -/
inductive Answer where
  | nothing
  /-- The number of a new handle. -/
  | handle (number : Nat)
  /-- What became of an event. -/
  | event (status : EventStatus)
  deriving DecidableEq, Repr

namespace Stage

/-- Turns the outcome of a command into the answer that a host gets. -/
def answering {α : Type} (answer : α → Answer) (r : Except StageError α × Stage) :
    Except Failure Answer × Stage :=
  match r with
  | (.ok v, s) => (.ok (answer v), s)
  | (.error e, s) => (.error (.refused e), s)

/-- The answer to a command, and the stage after it. -/
def run (w : Surroundings) (s : Stage) : Command → Except Failure Answer × Stage
  | .create path group size => answering .handle (s.create w.files path group size)
  | .destroy h => answering (fun _ => .nothing) (s.destroy h)
  | .objectDestroyed h o => answering (fun _ => .nothing) (s.objectDestroyed h o)
  | .text h id part text => answering (fun _ => .nothing) (s.updateText h id part text)
  | .image h id part path option =>
    answering (fun _ => .nothing) (s.updateImage w.files h id part path option)
  | .script h source wanted part path group =>
    let (r, s) := s.updateScript w h source wanted part path group
    (r.map fun _ => .nothing, s)
  | .signal h id part signal => answering (fun _ => .nothing) (s.updateSignal h id part signal)
  | .drag h id part x y => answering (fun _ => .nothing) (s.updateDrag h id part x y)
  | .size h id size => answering (fun _ => .nothing) (s.updateSize h id size)
  | .category h _ category => answering (fun _ => .nothing) (s.updateCategory h category)
  | .color h id name value => answering (fun _ => .nothing) (s.updateColor h id name value)
  | .event h raw info => answering .event (s.feedEvent (w.clock 0) h raw info)
  | .render h => answering (fun _ => .nothing) (s.render h)

end Stage

end WidgetStage
