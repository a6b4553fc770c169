import WidgetStage.Stage.Command

/-!
# Sessions

A session is a stage with what surrounds it: the files, the clock, and a toolkit and buffers that
can be told to misbehave. Its steps are the commands of a host and everything that can happen
between them, so that a run of a stage is a list of steps.

The buffer of a handle outlives it: whoever gave it to the stage can still look at it.

* `Session.step` — one step.
* `Session.command` — a command of a host, at the time of the clock.
-/

namespace WidgetStage

/-- A stage with what surrounds it. -/
structure Session where
  stage : Stage
  files : Files
  now : Duration
  /-- The buffer of every handle that was ever loaded. -/
  buffers : Table Nat PixelBuffer

/-- What can happen to a stage. -/
inductive Step where
  | command (c : Command)
  /-- Every part with this name gets a size. -/
  | partGeometry (part : String) (size : Size)
  | accessResult (action : AccessAction) (handled : Bool)
  | keyResult (handled : Bool)
  | failLoads (error : Option ToolkitError)
  | failImages (error : Option ToolkitError)
  | failSwallows (error : Option ToolkitError)
  /-- The buffer of a handle becomes busy, or ceases to be. -/
  | failAcquire (handle : Nat) (busy : Bool)
  | setClock (now : Duration)
  | advanceClock (span : Duration)
  | writeFile (path : String) (content : FileContent)
  | removeFile (path : String)
  /-- The toolkit deletes an object and does not report it to the stage. -/
  | deleteObject (object : ObjectId)
  /-- The toolkit is replaced by a fresh one. -/
  | resetToolkit (order : DestroyOrder)

/-- What is seen of a step. -/
inductive StepResult where
  | quiet
  | replied (answer : Except Failure Answer)
  /-- The objects that the toolkit deleted. -/
  | deleted (objects : List ObjectId)

namespace Toolkit

/-- Tells whether an accessibility action is handled from now on. -/
def setAccessResult (t : Toolkit) (action : AccessAction) (handled : Bool) : Toolkit :=
  { t with
    accessResults := (action, handled) :: t.accessResults.filter fun e => e.1 ≠ action }

/-- Gives every part with a name a size. -/
def setPartGeometry (t : Toolkit) (part : String) (size : Size) : Toolkit :=
  { t with partGeometry := t.partGeometry.insert part size }

end Toolkit

namespace Session

/-- A session in which nothing has happened. -/
def start (stage : Stage) (files : Files) (now : Duration) : Session :=
  ⟨stage, files, now, .empty⟩

/-- Changes the toolkit behind the stage. -/
def modifyToolkit (s : Session) (f : Toolkit → Toolkit) : Session :=
  { s with stage := s.stage.withToolkit (f s.stage.toolkit) }

/-- Notes how the buffers of the loaded handles stand. -/
def noteBuffers (s : Session) : Session :=
  { s with
    buffers :=
      s.stage.handles.entries.foldl (fun t e => t.insert e.1 e.2.buffer) s.buffers }

/-- A command of the host. -/
def command (s : Session) (c : Command) : Except Failure Answer × Session :=
  let (answer, stage) := s.stage.run ⟨s.files, fun _ => s.now⟩ c
  (answer, { s with stage := stage }.noteBuffers)

/-- One step. -/
def step (s : Session) : Step → StepResult × Session
  | .command c =>
    let (answer, s) := s.command c
    (.replied answer, s)
  | .partGeometry part size => (.quiet, s.modifyToolkit fun t => t.setPartGeometry part size)
  | .accessResult action handled =>
    (.quiet, s.modifyToolkit fun t => t.setAccessResult action handled)
  | .keyResult handled => (.quiet, s.modifyToolkit fun t => { t with keyResult := handled })
  | .failLoads e => (.quiet, s.modifyToolkit fun t => { t with loadFailure := e })
  | .failImages e => (.quiet, s.modifyToolkit fun t => { t with imageFailure := e })
  | .failSwallows e => (.quiet, s.modifyToolkit fun t => { t with swallowFailure := e })
  | .failAcquire h busy =>
    let stage := s.stage.modifyHandle h fun hd => { hd with buffer := hd.buffer.setBusy busy }
    (.quiet, { s with stage := stage }.noteBuffers)
  | .setClock now => (.quiet, { s with now := now })
  | .advanceClock span =>
    match s.now.add? span with
    | some now => (.quiet, { s with now := now })
    | none => (.replied (.error .overflow), s)
  | .writeFile path content => (.quiet, { s with files := s.files.write path content })
  | .removeFile path => (.quiet, { s with files := s.files.remove path })
  | .deleteObject o =>
    let (destroyed, t) := s.stage.toolkit.delete o
    (.deleted destroyed, s.modifyToolkit fun _ => t)
  | .resetToolkit order => (.quiet, s.modifyToolkit fun _ => .start order)

end Session

end WidgetStage
