import WidgetStage.Stage.Basic

/-!
# Input and rendering

Events go to the root layout of a handle, and rendering paints that layout into the buffer of the
handle. The buffer is released whatever becomes of the painting.

* `Stage.feedEvent` — delivers an event.
* `Stage.render` — paints the root.
-/

namespace WidgetStage.Stage

/-- Delivers a decoded event to the root layout of a handle. A stale pointer event is answered
like any other but not delivered. -/
def deliver (s : Stage) (now : Duration) (h : Nat) (target : Target) (info : EventInfo) :
    InputEvent → EventStatus × Stage
  | .access action =>
    let (handled, t) := s.toolkit.performAccess target.object action
    (accessStatus action handled, s.withToolkit t)
  | .key action =>
    let (handled, t) := s.toolkit.feedKey target.object action info.keyCode
    (keyStatus handled, s.withToolkit t)
  | .mouse action =>
    let (fresh, input) := target.handle.input.accept action info.timestamp now
    let s := s.modifyHandle h fun hd => { hd with input := input }
    if fresh then
      (.done,
        s.withToolkit (s.toolkit.feedMouse target.object action info.x info.y info.timestamp))
    else (.done, s)

/-- Decodes an event and delivers it to the root layout of a handle. -/
def feedEvent (s : Stage) (now : Duration) (h : Nat) (raw : UInt32) (info : EventInfo) :
    Except StageError EventStatus × Stage :=
  match s.address h none with
  | .error e => (.error e, s)
  | .ok target =>
    match InputEvent.decode raw info.actionType with
    | .error e => (.error (.invalidParameter e.message), s)
    | .ok event =>
      let (status, s) := s.deliver now h target info event
      (.ok status, s)

/-- Paints the root layout of a handle into its buffer. -/
def render (s : Stage) (h : Nat) : Except StageError Unit × Stage :=
  match s.address h none with
  | .error e => (.error e, s)
  | .ok target =>
    match target.handle.buffer.acquire with
    | .error e => (.error e.toStageError, s)
    | .ok buffer =>
      match s.toolkit.paint target.object buffer.pixels.size buffer.size with
      | .error e =>
        (.error e.toStageError, s.modifyHandle h fun hd => { hd with buffer := buffer.release })
      | .ok (pixels, t) =>
        let painted := { buffer with pixels := pixels }
        (.ok (),
          (s.withToolkit t).modifyHandle h fun hd => { hd with buffer := painted.release })

end WidgetStage.Stage
