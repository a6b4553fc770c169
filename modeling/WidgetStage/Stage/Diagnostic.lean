import WidgetStage.Stage.Basic
import WidgetStage.Text.Diagnostic

/-!
# Diagnostics of a stage

One-line texts for logs: of a handle, of a toolkit with everything that it records, and of a
whole stage.

* `Handle.describe` — a handle by its layout, its number of nodes and its buffer.
* `Stage.describe` — a stage by its toolkit, its settings and its number of handles.
-/

namespace WidgetStage

open Text (quote)
open Text.Diagnostic

/-! ### Parts -/

/-- An object by its number. -/
def describeObject (o : ObjectId) : String :=
  application "ObjectRef" [toString o]

/-- A colour by its channels. -/
def Rgba.describe (c : Rgba) : String :=
  record "Rgba"
    [("r", toString c.r.toNat), ("g", toString c.g.toNat), ("b", toString c.b.toNat),
      ("a", toString c.a.toNat)]

/-- A colour class by its colours. -/
def ColorClass.describe (c : ColorClass) : String :=
  record "ColorClass"
    [("object", c.object.describe), ("outline", c.outline.describe),
      ("shadow", c.shadow.describe)]

/-- The order in which destroyed objects are reported. -/
def DestroyOrder.name : DestroyOrder → String
  | .parentFirst => "ParentFirst"
  | .childrenFirst => "ChildrenFirst"

/-- A failure by its cause. -/
def ToolkitError.describe : ToolkitError → String
  | .outOfMemory => "OutOfMemory"
  | .load message => record "Load" [("message", quote message)]
  | .fault message => record "Fault" [("message", quote message)]

/-- An object by what it is. -/
def ObjectKind.describe : ObjectKind → String
  | .layout path group => record "Layout" [("path", quote path), ("group", quote group)]
  | .image size keepAspect snapshot =>
    record "Image"
      [("size", size.describe), ("keep_aspect", truth keepAspect), ("snapshot", truth snapshot)]

/-- A call with its arguments. -/
def ToolkitCall.describe : ToolkitCall → String
  | .signal o text source =>
    record "Signal"
      [("object", describeObject o), ("signal", quote text), ("source", quote source)]
  | .mouse o action x y timestamp =>
    record "Mouse"
      [("object", describeObject o), ("action", action.name), ("x", floatNotation.write x),
        ("y", floatNotation.write y), ("timestamp", duration timestamp)]
  | .key o action keyCode =>
    record "Key"
      [("object", describeObject o), ("action", action.name),
        ("key_code", toString keyCode.toNat)]
  | .access o action => record "Access" [("object", describeObject o), ("action", action.name)]
  | .paint o size => record "Paint" [("object", describeObject o), ("size", size.describe)]

/-- A table whose keys are the names of parts. -/
def describeParts {α : Type} (text : α → String) (t : Table String α) : String :=
  table (t.entries.map fun e => (quote e.1, text e.2))

/-- An object with everything about its parts. -/
def ToolkitObject.describe (r : ToolkitObject) : String :=
  record "RecordedObject"
    [("kind", r.kind.describe), ("size", optional Size.describe r.size),
      ("parts", describeParts describeObject r.parts), ("texts", describeParts quote r.texts),
      ("descriptions", describeParts quote r.descriptions),
      ("drags",
        describeParts
          (fun d => application "" [floatNotation.write d.1, floatNotation.write d.2]) r.drags),
      ("color_classes", describeParts ColorClass.describe r.colors)]

/-! ### Wholes -/

/-- A toolkit with its objects, what was done with it, and how it is told to behave. -/
def Toolkit.describe (t : Toolkit) : String :=
  record "RecordingToolkit"
    [("next_object", toString t.nextObject),
      ("objects", table (t.objects.entries.map fun e => (describeObject e.1, e.2.describe))),
      ("calls", list (t.calls.map ToolkitCall.describe)),
      ("deleted", list (t.deleted.map describeObject)), ("destroy_order", t.destroyOrder.name),
      ("part_geometry", describeParts Size.describe t.partGeometry),
      ("access_results", table (t.accessResults.map fun e => (e.1.name, truth e.2))),
      ("key_result", truth t.keyResult),
      ("load_failure", optional ToolkitError.describe t.loadFailure),
      ("image_failure", optional ToolkitError.describe t.imageFailure),
      ("swallow_failure", optional ToolkitError.describe t.swallowFailure)]

/-- The settings by their keys. -/
def Config.describe (c : Config) : String :=
  record "BackendConfig"
    [("ui_scale", floatNotation.write c.uiScale),
      ("stale_event_window_ms", toString c.staleWindowMillis),
      ("shadow_enabled", truth c.shadowEnabled), ("log_filter", quote c.logFilter)]

/-- A handle by its layout, its number of nodes and its buffer. -/
def Handle.describe (hd : Handle) : String :=
  record "Handle"
    [("file", quote hd.file), ("group", quote hd.group),
      ("category", optional quote hd.category), ("nodes", toString hd.graph.liveCount),
      ("buffer", hd.buffer.size.describe), ("mouse_down", truth hd.input.latched)]

/-- A stage by its toolkit, its settings and its number of handles. -/
def Stage.describe (s : Stage) : String :=
  partialRecord "Backend"
    [("toolkit", s.toolkit.describe), ("config", s.config.describe),
      ("handles", toString s.handles.size)]

end WidgetStage
