import WidgetStage.Image.Snapshot
import WidgetStage.Stage.Basic

/-!
# Commands on handles and their content

Loading and unloading handles, and everything that changes what is shown in the parts of their
layouts. What a command addresses is found before anything is touched. A part that is to show
something else is emptied first, and stays empty if the new content cannot be made.

* `Stage.create`, `Stage.destroy` — handles.
* `Stage.updateImage` — an image in a part.
* `Stage.updateScript` — a layout in a part.
-/

namespace WidgetStage.Stage

/-- The text of the error for a layout file that cannot be opened. -/
def unreadableLayout : String := "layout file is not readable"

/-- Handles are numbered below this bound. -/
def handleBound : Nat := UInt32.size - 1

/-! ### Handles -/

/-- Gives an object the size of a buffer, if there is something to be shown in it. -/
def fitToBuffer (t : Toolkit) (o : ObjectId) (size : Size) : Toolkit :=
  if size.isEmpty then t else t.resize o size

/-- Loads a group of a layout file into a new handle with a blank buffer. -/
def create (s : Stage) (files : Files) (path group : String) (size : Size) :
    Except StageError Nat × Stage :=
  if handleBound ≤ s.nextHandle then (.error (.fault "handle ids exhausted"), s)
  else if !files.isReadable path then (.error (.io path unreadableLayout), s)
  else
    match s.toolkit.loadLayout path group with
    | .error e => (.error (loadError path e), s)
    | .ok (root, t) =>
      let s' := s.withToolkit (fitToBuffer t root size)
      match SceneGraph.empty.attach root none none with
      | .error e => (.error e.toStageError, s')
      | .ok (_, graph) =>
        let hd : Handle :=
          { file := path
            group := group
            category := none
            graph := graph
            buffer := .start size
            input := .start s.config.staleWindow }
        (.ok s.nextHandle,
          { s' with
            handles := s'.handles.insert s.nextHandle hd
            nextHandle := s.nextHandle + 1 })

/-- Deletes the root layout of a handle. The scene graph is answered with everything that was
destroyed reported to it. -/
def tearDown (hd : Handle) (t : Toolkit) : SceneGraph × Toolkit :=
  match hd.rootObject? with
  | none => (hd.graph, t)
  | some o =>
    let (destroyed, t) := t.delete o
    (hd.graph.destroyAll destroyed, t)

/-- Unloads a handle. What its scene graph still holds after the root is deleted is dropped with
it. -/
def destroy (s : Stage) (h : Nat) : Except StageError Unit × Stage :=
  match s.lookup h with
  | .error e => (.error e, s)
  | .ok hd =>
    let (_, t) := tearDown hd s.toolkit
    (.ok (), { s with toolkit := t, handles := s.handles.erase h })

/-- Takes the report of the toolkit that an object was destroyed. -/
def objectDestroyed (s : Stage) (h : Nat) (o : ObjectId) : Except StageError Unit × Stage :=
  match s.lookup h with
  | .error e => (.error e, s)
  | .ok _ => (.ok (), s.modifyHandle h fun hd => { hd with graph := hd.graph.destroy o })

/-- Replaces the category of a handle. There is always memory for it. -/
def updateCategory (s : Stage) (h : Nat) (category : Option String) :
    Except StageError Unit × Stage :=
  match s.lookup h with
  | .error e => (.error e, s)
  | .ok _ => (.ok (), s.modifyHandle h fun hd => { hd with category := category })

/-! ### Nodes and parts -/

/-- Sets the text of a part, which is its description too; an empty text removes the
description. -/
def updateText (s : Stage) (h : Nat) (id : Option String) (part text : String) :
    Except StageError Unit × Stage :=
  match s.address h id with
  | .error e => (.error e, s)
  | .ok target =>
    let t := s.toolkit.setText target.object part text
    let description := if text = "" then none else some text
    (.ok (), s.withToolkit (t.setDescription target.object part description))

/-- Emits a signal with a part as its source. -/
def updateSignal (s : Stage) (h : Nat) (id : Option String) (part signal : String) :
    Except StageError Unit × Stage :=
  match s.address h id with
  | .error e => (.error e, s)
  | .ok target => (.ok (), s.withToolkit (s.toolkit.emitSignal target.object signal part))

/-- Drags a part to a place. -/
def updateDrag (s : Stage) (h : Nat) (id : Option String) (part : String) (x y : Float) :
    Except StageError Unit × Stage :=
  match s.address h id with
  | .error e => (.error e, s)
  | .ok target => (.ok (), s.withToolkit (s.toolkit.setDrag target.object part x y))

/-- Gives a node a size. The buffer has the size of the root. -/
def updateSize (s : Stage) (h : Nat) (id : Option String) (size : Size) :
    Except StageError Unit × Stage :=
  match s.address h id with
  | .error e => (.error e, s)
  | .ok target =>
    let s := s.withToolkit (s.toolkit.resize target.object size)
    match id with
    | some _ => (.ok (), s)
    | none => (.ok (), s.modifyHandle h fun hd => { hd with buffer := hd.buffer.resize size })

/-- Sets the colours of a class of a node. -/
def updateColor (s : Stage) (h : Nat) (id : Option String) (name value : String) :
    Except StageError Unit × Stage :=
  match s.address h id with
  | .error e => (.error e, s)
  | .ok target =>
    match ColorClass.parse value with
    | .error e =>
      (.error (.invalidParameter ("color class " ++ Text.quote name ++ ": " ++ e.message)), s)
    | .ok colors => (.ok (), s.withToolkit (s.toolkit.setColors target.object name colors))

/-! ### Images -/

/-- The size of the part, if the plan depends on it. -/
def partSize? (s : Stage) (o : ObjectId) (part : String) (options : ImageOptions)
    (explicit : Option Size) : Option Size :=
  if explicit.isNone ∧ options.aspect = true ∧ options.fill ≠ .disable then
    s.toolkit.partGeometry? o part
  else
    none

/-- The image that the toolkit is to show, by a plan. -/
def contentOf (picture : Pixmap) : DisplayPlan Float → Except SnapshotError ImageContent
  | .stretch size => .ok (.scaled size false)
  | .aspectHint size => .ok (.scaled size true)
  | .snapshot crop => (crop.bake picture .triangle).map fun baked => .snapshot baked.size

/-- The image that the toolkit is to show in a part, from a file. -/
def prepareImage (s : Stage) (files : Files) (o : ObjectId) (part path : String)
    (options : ImageOptions) : Except StageError ImageContent :=
  match files.decode path options.orient with
  | .error e => .error e.toStageError
  | .ok picture =>
    let explicit := options.scaledSize s.config.uiScale
    match DisplayPlan.make Float picture.size explicit (s.partSize? o part options explicit)
        options with
    | .error e => .error e.toStageError
    | .ok plan =>
      match contentOf picture plan with
      | .error e => .error e.toStageError
      | .ok content => .ok content

/-- Casts the shadow of an image, if shadows are asked for, permitted and possible. -/
def castShadow (s : Stage) (content : ObjectId) (shadow : ShadowOptions) : Stage :=
  if shadow.enabled && s.config.shadowEnabled then
    { s with shadows := s.shadows.map fun cast => cast ++ [(content, shadow)] }
  else
    s

/-- Shows a prepared image in a part. An image that cannot be swallowed is deleted again. -/
def showImage (s : Stage) (o : ObjectId) (part : String) (options : ImageOptions)
    (content : ImageContent) : Except StageError Unit × Stage :=
  match s.toolkit.createImage content with
  | .error e => (.error e.toStageError, s)
  | .ok (image, t) =>
    let s := (s.withToolkit t).castShadow image options.shadow
    match s.toolkit.swallow o part image with
    | .error e => (.error e.toStageError, s.withToolkit (s.toolkit.delete image).2)
    | .ok t => (.ok (), s.withToolkit t)

/-- Replaces the image in a part. Without a path, or with one that cannot be opened, the part is
left empty. -/
def updateImage (s : Stage) (files : Files) (h : Nat) (id : Option String) (part path : String)
    (option : Option String) : Except StageError Unit × Stage :=
  match s.address h id with
  | .error e => (.error e, s)
  | .ok target =>
    let s := s.clearPart h target.object part
    if path = "" ∨ files.isReadable path = false then (.ok (), s)
    else
      let options := ImageOptions.parse option
      match s.prepareImage files target.object part path options with
      | .error e => (.error e, s)
      | .ok content => s.showImage target.object part options content

/-! ### Layouts within layouts -/

/-- The ids that are in use in a scene graph. -/
def takenIds (g : SceneGraph) : List String :=
  g.registry.entries.filterMap Prod.snd

/-- The id of a new layout in a part: the one that is asked for, else the name of the part, else
a synthetic one. There is none if its time stamp would be too long. -/
def chooseId? (s : Stage) (clock : Nat → Duration) (g : SceneGraph) (wanted : Option String)
    (part : String) : Option (String × SyntheticIds) :=
  match wanted.filter (· ≠ "") with
  | some id => some (id, s.ids)
  | none =>
    if g.registry.containsId part then s.ids.unique? (takenIds g) clock else some (part, s.ids)

/-- Tracks a layout that has just been loaded, and swallows it into a part. If either fails, the
layout is deleted again. -/
def placeLayout (s : Stage) (h : Nat) (target : Target) (graph : SceneGraph) (part id : String)
    (child : ObjectId) : Except StageError Unit × Stage :=
  match graph.attach child (some id) (some (target.node, part)) with
  | .error e => (.error e.toStageError, s.withToolkit (s.toolkit.delete child).2)
  | .ok (_, graph) =>
    let s := s.modifyHandle h fun hd => { hd with graph := graph }
    match s.toolkit.swallow target.object part child with
    | .error e => (.error e.toStageError, s.deleteReporting h child)
    | .ok t => (.ok (), s.withToolkit t)

/-- Replaces the layout in a part of a source node. Without a path the part is left empty. -/
def updateScript (s : Stage) (w : Surroundings) (h : Nat) (source wanted : Option String)
    (part path group : String) : Except Failure Unit × Stage :=
  let refuse (r : Except StageError Unit × Stage) : Except Failure Unit × Stage :=
    (r.1.mapError .refused, r.2)
  match s.address h source with
  | .error e => (.error (.refused e), s)
  | .ok target =>
    let s := s.clearPart h target.object part
    if path = "" then (.ok (), s)
    else if !w.files.isReadable path then (.error (.refused (.io path unreadableLayout)), s)
    else
      match s.toolkit.loadLayout path group, s.lookup h with
      | .error e, _ => (.error (.refused (loadError path e)), s)
      | .ok _, .error e => (.error (.refused e), s)
      | .ok (child, t), .ok hd =>
        let s := s.withToolkit t
        match s.chooseId? w.clock hd.graph wanted part with
        | none => (.error .overflow, s)
        | some (id, ids) =>
          refuse (placeLayout { s with ids := ids } h target hd.graph part id child)

end WidgetStage.Stage
