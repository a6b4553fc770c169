import WidgetStage.Color
import WidgetStage.Geometry
import WidgetStage.Input.Event
import WidgetStage.Scene.Node
import WidgetStage.Table

/-!
# The toolkit

The toolkit owns the objects that are shown: layouts, which have named parts, and images. An
object can be swallowed into a part of a layout, and deleting an object deletes everything
swallowed below it. This toolkit keeps its objects in memory and records what is done to them;
it can be told to fail.

* `Toolkit.cascade` — an object and all that is swallowed below it.
* `Toolkit.delete` — deletes them and reports them.
* `Toolkit.live_allocate` — a new object is live, and no other object becomes so.
-/

namespace WidgetStage

/-- Whether a deleted object is reported before or after its contents. -/
inductive DestroyOrder where
  | parentFirst
  | childrenFirst
  deriving DecidableEq, Repr

/-- Why a call of the toolkit failed. -/
inductive ToolkitError where
  /-- There is no memory for the object. -/
  | outOfMemory
  /-- A layout could not be loaded. -/
  | load (message : String)
  /-- Any other failure. -/
  | fault (message : String)
  deriving DecidableEq, Repr

namespace ToolkitError

/-- The text of the error. -/
def message : ToolkitError → String
  | .outOfMemory => "toolkit out of memory"
  | .load message => "layout load failed: " ++ message
  | .fault message => "toolkit fault: " ++ message

/-- The error of the command that made the call. -/
def toStageError : ToolkitError → StageError
  | .outOfMemory => .outOfMemory "toolkit allocation"
  | .load message => .io "layout" message
  | .fault message => .fault message

end ToolkitError

/-- What an object is. -/
inductive ObjectKind where
  /-- A group of a layout file. -/
  | layout (path group : String)
  /-- An image with the size at which it is shown. -/
  | image (size : Size) (keepAspect snapshot : Bool)
  deriving DecidableEq, Repr

namespace ObjectKind

/-- Whether an object is a layout. -/
def isLayout : ObjectKind → Bool
  | .layout _ _ => true
  | .image _ _ _ => false

end ObjectKind

/-- An image to be shown by the toolkit: scaled to a size, or as it is. -/
inductive ImageContent where
  | scaled (size : Size) (keepAspect : Bool)
  | snapshot (size : Size)
  deriving DecidableEq, Repr

namespace ImageContent

/-- The size at which an image is shown. -/
def size : ImageContent → Size
  | .scaled size _ => size
  | .snapshot size => size

/-- The object that shows the image. -/
def kind : ImageContent → ObjectKind
  | .scaled size keepAspect => .image size keepAspect false
  | .snapshot size => .image size false true

end ImageContent

/-- A live object. Everything about its parts is kept by the name of the part. -/
structure ToolkitObject where
  kind : ObjectKind
  size : Option Size
  /-- What is swallowed into the parts. -/
  parts : Table String ObjectId
  texts : Table String String
  descriptions : Table String String
  drags : Table String (Float × Float)
  colors : Table String ColorClass

namespace ToolkitObject

/-- An object with nothing in its parts. -/
def fresh (kind : ObjectKind) (size : Option Size) : ToolkitObject :=
  ⟨kind, size, .empty, .empty, .empty, .empty, .empty⟩

end ToolkitObject

/-- A call that leaves no trace on an object. -/
inductive ToolkitCall where
  | signal (object : ObjectId) (signal source : String)
  | mouse (object : ObjectId) (action : MouseAction) (x y : Float) (timestamp : Duration)
  | key (object : ObjectId) (action : KeyAction) (keyCode : UInt32)
  | access (object : ObjectId) (action : AccessAction)
  | paint (object : ObjectId) (size : Size)

/-- The toolkit: its objects, what was done with it, and how it is told to behave. -/
structure Toolkit where
  /-- The number of the next object. It does not come round: fewer than `2 ^ 64` are made. -/
  nextObject : ObjectId
  objects : Table ObjectId ToolkitObject
  /-- The calls so far, the oldest first. -/
  calls : List ToolkitCall
  /-- The objects deleted so far, in the order of their destruction. -/
  deleted : List ObjectId
  destroyOrder : DestroyOrder
  /-- The size of every part with a name. -/
  partGeometry : Table String Size
  /-- Whether an accessibility action is handled; the default is that it is. -/
  accessResults : List (AccessAction × Bool)
  /-- Whether keys are handled. -/
  keyResult : Bool
  /-- How every load of a layout fails, if it does. -/
  loadFailure : Option ToolkitError
  /-- How every creation of an image fails, if it does. -/
  imageFailure : Option ToolkitError
  /-- How every swallowing fails, if it does. -/
  swallowFailure : Option ToolkitError

namespace Toolkit

/-- A toolkit without objects, which handles and permits everything. -/
def start (order : DestroyOrder) : Toolkit :=
  ⟨1, .empty, [], [], order, .empty, [], true, none, none, none⟩

/-! ### Looking at objects -/

/-- A live object. -/
def object? (t : Toolkit) (o : ObjectId) : Option ToolkitObject :=
  t.objects.find? o

/-- The number of live objects. -/
def liveCount (t : Toolkit) : Nat :=
  t.objects.size

/-- What is swallowed into a part. -/
def swallowed? (t : Toolkit) (container : ObjectId) (part : String) : Option ObjectId :=
  (t.object? container).bind fun r => r.parts.find? part

/-- The size of a part of a live object. -/
def partGeometry? (t : Toolkit) (o : ObjectId) (part : String) : Option Size :=
  match t.object? o with
  | some _ => t.partGeometry.find? part
  | none => none

/-- The live layout with the least number. -/
def firstLayout? (t : Toolkit) : Option ObjectId :=
  (t.objects.entries.find? fun e => e.2.kind.isLayout).map Prod.fst

/-- The live objects at and below an object in the order in which they are destroyed, down to a
depth. -/
def cascadeTo (t : Toolkit) : Nat → ObjectId → List ObjectId
  | 0, _ => []
  | depth + 1, o =>
    match t.object? o with
    | none => []
    | some r =>
      let below := r.parts.values.flatMap (cascadeTo t depth)
      match t.destroyOrder with
      | .parentFirst => o :: below
      | .childrenFirst => below ++ [o]

/-- The live objects at and below an object in the order in which they are destroyed. No chain
of contents is longer than there are objects. -/
def cascade (t : Toolkit) (o : ObjectId) : List ObjectId :=
  t.cascadeTo t.liveCount o

/-! ### Creating and deleting -/

/-- Creates an object. -/
def allocate (t : Toolkit) (kind : ObjectKind) (size : Option Size) : ObjectId × Toolkit :=
  (t.nextObject,
    { t with
      nextObject := t.nextObject + 1
      objects := t.objects.insert t.nextObject (ToolkitObject.fresh kind size) })

/-- Loads a group of a layout file. -/
def loadLayout (t : Toolkit) (path group : String) : Except ToolkitError (ObjectId × Toolkit) :=
  match t.loadFailure with
  | some e => .error e
  | none => .ok (t.allocate (.layout path group) none)

/-- Creates an image. -/
def createImage (t : Toolkit) (content : ImageContent) :
    Except ToolkitError (ObjectId × Toolkit) :=
  match t.imageFailure with
  | some e => .error e
  | none => .ok (t.allocate content.kind (some content.size))

/-- Takes an object out of every part that holds it. -/
def release (t : Toolkit) (o : ObjectId) : Toolkit :=
  { t with
    objects := t.objects.mapValues fun r => { r with parts := r.parts.filterValues (· != o) } }

/-- Deletes an object with everything below it, and reports what was destroyed. -/
def delete (t : Toolkit) (o : ObjectId) : List ObjectId × Toolkit :=
  let destroyed := t.cascade o
  let released := t.release o
  (destroyed,
    { released with
      objects := destroyed.foldl Table.erase released.objects
      deleted := t.deleted ++ destroyed })

/-! ### Parts -/

/-- Changes a live object. -/
def modifyObject (t : Toolkit) (o : ObjectId) (f : ToolkitObject → ToolkitObject) : Toolkit :=
  { t with objects := t.objects.modify o f }

/-- Swallows an object into a part, in place of what was there. -/
def swallow (t : Toolkit) (container : ObjectId) (part : String) (content : ObjectId) :
    Except ToolkitError Toolkit :=
  match t.swallowFailure with
  | some e => .error e
  | none =>
    match t.object? container with
    | none => .error (.fault ("swallow into unknown " ++ objectName container))
    | some _ =>
      .ok (t.modifyObject container fun r => { r with parts := r.parts.insert part content })

/-- Takes out what is swallowed into a part. -/
def unswallow (t : Toolkit) (container : ObjectId) (part : String) : Option ObjectId × Toolkit :=
  (t.swallowed? container part,
    t.modifyObject container fun r => { r with parts := r.parts.erase part })

/-- Sets the text of a part. -/
def setText (t : Toolkit) (o : ObjectId) (part text : String) : Toolkit :=
  t.modifyObject o fun r => { r with texts := r.texts.insert part text }

/-- Sets or removes the description of a part. -/
def setDescription (t : Toolkit) (o : ObjectId) (part : String) (text : Option String) : Toolkit :=
  t.modifyObject o fun r =>
    match text with
    | some text => { r with descriptions := r.descriptions.insert part text }
    | none => { r with descriptions := r.descriptions.erase part }

/-- Drags a part to a place. -/
def setDrag (t : Toolkit) (o : ObjectId) (part : String) (x y : Float) : Toolkit :=
  t.modifyObject o fun r => { r with drags := r.drags.insert part (x, y) }

/-- Gives an object a size. -/
def resize (t : Toolkit) (o : ObjectId) (size : Size) : Toolkit :=
  t.modifyObject o fun r => { r with size := some size }

/-- Sets the colours of a class. -/
def setColors (t : Toolkit) (o : ObjectId) (name : String) (colors : ColorClass) : Toolkit :=
  t.modifyObject o fun r => { r with colors := r.colors.insert name colors }

/-! ### Recorded calls -/

/-- Records a call. -/
def note (t : Toolkit) (call : ToolkitCall) : Toolkit :=
  { t with calls := t.calls ++ [call] }

/-- Emits a signal. -/
def emitSignal (t : Toolkit) (o : ObjectId) (signal source : String) : Toolkit :=
  t.note (.signal o signal source)

/-- Delivers a pointer event. -/
def feedMouse (t : Toolkit) (o : ObjectId) (action : MouseAction) (x y : Float)
    (timestamp : Duration) : Toolkit :=
  t.note (.mouse o action x y timestamp)

/-- Delivers a key event, and tells whether it was handled. -/
def feedKey (t : Toolkit) (o : ObjectId) (action : KeyAction) (keyCode : UInt32) :
    Bool × Toolkit :=
  (t.keyResult, t.note (.key o action keyCode))

/-- Performs an accessibility action, and tells whether it was handled. -/
def performAccess (t : Toolkit) (o : ObjectId) (action : AccessAction) : Bool × Toolkit :=
  ((t.accessResults.lookup action).getD true, t.note (.access o action))

/-- The opaque grey in which an object is painted, once for each of `count` pixels. -/
def shadePixels (o : ObjectId) (count : Nat) : Array UInt8 :=
  let shade := UInt8.ofNat (o % 256)
  Array.ofFn (n := count * 4) fun i => if i.val % 4 = 3 then 255 else shade

/-- Paints an object into a target of `length` bytes, which has to be as long as a picture of
the size. The painted bytes are answered. -/
def paint (t : Toolkit) (o : ObjectId) (length : Nat) (size : Size) :
    Except ToolkitError (Array UInt8 × Toolkit) :=
  if length ≠ size.area * 4 then
    .error (.fault ("target holds " ++ toString length ++ " bytes for " ++ size.describe))
  else
    .ok (shadePixels o size.area, t.note (.paint o size))

/-- A new object has the next number. -/
theorem fst_allocate (t : Toolkit) (kind : ObjectKind) (size : Option Size) :
    (t.allocate kind size).1 = t.nextObject :=
  rfl

/-- A new object is live, and no other object becomes so. -/
theorem live_allocate (t : Toolkit) (kind : ObjectKind) (size : Option Size) (o : ObjectId) :
    (t.allocate kind size).2.object? o =
      if o = t.nextObject then some (ToolkitObject.fresh kind size) else t.object? o := by
  simp only [allocate, object?, Table.find?_insert]

end Toolkit

end WidgetStage
