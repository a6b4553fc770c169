import WidgetStage.Text.Blank
import WidgetStage.Text.Quoted

/-!
# Colours and colour classes

A colour class assigns three colours to a name: that of an object, of its outline and of its
shadow. It is written as twelve numbers between white space, four channels to a colour.

* `ColorClass.parse` — reads the twelve numbers; the number of fields is judged first, then the
  first field that is not a channel value.
-/

namespace WidgetStage

/-- A colour with straight alpha. -/
structure Rgba where
  r : UInt8
  g : UInt8
  b : UInt8
  a : UInt8
  deriving DecidableEq, Repr, Inhabited

namespace Rgba

/-- No colour at all. -/
def transparent : Rgba :=
  ⟨0, 0, 0, 0⟩

/-- Unpacks a word that holds alpha in its highest byte and blue in its lowest. -/
def ofArgb (argb : UInt32) : Rgba :=
  let n := argb.toNat
  let byte (k : Nat) : UInt8 := UInt8.ofNat ((n >>> (8 * k)) % 256)
  ⟨byte 2, byte 1, byte 0, byte 3⟩

/-- The four channels in order. -/
def channels (c : Rgba) : List UInt8 :=
  [c.r, c.g, c.b, c.a]

end Rgba

/-- The colours of one class. -/
structure ColorClass where
  object : Rgba
  outline : Rgba
  shadow : Rgba
  deriving DecidableEq, Repr, Inhabited

/-- Why a text is not a colour class. -/
inductive ColorClassError where
  /-- The text has another number of fields than twelve. -/
  | fieldCount (count : Nat)
  /-- The field at this index is the first that is not a number up to 255. -/
  | component (index : Nat) (value : String)
  deriving DecidableEq, Repr

/-- The text of the error. -/
def ColorClassError.message : ColorClassError → String
  | .fieldCount count => "color class needs 12 integers, got " ++ toString count
  | .component index value =>
    "color class field " ++ toString index ++ " is not a channel value: " ++ Text.quote value

namespace ColorClass

/-- A channel value: a number up to 255 in decimal. -/
def channel? (field : List Char) : Option UInt8 :=
  (Text.natural? 10 255 field).map UInt8.ofNat

/-- The values of the fields, or the first field that has none; `index` counts the fields
already read. -/
def channels (index : Nat) : List (List Char) → Except ColorClassError (List UInt8)
  | [] => .ok []
  | f :: fs =>
    match channel? f with
    | none => .error (.component index (String.ofList f))
    | some v =>
      match channels (index + 1) fs with
      | .ok vs => .ok (v :: vs)
      | .error e => .error e

/-- Reads twelve channel values between white space: object, outline and shadow. -/
def parse (s : String) : Except ColorClassError ColorClass :=
  let fields := Text.fields s.toList
  if fields.length ≠ 12 then .error (.fieldCount fields.length)
  else
    match channels 0 fields with
    | .error e => .error e
    | .ok [a, b, c, d, e, f, g, h, i, j, k, l] =>
      .ok ⟨⟨a, b, c, d⟩, ⟨e, f, g, h⟩, ⟨i, j, k, l⟩⟩
    | .ok vs => .error (.fieldCount vs.length)

end ColorClass

end WidgetStage
