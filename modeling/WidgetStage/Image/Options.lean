import WidgetStage.Image.Scalar
import WidgetStage.Image.Tokenizer
import WidgetStage.Text.Bytes
import WidgetStage.Text.Numeral

/-!
# Image options

How an image is to be shown is told by an option string. Each of five keys has a reader for its
value. A reader that cannot decide leaves the options as they were, so the last deciding
segment of a key wins; keys that are not known decide nothing.

* `ImageOptions.assign` — the options after one token.
* `ImageOptions.parse` — the options of a text.
-/

namespace WidgetStage

/-- How an image fills its container. -/
inductive FillMode where
  /-- The image is not scaled to its container. -/
  | disable
  /-- The image is shrunk until the container holds it. -/
  | inSize
  /-- The image is grown until it covers the container. -/
  | overSize
  /-- The image is scaled to the least size that covers the container. -/
  | fitSize
  deriving DecidableEq, Repr

namespace FillMode

/-- The name of a mode. -/
def name : FillMode → String
  | .disable => "Disable"
  | .inSize => "InSize"
  | .overSize => "OverSize"
  | .fitSize => "FitSize"

end FillMode

/-- A shadow to be cast by an image. -/
structure ShadowOptions where
  enabled : Bool
  angle : Int
  offset : Int
  softness : Int
  color : Nat
  deriving DecidableEq, Repr

/-- No shadow. -/
def ShadowOptions.none : ShadowOptions :=
  ⟨false, 0, 0, 0, 0⟩

/-- How an image is to be shown. A width or height of minus one is not set. -/
structure ImageOptions where
  orient : Bool
  aspect : Bool
  fill : FillMode
  width : Int
  height : Int
  shadow : ShadowOptions
  deriving DecidableEq, Repr

namespace ImageOptions

/-- The options of an empty text. -/
def unset : ImageOptions :=
  ⟨false, false, .disable, -1, -1, .none⟩

/-- The size asked for, if there is one. -/
def explicitSize (o : ImageOptions) : Option Size :=
  if 0 ≤ o.width ∧ 0 ≤ o.height then
    some ⟨UInt32.ofNat o.width.toNat, UInt32.ofNat o.height.toNat⟩
  else
    none

/-- The size asked for on a display with this scale. -/
def scaledSize {α : Type} [Scalar α] (o : ImageOptions) (scale : α) : Option Size :=
  o.explicitSize.map fun s => s.scaleBy scale

/-! ### Values -/

/-- Whether two texts are equal but for the case of ASCII letters. -/
def sameLetters (a b : List Char) : Bool :=
  a.map Char.toLower == b.map Char.toLower

/-- A flag is judged by its first four bytes: it is set if they spell `true`. A shorter value
decides nothing, and neither does one with a character across the fourth byte. -/
def flag? (value : List Char) : Option Bool :=
  (Text.bytesPrefix? 4 value).map fun head => sameLetters head "true".toList

/-- A fill mode by its name; any other word disables filling. -/
def fillMode (value : List Char) : FillMode :=
  if sameLetters value "in-size".toList then .inSize
  else if sameLetters value "over-size".toList then .overSize
  else if sameLetters value "fit-size".toList then .fitSize
  else .disable

/-- Whether a character stands between width and height. -/
def isTimes (c : Char) : Bool :=
  c == 'x' || c == 'X'

/-- A width and a height, neither of them negative, around the first sign between them. -/
def dimensions? (value : List Char) : Option (Int × Int) :=
  match value.dropWhile (fun c => !isTimes c) with
  | [] => none
  | _ :: after =>
    match Text.int32? (Text.trim (value.takeWhile (fun c => !isTimes c))),
      Text.int32? (Text.trim after) with
    | some w, some h => if 0 ≤ w ∧ 0 ≤ h then some (w, h) else none
    | _, _ => none

/-- A colour word in base sixteen, which may be marked as such. -/
def colorWord? (field : List Char) : Option Nat :=
  let digits :=
    match field with
    | '0' :: 'x' :: r => r
    | '0' :: 'X' :: r => r
    | '#' :: r => r
    | r => r
  Text.natural? 16 4294967295 digits

/-- Angle, offset, softness and colour between commas. -/
def shadow? (value : List Char) : Option ShadowOptions :=
  match (Text.cut (· == ',') value).map Text.trim with
  | [angle, offset, softness, color] =>
    match Text.int32? angle, Text.int32? offset, Text.int32? softness, colorWord? color with
    | some a, some o, some s, some c => some ⟨true, a, o, s, c⟩
    | _, _, _, _ => none
  | _ => none

/-! ### Keys -/

/-- The options after a token. -/
def assign (o : ImageOptions) (t : Token) : ImageOptions :=
  match String.ofList t.key with
  | "aspect" => { o with aspect := (flag? t.value).getD o.aspect }
  | "orient" => { o with orient := (flag? t.value).getD o.orient }
  | "fill" => { o with fill := fillMode t.value }
  | "size" =>
    match dimensions? t.value with
    | some (w, h) => { o with width := w, height := h }
    | none => o
  | "shadow" => { o with shadow := (shadow? t.value).getD o.shadow }
  | _ => o

/-- The options of a text; a missing text asks for nothing. -/
def parse : Option String → ImageOptions
  | none => unset
  | some s => (tokens s).foldl assign unset

end ImageOptions

end WidgetStage
