import WidgetStage.Image.Pixmap

/-!
# Stored pictures

A picture file stores pixels in one of several sample formats, together with a note on how the
camera was held. Decoding brings every pixel to straight colours of eight bits and turns the
picture upright if that is asked for.

* `StoredPixel.toRgba` — the colour of a stored pixel.
* `Orientation.apply` — turns and mirrors a pixmap.
* `Picture.decode` — both.
-/

namespace WidgetStage

/-- A pixel in the sample format of its file. -/
inductive StoredPixel where
  | rgba8 (r g b a : UInt8)
  | rgb8 (r g b : UInt8)
  | luma8 (v : UInt8)
  | lumaAlpha8 (v a : UInt8)
  | luma16 (v : UInt16)
  | rgba16 (r g b a : UInt16)
  deriving DecidableEq, Repr

namespace StoredPixel

/-- The nearest channel value of eight bits. -/
def narrow (v : UInt16) : UInt8 :=
  UInt8.ofNat ((v.toNat + 128) / 257)

/-- The colour of a stored pixel; what has no alpha is opaque. -/
def toRgba : StoredPixel → Rgba
  | .rgba8 r g b a => ⟨r, g, b, a⟩
  | .rgb8 r g b => ⟨r, g, b, 255⟩
  | .luma8 v => ⟨v, v, v, 255⟩
  | .lumaAlpha8 v a => ⟨v, v, v, a⟩
  | .luma16 v => ⟨narrow v, narrow v, narrow v, 255⟩
  | .rgba16 r g b a => ⟨narrow r, narrow g, narrow b, narrow a⟩

/-- The narrowing of a doubled byte is that byte. -/
theorem narrow_doubled (v : UInt8) : narrow (UInt16.ofNat (v.toNat * 257)) = v := by
  have hv : v.toNat < 256 := v.toNat_lt
  have h : (v.toNat * 257 % 2 ^ 16 + 128) / 257 = v.toNat := by omega
  simp only [narrow, UInt16.toNat_ofNat', h, UInt8.ofNat_toNat]

end StoredPixel

/-- How a stored picture has to be turned and mirrored to stand upright. Turns are clockwise. -/
inductive Orientation where
  | upright
  | mirrored
  | turned180
  | flipped
  | turned90Mirrored
  | turned90
  | turned270Mirrored
  | turned270
  deriving DecidableEq, Repr

namespace Orientation

/-- The orientation with a number; other numbers ask for nothing. -/
def ofCode : Nat → Orientation
  | 2 => .mirrored
  | 3 => .turned180
  | 4 => .flipped
  | 5 => .turned90Mirrored
  | 6 => .turned90
  | 7 => .turned270Mirrored
  | 8 => .turned270
  | _ => .upright

/-- Whether width and height change places. -/
def isTransposing : Orientation → Bool
  | .upright | .mirrored | .turned180 | .flipped => false
  | .turned90Mirrored | .turned90 | .turned270Mirrored | .turned270 => true

/-- The size of a picture when it stands upright. -/
def turnSize (o : Orientation) (s : Size) : Size :=
  if o.isTransposing then ⟨s.height, s.width⟩ else s

/-- Where the pixel in column `x` and row `y` of the upright picture is stored, in a picture of
`w` columns and `h` rows. -/
def storedAt (o : Orientation) (w h x y : Nat) : Nat × Nat :=
  match o with
  | .upright => (x, y)
  | .mirrored => (w - 1 - x, y)
  | .turned180 => (w - 1 - x, h - 1 - y)
  | .flipped => (x, h - 1 - y)
  | .turned90Mirrored => (y, x)
  | .turned90 => (y, h - 1 - x)
  | .turned270Mirrored => (w - 1 - y, h - 1 - x)
  | .turned270 => (w - 1 - y, x)

/-- Turns and mirrors a pixmap so that it stands upright. -/
def apply (o : Orientation) (p : Pixmap) : Pixmap :=
  Pixmap.ofFn (o.turnSize p.size) fun x y =>
    let place := o.storedAt p.size.width.toNat p.size.height.toNat x y
    p.get place.1 place.2

end Orientation

/-- A picture as it is stored. -/
structure Picture where
  size : Size
  /-- The pixel in a column and a row. -/
  pixel : Nat → Nat → StoredPixel
  orientation : Orientation

namespace Picture

/-- An upright test card of one colour. -/
def testCard (size : Size) : Picture :=
  ⟨size, fun _ _ => .rgba8 200 80 40 255, .upright⟩

/-- The colours of a picture, turned upright if that is asked for. -/
def decode (p : Picture) (orient : Bool) : Pixmap :=
  let stored := Pixmap.ofFn p.size fun x y => (p.pixel x y).toRgba
  if orient then p.orientation.apply stored else stored

end Picture

end WidgetStage
