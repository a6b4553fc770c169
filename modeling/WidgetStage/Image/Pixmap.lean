import WidgetStage.Color
import WidgetStage.Geometry

/-!
# Pixmaps

A pixmap holds one colour for every pixel of its size, row by row.

* `Pixmap.get_ofFn` — a pixmap made from a function has its colours.
* `Pixmap.crop` — a part of a pixmap.
-/

namespace WidgetStage

/-- An image in memory, row by row from the top. -/
structure Pixmap where
  size : Size
  pixels : Array Rgba
  size_pixels : pixels.size = size.area
  deriving DecidableEq

namespace Pixmap

/-- The pixmap whose pixel in column `x` and row `y` is `color x y`. -/
def ofFn (size : Size) (color : Nat → Nat → Rgba) : Pixmap where
  size := size
  pixels :=
    Array.ofFn (n := size.area) fun i =>
      color (i.val % size.width.toNat) (i.val / size.width.toNat)
  size_pixels := by simp

/-- The pixmap of one colour. -/
def solid (size : Size) (color : Rgba) : Pixmap where
  size := size
  pixels := Array.replicate size.area color
  size_pixels := by simp

/-- The colour in column `x` and row `y`; there is none outside. -/
def get (p : Pixmap) (x y : Nat) : Rgba :=
  if x < p.size.width.toNat then p.pixels.getD (y * p.size.width.toNat + x) .transparent
  else .transparent

/-- The part of this size that begins in column `x₀` and row `y₀`. -/
def crop (p : Pixmap) (x₀ y₀ : Nat) (size : Size) : Pixmap :=
  ofFn size fun x y => p.get (x₀ + x) (y₀ + y)

/-- The channels of all pixels in order. -/
def bytes (p : Pixmap) : Array UInt8 :=
  p.pixels.foldl (fun acc c => acc.push c.r |>.push c.g |>.push c.b |>.push c.a) #[]

/-- A pixmap made from a function has its colours. -/
theorem get_ofFn (size : Size) (color : Nat → Nat → Rgba) {x y : Nat}
    (hx : x < size.width.toNat) (hy : y < size.height.toNat) :
    (ofFn size color).get x y = color x y := by
  have hlt : y * size.width.toNat + x < size.area := by
    unfold Size.area
    calc y * size.width.toNat + x < y * size.width.toNat + size.width.toNat := by omega
      _ = (y + 1) * size.width.toNat := by rw [Nat.succ_mul]
      _ ≤ size.height.toNat * size.width.toNat := Nat.mul_le_mul_right _ hy
      _ = size.width.toNat * size.height.toNat := Nat.mul_comm _ _
  have hmod : (y * size.width.toNat + x) % size.width.toNat = x := by
    rw [Nat.add_comm, Nat.add_mul_mod_self_right, Nat.mod_eq_of_lt hx]
  have hdiv : (y * size.width.toNat + x) / size.width.toNat = y := by
    rw [Nat.add_comm, Nat.add_mul_div_right _ _ (by omega), Nat.div_eq_of_lt hx, Nat.zero_add]
  simp [get, ofFn, hx, Array.getD, hlt, hmod, hdiv]

end Pixmap

end WidgetStage
