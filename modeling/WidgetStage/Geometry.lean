/-!
# Sizes and rectangles

Extents and positions on a surface, in whole pixels. A rectangle holds the points from its
origin, inclusive, to its right and bottom edges, exclusive; the edges may lie beyond the range
of an origin, so they are integers.

* `Rect.Contains` — the points of a rectangle.
* `Rect.intersection?` — the common points of two rectangles, if there are any.
-/

namespace WidgetStage

/-- A width and a height. -/
structure Size where
  width : UInt32
  height : UInt32
  deriving DecidableEq, Repr, Inhabited

namespace Size

/-- Whether one of the dimensions is zero. -/
def isEmpty (s : Size) : Bool :=
  s.width == 0 || s.height == 0

/-- The number of pixels. -/
def area (s : Size) : Nat :=
  s.width.toNat * s.height.toNat

/-- The text used in messages, such as `4x3`. -/
def times (s : Size) : String :=
  toString s.width.toNat ++ "x" ++ toString s.height.toNat

/-- The labelled text used in diagnostics. -/
def describe (s : Size) : String :=
  "Size \x7b width: " ++ toString s.width.toNat ++ ", height: " ++ toString s.height.toNat ++
    " \x7d"

end Size

/-- A rectangle by its origin and its extent. -/
structure Rect where
  x : Int32
  y : Int32
  width : UInt32
  height : UInt32
  deriving DecidableEq, Repr, Inhabited

namespace Rect

/-- The rectangle of a size at the origin. -/
def ofSize (s : Size) : Rect :=
  ⟨0, 0, s.width, s.height⟩

/-- The extent of a rectangle. -/
def size (r : Rect) : Size :=
  ⟨r.width, r.height⟩

/-- The left edge, inclusive. -/
def left (r : Rect) : Int :=
  r.x.toInt

/-- The top edge, inclusive. -/
def top (r : Rect) : Int :=
  r.y.toInt

/-- The right edge, exclusive. -/
def right (r : Rect) : Int :=
  r.left + Int.ofNat r.width.toNat

/-- The bottom edge, exclusive. -/
def bottom (r : Rect) : Int :=
  r.top + Int.ofNat r.height.toNat

/-- The points of a rectangle: left and top edges belong to it, right and bottom edges do
not. -/
def Contains (r : Rect) (px py : Int) : Prop :=
  r.left ≤ px ∧ px < r.right ∧ r.top ≤ py ∧ py < r.bottom

/-- The rectangle of the common points, `none` if there are no such points. -/
def intersection? (a b : Rect) : Option Rect :=
  let left := max a.left b.left
  let top := max a.top b.top
  let right := min a.right b.right
  let bottom := min a.bottom b.bottom
  if left < right ∧ top < bottom then
    some
      { x := Int32.ofInt left
        y := Int32.ofInt top
        width := UInt32.ofNat (right - left).toNat
        height := UInt32.ofNat (bottom - top).toNat }
  else
    none

end Rect

end WidgetStage
