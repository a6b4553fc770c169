import WidgetStage.Image.Scalar

/-!
# Numbers that hold pixel counts

Sizes are scaled with quotients and products that may be rounded. As long as an image is not scaled
at all nothing is to be rounded, and then it ought to make no difference what the numbers are: a
count by itself is one, one time a count is the count, and what is a whole number has no fraction to
lose. This is all that is asked for here.

## Main results

* `Scalar.ExactCounts`: what is asked of numbers.
* `Scalar.scaleBy_one`: a size that is scaled by one is the same size.
-/

namespace WidgetStage

/-- Numbers that hold pixel counts as they are, if only their ratio is one. -/
class Scalar.ExactCounts (α : Type) [Scalar α] : Prop where
  /-- A count by itself is one. -/
  quotient_self {n : Nat} (hpos : 0 < n) (hlt : n < UInt32.size) :
    quotient (ofCount n) (ofCount n) = (ofCount 1 : α)
  /-- One time a count is the count. -/
  product_one {n : Nat} (hlt : n < UInt32.size) :
    product (ofCount n) (ofCount 1) = (ofCount n : α)
  /-- The whole part of a count is the count. -/
  floorWord_ofCount {n : Nat} (hlt : n < UInt32.size) :
    floorWord (ofCount n : α) = UInt32.ofNat n
  /-- The least whole number that is not below a count is the count. -/
  ceilWord_ofCount {n : Nat} (hlt : n < UInt32.size) :
    ceilWord (ofCount n : α) = UInt32.ofNat n

namespace Scalar

variable {α : Type} [Scalar α] [ExactCounts α]

/-- A size that is scaled by one is the same size. -/
theorem scaleBy_one (s : Size) : s.scaleBy (ofCount 1 : α) = s := by
  rw [Size.scaleBy, ExactCounts.product_one s.width.toNat_lt_size,
    ExactCounts.product_one s.height.toNat_lt_size,
    ExactCounts.floorWord_ofCount s.width.toNat_lt_size,
    ExactCounts.floorWord_ofCount s.height.toNat_lt_size, UInt32.ofNat_toNat, UInt32.ofNat_toNat]

end Scalar

end WidgetStage
