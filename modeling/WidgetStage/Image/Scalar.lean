import WidgetStage.Geometry

/-!
# Scaling pixel counts

Fill factors and scaled sizes are computed with quotients and products of pixel counts. What is
computed does not depend on the numbers that carry it, so it is written once over `Scalar`, and
doubles are one instance.

* `Size.scaleBy` — scales both dimensions and drops the fractions.
-/

namespace WidgetStage

/-- Numbers in which pixel counts are scaled. -/
class Scalar (α : Type) where
  /-- A pixel count as a number. -/
  ofCount : Nat → α
  /-- The quotient of two numbers. -/
  quotient : α → α → α
  /-- The product of two numbers. -/
  product : α → α → α
  /-- The smaller of two numbers. -/
  lesser : α → α → α
  /-- The greater of two numbers. -/
  greater : α → α → α
  /-- The whole part as a word: nothing below zero, the greatest word above all words. -/
  floorWord : α → UInt32
  /-- The least word that is not below the number: nothing below zero, the greatest word above
  all words. -/
  ceilWord : α → UInt32

namespace Scalar

/-- The smaller of two doubles; an operand that is not a number gives way to the other. -/
def lesserFloat (a b : Float) : Float :=
  if a.isNaN then b else if b.isNaN then a else if b < a then b else a

/-- The greater of two doubles; an operand that is not a number gives way to the other. -/
def greaterFloat (a b : Float) : Float :=
  if a.isNaN then b else if b.isNaN then a else if a < b then b else a

/-- The least word that is not below a double. -/
def ceilFloat (x : Float) : UInt32 :=
  let whole := x.toUInt32
  if whole.toFloat < x ∧ whole.toNat + 1 < UInt32.size then whole + 1 else whole

instance : Scalar Float where
  ofCount n := n.toUInt64.toFloat
  quotient a b := a / b
  product a b := a * b
  lesser := lesserFloat
  greater := greaterFloat
  floorWord x := x.toUInt32
  ceilWord := ceilFloat

end Scalar

/-- Scales both dimensions by a factor and drops the fractions. -/
def Size.scaleBy {α : Type} [Scalar α] (s : Size) (factor : α) : Size :=
  ⟨Scalar.floorWord (Scalar.product (Scalar.ofCount s.width.toNat) factor),
    Scalar.floorWord (Scalar.product (Scalar.ofCount s.height.toNat) factor)⟩

end WidgetStage
