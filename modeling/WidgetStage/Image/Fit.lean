import WidgetStage.Image.Options
import WidgetStage.Status

/-!
# Fitting an image into its container

From the natural size of an image, the size of its container and its options follows how it is
shown: stretched to a size, handed over with its own size as a hint for the aspect ratio, or
baked into a snapshot of the container, scaled by a fill factor and centred.

* `FillMode.factor` — the fill factor.
* `CropPlan.centred` — a scaled image in the middle of a viewport.
* `DisplayPlan.make` — the decision.
-/

namespace WidgetStage

/-- The smaller of the two ratios of container to image. -/
def lesserRatio (α : Type) [Scalar α] (natural container : Size) : α :=
  Scalar.lesser
    (Scalar.quotient (Scalar.ofCount container.width.toNat) (Scalar.ofCount natural.width.toNat))
    (Scalar.quotient (Scalar.ofCount container.height.toNat) (Scalar.ofCount natural.height.toNat))

/-- The greater of the two ratios of container to image. -/
def greaterRatio (α : Type) [Scalar α] (natural container : Size) : α :=
  Scalar.greater
    (Scalar.quotient (Scalar.ofCount container.width.toNat) (Scalar.ofCount natural.width.toNat))
    (Scalar.quotient (Scalar.ofCount container.height.toNat) (Scalar.ofCount natural.height.toNat))

/-- The factor by which an image is scaled. Shrinking happens if the image exceeds the container
on some axis, growing if the container exceeds the image on some axis. -/
def FillMode.factor (α : Type) [Scalar α] (fill : FillMode) (natural container : Size) :
    Option α :=
  match fill with
  | .disable => none
  | .inSize =>
    if container.width < natural.width ∨ container.height < natural.height then
      some (lesserRatio α natural container)
    else
      some (Scalar.ofCount 1)
  | .overSize =>
    if natural.width < container.width ∨ natural.height < container.height then
      some (greaterRatio α natural container)
    else
      some (Scalar.ofCount 1)
  | .fitSize => some (greaterRatio α natural container)

/-- A scaled image and the viewport through which it is seen. -/
structure CropPlan (α : Type) where
  /-- The factor between the natural and the scaled size. -/
  factor : α
  /-- The size of the scaled image. -/
  scaled : Size
  /-- The size of the viewport. -/
  viewport : Size
  /-- The left edge of the image, seen from that of the viewport. -/
  offsetX : Int32
  /-- The top edge of the image, seen from that of the viewport. -/
  offsetY : Int32
  deriving DecidableEq, Repr

namespace CropPlan

variable {α : Type}

/-- Where the scaled image lies, in the coordinates of the viewport. -/
def placement (p : CropPlan α) : Rect :=
  ⟨p.offsetX, p.offsetY, p.scaled.width, p.scaled.height⟩

/-- The nearest 32-bit integer. -/
def clampInt32 (n : Int) : Int32 :=
  Int32.ofInt (max Text.int32Min (min Text.int32Max n))

/-- The distance from the edge of the viewport to that of the image that leaves equal margins on
both sides, but for one pixel; half a pixel goes towards zero. -/
def margin (scaled viewport : UInt32) : Int :=
  -((Int.ofNat scaled.toNat - Int.ofNat viewport.toNat).tdiv 2)

/-- A scaled image in the middle of a viewport. -/
def centred (factor : α) (scaled viewport : Size) : CropPlan α where
  factor := factor
  scaled := scaled
  viewport := viewport
  offsetX := clampInt32 (margin scaled.width viewport.width)
  offsetY := clampInt32 (margin scaled.height viewport.height)

end CropPlan

/-- How an image is shown. -/
inductive DisplayPlan (α : Type) where
  /-- Stretched to a size. -/
  | stretch (size : Size)
  /-- With its own size as a hint for the aspect ratio. -/
  | aspectHint (size : Size)
  /-- As a snapshot of the container. -/
  | snapshot (crop : CropPlan α)
  deriving DecidableEq, Repr

/-- A fill that leaves nothing to show: one of the sizes is empty. -/
structure DegenerateFill where
  natural : Size
  container : Size
  scaled : Size
  deriving DecidableEq, Repr

namespace DegenerateFill

/-- The text of the error. -/
def message (e : DegenerateFill) : String :=
  "degenerate fill: natural " ++ e.natural.times ++ " in container " ++ e.container.times ++
    " scales to " ++ e.scaled.times

/-- The error of the command that asked for the fill. -/
def toStageError (e : DegenerateFill) : StageError :=
  .invalidParameter e.message

end DegenerateFill

namespace DisplayPlan

/-- Decides how an image is shown. The container is the explicit size, else that of the part,
else empty. -/
def make (α : Type) [Scalar α] (natural : Size) (explicit part : Option Size)
    (options : ImageOptions) : Except DegenerateFill (DisplayPlan α) :=
  if !options.aspect then .ok (.stretch (explicit.getD natural))
  else
    let container := (explicit.or part).getD ⟨0, 0⟩
    match options.fill.factor α natural container with
    | none => .ok (.aspectHint natural)
    | some factor =>
      let scaled := natural.scaleBy factor
      if natural.isEmpty || container.isEmpty || scaled.isEmpty then
        .error ⟨natural, container, scaled⟩
      else
        .ok (.snapshot (CropPlan.centred factor scaled container))

end DisplayPlan

end WidgetStage
