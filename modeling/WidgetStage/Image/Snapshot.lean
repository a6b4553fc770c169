import WidgetStage.Image.Fit
import WidgetStage.Image.Resample

/-!
# Snapshots

A snapshot is a picture of a viewport: transparent where no image is seen, and elsewhere the
part of the image that lies behind the viewport, resampled if it has another size than what is
seen of it. How it is resampled is left to a `Resampler`.

* `sourceSpan` — the pixels of the image behind a stretch of the scaled image.
* `CropPlan.bake` — the snapshot of a plan.
-/

namespace WidgetStage

/-- The greatest number of pixels of a snapshot. -/
def maxSnapshotPixels : Nat := 1 <<< 26

/-- Why there is no snapshot. -/
inductive SnapshotError where
  /-- The viewport has too many pixels. -/
  | tooLarge (size : Size)
  /-- There is no memory for the pixels. Memory never runs out here, so that nothing answers so. -/
  | allocation (size : Size)
  deriving DecidableEq, Repr

namespace SnapshotError

/-- The text of the error. -/
def message : SnapshotError → String
  | .tooLarge size => "snapshot buffer " ++ size.times ++ " is too large"
  | .allocation size => "could not allocate snapshot buffer " ++ size.times

/-- The error of the command that asked for the snapshot. -/
def toStageError (e : SnapshotError) : StageError :=
  .outOfMemory e.message

end SnapshotError

/-- A transparent pixmap, if it is not too large. -/
def transparentCanvas (size : Size) : Except SnapshotError Pixmap :=
  if maxSnapshotPixels < size.area then .error (.tooLarge size)
  else .ok (Pixmap.solid size .transparent)

/-- Forces the ends of a span into the `natural` pixels of an axis, with at least one pixel
between them. -/
def clampSpan (first last natural : Nat) : Nat × Nat :=
  let first := min first (natural - 1)
  (first, max (first + 1) (min last natural))

/-- The pixels of an axis behind `length` pixels of the scaled image from `offset` on: from the
first, inclusive, to the last, exclusive. -/
def sourceSpan (α : Type) [Scalar α] (offset length natural scaled : Nat) : Nat × Nat :=
  let ratio : α := Scalar.quotient (Scalar.ofCount natural) (Scalar.ofCount scaled)
  let first : UInt32 := Scalar.floorWord (Scalar.product (Scalar.ofCount offset) ratio)
  let last : UInt32 := Scalar.ceilWord (Scalar.product (Scalar.ofCount (offset + length)) ratio)
  clampSpan first.toNat last.toNat natural

namespace CropPlan

variable {α : Type}

/-- The part of the viewport in which the image is seen. -/
def visible? (p : CropPlan α) : Option Rect :=
  p.placement.intersection? (Rect.ofSize p.viewport)

/-- The image behind a visible rectangle, in the size of the rectangle. -/
def region [Scalar α] (p : CropPlan α) (source : Pixmap) (visible : Rect)
    (resampler : Resampler) : Pixmap :=
  let across :=
    sourceSpan α (visible.left - p.offsetX.toInt).toNat visible.width.toNat
      source.size.width.toNat p.scaled.width.toNat
  let down :=
    sourceSpan α (visible.top - p.offsetY.toInt).toNat visible.height.toNat
      source.size.height.toNat p.scaled.height.toNat
  let part : Size := ⟨UInt32.ofNat (across.2 - across.1), UInt32.ofNat (down.2 - down.1)⟩
  let region := source.crop across.1 down.1 part
  if part = visible.size then region else resampler.resample region visible.size

/-- The colour of the viewport at a point when `region` is seen in the rectangle `visible`. -/
def paste (visible : Rect) (region : Pixmap) (x y : Nat) : Rgba :=
  let left := visible.left.toNat
  let top := visible.top.toNat
  if left ≤ x ∧ x < left + visible.width.toNat ∧ top ≤ y ∧ y < top + visible.height.toNat then
    region.get (x - left) (y - top)
  else
    .transparent

/-- The snapshot of a plan: the visible part of the image on a transparent canvas. -/
def bake [Scalar α] (p : CropPlan α) (source : Pixmap) (resampler : Resampler := .triangle) :
    Except SnapshotError Pixmap :=
  match transparentCanvas p.viewport with
  | .error e => .error e
  | .ok canvas =>
    match p.visible? with
    | none => .ok canvas
    | some visible =>
      if source.size.isEmpty || p.scaled.isEmpty then .ok canvas
      else .ok (Pixmap.ofFn p.viewport (paste visible (p.region source visible resampler)))

end CropPlan

end WidgetStage
