import WidgetStage.Proofs.Image.Centring
import WidgetStage.Proofs.Image.Doubles

/-!
# What a snapshot shows

A plan may put an image anywhere: beside its viewport, far to the left of it, or so that it covers
the viewport many times over. What is seen is the common part of the two. It is mapped back to the
pixels behind it by a ratio that may have been rounded, so that the ends of the span are forced into
the image, with at least one pixel between them. Hence it does not matter to the safety of a
snapshot what words the ratio comes to.

If the image is not scaled, the ratio is one. Then the span behind the visible part is as long as
that part itself and begins where the offset says, and the three ways to count pixels, from the
edges of the viewport, of the visible part and of the image, cancel out.

## Main results

* `isSpan_clampSpan`: a span is never empty and never leaves the image.
* `CropPlan.behind_of_visible?`: what is cut out of an image, and what it is brought to.
* `CropPlan.bake_confined`: where a snapshot is transparent, and what it shows elsewhere.
* `CropPlan.unscaled_copied`: an image that is not scaled is copied pixel by pixel.
-/

namespace WidgetStage

/-- A stretch of the pixels of an axis, from the first, inclusive, to the last, exclusive, with at
least one pixel in it. -/
structure IsSpan (span : Nat × Nat) (natural : Nat) : Prop where
  nonempty : span.1 < span.2
  within : span.2 ≤ natural

/-- Wherever the ends of a span come from, they are forced into the axis. -/
theorem isSpan_clampSpan {natural : Nat} (h : 0 < natural) (first last : Nat) :
    IsSpan (clampSpan first last natural) natural := by
  constructor <;> simp only [clampSpan] <;> omega

namespace Pixmap

/-- There are no colours outside. -/
theorem get_of_outside {p : Pixmap} {x y : Nat}
    (h : ¬ (x < p.size.width.toNat ∧ y < p.size.height.toNat)) : p.get x y = .transparent := by
  rw [get]
  split
  next hx =>
    have hy : p.size.height.toNat ≤ y := by omega
    have harea : p.pixels.size ≤ y * p.size.width.toNat + x :=
      calc p.pixels.size = p.size.height.toNat * p.size.width.toNat := by
            rw [p.size_pixels, Size.area, Nat.mul_comm]
        _ ≤ y * p.size.width.toNat := Nat.mul_le_mul_right _ hy
        _ ≤ y * p.size.width.toNat + x := Nat.le_add_right _ _
    rw [Array.getD, dif_neg (by omega)]
  · rfl

/-- A transparent canvas is transparent everywhere, inside and outside. -/
theorem get_solid_transparent (size : Size) (x y : Nat) :
    (solid size .transparent).get x y = .transparent := by
  simp only [get, solid, Array.getD, Array.size_replicate, Array.getInternal_eq_getElem,
    Array.getElem_replicate, dite_eq_ite, ite_self]

end Pixmap

namespace CropPlan

variable {α : Type} {p : CropPlan α} {visible : Rect}

/-! ### The common part of image and viewport -/

theorem left_placement (p : CropPlan α) : p.placement.left = p.offsetX.toInt :=
  rfl

theorem top_placement (p : CropPlan α) : p.placement.top = p.offsetY.toInt :=
  rfl

theorem right_placement (p : CropPlan α) :
    p.placement.right = p.offsetX.toInt + p.scaled.width.toNat :=
  rfl

theorem bottom_placement (p : CropPlan α) :
    p.placement.bottom = p.offsetY.toInt + p.scaled.height.toNat :=
  rfl

/-- The image lies where the points that are as far from its edges lie within its size. -/
theorem contains_placement_iff (p : CropPlan α) (x y : Int) :
    p.placement.Contains x y ↔
      (Rect.ofSize p.scaled).Contains (x - p.offsetX.toInt) (y - p.offsetY.toInt) := by
  rw [Rect.Contains, Rect.Contains, left_placement, right_placement, top_placement,
    bottom_placement, Rect.left_ofSize, Rect.right_ofSize, Rect.top_ofSize, Rect.bottom_ofSize]
  omega

/-- What is seen of an image lies between the inner edges of the image and the viewport. -/
theorem isIntersection_of_visible? (h : p.visible? = some visible) :
    p.placement.IsIntersection (Rect.ofSize p.viewport) visible :=
  Rect.intersection?_eq_some_iff.1 h

/-- The visible part of an image lies within the scaled image. -/
theorem within_of_visible? (h : p.visible? = some visible) :
    (0 ≤ visible.left - p.offsetX.toInt ∧
      visible.left - p.offsetX.toInt + visible.width.toNat ≤ p.scaled.width.toNat) ∧
    (0 ≤ visible.top - p.offsetY.toInt ∧
      visible.top - p.offsetY.toInt + visible.height.toNat ≤ p.scaled.height.toNat) := by
  have hedges := isIntersection_of_visible? h
  constructor
  · have hleft := hedges.left
    have hwidth := hedges.toNat_width
    rw [left_placement] at hleft hwidth
    rw [right_placement] at hwidth
    omega
  · have htop := hedges.top
    have hheight := hedges.toNat_height
    rw [top_placement] at htop hheight
    rw [bottom_placement] at hheight
    omega

/-- Only an image with pixels has a visible part. -/
theorem scaled_nonempty_of_visible? (h : p.visible? = some visible) : p.scaled.isEmpty = false := by
  have hedges := isIntersection_of_visible? h
  have hacross := hedges.left_lt_right
  have hdown := hedges.top_lt_bottom
  have hwidth := visible.toNat_width
  have hheight := visible.toNat_height
  obtain ⟨⟨_, hw⟩, ⟨_, hh⟩⟩ := within_of_visible? h
  exact Size.isEmpty_eq_false_iff.2 ⟨by omega, by omega⟩

/-- A point is seen if the image and the viewport have it in common. -/
theorem contains_visible_iff (h : p.visible? = some visible) {px py : Int} :
    visible.Contains px py ↔
      p.placement.Contains px py ∧ (Rect.ofSize p.viewport).Contains px py :=
  (isIntersection_of_visible? h).contains_iff

/-- The visible part does not begin before the viewport. -/
theorem nonneg_of_visible? (h : p.visible? = some visible) :
    0 ≤ visible.left ∧ 0 ≤ visible.top := by
  have hedges := isIntersection_of_visible? h
  rw [hedges.left, hedges.top, Rect.left_ofSize, Rect.top_ofSize]
  omega

/-! ### What is shown -/

variable [Scalar α]

/-- The columns of an image behind a visible rectangle. -/
def columns (p : CropPlan α) (source : Pixmap) (visible : Rect) : Nat × Nat :=
  sourceSpan α (visible.left - p.offsetX.toInt).toNat visible.width.toNat
    source.size.width.toNat p.scaled.width.toNat

/-- The rows of an image behind a visible rectangle. -/
def rows (p : CropPlan α) (source : Pixmap) (visible : Rect) : Nat × Nat :=
  sourceSpan α (visible.top - p.offsetY.toInt).toNat visible.height.toNat
    source.size.height.toNat p.scaled.height.toNat

/-- What is cut out of an image for a visible rectangle. -/
def cut (p : CropPlan α) (source : Pixmap) (visible : Rect) : Pixmap :=
  let across := p.columns source visible
  let down := p.rows source visible
  source.crop across.1 down.1
    ⟨UInt32.ofNat (across.2 - across.1), UInt32.ofNat (down.2 - down.1)⟩

/-- What lies behind a visible rectangle: some pixels of the image, which are brought to the size of
the rectangle if they do not have it. -/
structure Behind (p : CropPlan α) (source : Pixmap) (visible : Rect) (resampler : Resampler) :
    Prop where
  /-- The rectangle lies within the scaled image, seen from its left edge. -/
  across : 0 ≤ visible.left - p.offsetX.toInt ∧
    visible.left - p.offsetX.toInt + visible.width.toNat ≤ p.scaled.width.toNat
  /-- The rectangle lies within the scaled image, seen from its top edge. -/
  down : 0 ≤ visible.top - p.offsetY.toInt ∧
    visible.top - p.offsetY.toInt + visible.height.toNat ≤ p.scaled.height.toNat
  columns : IsSpan (p.columns source visible) source.size.width.toNat
  rows : IsSpan (p.rows source visible) source.size.height.toNat
  width : (p.cut source visible).size.width.toNat =
    (p.columns source visible).2 - (p.columns source visible).1
  height : (p.cut source visible).size.height.toNat =
    (p.rows source visible).2 - (p.rows source visible).1
  cut : ∀ i j, i < (p.cut source visible).size.width.toNat →
    j < (p.cut source visible).size.height.toNat → (p.cut source visible).get i j =
      source.get ((p.columns source visible).1 + i) ((p.rows source visible).1 + j)
  region : p.region source visible resampler =
    if (p.cut source visible).size = visible.size then p.cut source visible
    else resampler.resample (p.cut source visible) visible.size
  size : (p.region source visible resampler).size = visible.size

/-- What a snapshot looks like. -/
structure Baked (p : CropPlan α) (source canvas : Pixmap) (resampler : Resampler) : Prop where
  size : canvas.size = p.viewport
  /-- Nothing is drawn outside of the common part of the image and the viewport. -/
  outside : ∀ x y : Nat, ¬ (p.placement.Contains x y ∧ (Rect.ofSize p.viewport).Contains x y) →
    canvas.get x y = .transparent
  /-- An image without pixels leaves no trace. -/
  empty : source.size.isEmpty = true → canvas = .solid p.viewport .transparent
  /-- The common part shows what lies behind it. -/
  inside : source.size.isEmpty = false → ∀ x y : Nat, p.placement.Contains x y →
    (Rect.ofSize p.viewport).Contains x y → ∃ visible, p.visible? = some visible ∧
      visible.Contains x y ∧ canvas.get x y =
        (p.region source visible resampler).get (x - visible.left).toNat (y - visible.top).toNat

/-! ### The pixels behind it -/

variable {source : Pixmap} {resampler : Resampler}

/-- The length of a span within an axis is not too large for a word. -/
theorem toNat_ofNat_span {span : Nat × Nat} {natural : UInt32} (h : IsSpan span natural.toNat) :
    (UInt32.ofNat (span.2 - span.1)).toNat = span.2 - span.1 := by
  have hlt := natural.toNat_lt_size
  have hle := h.within
  exact UInt32.toNat_ofNat_of_lt' (by omega)

/-- A region has the size of its rectangle, whether it is resampled or not. -/
theorem size_region (p : CropPlan α) (source : Pixmap) (visible : Rect) (resampler : Resampler) :
    (p.region source visible resampler).size = visible.size := by
  change (if (p.cut source visible).size = visible.size then p.cut source visible
    else resampler.resample (p.cut source visible) visible.size).size = _
  split
  next h => exact h
  · exact resampler.size_resample _ _

/-- Whatever numbers carry the ratio, some pixels of the image lie behind its visible part. -/
theorem behind_of_visible? (h : p.visible? = some visible) (hsource : source.size.isEmpty = false) :
    p.Behind source visible resampler := by
  obtain ⟨hacross, hdown⟩ := within_of_visible? h
  obtain ⟨hw, hh⟩ := Size.isEmpty_eq_false_iff.1 hsource
  have hcolumns : IsSpan (p.columns source visible) source.size.width.toNat :=
    isSpan_clampSpan hw _ _
  have hrows : IsSpan (p.rows source visible) source.size.height.toNat := isSpan_clampSpan hh _ _
  exact ⟨hacross, hdown, hcolumns, hrows, toNat_ofNat_span hcolumns, toNat_ofNat_span hrows,
    fun i j hi hj => Pixmap.get_ofFn _ _ hi hj, rfl, size_region p source visible resampler⟩

/-! ### The canvas -/

/-- A canvas with too many pixels is refused before anything else. -/
theorem bake_of_large (h : maxSnapshotPixels < p.viewport.area) :
    p.bake source resampler = .error (.tooLarge p.viewport) := by
  rw [bake, transparentCanvas, if_pos h]

/-- Where nothing is seen of the image, the canvas stays transparent. -/
theorem bake_of_hidden (harea : p.viewport.area ≤ maxSnapshotPixels)
    (h : p.visible? = none ∨ source.size.isEmpty = true) :
    p.bake source resampler = .ok (.solid p.viewport .transparent) := by
  rw [bake, transparentCanvas, if_neg (Nat.not_lt.2 harea)]
  rcases h with h | h
  · simp only [h]
  · cases p.visible? <;> simp only [h, Bool.true_or, if_true]

/-- Where something is seen of the image, it is drawn onto the canvas. -/
theorem bake_of_visible (harea : p.viewport.area ≤ maxSnapshotPixels)
    (h : p.visible? = some visible) (hsource : source.size.isEmpty = false) :
    p.bake source resampler =
      .ok (.ofFn p.viewport (paste visible (p.region source visible resampler))) := by
  rw [bake, transparentCanvas, if_neg (Nat.not_lt.2 harea)]
  simp only [h, hsource, scaled_nonempty_of_visible? h, Bool.or_self, Bool.false_eq_true, if_false]

/-- A region is seen at the points of its rectangle and nowhere else. -/
theorem paste_eq (hnonneg : 0 ≤ visible.left ∧ 0 ≤ visible.top) (region : Pixmap) (x y : Nat) :
    paste visible region x y =
      if visible.Contains x y then region.get (x - visible.left).toNat (y - visible.top).toNat
      else .transparent := by
  obtain ⟨hleft, htop⟩ := hnonneg
  have hright := visible.toNat_width
  have hbottom := visible.toNat_height
  have hcontains : (visible.left.toNat ≤ x ∧ x < visible.left.toNat + visible.width.toNat ∧
      visible.top.toNat ≤ y ∧ y < visible.top.toNat + visible.height.toNat) ↔
        visible.Contains x y := by
    rw [Rect.Contains]
    omega
  have hcolumn : (x - visible.left).toNat = x - visible.left.toNat := by omega
  have hrow : (y - visible.top).toNat = y - visible.top.toNat := by omega
  simp only [paste, hcontains, hcolumn, hrow]

/-- A canvas on which nothing is drawn, as nothing is seen of the image. -/
theorem baked_of_hidden (h : p.visible? = none ∨ source.size.isEmpty = true) :
    p.Baked source (.solid p.viewport .transparent) resampler where
  size := rfl
  outside x y _ := Pixmap.get_solid_transparent p.viewport x y
  empty _ := rfl
  inside hsource x y hplace hview := by
    -- a common point would be a visible one
    rcases h with h | h
    · have hnone := Rect.isSome_intersection?_iff.2 ⟨_, _, hplace, hview⟩
      rw [← visible?, h] at hnone
      cases hnone
    · rw [hsource] at h
      cases h

/-- A canvas with the visible part of the image on it. -/
theorem baked_of_visible (h : p.visible? = some visible) (hsource : source.size.isEmpty = false) :
    p.Baked source (.ofFn p.viewport (paste visible (p.region source visible resampler)))
      resampler where
  size := rfl
  outside x y hxy := by
    by_cases hview : (Rect.ofSize p.viewport).Contains x y
    · obtain ⟨hx, hy⟩ := Rect.contains_ofSize_iff.1 hview
      rw [Pixmap.get_ofFn _ _ hx hy, paste_eq (nonneg_of_visible? h),
        if_neg fun hc => hxy ((contains_visible_iff h).1 hc)]
    · exact Pixmap.get_of_outside fun hin => hview (Rect.contains_ofSize_iff.2 hin)
  empty hempty := by
    rw [hsource] at hempty
    cases hempty
  inside _ x y hplace hview := by
    obtain ⟨hx, hy⟩ := Rect.contains_ofSize_iff.1 hview
    have hvisible := (contains_visible_iff h).2 ⟨hplace, hview⟩
    refine ⟨visible, h, hvisible, ?_⟩
    rw [Pixmap.get_ofFn _ _ hx hy, paste_eq (nonneg_of_visible? h), if_pos hvisible]

/-- A snapshot that is not too large is made. -/
theorem exists_baked (source : Pixmap) (resampler : Resampler)
    (harea : p.viewport.area ≤ maxSnapshotPixels) :
    ∃ canvas, p.bake source resampler = .ok canvas ∧ p.Baked source canvas resampler := by
  cases hvisible : p.visible? with
  | none => exact ⟨_, bake_of_hidden harea (.inl hvisible), baked_of_hidden (.inl hvisible)⟩
  | some visible =>
      cases hsource : source.size.isEmpty with
      | true => exact ⟨_, bake_of_hidden harea (.inr hsource), baked_of_hidden (.inr hsource)⟩
      | false =>
          exact ⟨_, bake_of_visible harea hvisible hsource, baked_of_visible hvisible hsource⟩

/-- A snapshot is refused for its number of pixels and for nothing else. It shows the image where
the image and the viewport overlap and is transparent everywhere else. What lies behind the overlap
is found inside of the image, wherever the plan puts it, to whatever size the plan brings it, to
whatever words the products and quotients of the numbers in `α` come, and however it is resampled.
-/
theorem bake_confined (p : CropPlan α) (source : Pixmap) (resampler : Resampler) :
    (∀ e, p.bake source resampler = .error e ↔
      maxSnapshotPixels < p.viewport.area ∧ e = .tooLarge p.viewport) ∧
    (p.viewport.area ≤ maxSnapshotPixels →
      ∃ canvas, p.bake source resampler = .ok canvas ∧ p.Baked source canvas resampler) ∧
    ∀ visible, p.visible? = some visible → source.size.isEmpty = false →
      p.Behind source visible resampler := by
  refine ⟨fun e => ?_, exists_baked source resampler,
    fun visible h hsource => behind_of_visible? h hsource⟩
  rcases Nat.lt_or_ge maxSnapshotPixels p.viewport.area with hlarge | harea
  · rw [bake_of_large hlarge, Except.error.injEq, eq_comm, and_iff_right hlarge]
  · obtain ⟨canvas, hcanvas, -⟩ := exists_baked source resampler harea
    rw [hcanvas]
    exact iff_of_false nofun fun h => Nat.not_lt.2 harea h.1

/-- Of an image in twice its size a column is cut off on the left and half of the rows below. The
upper two of its four pixels lie behind what is seen, and they are resampled. -/
theorem bake_confined_doubled :
    let source := Pixmap.ofFn ⟨2, 2⟩ fun x y => ⟨UInt8.ofNat x, UInt8.ofNat y, 0, 255⟩
    let p : CropPlan Float := ⟨Scalar.ofCount 2, ⟨4, 4⟩, ⟨3, 3⟩, -1, 1⟩
    p.viewport.area ≤ maxSnapshotPixels ∧ p.visible? = some ⟨0, 1, 3, 2⟩ ∧
      source.size.isEmpty = false ∧
      (∃ canvas, p.bake source .triangle = .ok canvas ∧ canvas.size = ⟨3, 3⟩ ∧
        canvas.get 2 0 = .transparent) ∧
      p.region source ⟨0, 1, 3, 2⟩ .triangle = (source.crop 0 0 ⟨2, 1⟩).resample ⟨3, 2⟩ := by
  intro source p
  have harea : p.viewport.area ≤ maxSnapshotPixels := by decide
  have hvisible : p.visible? = some ⟨0, 1, 3, 2⟩ := by decide
  have hsource : source.size.isEmpty = false := by decide
  obtain ⟨-, hmade, hbehind⟩ := bake_confined p source .triangle
  obtain ⟨canvas, hcanvas, hbaked⟩ := hmade harea
  have habove : ¬ (p.placement.Contains (2 : Nat) (0 : Nat) ∧
      (Rect.ofSize p.viewport).Contains (2 : Nat) (0 : Nat)) := by decide
  have hcolumns : p.columns source ⟨0, 1, 3, 2⟩ = (0, 2) := by decide +kernel
  have hrows : p.rows source ⟨0, 1, 3, 2⟩ = (0, 1) := by decide +kernel
  have hcut : p.cut source ⟨0, 1, 3, 2⟩ = source.crop 0 0 ⟨2, 1⟩ := by
    rw [cut, hcolumns, hrows]
    rfl
  have hregion := (hbehind _ hvisible hsource).region
  rw [hcut, if_neg (by decide)] at hregion
  exact ⟨harea, hvisible, hsource, ⟨canvas, hcanvas, hbaked.size, hbaked.outside 2 0 habove⟩,
    hregion⟩

/-! ### Without scaling -/

section Unscaled

variable [Scalar.ExactCounts α]

/-- Behind a stretch of an axis that is not scaled lies the stretch itself. -/
theorem sourceSpan_self {offset length natural : Nat} (hlength : 0 < length)
    (hend : offset + length ≤ natural) (hnatural : natural < UInt32.size) :
    sourceSpan α offset length natural natural = (offset, offset + length) := by
  -- the ratio is one, and neither end of the stretch has a fraction to lose
  have hratio : Scalar.quotient (Scalar.ofCount natural) (Scalar.ofCount natural) =
      (Scalar.ofCount 1 : α) := Scalar.ExactCounts.quotient_self (by omega) hnatural
  have hfirst : Scalar.floorWord (Scalar.product (Scalar.ofCount offset) (Scalar.ofCount 1) : α) =
      UInt32.ofNat offset := by
    rw [Scalar.ExactCounts.product_one (by omega), Scalar.ExactCounts.floorWord_ofCount (by omega)]
  have hlast : Scalar.ceilWord
      (Scalar.product (Scalar.ofCount (offset + length)) (Scalar.ofCount 1) : α) =
        UInt32.ofNat (offset + length) := by
    rw [Scalar.ExactCounts.product_one (by omega), Scalar.ExactCounts.ceilWord_ofCount (by omega)]
  rw [sourceSpan, hratio, hfirst, hlast, UInt32.toNat_ofNat_of_lt' (by omega),
    UInt32.toNat_ofNat_of_lt' (by omega), clampSpan, Prod.mk.injEq]
  omega

/-- What is cut out of an image that is not scaled begins where the offset says, and has the size of
what is seen of it. -/
theorem cut_of_unscaled (hscaled : p.scaled = source.size) (h : p.visible? = some visible) :
    (p.columns source visible).1 = (visible.left - p.offsetX.toInt).toNat ∧
      (p.rows source visible).1 = (visible.top - p.offsetY.toInt).toNat ∧
      (p.cut source visible).size = visible.size := by
  have hsource := hscaled ▸ scaled_nonempty_of_visible? h
  have hbehind : p.Behind source visible .triangle := behind_of_visible? h hsource
  have hedges := isIntersection_of_visible? h
  have hleft := hedges.left_lt_right
  have htop := hedges.top_lt_bottom
  have hwidth := visible.toNat_width
  have hheight := visible.toNat_height
  obtain ⟨hx, hw⟩ := hbehind.across
  obtain ⟨hy, hh⟩ := hbehind.down
  rw [hscaled] at hw hh
  have hcolumns : p.columns source visible = ((visible.left - p.offsetX.toInt).toNat,
      (visible.left - p.offsetX.toInt).toNat + visible.width.toNat) := by
    rw [columns, hscaled]
    exact sourceSpan_self (by omega) (by omega) source.size.width.toNat_lt_size
  have hrows : p.rows source visible = ((visible.top - p.offsetY.toInt).toNat,
      (visible.top - p.offsetY.toInt).toNat + visible.height.toNat) := by
    rw [rows, hscaled]
    exact sourceSpan_self (by omega) (by omega) source.size.height.toNat_lt_size
  refine ⟨congrArg Prod.fst hcolumns, congrArg Prod.fst hrows, ?_⟩
  have hacross := hbehind.width
  have hdown := hbehind.height
  rw [hcolumns, Nat.add_sub_cancel_left] at hacross
  rw [hrows, Nat.add_sub_cancel_left] at hdown
  exact (Size.mk.injEq ..).mpr ⟨UInt32.toNat_inj.1 hacross, UInt32.toNat_inj.1 hdown⟩

/-- What is cut out of an image that is not scaled is what is seen of it. -/
theorem region_of_unscaled (hscaled : p.scaled = source.size) (h : p.visible? = some visible) :
    p.region source visible resampler = p.cut source visible :=
  if_pos (cut_of_unscaled hscaled h).2.2

/-- At a visible point of an image that is not scaled lies the pixel that is as far from the edges
of the image as the point is. -/
theorem get_region_of_unscaled (hscaled : p.scaled = source.size) (h : p.visible? = some visible)
    {x y : Int} (hxy : visible.Contains x y) :
    (p.region source visible resampler).get (x - visible.left).toNat (y - visible.top).toNat =
      source.get (x - p.offsetX.toInt).toNat (y - p.offsetY.toInt).toNat := by
  have hbehind : p.Behind source visible resampler :=
    behind_of_visible? h (hscaled ▸ scaled_nonempty_of_visible? h)
  obtain ⟨hcolumn, hrow, hsize⟩ := cut_of_unscaled hscaled h
  obtain ⟨hleft, hright, htop, hbottom⟩ := hxy
  have hwidth : (p.cut source visible).size.width.toNat = visible.right - visible.left := by
    rw [hsize]
    exact visible.toNat_width
  have hheight : (p.cut source visible).size.height.toNat = visible.bottom - visible.top := by
    rw [hsize]
    exact visible.toNat_height
  have hacross := hbehind.across.1
  have hdown := hbehind.down.1
  rw [region_of_unscaled hscaled h, hbehind.cut _ _ (by omega) (by omega), hcolumn, hrow]
  congr 1 <;> omega

/-- A plan of factor one leaves the size of the image as it is. -/
theorem scaled_of_factor_one {natural : Size} {explicit part : Option Size}
    {options : ImageOptions} {crop : CropPlan α}
    (h : DisplayPlan.make α natural explicit part options = .ok (.snapshot crop))
    (hfactor : crop.factor = Scalar.ofCount 1) : crop.scaled = natural := by
  rw [DisplayPlan.scaled_of_make h, hfactor, Scalar.scaleBy_one]

/-- The pixels of a canvas for an image that is not scaled. -/
theorem get_of_unscaled {canvas : Pixmap} (hscaled : p.scaled = source.size)
    (hbaked : p.Baked source canvas resampler) {x y : Nat} (hx : x < p.viewport.width.toNat)
    (hy : y < p.viewport.height.toNat) :
    canvas.get x y =
      if (Rect.ofSize source.size).Contains (x - p.offsetX.toInt) (y - p.offsetY.toInt) then
        source.get (x - p.offsetX.toInt).toNat (y - p.offsetY.toInt).toNat
      else .transparent := by
  have hview : (Rect.ofSize p.viewport).Contains x y := Rect.contains_ofSize_iff.2 ⟨hx, hy⟩
  split
  next hplace =>
    rw [← hscaled, ← contains_placement_iff] at hplace
    -- where there is a common point there is a visible part, and then the image has pixels
    have hcommon := Rect.isSome_intersection?_iff.2 ⟨_, _, hplace, hview⟩
    obtain ⟨_, h⟩ := Option.isSome_iff_exists.1 hcommon
    have hsource := hscaled ▸ scaled_nonempty_of_visible? h
    obtain ⟨visible, h, hxy, hget⟩ := hbaked.inside hsource x y hplace hview
    rw [hget, get_region_of_unscaled hscaled h hxy]
  next hplace =>
    rw [← hscaled, ← contains_placement_iff] at hplace
    exact hbaked.outside x y fun hxy => hplace hxy.1

end Unscaled

/-- An image that is not scaled is copied, wherever the plan puts it: a pixel of the canvas is the
pixel of the image that is as far from the edges of the image as the offset says, and transparent if
there is none. Nothing is resampled, whatever resampler there is. An image is not scaled whenever
its factor is one. -/
theorem unscaled_copied {p : CropPlan Float} {source : Pixmap} (resampler : Resampler)
    (hscaled : p.scaled = source.size) (harea : p.viewport.area ≤ maxSnapshotPixels) :
    (∃ canvas, p.bake source resampler = .ok canvas ∧ canvas.size = p.viewport ∧
      ∀ x y : Nat, x < p.viewport.width.toNat → y < p.viewport.height.toNat →
        canvas.get x y =
          if (Rect.ofSize source.size).Contains (x - p.offsetX.toInt) (y - p.offsetY.toInt) then
            source.get (x - p.offsetX.toInt).toNat (y - p.offsetY.toInt).toNat
          else .transparent) ∧
    (∀ visible, p.visible? = some visible →
      (p.cut source visible).size = visible.size ∧
        p.region source visible resampler = p.cut source visible) ∧
    ∀ natural explicit part options crop,
      DisplayPlan.make Float natural explicit part options = .ok (.snapshot crop) →
        crop.factor = Scalar.ofCount 1 → crop.scaled = natural := by
  obtain ⟨canvas, hcanvas, hbaked⟩ := exists_baked source resampler harea
  refine ⟨⟨canvas, hcanvas, hbaked.size, fun x y => get_of_unscaled hscaled hbaked⟩, ?_, ?_⟩
  · exact fun visible h => ⟨(cut_of_unscaled hscaled h).2.2, region_of_unscaled hscaled h⟩
  · exact fun natural explicit part options crop => scaled_of_factor_one

/-- Of four pixels the right ones are seen, in the second and third row of the first column. -/
theorem unscaled_copied_shifted :
    let source := Pixmap.ofFn ⟨2, 2⟩ fun x y => ⟨UInt8.ofNat x, UInt8.ofNat y, 0, 255⟩
    let p : CropPlan Float := ⟨Scalar.ofCount 1, ⟨2, 2⟩, ⟨3, 3⟩, -1, 1⟩
    p.scaled = source.size ∧ p.viewport.area ≤ maxSnapshotPixels ∧
      ∃ canvas, p.bake source .triangle = .ok canvas ∧ canvas.get 0 0 = .transparent ∧
        canvas.get 0 1 = ⟨1, 0, 0, 255⟩ ∧ canvas.get 0 2 = ⟨1, 1, 0, 255⟩ ∧
        canvas.get 1 1 = .transparent := by
  intro source p
  have hscaled : p.scaled = source.size := rfl
  have harea : p.viewport.area ≤ maxSnapshotPixels := by decide
  obtain ⟨⟨canvas, hcanvas, -, hget⟩, -⟩ := unscaled_copied .triangle hscaled harea
  refine ⟨hscaled, harea, canvas, hcanvas, ?_, ?_, ?_, ?_⟩
  · rw [hget 0 0 (by decide) (by decide)]
    decide
  · rw [hget 0 1 (by decide) (by decide)]
    decide
  · rw [hget 0 2 (by decide) (by decide)]
    decide
  · rw [hget 1 1 (by decide) (by decide)]
    decide

end CropPlan

end WidgetStage
