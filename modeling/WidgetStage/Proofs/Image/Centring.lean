import Mathlib.Data.UInt
import WidgetStage.Image.Snapshot
import WidgetStage.Proofs.Geometry

/-!
# Snapshots are centred

A fill mode brings an image to some size and puts it in the middle of its container. Whatever that
size is, the image and the container are at most `2 ^ 32 - 1` pixels long and at least one, so that
half of their difference is within the range of an origin and is never clamped. The margins on both
sides are then equal, but for one pixel, and where the image is the longer of the two they are
negative: it covers the container, and otherwise it lies within. So the common part is as long as
the shorter of the two.

Nothing is said here about the numbers that sizes are scaled with. They may carry an image to any
size at all.

## Main results

* `CropPlan.margin_balanced`, `CropPlan.common_length`: the middle of one axis.
* `CropPlan.balanced_centred`: what holds of every snapshot.
* `DisplayPlan.make_cases`: what is decided in which case.
* `DisplayPlan.plans_centred`: when it is decided, and what a snapshot is like.
-/

namespace WidgetStage

/-- The size that a fill mode brings an image to. -/
def FillMode.scaled? (α : Type) [Scalar α] (fill : FillMode) (natural container : Size) :
    Option Size :=
  (fill.factor α natural container).map natural.scaleBy

namespace CropPlan

variable {α : Type}

/-- An image in the middle of its viewport. -/
structure Balanced (p : CropPlan α) : Prop where
  viewport_nonempty : p.viewport.isEmpty = false
  scaled_nonempty : p.scaled.isEmpty = false
  /-- The offset is half the difference, which is not clamped. -/
  offsetX : p.offsetX.toInt = margin p.scaled.width p.viewport.width
  offsetY : p.offsetY.toInt = margin p.scaled.height p.viewport.height
  /-- The margins on the left and on the right are equal, but for one pixel. -/
  across : (p.placement.left - ((Rect.ofSize p.viewport).right - p.placement.right)).natAbs ≤ 1
  /-- The margins at the top and at the bottom are equal, but for one pixel. -/
  down : (p.placement.top - ((Rect.ofSize p.viewport).bottom - p.placement.bottom)).natAbs ≤ 1
  /-- As much is seen as there is of the image and room for in the viewport. -/
  visible : ∃ r, p.placement.intersection? (Rect.ofSize p.viewport) = some r ∧
    r.size.isEmpty = false ∧ r.width = min p.scaled.width p.viewport.width ∧
    r.height = min p.scaled.height p.viewport.height

variable {scaled viewport : UInt32}

/-! ### One axis -/

/-- The margin without its sign, which decides where half a pixel goes. -/
theorem margin_cases (scaled viewport : UInt32) :
    (viewport.toNat ≤ scaled.toNat ∧
      margin scaled viewport = -((scaled.toNat - viewport.toNat) / 2 : Nat)) ∨
    (scaled.toNat < viewport.toNat ∧
      margin scaled viewport = ((viewport.toNat - scaled.toNat) / 2 : Nat)) := by
  rw [margin, Int.ofNat_eq_natCast, Int.ofNat_eq_natCast]
  rcases Nat.lt_or_ge scaled.toNat viewport.toNat with h | h
  · refine .inr ⟨h, ?_⟩
    rw [← Int.neg_sub, Int.neg_tdiv, Int.tdiv_eq_ediv_of_nonneg (by omega)]
    omega
  · refine .inl ⟨h, ?_⟩
    rw [Int.tdiv_eq_ediv_of_nonneg (by omega)]
    omega

/-- Half the difference of two lengths is never clamped. -/
theorem toInt_clampInt32_margin (hscaled : 0 < scaled.toNat) (hviewport : 0 < viewport.toNat) :
    (clampInt32 (margin scaled viewport)).toInt = margin scaled viewport := by
  have hs := scaled.toNat_lt
  have hv := viewport.toNat_lt
  have hbounds : -2 ^ 31 ≤ margin scaled viewport ∧ margin scaled viewport < 2 ^ 31 := by
    rcases margin_cases scaled viewport with ⟨-, h⟩ | ⟨-, h⟩ <;> omega
  have hclamp : max Text.int32Min (min Text.int32Max (margin scaled viewport)) =
      margin scaled viewport := by
    rw [Text.int32Min, Text.int32Max]
    omega
  rw [clampInt32, hclamp, Int32.toInt_ofInt_of_le hbounds.1 hbounds.2]

/-- The margins on both sides are equal, but for one pixel. -/
theorem margin_balanced (scaled viewport : UInt32) :
    (margin scaled viewport -
      (viewport.toNat - (margin scaled viewport + scaled.toNat))).natAbs ≤ 1 := by
  rcases margin_cases scaled viewport with ⟨hle, h⟩ | ⟨hlt, h⟩ <;> omega

/-- What the image and the viewport have in common is as long as the shorter of them. -/
theorem common_length (scaled viewport : UInt32) :
    min (margin scaled viewport + scaled.toNat) viewport.toNat - max (margin scaled viewport) 0 =
      (min scaled viewport).toNat := by
  rw [UInt32.toNat_min]
  rcases margin_cases scaled viewport with ⟨hle, h⟩ | ⟨hlt, h⟩ <;> omega

/-! ### Both axes -/

section Centred

variable {factor : α} {scaled viewport : Size}

/-- The image lies where the margins say. -/
theorem edges_centred (factor : α) (hscaled : scaled.isEmpty = false)
    (hviewport : viewport.isEmpty = false) :
    let r := (centred factor scaled viewport).placement
    (r.left = margin scaled.width viewport.width ∧
      r.right = margin scaled.width viewport.width + scaled.width.toNat) ∧
    (r.top = margin scaled.height viewport.height ∧
      r.bottom = margin scaled.height viewport.height + scaled.height.toNat) := by
  obtain ⟨hsw, hsh⟩ := Size.isEmpty_eq_false_iff.1 hscaled
  obtain ⟨hvw, hvh⟩ := Size.isEmpty_eq_false_iff.1 hviewport
  have hleft := toInt_clampInt32_margin hsw hvw
  have htop := toInt_clampInt32_margin hsh hvh
  exact ⟨⟨hleft, congrArg (· + Int.ofNat scaled.width.toNat) hleft⟩,
    ⟨htop, congrArg (· + Int.ofNat scaled.height.toNat) htop⟩⟩

/-- As much is seen as there is of the image and room for in the viewport. -/
theorem visible_centred (hscaled : scaled.isEmpty = false) (hviewport : viewport.isEmpty = false) :
    ∃ r, (centred factor scaled viewport).placement.intersection? (Rect.ofSize viewport) = some r ∧
      r.size.isEmpty = false ∧ r.width = min scaled.width viewport.width ∧
      r.height = min scaled.height viewport.height := by
  obtain ⟨⟨hleft, hright⟩, ⟨htop, hbottom⟩⟩ := edges_centred factor hscaled hviewport
  obtain ⟨hsw, hsh⟩ := Size.isEmpty_eq_false_iff.1 hscaled
  obtain ⟨hvw, hvh⟩ := Size.isEmpty_eq_false_iff.1 hviewport
  have hacross := common_length scaled.width viewport.width
  have hdown := common_length scaled.height viewport.height
  rw [← hright, ← hleft, ← Rect.left_ofSize viewport, ← Rect.right_ofSize viewport] at hacross
  rw [← hbottom, ← htop, ← Rect.top_ofSize viewport, ← Rect.bottom_ofSize viewport] at hdown
  have hw : 0 < (min scaled.width viewport.width).toNat := by rw [UInt32.toNat_min]; omega
  have hh : 0 < (min scaled.height viewport.height).toNat := by rw [UInt32.toNat_min]; omega
  obtain ⟨r, hr⟩ := Rect.exists_intersection? (a := (centred factor scaled viewport).placement)
    (b := Rect.ofSize viewport) (by omega) (by omega)
  have hedges := Rect.intersection?_eq_some_iff.1 hr
  have hwidth : r.width = min scaled.width viewport.width :=
    UInt32.toNat_inj.1 (Int.ofNat_inj.1 (hedges.toNat_width.trans hacross))
  have hheight : r.height = min scaled.height viewport.height :=
    UInt32.toNat_inj.1 (Int.ofNat_inj.1 (hedges.toNat_height.trans hdown))
  rw [← hwidth] at hw
  rw [← hheight] at hh
  exact ⟨r, hr, Size.isEmpty_eq_false_iff.2 ⟨hw, hh⟩, hwidth, hheight⟩

/-- A snapshot in the middle is balanced. -/
theorem balanced_centred (hscaled : scaled.isEmpty = false) (hviewport : viewport.isEmpty = false) :
    (centred factor scaled viewport).Balanced := by
  obtain ⟨⟨hleft, hright⟩, ⟨htop, hbottom⟩⟩ := edges_centred factor hscaled hviewport
  refine ⟨hviewport, hscaled, hleft, htop, ?_, ?_, visible_centred hscaled hviewport⟩
  · rw [hleft, hright, Rect.right_ofSize]
    exact margin_balanced scaled.width viewport.width
  · rw [htop, hbottom, Rect.bottom_ofSize]
    exact margin_balanced scaled.height viewport.height

end Centred

end CropPlan

namespace DisplayPlan

variable {α : Type} [Scalar α] {natural : Size} {explicit part : Option Size}
  {options : ImageOptions} {factor : α}

/-! ### Decisions -/

/-- Only the mode that disables filling gives no factor. -/
theorem factor_eq_none_iff {fill : FillMode} {natural container : Size} :
    fill.factor α natural container = none ↔ fill = .disable := by
  cases fill with
  | disable => exact iff_of_true rfl rfl
  | inSize => rw [FillMode.factor]; split <;> simp
  | overSize => rw [FillMode.factor]; split <;> simp
  | fitSize => simp [FillMode.factor]

/-- Without the aspect flag an image is stretched. -/
theorem make_of_no_aspect (h : options.aspect = false) :
    make α natural explicit part options = .ok (.stretch (explicit.getD natural)) := by
  rw [make, h]
  rfl

/-- Where filling is disabled, the toolkit is asked to keep the aspect. -/
theorem make_of_disabled (h : options.aspect = true) (hfill : options.fill = .disable) :
    make α natural explicit part options = .ok (.aspectHint natural) := by
  rw [make, h, hfill]
  rfl

/-- With a factor an image is scaled and centred, unless one of the sizes involved is empty. -/
theorem make_of_factor (h : options.aspect = true)
    (hfactor : options.fill.factor α natural ((explicit.or part).getD ⟨0, 0⟩) = some factor) :
    make α natural explicit part options =
      if natural.isEmpty || ((explicit.or part).getD ⟨0, 0⟩).isEmpty ||
          (natural.scaleBy factor).isEmpty then
        .error ⟨natural, (explicit.or part).getD ⟨0, 0⟩, natural.scaleBy factor⟩
      else
        .ok (.snapshot (CropPlan.centred factor (natural.scaleBy factor)
          ((explicit.or part).getD ⟨0, 0⟩))) := by
  simp only [make, h, hfactor, Bool.not_true, Bool.false_eq_true, if_false]

/-- What is decided in which case, and from what. -/
theorem make_cases (α : Type) [Scalar α] (natural : Size) (explicit part : Option Size)
    (options : ImageOptions) :
    let container := (explicit.or part).getD ⟨0, 0⟩
    let plan := make α natural explicit part options
    (options.aspect = false ∧ plan = .ok (.stretch (explicit.getD natural))) ∨
    (options.aspect = true ∧ options.fill = .disable ∧ plan = .ok (.aspectHint natural)) ∨
    (options.aspect = true ∧ ∃ factor, options.fill.factor α natural container = some factor ∧
      ((natural.isEmpty || container.isEmpty || (natural.scaleBy factor).isEmpty) = true ∧
        plan = .error ⟨natural, container, natural.scaleBy factor⟩ ∨
      (natural.isEmpty || container.isEmpty || (natural.scaleBy factor).isEmpty) = false ∧
        plan = .ok (.snapshot (.centred factor (natural.scaleBy factor) container)))) := by
  intro container plan
  cases haspect : options.aspect with
  | false => exact .inl ⟨rfl, make_of_no_aspect haspect⟩
  | true =>
      cases hfactor : options.fill.factor α natural container with
      | none =>
          have hfill := factor_eq_none_iff.1 hfactor
          exact .inr (.inl ⟨rfl, hfill, make_of_disabled haspect hfill⟩)
      | some factor =>
          have hplan : plan = _ := make_of_factor haspect hfactor
          refine .inr (.inr ⟨rfl, factor, rfl, ?_⟩)
          rw [hplan]
          cases natural.isEmpty || container.isEmpty || (natural.scaleBy factor).isEmpty with
          | true => exact .inl ⟨rfl, rfl⟩
          | false => exact .inr ⟨rfl, rfl⟩

/-- A snapshot shows the image in the size that its factor brings it to. -/
theorem scaled_of_make {crop : CropPlan α}
    (h : make α natural explicit part options = .ok (.snapshot crop)) :
    crop.scaled = natural.scaleBy crop.factor := by
  rcases make_cases α natural explicit part options with
    ⟨-, hplan⟩ | ⟨-, -, hplan⟩ | ⟨-, factor, -, ⟨-, hplan⟩ | ⟨-, hplan⟩⟩
  all_goals
    rw [hplan] at h
    cases h
  rfl

/-- What is decided, case by case. Nothing can be shown if the aspect ratio is to be kept, a fill
mode is set, and the image, its container or the size that the mode brings the image to is empty.
Without an aspect ratio the image is stretched, and without a fill mode its own size is a hint.
Every snapshot is one of the container, with the image in the middle of it. -/
theorem plans_centred (natural : Size) (explicit part : Option Size) (options : ImageOptions) :
    let container := (explicit.or part).getD ⟨0, 0⟩
    let plan := make α natural explicit part options
    ((∃ e, plan = .error e) ↔ options.aspect = true ∧ options.fill ≠ .disable ∧
      (natural.isEmpty = true ∨ container.isEmpty = true ∨
        ∃ scaled, options.fill.scaled? α natural container = some scaled ∧
          scaled.isEmpty = true)) ∧
    (∀ size, plan = .ok (.stretch size) ↔
      options.aspect = false ∧ explicit.getD natural = size) ∧
    (∀ size, plan = .ok (.aspectHint size) ↔
      options.aspect = true ∧ options.fill = .disable ∧ natural = size) ∧
    ∀ crop, plan = .ok (.snapshot crop) → crop.viewport = container ∧
      options.fill.scaled? α natural container = some crop.scaled ∧ crop.Balanced := by
  have hcases := make_cases α natural explicit part options
  dsimp only at hcases ⊢
  -- which size the container is, and how it is decided, matters no longer
  generalize (explicit.or part).getD ⟨0, 0⟩ = container at hcases ⊢
  generalize make α natural explicit part options = plan at hcases ⊢
  rcases hcases with ⟨haspect, rfl⟩ | ⟨haspect, hfill, rfl⟩ | ⟨haspect, factor, hfactor, houtcome⟩
  · simp [haspect]
  · simp [haspect, hfill]
  have hfill : options.fill ≠ .disable := fun h => by
    rw [factor_eq_none_iff.2 h] at hfactor
    cases hfactor
  have hscaled : options.fill.scaled? α natural container = some (natural.scaleBy factor) := by
    rw [FillMode.scaled?, hfactor, Option.map_some]
  rcases houtcome with ⟨hempty, rfl⟩ | ⟨hempty, rfl⟩
  · simpa [haspect, hfill, hscaled, or_assoc] using hempty
  · simp only [Bool.or_eq_false_iff] at hempty
    obtain ⟨⟨hnatural, hcontainer⟩, hsize⟩ := hempty
    refine ⟨?_, ?_, ?_, fun crop hcrop => ?_⟩
    · simp [haspect, hfill, hscaled, hnatural, hcontainer, hsize]
    · simp [haspect]
    · simp [hfill]
    · cases hcrop
      exact ⟨rfl, hscaled, CropPlan.balanced_centred hsize hcontainer⟩

end DisplayPlan

end WidgetStage
