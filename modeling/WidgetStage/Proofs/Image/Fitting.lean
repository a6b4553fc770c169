import Mathlib.Algebra.Order.Floor.Semiring
import Mathlib.Data.Rat.Floor
import WidgetStage.Proofs.Image.Centring
import WidgetStage.Proofs.Image.Counts

/-!
# Fitting and covering

Each axis asks for a factor of its own, the ratio of the container to the image. A factor that is
not greater leaves the image within the container on this axis, one that is not smaller lets it
cover the container, and the ratio itself brings it to the very length of the container. A fill mode
chooses between the two ratios and, so that it only shrinks or only grows, between them and one. The
conditions of the modes look at each axis by itself, but they come to the same as a comparison with
one.

The numbers here are fractions, so that a ratio times the length it was taken of is a length again.
Other fractions are dropped and sizes beyond all words are cut off, and neither passes the length of
a container on the way, as this is a whole number and a word.

## Main results

* `FillMode.factor_inSize`, `FillMode.factor_overSize`: the factors of the modes that look at both
  axes.
* `Size.scaleBy_within`, `Size.within_scaleBy`, `Size.meets_scaleBy`: what the ratios decide.
* `DisplayPlan.fits_and_covers`: in-size fits, and the other modes cover.
-/

namespace WidgetStage

/-- Fractions, of which nothing is lost before they become words. -/
instance : Scalar ℚ where
  ofCount n := n
  quotient a b := a / b
  product a b := a * b
  lesser := min
  greater := max
  floorWord q := UInt32.ofNatClamp ⌊q⌋₊
  ceilWord q := UInt32.ofNatClamp ⌈q⌉₊

namespace Scalar

/-- The count of one thing is one. -/
theorem ofCount_one : (ofCount 1 : ℚ) = 1 :=
  Nat.cast_one

/-- A number that is too large for a word becomes the largest word. -/
theorem toNat_ofNatClamp (n : Nat) : (UInt32.ofNatClamp n).toNat = min n (UInt32.size - 1) := by
  rcases Nat.lt_or_ge n UInt32.size with h | h
  · rw [UInt32.toNat_ofNatClamp_of_lt h]
    omega
  · rw [UInt32.toNat_ofNatClamp_of_le h]
    omega

instance : ExactCounts ℚ where
  quotient_self {n} hpos _ :=
    calc (n : ℚ) / n = 1 := div_self (Nat.cast_ne_zero.2 (Nat.ne_of_gt hpos))
      _ = ofCount 1 := ofCount_one.symm
  product_one {n} _ :=
    calc (n : ℚ) * ofCount 1 = n * 1 := congrArg ((n : ℚ) * ·) ofCount_one
      _ = n := mul_one _
  floorWord_ofCount {n} hlt :=
    calc UInt32.ofNatClamp ⌊(n : ℚ)⌋₊ = UInt32.ofNatClamp n := congrArg _ (Nat.floor_natCast n)
      _ = UInt32.ofNat n := UInt32.ofNatClamp_eq_ofNat n hlt
  ceilWord_ofCount {n} hlt :=
    calc UInt32.ofNatClamp ⌈(n : ℚ)⌉₊ = UInt32.ofNatClamp n := congrArg _ (Nat.ceil_natCast n)
      _ = UInt32.ofNat n := UInt32.ofNatClamp_eq_ofNat n hlt

/-- The whole part is not above a word that the number is not above. -/
theorem floorWord_le {q : ℚ} {n : UInt32} (h : q ≤ n.toNat) : floorWord q ≤ n := by
  rw [UInt32.le_iff_toNat_le]
  calc (floorWord q).toNat = min ⌊q⌋₊ (UInt32.size - 1) := toNat_ofNatClamp _
    _ ≤ ⌊q⌋₊ := Nat.min_le_left _ _
    _ ≤ n.toNat := Nat.floor_le_of_le h

/-- The whole part is not below a word that the number is not below. -/
theorem le_floorWord {q : ℚ} {n : UInt32} (h : n.toNat ≤ q) : n ≤ floorWord q := by
  rw [UInt32.le_iff_toNat_le]
  have hword : n.toNat ≤ UInt32.size - 1 := Nat.le_sub_one_of_lt n.toNat_lt_size
  calc n.toNat ≤ min ⌊q⌋₊ (UInt32.size - 1) := Nat.le_min.2 ⟨Nat.le_floor h, hword⟩
    _ = (floorWord q).toNat := (toNat_ofNatClamp _).symm

end Scalar

/-! ### One axis -/

/-- The factor that brings an image to the length of its container on one axis. -/
def axisRatio (natural container : UInt32) : ℚ :=
  container.toNat / natural.toNat

section Axis

variable {natural container : UInt32} {factor : ℚ}

/-- The ratio brings one axis to the length of the other. -/
theorem mul_axisRatio (h : 0 < natural.toNat) :
    natural.toNat * axisRatio natural container = container.toNat :=
  mul_div_cancel₀ _ (Nat.cast_ne_zero.2 (Nat.ne_of_gt h))

/-- An axis has ratio one to itself. -/
theorem axisRatio_self (h : 0 < natural.toNat) : axisRatio natural natural = 1 :=
  div_self (Nat.cast_ne_zero.2 (Nat.ne_of_gt h))

/-- A ratio is below one if it shrinks. -/
theorem axisRatio_lt_one_iff (h : 0 < natural.toNat) :
    axisRatio natural container < 1 ↔ container < natural := by
  rw [axisRatio, div_lt_one (Nat.cast_pos.2 h), Nat.cast_lt, UInt32.lt_iff_toNat_lt]

/-- A ratio is above one if it grows. -/
theorem one_lt_axisRatio_iff (h : 0 < natural.toNat) :
    1 < axisRatio natural container ↔ natural < container := by
  rw [axisRatio, one_lt_div (Nat.cast_pos.2 h), Nat.cast_lt, UInt32.lt_iff_toNat_lt]

/-- An image stays within its container if its factor is not above the ratio. -/
theorem scaled_le_of_le_ratio (h : 0 < natural.toNat)
    (hfactor : factor ≤ axisRatio natural container) :
    Scalar.floorWord (Scalar.product (Scalar.ofCount natural.toNat) factor) ≤ container :=
  Scalar.floorWord_le <|
    calc natural.toNat * factor ≤ natural.toNat * axisRatio natural container :=
          mul_le_mul_of_nonneg_left hfactor (Nat.cast_nonneg _)
      _ = container.toNat := mul_axisRatio h

/-- An image covers its container if its factor is not below the ratio. -/
theorem le_scaled_of_ratio_le (h : 0 < natural.toNat)
    (hfactor : axisRatio natural container ≤ factor) :
    container ≤ Scalar.floorWord (Scalar.product (Scalar.ofCount natural.toNat) factor) :=
  Scalar.le_floorWord <|
    calc (container.toNat : ℚ) = natural.toNat * axisRatio natural container :=
          (mul_axisRatio h).symm
      _ ≤ natural.toNat * factor := mul_le_mul_of_nonneg_left hfactor (Nat.cast_nonneg _)

/-- An image is as long as its container if its factor is the ratio. -/
theorem scaled_eq_of_eq_ratio (h : 0 < natural.toNat)
    (hfactor : factor = axisRatio natural container) :
    Scalar.floorWord (Scalar.product (Scalar.ofCount natural.toNat) factor) = container :=
  UInt32.le_antisymm (scaled_le_of_le_ratio h hfactor.le) (le_scaled_of_ratio_le h hfactor.ge)

end Axis

/-! ### Both axes -/

section Ratios

variable {natural container : Size}

/-- Within itself, an image is not shrunk. -/
theorem lesserRatio_self (h : natural.isEmpty = false) : lesserRatio ℚ natural natural = 1 := by
  obtain ⟨hw, hh⟩ := Size.isEmpty_eq_false_iff.1 h
  calc lesserRatio ℚ natural natural
      = min (axisRatio natural.width natural.width) (axisRatio natural.height natural.height) := rfl
    _ = 1 := by rw [axisRatio_self hw, axisRatio_self hh, min_self]

/-- Over itself, an image is not grown. -/
theorem greaterRatio_self (h : natural.isEmpty = false) : greaterRatio ℚ natural natural = 1 := by
  obtain ⟨hw, hh⟩ := Size.isEmpty_eq_false_iff.1 h
  calc greaterRatio ℚ natural natural
      = max (axisRatio natural.width natural.width) (axisRatio natural.height natural.height) := rfl
    _ = 1 := by rw [axisRatio_self hw, axisRatio_self hh, max_self]

/-- Some axis is shrunk if the lesser ratio is below one. -/
theorem lesserRatio_lt_one_iff (h : natural.isEmpty = false) :
    lesserRatio ℚ natural container < 1 ↔
      container.width < natural.width ∨ container.height < natural.height := by
  obtain ⟨hw, hh⟩ := Size.isEmpty_eq_false_iff.1 h
  rw [← axisRatio_lt_one_iff hw, ← axisRatio_lt_one_iff hh]
  exact min_lt_iff

/-- Some axis is grown if the greater ratio is above one. -/
theorem one_lt_greaterRatio_iff (h : natural.isEmpty = false) :
    1 < greaterRatio ℚ natural container ↔
      natural.width < container.width ∨ natural.height < container.height := by
  obtain ⟨hw, hh⟩ := Size.isEmpty_eq_false_iff.1 h
  rw [← one_lt_axisRatio_iff hw, ← one_lt_axisRatio_iff hh]
  exact lt_max_iff

end Ratios

namespace Size

/-- No longer than another size on either axis. -/
def Within (s t : Size) : Prop :=
  s.width ≤ t.width ∧ s.height ≤ t.height

/-- As long as another size on some axis. -/
def Meets (s t : Size) : Prop :=
  s.width = t.width ∨ s.height = t.height

variable {natural container : Size} {factor : ℚ}

/-- What covers a size with pixels has pixels itself. -/
theorem Within.nonempty {s t : Size} (h : s.Within t) (hs : s.isEmpty = false) :
    t.isEmpty = false := by
  obtain ⟨hw, hh⟩ := isEmpty_eq_false_iff.1 hs
  have hwidth := UInt32.le_iff_toNat_le.1 h.1
  have hheight := UInt32.le_iff_toNat_le.1 h.2
  exact isEmpty_eq_false_iff.2 ⟨by omega, by omega⟩

/-- An image stays within its container if its factor is not above either ratio. -/
theorem scaleBy_within (h : natural.isEmpty = false)
    (hfactor : factor ≤ lesserRatio ℚ natural container) :
    (natural.scaleBy factor).Within container :=
  have hpos := isEmpty_eq_false_iff.1 h
  ⟨scaled_le_of_le_ratio hpos.1 (hfactor.trans (min_le_left _ _)),
    scaled_le_of_le_ratio hpos.2 (hfactor.trans (min_le_right _ _))⟩

/-- An image covers its container if its factor is not below either ratio. -/
theorem within_scaleBy (h : natural.isEmpty = false)
    (hfactor : greaterRatio ℚ natural container ≤ factor) :
    container.Within (natural.scaleBy factor) :=
  have hpos := isEmpty_eq_false_iff.1 h
  ⟨le_scaled_of_ratio_le hpos.1 ((le_max_left _ _).trans hfactor),
    le_scaled_of_ratio_le hpos.2 ((le_max_right _ _).trans hfactor)⟩

/-- Scaled by the ratio of one axis, an image has the length of the container on this axis. -/
theorem meets_scaleBy (h : natural.isEmpty = false)
    (hfactor : factor = axisRatio natural.width container.width ∨
      factor = axisRatio natural.height container.height) :
    (natural.scaleBy factor).Meets container :=
  have hpos := isEmpty_eq_false_iff.1 h
  hfactor.imp (scaled_eq_of_eq_ratio hpos.1) (scaled_eq_of_eq_ratio hpos.2)

/-- The lesser ratio is the ratio of one axis. -/
theorem meets_scaleBy_lesserRatio (h : natural.isEmpty = false) :
    (natural.scaleBy (lesserRatio ℚ natural container)).Meets container :=
  meets_scaleBy h (min_choice _ _)

/-- The greater ratio is the ratio of one axis. -/
theorem meets_scaleBy_greaterRatio (h : natural.isEmpty = false) :
    (natural.scaleBy (greaterRatio ℚ natural container)).Meets container :=
  meets_scaleBy h (max_choice _ _)

end Size

namespace FillMode

variable {natural container : Size}

/-- In-size shrinks by the lesser ratio, and does not grow. -/
theorem factor_inSize (h : natural.isEmpty = false) :
    inSize.factor ℚ natural container = some (min 1 (lesserRatio ℚ natural container)) := by
  rw [factor]
  split
  next hshrinks => rw [min_eq_right ((lesserRatio_lt_one_iff h).2 hshrinks).le]
  next hfits =>
    rw [min_eq_left (not_lt.1 fun hlt => hfits ((lesserRatio_lt_one_iff h).1 hlt)),
      Scalar.ofCount_one]

/-- Over-size grows by the greater ratio, and does not shrink. -/
theorem factor_overSize (h : natural.isEmpty = false) :
    overSize.factor ℚ natural container = some (max 1 (greaterRatio ℚ natural container)) := by
  rw [factor]
  split
  next hgrows => rw [max_eq_right ((one_lt_greaterRatio_iff h).2 hgrows).le]
  next hcovers =>
    rw [max_eq_left (not_lt.1 fun hlt => hcovers ((one_lt_greaterRatio_iff h).1 hlt)),
      Scalar.ofCount_one]

/-- What a fill mode promises of its factor. -/
structure Fitted (fill : FillMode) (natural container : Size) (factor : ℚ) : Prop where
  /-- The container holds the image, which is not shrunk more than is needed. -/
  inSize : fill = .inSize → factor ≤ 1 ∧ (natural.scaleBy factor).Within container ∧
    (factor < 1 → (natural.scaleBy factor).Meets container)
  /-- The image covers the container, and is not grown more than is needed. -/
  overSize : fill = .overSize → 1 ≤ factor ∧ container.Within (natural.scaleBy factor) ∧
    (1 < factor → (natural.scaleBy factor).Meets container)
  /-- The image covers the container with no pixel more than is needed on some axis. -/
  fitSize : fill = .fitSize → container.Within (natural.scaleBy factor) ∧
    (natural.scaleBy factor).Meets container
  /-- An image that fits is left as it is. -/
  same : natural = container → natural.scaleBy factor = natural

/-- The mode that only shrinks: the image ends up within the container. -/
theorem fitted_inSize (h : natural.isEmpty = false) :
    inSize.Fitted natural container (min 1 (lesserRatio ℚ natural container)) where
  inSize _ := by
    refine ⟨min_le_left _ _, Size.scaleBy_within h (min_le_right _ _), fun hlt => ?_⟩
    have hshrinks := (min_lt_iff.1 hlt).resolve_left (lt_irrefl 1)
    rw [min_eq_right hshrinks.le]
    exact Size.meets_scaleBy_lesserRatio h
  overSize := nofun
  fitSize := nofun
  same hsame := by
    rw [← hsame, lesserRatio_self h, min_self, ← Scalar.ofCount_one, Scalar.scaleBy_one]

/-- The mode that only grows: the image ends up over the container. -/
theorem fitted_overSize (h : natural.isEmpty = false) :
    overSize.Fitted natural container (max 1 (greaterRatio ℚ natural container)) where
  inSize := nofun
  overSize _ := by
    refine ⟨le_max_left _ _, Size.within_scaleBy h (le_max_right _ _), fun hlt => ?_⟩
    have hgrows := (lt_max_iff.1 hlt).resolve_left (lt_irrefl 1)
    rw [max_eq_right hgrows.le]
    exact Size.meets_scaleBy_greaterRatio h
  fitSize := nofun
  same hsame := by
    rw [← hsame, greaterRatio_self h, max_self, ← Scalar.ofCount_one, Scalar.scaleBy_one]

/-- The mode that does both: the image covers the container and meets it on one axis. -/
theorem fitted_fitSize (h : natural.isEmpty = false) :
    fitSize.Fitted natural container (greaterRatio ℚ natural container) where
  inSize := nofun
  overSize := nofun
  fitSize _ := ⟨Size.within_scaleBy h le_rfl, Size.meets_scaleBy_greaterRatio h⟩
  same hsame := by
    rw [← hsame, greaterRatio_self h, ← Scalar.ofCount_one, Scalar.scaleBy_one]

/-- Every mode that scales has a factor with what it promises. -/
theorem exists_fitted {fill : FillMode} (container : Size) (hfill : fill ≠ .disable)
    (h : natural.isEmpty = false) :
    ∃ factor, fill.factor ℚ natural container = some factor ∧
      fill.Fitted natural container factor := by
  cases fill with
  | disable => exact absurd rfl hfill
  | inSize => exact ⟨_, factor_inSize h, fitted_inSize h⟩
  | overSize => exact ⟨_, factor_overSize h, fitted_overSize h⟩
  | fitSize => exact ⟨_, rfl, fitted_fitSize h⟩

/-- Only in-size may shrink an image to nothing. -/
theorem Fitted.nonempty {fill : FillMode} {factor : ℚ}
    (h : fill.Fitted natural container factor) (hfill : fill ≠ .disable) (hin : fill ≠ .inSize)
    (hcontainer : container.isEmpty = false) : (natural.scaleBy factor).isEmpty = false := by
  cases fill with
  | disable => exact absurd rfl hfill
  | inSize => exact absurd rfl hin
  | overSize => exact (h.overSize rfl).2.1.nonempty hcontainer
  | fitSize => exact (h.fitSize rfl).1.nonempty hcontainer

end FillMode

namespace DisplayPlan

/-- With exact quotients and products, in-size keeps an image within its container, and over-size
and fit-size cover the container; what is scaled at all has the length of the container on some
axis, and an image of the size of its container stays as it is. There is a snapshot of this size,
unless in-size drops the last pixel of an axis. -/
theorem fits_and_covers {natural : Size} {explicit part : Option Size} {options : ImageOptions}
    (haspect : options.aspect = true) (hfill : options.fill ≠ .disable)
    (hnatural : natural.isEmpty = false)
    (hcontainer : ((explicit.or part).getD ⟨0, 0⟩).isEmpty = false) :
    let container := (explicit.or part).getD ⟨0, 0⟩
    ∃ factor, options.fill.factor ℚ natural container = some factor ∧
      options.fill.Fitted natural container factor ∧
      (make ℚ natural explicit part options =
          .ok (.snapshot (.centred factor (natural.scaleBy factor) container)) ∨
        options.fill = .inSize ∧ (natural.scaleBy factor).isEmpty = true ∧
          make ℚ natural explicit part options =
            .error ⟨natural, container, natural.scaleBy factor⟩) := by
  intro container
  obtain ⟨factor, hfactor, hfitted⟩ := FillMode.exists_fitted container hfill hnatural
  refine ⟨factor, hfactor, hfitted, ?_⟩
  -- neither the image nor its container is empty, so that only the scaled size decides
  have hmake : make ℚ natural explicit part options =
      if (natural.scaleBy factor).isEmpty then
        .error ⟨natural, container, natural.scaleBy factor⟩
      else .ok (.snapshot (.centred factor (natural.scaleBy factor) container)) := by
    rw [make_of_factor haspect hfactor, hnatural, hcontainer, Bool.false_or, Bool.false_or]
  cases hscaled : (natural.scaleBy factor).isEmpty with
  | false => exact .inl (by rw [hmake, hscaled, if_neg Bool.false_ne_true])
  | true =>
      have hin : options.fill = .inSize := by
        by_contra hin
        rw [hfitted.nonempty hfill hin hcontainer] at hscaled
        cases hscaled
      exact .inr ⟨hin, rfl, by rw [hmake, hscaled, if_pos rfl]⟩

/-- A column of the greatest height, one pixel wide, grows until it is two pixels wide. Twice its
height is no word and is cut off. -/
theorem fits_and_covers_column :
    let options := { ImageOptions.unset with aspect := true, fill := .overSize }
    let column : Size := ⟨1, 4294967295⟩
    options.aspect = true ∧ options.fill ≠ .disable ∧ column.isEmpty = false ∧
      Size.isEmpty ⟨2, 1⟩ = false ∧ FillMode.overSize.Fitted column ⟨2, 1⟩ 2 ∧
      make ℚ column (some ⟨2, 1⟩) none options =
        .ok (.snapshot ⟨2, ⟨2, 4294967295⟩, ⟨2, 1⟩, 0, -2147483647⟩) := by
  intro options column
  obtain ⟨factor, hfactor, hfitted, hmake⟩ :=
    @fits_and_covers column (some ⟨2, 1⟩) none options rfl (by decide) (by decide) (by decide)
  have htwice : FillMode.overSize.factor ℚ column ⟨2, 1⟩ = some 2 := by decide +kernel
  obtain rfl : factor = 2 := Option.some.inj (hfactor.symm.trans htwice)
  refine ⟨rfl, by decide, by decide, by decide, hfitted, ?_⟩
  rcases hmake with hmake | ⟨hin, -⟩
  · exact hmake.trans (by decide +kernel)
  · cases hin

end DisplayPlan

end WidgetStage
