import WidgetStage.Proofs.Image.Arithmetic
import WidgetStage.Proofs.Image.Fitting
import WidgetStage.Proofs.Image.TwiceRounded

/-!
# Scaled sizes with doubles

A double holds the fill factor rounded to 53 digits, and the length of an axis is the whole part of
its product with this, which is rounded once more. So a length is sometimes not that which exact
numbers give.

Lengths that are not very great go wrong in one way only: the exact length is a whole number without
a fraction to be dropped, it is rounded down, and a pixel is lost. This happens where it shows, on
the axis that the factor was taken of, as its exact length is that of the container: an image that
ought to cover its container leaves a row or a column of it free, and one that ought to fill a
single pixel is left with none and refused.

## Main results

* `FillMode.exists_standsFor`: the factors that doubles stand for.
* `StandsFor.scaledAxis_eq`: a length is the whole part of the product that is rounded twice.
* `AxisRounded`: what becomes of the exact length of an axis.
* `DisplayPlan.sizes_rounded`: fitting and covering, but for a pixel.
* `DisplayPlan.lost_pixel`: a square that is refused although there is a pixel for it.
-/

namespace WidgetStage

open Double (Holds Ordinary)

/-! ### Ratios -/

/-- The ratio of two lengths. -/
def IsRatio (q : ℚ) : Prop :=
  ∃ natural container : UInt32, 0 < natural.toNat ∧ 0 < container.toNat ∧
    axisRatio natural container = q

section Ratio

variable {natural container : UInt32} {n : ℕ} {q r : ℚ}

/-- The ratio of two lengths is a quotient of words. -/
theorem isRatio_axisRatio (hn : 0 < natural.toNat) (hc : 0 < container.toNat) :
    IsRatio (axisRatio natural container) :=
  ⟨natural, container, hn, hc, rfl⟩

/-- So is one. -/
theorem isRatio_one : IsRatio 1 :=
  ⟨1, 1, Nat.one_pos, Nat.one_pos, axisRatio_self Nat.one_pos⟩

namespace IsRatio

/-- A quotient of words is positive. -/
theorem pos (h : IsRatio q) : 0 < q := by
  obtain ⟨natural, container, hn, hc, rfl⟩ := h
  exact div_pos (Nat.cast_pos.2 hc) (Nat.cast_pos.2 hn)

/-- A quotient of words is not too small. -/
theorem lower (h : IsRatio q) : 1 / 2 ^ 32 ≤ q := by
  obtain ⟨natural, container, hn, hc, rfl⟩ := h
  have hn' : (natural.toNat : ℚ) ≤ 2 ^ 32 := by exact_mod_cast natural.toNat_lt.le
  exact div_le_div₀ (Nat.cast_nonneg _) (Nat.one_le_cast.2 hc) (Nat.cast_pos.2 hn) hn'

/-- A quotient of words is not too large. -/
theorem upper (h : IsRatio q) : q ≤ 2 ^ 32 := by
  obtain ⟨natural, container, hn, hc, rfl⟩ := h
  have hc' : (container.toNat : ℚ) ≤ 2 ^ 32 := by exact_mod_cast container.toNat_lt.le
  exact (div_le_self (Nat.cast_nonneg _) (Nat.one_le_cast.2 hn)).trans hc'

/-- The denominator of a quotient of words is a word. -/
theorem den_lt (h : IsRatio q) : q.den < 2 ^ 32 := by
  obtain ⟨natural, container, hn, hc, rfl⟩ := h
  have hdvd : ((axisRatio natural container).den : ℤ) ∣ natural.toNat := by
    have h := Rat.den_dvd container.toNat natural.toNat
    rwa [Rat.divInt_eq_div, Int.cast_natCast, Int.cast_natCast] at h
  exact lt_of_le_of_lt (Nat.le_of_dvd hn (Int.natCast_dvd_natCast.1 hdvd)) natural.toNat_lt

/-- The lesser of two such quotients is one of them. -/
theorem min (hq : IsRatio q) (hr : IsRatio r) : IsRatio (min q r) := by
  rcases min_choice q r with h | h <;> rw [h] <;> assumption

/-- The greater of two such quotients is one of them. -/
theorem max (hq : IsRatio q) (hr : IsRatio r) : IsRatio (max q r) := by
  rcases max_choice q r with h | h <;> rw [h] <;> assumption

end IsRatio

/-- Numbers that are neither too small nor too large are ordinary. -/
theorem ordinary_of_le (hlower : 1 / 2 ^ 70 ≤ q) (hupper : q ≤ 2 ^ 70) : Ordinary q where
  lower :=
    calc (2 : ℚ) ^ (-1000 : ℤ) ≤ 2 ^ (-70 : ℤ) := zpow_le_zpow_right₀ one_le_two (by decide)
      _ = 1 / 2 ^ 70 := by rw [zpow_neg, one_div]; rfl
      _ ≤ q := hlower
  upper :=
    calc q ≤ 2 ^ (70 : ℤ) := hupper
      _ ≤ 2 ^ (1000 : ℤ) := zpow_le_zpow_right₀ one_le_two (by decide)

/-- A quotient of words is ordinary. -/
theorem IsRatio.ordinary (h : IsRatio q) : Ordinary q :=
  ordinary_of_le (le_trans (by norm_num) h.lower) (h.upper.trans (by norm_num))

/-- The product with a rounded ratio is far from both ends. -/
theorem IsRatio.ordinary_mul (h : IsRatio q) (hn : 0 < n) (hlt : n < UInt32.size) :
    Ordinary (n * nearest q) := by
  have hmoved := abs_le.1 (abs_nearest_sub_le h.pos)
  have hlower := h.lower
  have hupper := h.upper
  have hn' : (1 : ℚ) ≤ n := Nat.one_le_cast.2 hn
  have hlt' : (n : ℚ) ≤ 2 ^ 32 := by exact_mod_cast hlt.le
  have hleast : 1 / 2 ^ 33 ≤ nearest q := by linarith
  have hmost : nearest q ≤ 2 ^ 33 := by linarith
  apply ordinary_of_le
  · calc (1 : ℚ) / 2 ^ 70 ≤ 1 * (1 / 2 ^ 33) := by norm_num
      _ ≤ n * nearest q := mul_le_mul hn' hleast (by norm_num) (Nat.cast_nonneg n)
  · calc n * nearest q ≤ 2 ^ 32 * 2 ^ 33 :=
          mul_le_mul hlt' hmost (nearest_pos h.pos).le (by norm_num)
      _ ≤ 2 ^ 70 := by norm_num

end Ratio

/-! ### Factors -/

/-- A double stands for the ratio of two lengths, which it holds rounded to 53 digits. -/
structure StandsFor (factor : Float) (q : ℚ) : Prop where
  ratio : IsRatio q
  holds : Holds factor (nearest q)

section Factor

variable {natural container : Size} {n c : UInt32} {a b : Float} {q r : ℚ}

/-- The factor one is held exactly. -/
theorem standsFor_one : StandsFor (Scalar.ofCount 1) 1 := by
  have h := Double.holds_ofCount Nat.one_pos (by decide)
  rw [← nearest_natCast Nat.one_pos (by decide), Nat.cast_one] at h
  exact ⟨isRatio_one, h⟩

/-- The double that is computed for a ratio is the one nearest to it. -/
theorem standsFor_axisRatio (hn : 0 < n.toNat) (hc : 0 < c.toNat) :
    StandsFor (Scalar.quotient (Scalar.ofCount c.toNat) (Scalar.ofCount n.toNat))
      (axisRatio n c) where
  ratio := isRatio_axisRatio hn hc
  holds := (Double.holds_ofCount hc (c.toNat_lt.trans (by decide))).quotient
    (Double.holds_ofCount hn (n.toNat_lt.trans (by decide))) (isRatio_axisRatio hn hc).ordinary

/-- As rounding keeps the order, the smaller double stands for the smaller ratio. -/
theorem StandsFor.lesser (ha : StandsFor a q) (hb : StandsFor b r) :
    StandsFor (Scalar.lesser a b) (min q r) where
  ratio := ha.ratio.min hb.ratio
  holds := by
    rw [nearest_min ha.ratio.pos hb.ratio.pos]
    exact ha.holds.lesser hb.holds

/-- As rounding keeps the order, the greater double stands for the greater ratio. -/
theorem StandsFor.greater (ha : StandsFor a q) (hb : StandsFor b r) :
    StandsFor (Scalar.greater a b) (max q r) where
  ratio := ha.ratio.max hb.ratio
  holds := by
    rw [nearest_max ha.ratio.pos hb.ratio.pos]
    exact ha.holds.greater hb.holds

/-- The lesser of two ratios is computed like each of them. -/
theorem standsFor_lesserRatio (hn : natural.isEmpty = false) (hc : container.isEmpty = false) :
    StandsFor (lesserRatio Float natural container) (lesserRatio ℚ natural container) := by
  obtain ⟨hnw, hnh⟩ := Size.isEmpty_eq_false_iff.1 hn
  obtain ⟨hcw, hch⟩ := Size.isEmpty_eq_false_iff.1 hc
  exact (standsFor_axisRatio hnw hcw).lesser (standsFor_axisRatio hnh hch)

/-- The greater of two ratios is computed like each of them. -/
theorem standsFor_greaterRatio (hn : natural.isEmpty = false) (hc : container.isEmpty = false) :
    StandsFor (greaterRatio Float natural container) (greaterRatio ℚ natural container) := by
  obtain ⟨hnw, hnh⟩ := Size.isEmpty_eq_false_iff.1 hn
  obtain ⟨hcw, hch⟩ := Size.isEmpty_eq_false_iff.1 hc
  exact (standsFor_axisRatio hnw hcw).greater (standsFor_axisRatio hnh hch)

/-- A double stands for the factor of a mode. -/
theorem FillMode.exists_standsFor {fill : FillMode} (hn : natural.isEmpty = false)
    (hc : container.isEmpty = false) (hexact : fill.factor ℚ natural container = some q) :
    ∃ factor, fill.factor Float natural container = some factor ∧ StandsFor factor q := by
  cases fill with
  | disable => cases hexact
  | inSize =>
      rw [FillMode.factor] at hexact ⊢
      split at hexact
      next hshrinks =>
        obtain rfl := Option.some.inj hexact
        exact ⟨_, if_pos hshrinks, standsFor_lesserRatio hn hc⟩
      next hfits =>
        obtain rfl := Option.some.inj hexact
        exact ⟨_, if_neg hfits, Scalar.ofCount_one ▸ standsFor_one⟩
  | overSize =>
      rw [FillMode.factor] at hexact ⊢
      split at hexact
      next hgrows =>
        obtain rfl := Option.some.inj hexact
        exact ⟨_, if_pos hgrows, standsFor_greaterRatio hn hc⟩
      next hcovers =>
        obtain rfl := Option.some.inj hexact
        exact ⟨_, if_neg hcovers, Scalar.ofCount_one ▸ standsFor_one⟩
  | fitSize =>
      obtain rfl := Option.some.inj hexact
      exact ⟨_, rfl, standsFor_greaterRatio hn hc⟩

end Factor

/-! ### Lengths -/

namespace Scalar

variable {natural container : UInt32} {n : ℕ} {q r : ℚ}

/-- The whole part of a number is cut off at the largest word. -/
theorem toNat_floorWord (q : ℚ) : (floorWord q).toNat = min ⌊q⌋₊ (UInt32.size - 1) :=
  toNat_ofNatClamp _

/-- A number has no whole part as a word if it has none at all. -/
theorem floorWord_eq_zero_iff : floorWord q = 0 ↔ ⌊q⌋₊ = 0 := by
  rw [← UInt32.toNat_inj, toNat_floorWord, UInt32.toNat_zero, Nat.min_eq_zero_iff]
  exact or_iff_left (by decide)

/-- Greater numbers have greater whole parts. -/
theorem floorWord_mono (h : q ≤ r) : floorWord q ≤ floorWord r := by
  rw [UInt32.le_iff_toNat_le, toNat_floorWord, toNat_floorWord]
  exact min_le_min_right _ (Nat.floor_mono h)

/-- No more than one is won or lost. -/
theorem floorWord_twiceRounded_bounds (hn : 0 < n) (hq : 0 < q) :
    (floorWord (twiceRounded n q)).toNat ≤ (floorWord (n * q)).toNat + 1 ∧
      (floorWord (n * q)).toNat ≤ (floorWord (twiceRounded n q)).toNat + 1 := by
  rw [toNat_floorWord, toNat_floorWord]
  exact min_floor_le (by decide) (mul_pos (Nat.cast_pos.2 hn) hq) (abs_twiceRounded_sub_le hn hq)

/-- With numbers that are not too great a length is exact unless it has no fraction and is rounded
down. -/
theorem floorWord_eq_or_lost (hn : 0 < n) (hq : 0 < q) (hsmall : n * q.num < 2 ^ 51) :
    (floorWord (twiceRounded n q) = floorWord (n * q) ∨
        (floorWord (twiceRounded n q)).toNat + 1 = (floorWord (n * q)).toNat) ∧
      (floorWord (twiceRounded n q) = floorWord (n * q) ↔
        ∀ k : ℕ, k < UInt32.size → n * q = k → k ≤ twiceRounded n q) := by
  rw [← UInt32.toNat_inj, toNat_floorWord, toNat_floorWord]
  rcases floor_twiceRounded_eq_or_whole hn hq hsmall with hkept | ⟨whole, hwhole, hlost⟩
  · refine ⟨.inl (by rw [hkept]), iff_of_true (by rw [hkept]) fun k _ hk => ?_⟩
    rw [hk, Nat.floor_natCast] at hkept
    rw [← hkept]
    exact Nat.floor_le (twiceRounded_pos hn hq).le
  · rw [hwhole, Nat.floor_natCast]
    -- a length beyond all words is cut off, with the lost pixel and without it
    rcases Nat.lt_or_ge whole UInt32.size with hless | hmore
    · refine ⟨.inr (by omega), iff_of_false (by omega) fun hall => ?_⟩
      have := Nat.le_floor (hall whole hless rfl)
      omega
    · refine ⟨.inl (by omega), iff_of_true (by omega) fun k hk heq => ?_⟩
      rw [Nat.cast_inj] at heq
      omega

/-- On the axis that the factor was taken of, the exact length has no fraction. -/
theorem floorWord_of_ratio (hn : 0 < natural.toNat) (hc : 0 < container.toNat) :
    let product := twiceRounded natural.toNat (axisRatio natural container)
    (floorWord product = container ∨ (floorWord product).toNat + 1 = container.toNat) ∧
      (floorWord product = container ↔ container.toNat ≤ product) := by
  intro product
  have hsize := container.toNat_lt_size
  obtain ⟨hor, hiff⟩ := floor_twiceRounded_of_whole hn (isRatio_axisRatio hn hc).pos
    (mul_axisRatio hn) (hsize.trans (by decide))
  have hword : (floorWord product).toNat = ⌊product⌋₊ := by
    rw [toNat_floorWord]
    change ⌊product⌋₊ = _ ∨ ⌊product⌋₊ + 1 = _ at hor
    omega
  rw [← UInt32.toNat_inj, hword]
  exact ⟨hor, hiff⟩

/-- A factor up to the ratio does not lead beyond the container, for all rounding. -/
theorem floorWord_le_of_le_ratio (hn : 0 < natural.toNat) (hc : 0 < container.toNat) (hq : 0 < q)
    (hle : q ≤ axisRatio natural container) :
    floorWord (twiceRounded natural.toNat q) ≤ container := by
  have hmono := floorWord_mono (twiceRounded_mono hn hq hle)
  rw [UInt32.le_iff_toNat_le] at hmono ⊢
  obtain ⟨hkept | hlost, -⟩ := floorWord_of_ratio hn hc
  · rw [hkept] at hmono
    exact hmono
  · omega

/-- A length beyond that of the container can do without a pixel. -/
theorem le_floorWord_of_ratio_lt (hn : 0 < natural.toNat) (hq : 0 < q)
    (hsmall : natural.toNat * q.num < 2 ^ 51) (hlt : axisRatio natural container < q) :
    container ≤ floorWord (twiceRounded natural.toNat q) := by
  have hbeyond : (container.toNat : ℚ) < natural.toNat * q := by
    rw [← mul_axisRatio hn]
    exact mul_lt_mul_of_pos_left hlt (Nat.cast_pos.2 hn)
  have hword := container.toNat_lt_size
  rw [UInt32.le_iff_toNat_le, toNat_floorWord]
  rcases floor_twiceRounded_eq_or_whole hn hq hsmall with hkept | ⟨whole, hwhole, hlost⟩
  · have := Nat.le_floor hbeyond.le
    omega
  · rw [hwhole, Nat.cast_lt] at hbeyond
    omega

end Scalar

/-! ### One axis -/

/-- The length of an axis after scaling. -/
def Scalar.scaledAxis {α : Type} [Scalar α] (natural : UInt32) (factor : α) : UInt32 :=
  floorWord (product (ofCount natural.toNat) factor)

open Scalar (scaledAxis)

/-- What becomes of the exact length of an axis with a double for a factor. -/
structure AxisRounded (natural : UInt32) (exact : ℚ) (factor : Float) : Prop where
  /-- The factor is rounded, then the product, and then its fraction is dropped. -/
  length_eq : scaledAxis natural factor =
    Scalar.floorWord (twiceRounded natural.toNat exact)
  /-- No more than a pixel is won. -/
  le_exact : (scaledAxis natural factor).toNat ≤ (scaledAxis natural exact).toNat + 1
  /-- No more than a pixel is lost. -/
  exact_le : (scaledAxis natural exact).toNat ≤ (scaledAxis natural factor).toNat + 1
  /-- With numbers that are not too great a pixel may be lost and is never won, and only a length
  without a fraction loses it, if it is rounded down. -/
  eq_or_lost : natural.toNat * exact.num < 2 ^ 51 →
    (scaledAxis natural factor = scaledAxis natural exact ∨
        (scaledAxis natural factor).toNat + 1 = (scaledAxis natural exact).toNat) ∧
      (scaledAxis natural factor = scaledAxis natural exact ↔
        ∀ k : ℕ, k < UInt32.size → natural.toNat * exact = k → k ≤ twiceRounded natural.toNat exact)
  /-- On the axis that the factor was taken of, a pixel is lost if the length of the container is
  rounded down. -/
  of_ratio : ∀ container, exact = axisRatio natural container →
    (scaledAxis natural factor = container ∨
        (scaledAxis natural factor).toNat + 1 = container.toNat) ∧
      (scaledAxis natural factor = container ↔
        container.toNat ≤ twiceRounded natural.toNat exact)
  /-- What fits with the exact factor still fits. -/
  within : ∀ container, 0 < container.toNat → exact ≤ axisRatio natural container →
    scaledAxis natural factor ≤ container
  /-- What covers with the exact factor leaves no more than a pixel uncovered. -/
  covers : ∀ container, axisRatio natural container ≤ exact →
    container.toNat ≤ (scaledAxis natural factor).toNat + 1
  /-- With numbers that are not too great there is an uncovered pixel only on the axis that the
  factor was taken of. -/
  covers_of_lt : natural.toNat * exact.num < 2 ^ 51 →
    ∀ container, axisRatio natural container < exact → container ≤ scaledAxis natural factor
  /-- What is not shrunk loses nothing of itself. -/
  grows : 1 ≤ exact → natural ≤ scaledAxis natural factor
  /-- The last pixel is lost if it is the whole length and rounded down. -/
  eq_zero_iff : scaledAxis natural factor = 0 ↔
    scaledAxis natural exact = 0 ∨
      natural.toNat * exact = 1 ∧ twiceRounded natural.toNat exact < 1

section Axis

variable {natural container : UInt32} {exact : ℚ} {factor : Float}

/-- A scaled axis is the whole part of the exact product, rounded twice. -/
theorem StandsFor.scaledAxis_eq (h : StandsFor factor exact) (hn : 0 < natural.toNat) :
    scaledAxis natural factor = Scalar.floorWord (twiceRounded natural.toNat exact) :=
  ((Double.holds_ofCount hn (natural.toNat_lt.trans (by decide))).product h.holds
    (h.ratio.ordinary_mul hn natural.toNat_lt_size)).floorWord_eq

/-- So the length of a scaled axis is known up to one pixel. -/
theorem StandsFor.axisRounded (h : StandsFor factor exact) (hn : 0 < natural.toNat) :
    AxisRounded natural exact factor := by
  have hlength := h.scaledAxis_eq hn
  have hexact : scaledAxis natural exact = Scalar.floorWord (natural.toNat * exact) := rfl
  have hpos := h.ratio.pos
  obtain ⟨hmore, hless⟩ := Scalar.floorWord_twiceRounded_bounds hn hpos
  rw [← hlength, ← hexact] at hmore hless
  refine ⟨hlength, hmore, hless, ?eq_or_lost, ?of_ratio, ?within, ?covers, ?covers_of_lt, ?grows,
    ?zero⟩
  case eq_or_lost =>
    intro hsmall
    rw [hlength, hexact]
    exact Scalar.floorWord_eq_or_lost hn hpos hsmall
  case of_ratio =>
    rintro container rfl
    have hc : (0 : ℚ) < container.toNat := by
      rw [← mul_axisRatio hn]
      exact mul_pos (Nat.cast_pos.2 hn) hpos
    rw [hlength]
    exact Scalar.floorWord_of_ratio hn (Nat.cast_pos.1 hc)
  case within =>
    intro container hc hle
    rw [hlength]
    exact Scalar.floorWord_le_of_le_ratio hn hc hpos hle
  case covers =>
    intro container hle
    have hcovers := UInt32.le_iff_toNat_le.1 (le_scaled_of_ratio_le hn hle)
    exact hcovers.trans hless
  case covers_of_lt =>
    intro hsmall container hlt
    rw [hlength]
    exact Scalar.le_floorWord_of_ratio_lt hn hpos hsmall hlt
  case grows =>
    intro hle
    rw [hlength]
    refine Scalar.le_floorWord ?_
    rw [← twiceRounded_one hn (natural.toNat_lt.trans (by decide))]
    exact twiceRounded_mono hn one_pos hle
  case zero =>
    rw [hlength, hexact, Scalar.floorWord_eq_zero_iff, Scalar.floorWord_eq_zero_iff]
    exact (floor_twiceRounded_eq_zero_iff hn hpos (h.ratio.den_lt.trans (by decide))).trans
      (or_congr_left Nat.floor_eq_zero.symm)

end Axis

/-! ### Both axes -/

namespace FillMode

variable {fill : FillMode} {natural container : Size} {exact : ℚ} {factor : Float}

/-- What is left of the promise of a fill mode when its factor is a double. -/
structure Rounded (fill : FillMode) (natural container : Size) (exact : ℚ) (factor : Float) :
    Prop where
  standsFor : StandsFor factor exact
  width : AxisRounded natural.width exact factor
  height : AxisRounded natural.height exact factor
  /-- The container holds the image. -/
  inSize : fill = .inSize → (natural.scaleBy factor).Within container
  /-- The image covers the container, but for a row and a column. -/
  covers : fill ≠ .inSize →
    container.width.toNat ≤ (natural.scaleBy factor).width.toNat + 1 ∧
      container.height.toNat ≤ (natural.scaleBy factor).height.toNat + 1
  /-- What is only grown is never left without pixels. -/
  overSize : fill = .overSize → (natural.scaleBy factor).isEmpty = false

/-- Both axes of an image are scaled so, whatever the fill mode. -/
theorem rounded_of_factor (hn : natural.isEmpty = false) (hc : container.isEmpty = false)
    (hexact : fill.factor ℚ natural container = some exact) (hfactor : StandsFor factor exact) :
    fill.Rounded natural container exact factor := by
  obtain ⟨hnw, hnh⟩ := Size.isEmpty_eq_false_iff.1 hn
  obtain ⟨hcw, hch⟩ := Size.isEmpty_eq_false_iff.1 hc
  have hwidth := hfactor.axisRounded hnw
  have hheight := hfactor.axisRounded hnh
  refine ⟨hfactor, hwidth, hheight, ?inSize, ?covers, ?overSize⟩
  case inSize =>
    rintro rfl
    rw [factor_inSize hn, Option.some_inj] at hexact
    have hle : exact ≤ lesserRatio ℚ natural container := hexact.symm.le.trans (min_le_right _ _)
    exact ⟨hwidth.within _ hcw (hle.trans (min_le_left _ _)),
      hheight.within _ hch (hle.trans (min_le_right _ _))⟩
  case covers =>
    intro hfill
    have hle : greaterRatio ℚ natural container ≤ exact := by
      cases fill with
      | disable => cases hexact
      | inSize => exact absurd rfl hfill
      | overSize =>
          rw [factor_overSize hn, Option.some_inj] at hexact
          exact (le_max_right _ _).trans hexact.le
      | fitSize => exact (Option.some.inj hexact).le
    exact ⟨hwidth.covers _ ((le_max_left _ _).trans hle),
      hheight.covers _ ((le_max_right _ _).trans hle)⟩
  case overSize =>
    rintro rfl
    rw [factor_overSize hn, Option.some_inj] at hexact
    have hle : 1 ≤ exact := (le_max_left _ _).trans hexact.le
    have hwithin : natural.Within (natural.scaleBy factor) := ⟨hwidth.grows hle, hheight.grows hle⟩
    exact hwithin.nonempty hn

end FillMode

namespace DisplayPlan

/-- With doubles every mode that scales has the exact factor rounded to 53 digits. Each axis has its
exact length, or one pixel more or less; what is lost is lost from a whole length that is rounded
down. In-size still fits, over-size and fit-size cover all but a row and a column, and there is a
snapshot of this size unless an axis has no pixel. -/
theorem sizes_rounded {natural : Size} {explicit part : Option Size} {options : ImageOptions}
    (haspect : options.aspect = true) (hfill : options.fill ≠ .disable)
    (hnatural : natural.isEmpty = false)
    (hcontainer : ((explicit.or part).getD ⟨0, 0⟩).isEmpty = false) :
    let container := (explicit.or part).getD ⟨0, 0⟩
    ∃ exact factor, options.fill.factor ℚ natural container = some exact ∧
      options.fill.factor Float natural container = some factor ∧
      options.fill.Rounded natural container exact factor ∧
      make Float natural explicit part options =
        if (natural.scaleBy factor).isEmpty then
          .error ⟨natural, container, natural.scaleBy factor⟩
        else .ok (.snapshot (.centred factor (natural.scaleBy factor) container)) := by
  intro container
  obtain ⟨exact, hexact, -⟩ := FillMode.exists_fitted container hfill hnatural
  obtain ⟨factor, hfactor, hstands⟩ := FillMode.exists_standsFor hnatural hcontainer hexact
  refine ⟨exact, factor, hexact, hfactor,
    FillMode.rounded_of_factor hnatural hcontainer hexact hstands, ?_⟩
  rw [make_of_factor haspect hfactor, hnatural, hcontainer, Bool.false_or, Bool.false_or]

/-- Twenty-nine hundredths of a hundred pixels are twenty-eight with doubles, so that a row and a
column of the container remain free. -/
theorem sizes_rounded_square :
    let options := { ImageOptions.unset with aspect := true, fill := .fitSize }
    options.aspect = true ∧ options.fill ≠ .disable ∧ Size.isEmpty ⟨100, 100⟩ = false ∧
      Size.isEmpty ⟨29, 29⟩ = false ∧
      ∃ factor, FillMode.fitSize.Rounded ⟨100, 100⟩ ⟨29, 29⟩ (29 / 100) factor ∧
        make Float ⟨100, 100⟩ none (some ⟨29, 29⟩) options =
          .ok (.snapshot (.centred factor ⟨28, 28⟩ ⟨29, 29⟩)) := by
  intro options
  obtain ⟨exact, factor, hexact, hfactor, hrounded, hmake⟩ :=
    @sizes_rounded ⟨100, 100⟩ none (some ⟨29, 29⟩) options rfl (by decide) (by decide) (by decide)
  have hratio : FillMode.fitSize.factor ℚ ⟨100, 100⟩ ⟨29, 29⟩ = some (29 / 100) := by
    decide +kernel
  obtain rfl : exact = 29 / 100 := Option.some.inj (hexact.symm.trans hratio)
  have hscaled : Size.scaleBy ⟨100, 100⟩ factor = ⟨28, 28⟩ := by
    obtain rfl := Option.some.inj hfactor
    decide +kernel
  refine ⟨rfl, by decide, by decide, by decide, factor, hrounded, ?_⟩
  rw [hmake, hscaled]
  rfl

/-- A forty-ninth of forty-nine pixels is one, and none with doubles. -/
theorem lost_pixel :
    let options := { ImageOptions.unset with aspect := true, fill := .fitSize }
    make ℚ ⟨49, 49⟩ none (some ⟨1, 1⟩) options =
        .ok (.snapshot ⟨1 / 49, ⟨1, 1⟩, ⟨1, 1⟩, 0, 0⟩) ∧
      make Float ⟨49, 49⟩ none (some ⟨1, 1⟩) options = .error ⟨⟨49, 49⟩, ⟨1, 1⟩, ⟨0, 0⟩⟩ :=
  ⟨by decide +kernel, rfl⟩

end DisplayPlan

end WidgetStage
