import WidgetStage.Proofs.Image.Doubles
import WidgetStage.Proofs.Image.Rounding

/-!
# Arithmetic with doubles

Quotients and products of doubles are computed with whole numbers. The digits of the result are
shifted until 53 of them are left, and two bits note what the lost ones were: whether they come to a
half or more, and whether there is anything besides. This is enough to round to the nearest number
with 53 digits, so that what comes out is the rounded quotient or product of the numbers that the
doubles hold.

## Main results

* `Shows`: the digits and the two bits tell of a fraction all that rounding needs.
* `roundWithAccuracy_eq`: the digits that are left after rounding.
* `Holds`: a double holds a positive fraction.
* `Holds.quotient`, `Holds.product`: quotients and products are rounded to the nearest.
* `Holds.lesser`, `Holds.greater`: doubles are ordered as the fractions that they hold.
* `Holds.floorWord_eq`: the whole part is that of the fraction.
-/

namespace WidgetStage.Double

open Scalar
open Float.Model (Format UnpackedFloat)
open Float.Model.UnpackedFloat (Sign Accuracy ExtendedMantissa accuracyOfFraction shiftToExponent
  roundWithAccuracy decreaseExponent)

/-! ### Lost digits -/

/-- What is left of a fraction after digits are lost. -/
structure Shows (em : ExtendedMantissa) (x : ℚ) : Prop where
  lower : em.mantissa ≤ x
  upper : x < em.mantissa + 1
  roundBit : em.roundBit = true ↔ em.mantissa + 1 / 2 ≤ x
  stickyBit : em.stickyBit = true ↔ x ≠ em.mantissa ∧ x ≠ em.mantissa + 1 / 2

section Shows

variable {em : ExtendedMantissa} {x : ℚ} {m k a b : ℕ}

/-- A whole number of units is shown by itself. -/
theorem shows_exact (m : ℕ) : Shows (.ofMantissaAndAccuracy m .exact) m where
  lower := le_rfl
  upper := lt_add_one _
  roundBit := iff_of_false Bool.false_ne_true (by
    change ¬ (m : ℚ) + 1 / 2 ≤ m
    linarith)
  stickyBit := iff_of_false Bool.false_ne_true fun h => h.1 rfl

/-- What is shown lies less than a unit above the mantissa. -/
theorem Shows.floor_eq (h : Shows em x) : ⌊x⌋₊ = em.mantissa :=
  (Nat.floor_eq_iff (le_trans (Nat.cast_nonneg _) h.lower)).2 ⟨h.lower, h.upper⟩

/-- The bits decide which way to round. -/
theorem Shows.roundedMantissa_eq (h : Shows em x) : em.roundedMantissa = roundEven x := by
  have hfloor := h.floor_eq
  obtain ⟨m, round, sticky⟩ := em
  obtain ⟨hlower, hupper, hround, hsticky⟩ := h
  dsimp only at hlower hupper hround hsticky hfloor
  rw [roundEven, hfloor]
  cases round with
  | false =>
      have hsmall : x - m < 1 / 2 := by
        have := mt hround.2 Bool.false_ne_true
        linarith
      rw [if_pos hsmall]
      cases sticky <;> rfl
  | true =>
      have hlarge := hround.1 rfl
      rw [if_neg (by linarith)]
      cases sticky with
      | false =>
          have hhalf : x = m + 1 / 2 := by
            by_contra hne
            refine absurd (hsticky.2 ⟨?_, hne⟩) Bool.false_ne_true
            rintro rfl
            linarith
          rw [if_neg (by rw [hhalf]; linarith)]
          rfl
      | true =>
          have hne := (hsticky.1 rfl).2
          have hmore : 1 / 2 < x - m := by
            rcases hlarge.lt_or_eq with h | h
            · linarith
            · exact absurd h.symm hne
          rw [if_pos hmore]
          rfl

/-- A bit is set if anything is lost. -/
theorem Shows.inexact_iff (h : Shows em x) :
    (em.roundBit || em.stickyBit) = true ↔ x ≠ em.mantissa := by
  rw [Bool.or_eq_true, h.roundBit, h.stickyBit]
  constructor
  · rintro (hround | ⟨hne, -⟩)
    · intro heq
      linarith
    · exact hne
  · intro hne
    by_cases hhalf : x = em.mantissa + 1 / 2
    · exact .inl hhalf.ge
    · exact .inr ⟨hne, hhalf⟩

/-- One more digit is lost. -/
theorem Shows.shiftRightOne (h : Shows em x) : Shows em.shiftRightOne (x / 2) := by
  have hinexact := h.inexact_iff
  have hlower := h.lower
  have hupper := h.upper
  have hm : (em.mantissa : ℚ) = 2 * (em.mantissa / 2 : ℕ) + (em.mantissa % 2 : ℕ) := by
    exact_mod_cast (Nat.div_add_mod em.mantissa 2).symm
  rw [hm] at hlower hupper hinexact
  rcases Nat.mod_two_eq_zero_or_one em.mantissa with hlast | hlast <;>
    rw [hlast] at hlower hupper hinexact <;> push_cast at hlower hupper hinexact
  · refine ⟨?_, ?_, ?_, ?_⟩ <;> dsimp only [ExtendedMantissa.shiftRightOne]
    · linarith
    · linarith
    · exact iff_of_false (by simp [hlast]) (by linarith)
    · rw [hinexact]
      exact ⟨fun hne => ⟨fun heq => hne (by linarith), fun heq => by linarith⟩,
        fun hne heq => hne.1 (by linarith)⟩
  · refine ⟨?_, ?_, ?_, ?_⟩ <;> dsimp only [ExtendedMantissa.shiftRightOne]
    · linarith
    · linarith
    · exact iff_of_true (by simp [hlast]) (by linarith)
    · rw [hinexact]
      exact ⟨fun hne => ⟨fun heq => by linarith, fun heq => hne (by linarith)⟩,
        fun hne heq => hne.2 (by linarith)⟩

/-- Any number of halvings leaves the mantissa and its two bits right. -/
theorem Shows.shiftRight (h : Shows em x) (k : ℕ) : Shows (em >>> k) (x / 2 ^ k) := by
  induction k with
  | zero =>
      rw [pow_zero, div_one]
      exact h
  | succ k ih =>
      change Shows (ExtendedMantissa.shiftRightOne (em >>> k)) _
      rw [pow_succ, ← div_div]
      exact ih.shiftRightOne

/-- A fraction below one, and how it compares with a half, say what is lost. -/
theorem shows_inexact {f : ℚ} (hpos : 0 < f) (hlt : f < 1) (m : ℕ) :
    Shows (.ofMantissaAndAccuracy m (.inexact (compare f (1 / 2)))) (m + f) := by
  rcases lt_trichotomy f (1 / 2) with h | h | h
  · rw [compare_lt_iff_lt.2 h]
    refine ⟨?_, ?_, iff_of_false Bool.false_ne_true ?_, iff_of_true rfl ⟨?_, ?_⟩⟩ <;>
      dsimp only [ExtendedMantissa.ofMantissaAndAccuracy] <;> linarith
  · rw [compare_eq_iff_eq.2 h]
    refine ⟨?_, ?_, iff_of_true rfl ?_, iff_of_false Bool.false_ne_true fun hne => hne.2 ?_⟩ <;>
      dsimp only [ExtendedMantissa.ofMantissaAndAccuracy] <;> linarith
  · rw [compare_gt_iff_gt.2 h]
    refine ⟨?_, ?_, iff_of_true rfl ?_, iff_of_true rfl ⟨?_, ?_⟩⟩ <;>
      dsimp only [ExtendedMantissa.ofMantissaAndAccuracy] <;> linarith

/-- The rest of a division says what is lost. -/
theorem shows_quotient (hb : 0 < b) :
    Shows (.ofMantissaAndAccuracy (a / b) (accuracyOfFraction (a % b) b)) (a / b : ℚ) := by
  have hpos : (0 : ℚ) < b := Nat.cast_pos.2 hb
  have hdiv : (a / b : ℚ) = (a / b : ℕ) + (a % b : ℕ) / b := by
    rw [div_eq_iff hpos.ne', add_mul, div_mul_cancel₀ _ hpos.ne', mul_comm]
    exact_mod_cast (Nat.div_add_mod a b).symm
  have hrest : ((a % b : ℕ) : ℚ) / b < 1 := by
    rw [div_lt_one hpos]
    exact_mod_cast Nat.mod_lt a hb
  have hhalf : compare (2 * (a % b)) b = compare ((a % b : ℕ) / b : ℚ) (1 / 2) := by
    rcases lt_trichotomy (2 * (a % b)) b with h | h | h
    · rw [compare_lt_iff_lt.2 h, eq_comm, compare_lt_iff_lt, div_lt_div_iff₀ hpos two_pos]
      exact_mod_cast (by omega : a % b * 2 < 1 * b)
    · rw [compare_eq_iff_eq.2 h, eq_comm, compare_eq_iff_eq, div_eq_div_iff hpos.ne' two_ne_zero]
      exact_mod_cast (by omega : a % b * 2 = 1 * b)
    · rw [compare_gt_iff_gt.2 h, eq_comm, compare_gt_iff_gt,
        div_lt_div_iff₀ two_pos hpos]
      exact_mod_cast (by omega : 1 * b < a % b * 2)
  rw [hdiv]
  rcases Nat.eq_zero_or_pos (a % b) with hzero | hrestpos
  · rw [accuracyOfFraction, if_pos hzero, hzero, Nat.cast_zero, zero_div, add_zero]
    exact shows_exact _
  · rw [accuracyOfFraction, if_neg (Nat.ne_of_gt hrestpos), hhalf]
    exact shows_inexact (div_pos (Nat.cast_pos.2 hrestpos) hpos) hrest _

end Shows

/-! ### Rounding -/

/-- A fraction far from both ends of what doubles can hold. -/
structure Ordinary (q : ℚ) : Prop where
  lower : 2 ^ (-1000 : ℤ) ≤ q
  upper : q ≤ 2 ^ (1000 : ℤ)

section Rounding

variable {q x : ℚ} {m : ℕ} {e : ℤ} {s : Sign} {acc : Accuracy}

/-- An ordinary number is positive. -/
theorem Ordinary.pos (h : Ordinary q) : 0 < q :=
  lt_of_lt_of_le (two_zpow_pos _) h.lower

/-- The last digit of an ordinary number is far from both ends of the exponents. -/
theorem Ordinary.lastDigit_bounds (h : Ordinary q) : -1052 ≤ lastDigit q ∧ lastDigit q ≤ 948 := by
  have hlower : -1000 ≤ Int.log 2 q := (Int.zpow_le_iff_le_log one_lt_two h.pos).1 h.lower
  have hupper : Int.log 2 q < 1001 :=
    (Int.lt_zpow_iff_log_lt one_lt_two h.pos).1
      (lt_of_le_of_lt h.upper (zpow_lt_zpow_right₀ one_lt_two (by decide)))
  rw [lastDigit]
  omega

/-- Rounding leaves 53 digits, with a zero behind them if it carries into a new first digit. -/
theorem exists_normal (hlower : 2 ^ 52 ≤ m) (hupper : m ≤ 2 ^ 53) :
    ∃ m' j, Normal m' ∧ j ≤ 1 ∧ m = m' * 2 ^ j := by
  rcases hupper.lt_or_eq with hlt | rfl
  · exact ⟨m, 0, ⟨hlower, hlt⟩, Nat.zero_le 1, (Nat.mul_one m).symm⟩
  · exact ⟨2 ^ 52, 1, ⟨le_rfl, by decide⟩, le_rfl, rfl⟩

/-- The accuracy does not touch the mantissa. -/
theorem mantissa_ofMantissaAndAccuracy (m : ℕ) (acc : Accuracy) :
    (ExtendedMantissa.ofMantissaAndAccuracy m acc).mantissa = m := by
  rcases acc with _ | _ | _ | _ <;> rfl

/-- A unit that is `2 ^ k` times as large goes in `2 ^ k` times less often. -/
theorem units_shift (x : ℚ) (e : ℤ) (k : ℕ) : x * 2 ^ e / 2 ^ (e + k) = x / 2 ^ k := by
  rw [zpow_add₀ two_ne_zero, zpow_natCast, mul_comm, mul_div_mul_left _ _ (two_zpow_pos e).ne']

/-- The digits beyond the 53rd are a fraction of its unit. -/
theorem lastDigit_eq_of_shows (h : Shows (.ofMantissaAndAccuracy m acc) x) (hm : 2 ^ 52 ≤ m) :
    lastDigit (x * 2 ^ e) = e + (m.log2 - 52 : ℕ) := by
  have hlower := h.lower
  have hupper := h.upper
  rw [mantissa_ofMantissaAndAccuracy] at hlower hupper
  have hlog : 52 ≤ m.log2 := (Nat.le_log2 (by omega)).2 hm
  obtain ⟨hfirst, hlast⟩ := (Nat.log2_eq_iff (by omega)).1 (rfl : m.log2 = m.log2)
  have hfirst' : (2 : ℚ) ^ 52 * 2 ^ (m.log2 - 52) ≤ m := by
    rw [← pow_add, Nat.add_sub_cancel' hlog]
    exact_mod_cast hfirst
  have hlast' : (m : ℚ) + 1 ≤ 2 ^ 53 * 2 ^ (m.log2 - 52) := by
    rw [← pow_add, show 53 + (m.log2 - 52) = m.log2 + 1 by omega]
    exact_mod_cast hlast
  have hunit : (0 : ℚ) < 2 ^ (m.log2 - 52) := pow_pos two_pos _
  have hx : 0 < x := lt_of_lt_of_le (lt_of_lt_of_le (by positivity) hfirst') hlower
  rw [lastDigit_eq_iff (mul_pos hx (two_zpow_pos e)), units_shift, le_div_iff₀ hunit,
    div_lt_iff₀ hunit]
  exact ⟨hfirst'.trans hlower, hupper.trans_le hlast'⟩

/-- The digits that are left after rounding. -/
theorem roundWithAccuracy_eq (h : Shows (.ofMantissaAndAccuracy m acc) x) (hm : 2 ^ 52 ≤ m)
    (hord : Ordinary (x * 2 ^ e)) :
    ∃ m' e', ∃ hn : Normal m', Ranged e' ∧
      roundWithAccuracy Format.binary64 s m e acc = .finite s m' e' hn.pos ∧
      m' * 2 ^ e' = nearest (x * 2 ^ e) := by
  have hdigit : lastDigit (x * 2 ^ e) = e + (m.log2 - 52 : ℕ) := lastDigit_eq_of_shows h hm
  obtain ⟨hleast, hmost⟩ := hord.lastDigit_bounds
  obtain ⟨hlower, hupper⟩ := units_bounds hord.pos
  rw [hdigit] at hleast hmost hlower hupper
  generalize hk : m.log2 - 52 = k at *
  rw [units_shift] at hlower hupper
  -- the first shift leaves 53 digits and what the bits tell of the others
  have hrounded := (h.shiftRight k).roundedMantissa_eq
  obtain ⟨m', j, hn, hj, hdigits⟩ := exists_normal
    (le_roundEven (x := x / 2 ^ k) (n := 2 ^ 52) (by exact_mod_cast hlower))
    (roundEven_le (by exact_mod_cast hupper.le))
  have hfirst := shiftToTargetExponent_digits acc (e := e) hm (by rw [hk]; omega)
  -- and the second one moves out the zero behind a carry
  have hsecond := shiftToTargetExponent_zeros hn (e := e + k + j) j (by omega)
  rw [Int.add_sub_cancel, ← hdigits] at hsecond
  rw [hk] at hfirst
  refine ⟨m', e + k + j, hn, ⟨by omega, by omega⟩, ?_, ?_⟩
  · simp only [roundWithAccuracy, hfirst, hrounded, hsecond, Nat.ne_of_gt hn.pos, dite_false]
  · rw [nearest, hdigit, units_shift, hdigits, zpow_add₀ two_ne_zero _ (j : ℤ), zpow_natCast]
    push_cast
    ring

end Rounding

/-! ### What doubles hold -/

/-- A double holds a positive fraction with 53 digits. -/
def Holds (a : Float) (u : ℚ) : Prop :=
  ∃ m e, ∃ h : Normal m, a.toModel.unpack = .finite .positive m e h.pos ∧ m * 2 ^ e = u

section Holds

variable {a b : Float} {u v x : ℚ} {n m m₁ m₂ : ℕ} {e e₁ e₂ : ℤ} {acc : Accuracy}

/-- Counts are held as they are. -/
theorem holds_ofCount (hpos : 0 < n) (hlt : n < 2 ^ 53) : Holds (ofCount n) n := by
  refine ⟨_, _, normal_lift hpos hlt, unpack_ofCount hpos hlt, ?_⟩
  rw [zpow_neg, zpow_natCast]
  push_cast
  rw [mul_inv_cancel_right₀ (pow_pos two_pos _).ne']

/-- What is rounded is held as the nearest number with 53 digits. -/
theorem holds_of_round
    (ha : a.toModel =
      Float.Model.pack (roundWithAccuracy Format.binary64 .positive m e acc))
    (h : Shows (.ofMantissaAndAccuracy m acc) x) (hm : 2 ^ 52 ≤ m) (hord : Ordinary (x * 2 ^ e)) :
    Holds a (nearest (x * 2 ^ e)) := by
  obtain ⟨m', e', hn, he, hround, hvalue⟩ :=
    roundWithAccuracy_eq (s := .positive) h hm hord
  refine ⟨m', e', hn, ?_, hvalue⟩
  rw [ha, hround, unpack_pack hn he]

/-- Products are rounded to the nearest. -/
theorem Holds.product (ha : Holds a u) (hb : Holds b v) (hord : Ordinary (u * v)) :
    Holds (product a b) (nearest (u * v)) := by
  obtain ⟨m₁, e₁, h₁, hunpack₁, rfl⟩ := ha
  obtain ⟨m₂, e₂, h₂, hunpack₂, rfl⟩ := hb
  have hvalue : (m₁ * 2 ^ e₁ * (m₂ * 2 ^ e₂) : ℚ) = (m₁ * m₂ : ℕ) * 2 ^ (e₁ + e₂) := by
    rw [zpow_add₀ two_ne_zero, Nat.cast_mul]
    ring
  have hproduct : (Scalar.product a b : Float).toModel = Float.Model.pack
      (roundWithAccuracy Format.binary64 .positive (m₁ * m₂) (e₁ + e₂) .exact) := by
    change Float.Model.pack
      (UnpackedFloat.mul Format.binary64 a.toModel.unpack b.toModel.unpack) = _
    rw [hunpack₁, hunpack₂]
    rfl
  rw [hvalue] at hord ⊢
  exact holds_of_round hproduct (shows_exact _) (h₁.lower.trans (Nat.le_mul_of_pos_right _ h₂.pos))
    hord

/-- Quotients are rounded to the nearest. -/
theorem Holds.quotient (ha : Holds a u) (hb : Holds b v) (hord : Ordinary (u / v)) :
    Holds (quotient a b) (nearest (u / v)) := by
  obtain ⟨m₁, e₁, h₁, hunpack₁, rfl⟩ := ha
  obtain ⟨m₂, e₂, h₂, hunpack₂, rfl⟩ := hb
  have hm₂ : (0 : ℚ) < m₂ := Nat.cast_pos.2 h₂.pos
  have hvalue : (m₁ * 2 ^ e₁ / (m₂ * 2 ^ e₂) : ℚ) =
      ((m₁ * 2 ^ 53 : ℕ) / m₂ : ℚ) * 2 ^ (e₁ - e₂ - 53) := by
    rw [sub_sub, zpow_sub₀ two_ne_zero, zpow_add₀ two_ne_zero, Nat.cast_mul, Nat.cast_pow,
      Nat.cast_ofNat]
    field_simp
  have hexponent : -1021 ≤ e₁ - e₂ := by
    have hless : m₁ < 2 * m₂ := by
      have := h₁.upper
      have := h₂.lower
      omega
    have hratio : (m₁ / m₂ : ℚ) < 2 := by
      rw [div_lt_iff₀ hm₂]
      exact_mod_cast hless
    have hpower : (2 : ℚ) ^ (-1000 : ℤ) < 2 ^ (e₁ - e₂ + 1) :=
      calc (2 : ℚ) ^ (-1000 : ℤ) ≤ m₁ * 2 ^ e₁ / (m₂ * 2 ^ e₂) := hord.lower
        _ = m₁ / m₂ * 2 ^ (e₁ - e₂) := by rw [mul_div_mul_comm, zpow_sub₀ two_ne_zero]
        _ < 2 * 2 ^ (e₁ - e₂) := mul_lt_mul_of_pos_right hratio (two_zpow_pos _)
        _ = 2 ^ (e₁ - e₂ + 1) := by rw [zpow_add_one₀ two_ne_zero, mul_comm]
    have := (zpow_lt_zpow_iff_right₀ one_lt_two).1 hpower
    omega
  have hquotient : (Scalar.quotient a b : Float).toModel = Float.Model.pack
      (roundWithAccuracy Format.binary64 .positive (m₁ * 2 ^ 53 / m₂) (e₁ - e₂ - 53)
        (accuracyOfFraction (m₁ * 2 ^ 53 % m₂) m₂)) := by
    change Float.Model.pack
      (UnpackedFloat.div Format.binary64 a.toModel.unpack b.toModel.unpack) = _
    rw [hunpack₁, hunpack₂, UnpackedFloat.div, divCore_eq h₁ h₂ hexponent]
    rfl
  have hdigits : 2 ^ 52 ≤ m₁ * 2 ^ 53 / m₂ := by
    rw [Nat.le_div_iff_mul_le h₂.pos]
    have := h₁.lower
    have := h₂.upper
    omega
  rw [hvalue] at hord ⊢
  exact holds_of_round hquotient (shows_quotient h₂.pos) hdigits hord

/-- A greater exponent outweighs all digits. -/
theorem digits_lt (h₁ : Normal m₁) (h₂ : Normal m₂) (he : e₁ < e₂) :
    (m₁ * 2 ^ e₁ : ℚ) < m₂ * 2 ^ e₂ :=
  calc (m₁ * 2 ^ e₁ : ℚ) < 2 ^ 53 * 2 ^ e₁ :=
        mul_lt_mul_of_pos_right (by exact_mod_cast h₁.upper) (two_zpow_pos e₁)
    _ = 2 ^ 52 * 2 ^ (e₁ + 1) := by rw [zpow_add_one₀ two_ne_zero]; ring
    _ ≤ 2 ^ 52 * 2 ^ e₂ :=
        mul_le_mul_of_nonneg_left (zpow_le_zpow_right₀ one_le_two he) (by norm_num)
    _ ≤ m₂ * 2 ^ e₂ :=
        mul_le_mul_of_nonneg_right (by exact_mod_cast h₂.lower) (two_zpow_pos e₂).le

/-- Numbers with 53 digits are compared by their exponents, and then by their digits. -/
theorem compare_digits (h₁ : Normal m₁) (h₂ : Normal m₂) :
    (compare e₁ e₂).then (compare m₁ m₂) = compare (m₁ * 2 ^ e₁ : ℚ) (m₂ * 2 ^ e₂) := by
  rcases lt_trichotomy e₁ e₂ with he | rfl | he
  · rw [compare_lt_iff_lt.2 he, compare_lt_iff_lt.2 (digits_lt h₁ h₂ he)]
    rfl
  · have hunit := two_zpow_pos e₁
    rw [compare_eq_iff_eq.2 rfl, Ordering.then, eq_comm]
    rcases lt_trichotomy m₁ m₂ with hm | rfl | hm
    · rw [compare_lt_iff_lt.2 hm, compare_lt_iff_lt]
      exact mul_lt_mul_of_pos_right (Nat.cast_lt.2 hm) hunit
    · rw [compare_eq_iff_eq.2 rfl, compare_eq_iff_eq.2 rfl]
    · rw [compare_gt_iff_gt.2 hm, compare_gt_iff_gt]
      exact mul_lt_mul_of_pos_right (Nat.cast_lt.2 hm) hunit
  · rw [compare_gt_iff_gt.2 he, compare_gt_iff_gt.2 (digits_lt h₂ h₁ he)]
    rfl

/-- Doubles compare like the numbers that they hold. -/
theorem Holds.compare_eq (ha : Holds a u) (hb : Holds b v) :
    a.toModel.unpack.compare b.toModel.unpack = some (compare u v) := by
  obtain ⟨m₁, e₁, h₁, hunpack₁, rfl⟩ := ha
  obtain ⟨m₂, e₂, h₂, hunpack₂, rfl⟩ := hb
  rw [hunpack₁, hunpack₂, ← compare_digits h₁ h₂]
  rfl

/-- So one double is below another if its number is. -/
theorem Holds.lt_iff (ha : Holds a u) (hb : Holds b v) : a < b ↔ u < v := by
  have hless : a < b ↔ (a.toModel.unpack.compare b.toModel.unpack == some .lt) = true :=
    decide_eq_true_iff
  rw [hless, ha.compare_eq hb, beq_iff_eq, Option.some_inj, compare_lt_iff_lt]

/-- A double that holds a number is a number. -/
theorem Holds.isNaN_eq (ha : Holds a u) : a.isNaN = false := by
  obtain ⟨m, e, h, hunpack, -⟩ := ha
  change a.toModel.unpack.isNaN = false
  rw [hunpack]
  rfl

/-- The smaller of two doubles holds the smaller number. -/
theorem Holds.lesser (ha : Holds a u) (hb : Holds b v) : Holds (lesser a b) (min u v) := by
  change Holds (lesserFloat a b) _
  rw [lesserFloat, ha.isNaN_eq, hb.isNaN_eq, if_neg Bool.false_ne_true,
    if_neg Bool.false_ne_true]
  split
  next hlt =>
    rw [min_eq_right ((hb.lt_iff ha).1 hlt).le]
    exact hb
  next hge =>
    rw [min_eq_left (not_lt.1 (mt (hb.lt_iff ha).2 hge))]
    exact ha

/-- The greater of two doubles holds the greater number. -/
theorem Holds.greater (ha : Holds a u) (hb : Holds b v) : Holds (greater a b) (max u v) := by
  change Holds (greaterFloat a b) _
  rw [greaterFloat, ha.isNaN_eq, hb.isNaN_eq, if_neg Bool.false_ne_true,
    if_neg Bool.false_ne_true]
  split
  next hlt =>
    rw [max_eq_right ((ha.lt_iff hb).1 hlt).le]
    exact hb
  next hge =>
    rw [max_eq_left (not_lt.1 (mt (ha.lt_iff hb).2 hge))]
    exact ha

/-- A double is brought to a whole number by dropping its fraction. -/
theorem roundToInt_eq (m : ℕ) (e : ℤ) :
    UnpackedFloat.roundToInt .positive m e = ⌊(m * 2 ^ e : ℚ)⌋₊ := by
  have hshift : (0 - (e - ((e - 0).toNat : ℤ))).toNat = (-e).toNat := by omega
  -- one of the two shifts does nothing, as the exponent is on one side of zero
  have hvalue : ((m * 2 ^ (e - 0).toNat : ℕ) / 2 ^ (-e).toNat : ℚ) = m * 2 ^ e := by
    rw [Nat.cast_mul, Nat.cast_pow, Nat.cast_ofNat, mul_div_assoc, ← zpow_natCast,
      ← zpow_natCast, ← zpow_sub₀ two_ne_zero]
    congr 2
    omega
  have hfloor := ((shows_exact (m * 2 ^ (e - 0).toNat)).shiftRight (-e).toNat).floor_eq
  rw [hvalue] at hfloor
  rw [UnpackedFloat.roundToInt, decreaseExponent]
  dsimp only
  rw [shiftToExponent, hshift, Nat.shiftLeft_eq, hfloor]
  rfl

/-- The whole part of a double is that of the number it holds. -/
theorem Holds.floorWord_eq (ha : Holds a u) : floorWord a = UInt32.ofNatClamp ⌊u⌋₊ := by
  obtain ⟨m, e, h, hunpack, rfl⟩ := ha
  change UInt32.ofNatClamp (a.toModel.unpack.toInt _ _).toNat = _
  rw [hunpack, UnpackedFloat.toInt, roundToInt_eq, Int.toNat_natCast]

end Holds

end WidgetStage.Double
