import Mathlib.Algebra.Order.Round
import Mathlib.Data.Int.Log
import Mathlib.Data.Rat.Floor
import Mathlib.Tactic.FieldSimp
import Mathlib.Tactic.Linarith
import Mathlib.Tactic.NormNum
import Mathlib.Tactic.Positivity
import Mathlib.Tactic.Ring

/-!
# Rounding to 53 binary digits

A positive fraction is cut to 53 binary digits: it is measured in units of its 53rd digit, and the
number of units is rounded to the nearest whole number, to the even one if two are equally near.
This does not change the order of fractions, and moves none of them by more than half a unit, that
is by one part in 2 ^ 53. Whole numbers with no more than 53 digits stay what they are.

## Main results

* `roundEven`: the nearest whole number.
* `nearest`: the nearest number with 53 binary digits.
* `nearest_mono`: rounding keeps the order.
* `abs_nearest_sub_le`: how far a number is moved.
* `nearest_natCast`: whole numbers that are not moved.
-/

namespace WidgetStage

/-! ### Whole numbers -/

/-- The nearest whole number, and the even one of two that are equally near. -/
def roundEven (x : ℚ) : ℕ :=
  if x - ⌊x⌋₊ < 1 / 2 then ⌊x⌋₊
  else if 1 / 2 < x - ⌊x⌋₊ then ⌊x⌋₊ + 1
  else ⌊x⌋₊ + ⌊x⌋₊ % 2

section RoundEven

variable {x y : ℚ} {n : ℕ}

/-- What is rounded is not moved by more than a half. -/
theorem abs_roundEven_sub_le (hx : 0 ≤ x) : |(roundEven x : ℚ) - x| ≤ 1 / 2 := by
  have hlower := Nat.floor_le hx
  have hupper := Nat.lt_floor_add_one x
  rw [roundEven]
  split
  · rw [abs_le]
    constructor <;> linarith
  split
  · push_cast
    rw [abs_le]
    constructor <;> linarith
  · rcases Nat.mod_two_eq_zero_or_one ⌊x⌋₊ with h | h <;>
    · rw [h, abs_le]
      push_cast
      constructor <;> linarith

/-- Rounding does not go below a whole number that lies below. -/
theorem le_roundEven (h : (n : ℚ) ≤ x) : n ≤ roundEven x := by
  have hfloor : n ≤ ⌊x⌋₊ := Nat.le_floor h
  rw [roundEven]
  split
  · exact hfloor
  split <;> omega

/-- Rounding does not go above a whole number that lies above. -/
theorem roundEven_le (h : x ≤ n) : roundEven x ≤ n := by
  rcases h.lt_or_eq with hlt | rfl
  · rcases lt_or_ge x 0 with hneg | hpos
    · have hzero : ⌊x⌋₊ = 0 := Nat.floor_of_nonpos hneg.le
      rw [roundEven, hzero, Nat.cast_zero, sub_zero, if_pos (by linarith)]
      exact Nat.zero_le n
    · have hfloor : ⌊x⌋₊ < n := (Nat.floor_lt hpos).2 hlt
      rw [roundEven]
      split
      · exact hfloor.le
      split <;> omega
  · rw [roundEven, Nat.floor_natCast, sub_self, if_pos (by norm_num)]

/-- Whole numbers are not moved. -/
theorem roundEven_natCast (n : ℕ) : roundEven n = n :=
  Nat.le_antisymm (roundEven_le le_rfl) (le_roundEven le_rfl)

/-- Rounding keeps the order. -/
theorem roundEven_mono (h : x ≤ y) : roundEven x ≤ roundEven y := by
  rcases (Nat.floor_mono h).lt_or_eq with hlt | heq
  · have hy : 0 ≤ y := by
      by_contra hneg
      rw [Nat.floor_of_nonpos (not_le.1 hneg).le] at hlt
      exact Nat.not_lt_zero _ hlt
    have hx : x ≤ (⌊x⌋₊ + 1 : ℕ) := by
      push_cast
      exact (Nat.lt_floor_add_one x).le
    calc roundEven x ≤ ⌊x⌋₊ + 1 := roundEven_le hx
      _ ≤ ⌊y⌋₊ := hlt
      _ ≤ roundEven y := le_roundEven (Nat.floor_le hy)
  · -- between the same two whole numbers, the way of both depends on the half between them
    rw [roundEven, roundEven, heq]
    split_ifs <;> first | omega | linarith

end RoundEven

/-! ### Binary digits -/

/-- The exponent of the 53rd binary digit of a positive number. -/
def lastDigit (q : ℚ) : ℤ :=
  Int.log 2 q - 52

/-- The nearest number with 53 binary digits, and of two that are equally near the one whose last
digit is zero. -/
def nearest (q : ℚ) : ℚ :=
  roundEven (q / 2 ^ lastDigit q) * 2 ^ lastDigit q

section Nearest

variable {q u v : ℚ} {n : ℕ} {e : ℤ}

/-- Powers of two are positive, whatever the exponent. -/
theorem two_zpow_pos (e : ℤ) : (0 : ℚ) < 2 ^ e :=
  zpow_pos two_pos e

/-- In units of its 53rd digit a number has 53 digits. -/
theorem lastDigit_eq_iff (hq : 0 < q) :
    lastDigit q = e ↔ 2 ^ 52 ≤ q / 2 ^ e ∧ q / 2 ^ e < 2 ^ 53 := by
  have hlower : (2 : ℚ) ^ 52 ≤ q / 2 ^ e ↔ e + 52 ≤ Int.log 2 q := by
    rw [le_div_iff₀ (two_zpow_pos e), ← zpow_natCast, ← zpow_add₀ two_ne_zero,
      ← Int.zpow_le_iff_le_log one_lt_two hq, add_comm]
    rfl
  have hupper : q / 2 ^ e < (2 : ℚ) ^ 53 ↔ Int.log 2 q < e + 53 := by
    rw [div_lt_iff₀ (two_zpow_pos e), ← zpow_natCast, ← zpow_add₀ two_ne_zero,
      ← Int.lt_zpow_iff_log_lt one_lt_two hq, add_comm]
    rfl
  rw [hlower, hupper, lastDigit]
  omega

/-- Counted in units of its last digit, a number has 53 digits before the point. -/
theorem units_bounds (hq : 0 < q) :
    2 ^ 52 ≤ q / 2 ^ lastDigit q ∧ q / 2 ^ lastDigit q < 2 ^ 53 :=
  (lastDigit_eq_iff hq).1 rfl

/-- A whole number of units is not moved. -/
theorem nearest_of_whole (h : q / 2 ^ lastDigit q = n) : nearest q = q := by
  rw [nearest, h, roundEven_natCast, ← h, div_mul_cancel₀ _ (two_zpow_pos _).ne']

/-- Rounding may add a digit, but does not take one away. -/
theorem nearest_bounds (hq : 0 < q) :
    2 ^ 52 * 2 ^ lastDigit q ≤ nearest q ∧ nearest q ≤ 2 ^ 53 * 2 ^ lastDigit q := by
  obtain ⟨hlower, hupper⟩ := units_bounds hq
  have hfirst : (2 ^ 52 : ℕ) ≤ roundEven (q / 2 ^ lastDigit q) :=
    le_roundEven (by exact_mod_cast hlower)
  have hlast : roundEven (q / 2 ^ lastDigit q) ≤ 2 ^ 53 :=
    roundEven_le (by exact_mod_cast hupper.le)
  have hunit := (two_zpow_pos (lastDigit q)).le
  exact ⟨mul_le_mul_of_nonneg_right (by exact_mod_cast hfirst) hunit,
    mul_le_mul_of_nonneg_right (by exact_mod_cast hlast) hunit⟩

/-- What is nearest to a positive number is positive. -/
theorem nearest_pos (hq : 0 < q) : 0 < nearest q :=
  lt_of_lt_of_le (mul_pos (by norm_num) (two_zpow_pos _)) (nearest_bounds hq).1

/-- Rounding keeps the order. -/
theorem nearest_mono (hu : 0 < u) (h : u ≤ v) : nearest u ≤ nearest v := by
  have hv := lt_of_lt_of_le hu h
  have hdigit : lastDigit u ≤ lastDigit v :=
    Int.sub_le_sub_right (Int.log_mono_right hu h) 52
  rcases hdigit.lt_or_eq with hlt | heq
  · -- the greatest of the smaller numbers is the least of the greater ones
    calc nearest u ≤ 2 ^ 53 * 2 ^ lastDigit u := (nearest_bounds hu).2
      _ = 2 ^ 52 * 2 ^ (lastDigit u + 1) := by rw [zpow_add_one₀ two_ne_zero]; ring
      _ ≤ 2 ^ 52 * 2 ^ lastDigit v :=
        mul_le_mul_of_nonneg_left (zpow_le_zpow_right₀ one_le_two hlt) (by norm_num)
      _ ≤ nearest v := (nearest_bounds hv).1
  · have hunits : u / 2 ^ lastDigit v ≤ v / 2 ^ lastDigit v :=
      div_le_div_of_nonneg_right h (two_zpow_pos _).le
    rw [nearest, nearest, heq]
    exact mul_le_mul_of_nonneg_right (Nat.cast_le.2 (roundEven_mono hunits)) (two_zpow_pos _).le

/-- Of two numbers, the lesser one is nearest to the lesser one. -/
theorem nearest_min (hu : 0 < u) (hv : 0 < v) :
    nearest (min u v) = min (nearest u) (nearest v) := by
  rcases le_total u v with h | h
  · rw [min_eq_left h, min_eq_left (nearest_mono hu h)]
  · rw [min_eq_right h, min_eq_right (nearest_mono hv h)]

/-- Of two numbers, the greater one is nearest to the greater one. -/
theorem nearest_max (hu : 0 < u) (hv : 0 < v) :
    nearest (max u v) = max (nearest u) (nearest v) := by
  rcases le_total u v with h | h
  · rw [max_eq_right h, max_eq_right (nearest_mono hu h)]
  · rw [max_eq_left h, max_eq_left (nearest_mono hv h)]

/-- Whole numbers with no more than 53 digits are not moved. -/
theorem nearest_natCast (hpos : 0 < n) (hlt : n < 2 ^ 53) : nearest n = n := by
  have hn : (0 : ℚ) < n := Nat.cast_pos.2 hpos
  -- the 53rd digit does not stand before the point
  have hdigit : lastDigit n ≤ 0 := by
    by_contra hpositive
    have hlower := (units_bounds hn).1
    rw [le_div_iff₀ (two_zpow_pos _)] at hlower
    have hunit : (2 : ℚ) ^ (1 : ℤ) ≤ 2 ^ lastDigit n :=
      zpow_le_zpow_right₀ one_le_two (by omega)
    have hsize : (n : ℚ) < 2 ^ 53 := by exact_mod_cast hlt
    rw [zpow_one] at hunit
    linarith
  obtain ⟨k, hk⟩ := Int.eq_ofNat_of_zero_le (neg_nonneg.2 hdigit)
  refine nearest_of_whole (n := n * 2 ^ k) ?_
  rw [← neg_neg (lastDigit n), hk, zpow_neg, zpow_natCast, div_inv_eq_mul]
  push_cast
  rfl

/-- What is rounded is not moved by more than one part in 2 ^ 53. -/
theorem abs_nearest_sub_le (hq : 0 < q) : |nearest q - q| ≤ q / 2 ^ 53 := by
  have hunit := two_zpow_pos (lastDigit q)
  have hunits := (units_bounds hq).1
  have hsize : 2 ^ 52 * 2 ^ lastDigit q ≤ q := (le_div_iff₀ hunit).1 hunits
  have hround := abs_roundEven_sub_le (le_trans (by norm_num) hunits)
  calc |nearest q - q|
      = |(roundEven (q / 2 ^ lastDigit q) - q / 2 ^ lastDigit q) * 2 ^ lastDigit q| := by
        rw [nearest, sub_mul, div_mul_cancel₀ _ hunit.ne']
    _ = |(roundEven (q / 2 ^ lastDigit q) : ℚ) - q / 2 ^ lastDigit q| * 2 ^ lastDigit q := by
        rw [abs_mul, abs_of_pos hunit]
    _ ≤ 1 / 2 * 2 ^ lastDigit q := mul_le_mul_of_nonneg_right hround hunit.le
    _ ≤ q / 2 ^ 53 := by linarith

end Nearest

end WidgetStage
