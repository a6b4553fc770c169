import Mathlib.Data.Nat.Cast.Field
import Mathlib.Algebra.Order.Floor.Semifield
import WidgetStage.Proofs.Image.Rounding

/-!
# Products with a rounded factor

A length is scaled in two steps, and both of them round: the factor is rounded first, and then the
product of the length with what has come out. Together they move the product by no more than one
part in 2 ^ 51, and its whole part by no more than one.

If the exact product is no whole number, it keeps away from whole numbers by a part of its
denominator. With numbers that are not too great this is more than rounding can move it, so that its
whole part stays what it is. A whole product has nothing to spare below it. It stays what it is if
it is not rounded down, and else one is lost.

## Main results

* `twiceRounded`: a product that is rounded twice.
* `abs_twiceRounded_sub_le`: how far it is moved.
* `floor_twiceRounded_of_whole`: when a whole product is lost.
* `floor_twiceRounded_eq_or_whole`: that no other product is.
* `floor_twiceRounded_eq_zero_iff`: when nothing is left.
-/

namespace WidgetStage

/-- The product of a length and a factor, of which first the factor is rounded and then the
product. -/
def twiceRounded (n : ℕ) (q : ℚ) : ℚ :=
  nearest (n * nearest q)

section TwiceRounded

variable {n k top : ℕ} {q r x y : ℚ}

/-- Rounding twice keeps a product positive. -/
theorem twiceRounded_pos (hn : 0 < n) (hq : 0 < q) : 0 < twiceRounded n q :=
  nearest_pos (mul_pos (Nat.cast_pos.2 hn) (nearest_pos hq))

/-- Both roundings together move a product by no more than one part in 2 ^ 51. -/
theorem abs_twiceRounded_sub_le (hn : 0 < n) (hq : 0 < q) :
    |twiceRounded n q - n * q| ≤ n * q / 2 ^ 51 := by
  have hn' : (0 : ℚ) < n := Nat.cast_pos.2 hn
  have hnq := mul_pos hn' hq
  have hfactor : |n * nearest q - n * q| ≤ n * q / 2 ^ 53 :=
    calc |n * nearest q - n * q| = n * |nearest q - q| := by
          rw [← mul_sub, abs_mul, abs_of_pos hn']
      _ ≤ n * (q / 2 ^ 53) := mul_le_mul_of_nonneg_left (abs_nearest_sub_le hq) hn'.le
      _ = n * q / 2 ^ 53 := (mul_div_assoc _ _ _).symm
  have hdouble : n * nearest q ≤ 2 * (n * q) := by
    linarith [(abs_le.1 hfactor).2]
  have hproduct : |twiceRounded n q - n * nearest q| ≤ n * nearest q / 2 ^ 53 :=
    abs_nearest_sub_le (mul_pos hn' (nearest_pos hq))
  calc |twiceRounded n q - n * q|
      ≤ |twiceRounded n q - n * nearest q| + |n * nearest q - n * q| := abs_sub_le _ _ _
    _ ≤ n * nearest q / 2 ^ 53 + n * q / 2 ^ 53 := add_le_add hproduct hfactor
    _ ≤ n * q / 2 ^ 51 := by linarith

/-- Rounding twice keeps products in order. -/
theorem twiceRounded_mono (hn : 0 < n) (hq : 0 < q) (h : q ≤ r) :
    twiceRounded n q ≤ twiceRounded n r :=
  nearest_mono (mul_pos (Nat.cast_pos.2 hn) (nearest_pos hq))
    (mul_le_mul_of_nonneg_left (nearest_mono hq h) (Nat.cast_nonneg n))

/-- The factor one changes nothing. -/
theorem twiceRounded_one (hn : 0 < n) (hlt : n < 2 ^ 53) : twiceRounded n 1 = n := by
  have hone : nearest 1 = 1 := by exact_mod_cast nearest_natCast Nat.one_pos (by decide)
  rw [twiceRounded, hone, mul_one, nearest_natCast hn hlt]

/-! ### Whole parts -/

/-- What is moved by one part in 2 ^ 51 has its whole part changed by no more than one, if whole
parts are cut off before they are too great. -/
theorem min_floor_le (htop : top ≤ 2 ^ 50) (hy : 0 < y) (h : |x - y| ≤ y / 2 ^ 51) :
    min ⌊x⌋₊ top ≤ min ⌊y⌋₊ top + 1 ∧ min ⌊y⌋₊ top ≤ min ⌊x⌋₊ top + 1 := by
  obtain ⟨hlower, hupper⟩ := abs_le.1 h
  rcases lt_or_ge y (2 ^ 51) with hsmall | hgreat
  · have hx : 0 ≤ x := by linarith
    have hless : ⌊x⌋₊ ≤ ⌊y⌋₊ + 1 := by
      rw [← Nat.floor_add_one hy.le]
      exact Nat.floor_mono (by linarith)
    have hmore : ⌊y⌋₊ ≤ ⌊x⌋₊ + 1 := by
      rw [← Nat.floor_add_one hx]
      exact Nat.floor_mono (by linarith)
    omega
  · have hcutx : 2 ^ 50 ≤ ⌊x⌋₊ := Nat.le_floor (by
      push_cast
      linarith)
    have hcuty : 2 ^ 50 ≤ ⌊y⌋₊ := Nat.le_floor (by
      push_cast
      linarith)
    omega

/-- A whole product is lost if it is rounded down. -/
theorem floor_twiceRounded_of_whole (hn : 0 < n) (hq : 0 < q) (hk : n * q = k) (hlt : k < 2 ^ 51) :
    (⌊twiceRounded n q⌋₊ = k ∨ ⌊twiceRounded n q⌋₊ + 1 = k) ∧
      (⌊twiceRounded n q⌋₊ = k ↔ k ≤ twiceRounded n q) := by
  have hmoved := abs_twiceRounded_sub_le hn hq
  have hpos := twiceRounded_pos hn hq
  have hk' : (k : ℚ) < 2 ^ 51 := by exact_mod_cast hlt
  rw [hk] at hmoved
  obtain ⟨hlower, hupper⟩ := abs_le.1 hmoved
  generalize twiceRounded n q = t at hpos hlower hupper
  have hfloor : ⌊t⌋₊ < k + 1 := (Nat.floor_lt hpos.le).2 (by
    push_cast
    linarith)
  have hceil : k ≤ ⌊t⌋₊ + 1 := by
    rw [← Nat.floor_add_one hpos.le]
    exact Nat.le_floor (by linarith)
  refine ⟨by omega, fun heq => heq ▸ Nat.floor_le hpos.le, fun hle => ?_⟩
  have := Nat.le_floor hle
  omega

/-- A product with a fraction keeps away from whole numbers by a part of its denominator. -/
theorem floor_eq_of_sub_lt {a d : ℕ} (hd : 0 < d) (hrest : a % d ≠ 0)
    (h : |x - a / d| < 1 / d) : ⌊x⌋₊ = a / d := by
  have hd' : (0 : ℚ) < d := Nat.cast_pos.2 hd
  obtain ⟨hlower, hupper⟩ := abs_lt.1 h
  have hdivide := Nat.div_add_mod a d
  have hless := Nat.mod_lt a hd
  have hfloor : ((a / d : ℕ) : ℚ) ≤ a / d - 1 / d := by
    rw [← sub_div, le_div_iff₀ hd', le_sub_iff_add_le, mul_comm]
    exact_mod_cast (by omega : d * (a / d) + 1 ≤ a)
  have hceil : (a / d + 1 / d : ℚ) ≤ (a / d : ℕ) + 1 := by
    rw [← add_div, div_le_iff₀ hd', add_one_mul, mul_comm]
    exact_mod_cast (by omega : a + 1 ≤ d * (a / d) + d)
  exact (Nat.floor_eq_iff ((Nat.cast_nonneg _).trans (by linarith : ((a / d : ℕ) : ℚ) ≤ x))).2
    ⟨by linarith, by linarith⟩

/-- A product that is no whole number keeps its whole part, if the numbers are not too great. -/
theorem floor_twiceRounded_eq_or_whole (hn : 0 < n) (hq : 0 < q) (hsmall : n * q.num < 2 ^ 51) :
    ⌊twiceRounded n q⌋₊ = ⌊n * q⌋₊ ∨ ∃ k : ℕ, n * q = k ∧ ⌊twiceRounded n q⌋₊ + 1 = k := by
  obtain ⟨p, hp⟩ := Int.eq_ofNat_of_zero_le (Rat.num_pos.2 hq).le
  have hden : (0 : ℚ) < q.den := Nat.cast_pos.2 q.den_pos
  have hproduct : (n * q : ℚ) = (n * p : ℕ) / q.den := by
    have hnum : (q.num : ℚ) = p := by rw [hp, Int.cast_natCast]
    rw [eq_div_iff hden.ne', mul_assoc, Rat.mul_den_eq_num, hnum, Nat.cast_mul]
  have hlt : n * p < 2 ^ 51 := by
    rw [hp] at hsmall
    exact_mod_cast hsmall
  rcases Nat.eq_zero_or_pos (n * p % q.den) with hwhole | hrest
  · have hk : (n * q : ℚ) = (n * p / q.den : ℕ) := by
      rw [hproduct, Nat.cast_div (Nat.dvd_of_mod_eq_zero hwhole) hden.ne']
    have hless : n * p / q.den < 2 ^ 51 := lt_of_le_of_lt (Nat.div_le_self _ _) hlt
    obtain ⟨hkept | hlost, -⟩ := floor_twiceRounded_of_whole hn hq hk hless
    · exact .inl (by rw [hkept, hk, Nat.floor_natCast])
    · exact .inr ⟨_, hk, hlost⟩
  · have hmoved := abs_twiceRounded_sub_le hn hq
    rw [hproduct] at hmoved
    have hless : ((n * p : ℕ) : ℚ) < 2 ^ 51 := by exact_mod_cast hlt
    have hpart : ((n * p : ℕ) : ℚ) / q.den / 2 ^ 51 < 1 / q.den := by
      rw [div_right_comm]
      exact div_lt_div_of_pos_right ((div_lt_one (by positivity)).2 hless) hden
    left
    rw [floor_eq_of_sub_lt q.den_pos hrest.ne' (hmoved.trans_lt hpart), hproduct,
      Nat.floor_div_eq_div]

/-- Nothing is left if the product is less than one, or if it is one and rounded down. -/
theorem floor_twiceRounded_eq_zero_iff (hn : 0 < n) (hq : 0 < q) (hden : q.den < 2 ^ 50) :
    ⌊twiceRounded n q⌋₊ = 0 ↔ n * q < 1 ∨ n * q = 1 ∧ twiceRounded n q < 1 := by
  have hnq : 0 < n * q := mul_pos (Nat.cast_pos.2 hn) hq
  have hbelow (h : n * q < 2) : n * q.num < 2 ^ 51 := by
    have hden' : (q.den : ℚ) < 2 ^ 50 := by exact_mod_cast hden
    have hscaled : (n * q.num : ℚ) = n * q * q.den := by rw [mul_assoc, Rat.mul_den_eq_num]
    have hless : (n * q.num : ℚ) < 2 ^ 51 := by
      have := mul_lt_mul_of_pos_right h (Nat.cast_pos.2 q.den_pos : (0 : ℚ) < q.den)
      linarith
    exact_mod_cast hless
  rcases lt_trichotomy (n * q) 1 with h | h | h
  · refine iff_of_true ?_ (.inl h)
    rcases floor_twiceRounded_eq_or_whole hn hq (hbelow (by linarith)) with hkept | ⟨k, hk, hlost⟩
    · rw [hkept, Nat.floor_eq_zero]
      exact h
    · rw [hk] at h
      have : k < 1 := by exact_mod_cast h
      omega
  · rw [Nat.floor_eq_zero, h]
    exact ⟨fun hless => .inr ⟨rfl, hless⟩,
      fun hor => hor.elim (fun hless => absurd hless (lt_irrefl 1)) And.right⟩
  · refine iff_of_false ?_ fun hor => hor.elim (lt_asymm h) fun heq => h.ne heq.1.symm
    rcases lt_or_ge (n * q) 2 with hless | hmore
    · rcases floor_twiceRounded_eq_or_whole hn hq (hbelow hless) with hkept | ⟨k, hk, hlost⟩
      · rw [hkept, Nat.floor_eq_zero]
        exact lt_asymm h
      · rw [hk] at h
        have : 1 < k := by exact_mod_cast h
        omega
    · have hmoved := (abs_le.1 (abs_twiceRounded_sub_le hn hq)).1
      rw [Nat.floor_eq_zero]
      linarith

end TwiceRounded

end WidgetStage
