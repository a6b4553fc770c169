import Mathlib
import WidgetStage.Proofs.Image.Counts

/-!
# Pixel counts as doubles

A double holds 53 binary digits, so that it holds every pixel count as it is. The digits of a
positive count are moved up until the first of them is the 53rd, and the exponent says how far. In
this form a count by itself is one, and times one it is the same again: only zeros are moved in and
out at the end, and nothing is rounded.

## Main results

* `Double.unpack_ofCount`: the digits and the exponent of a count.
* the instance of `Scalar.ExactCounts` for doubles.
-/

namespace WidgetStage.Double

open Scalar
open Float.Model (Format totalExponent UnpackedFloat)
open Float.Model.UnpackedFloat (Sign Accuracy ExtendedMantissa accuracyOfFraction shiftToExponent
  shiftToTargetExponent roundWithAccuracy decreaseExponent packComponents
  unpackMantissa_packComponents unpackExponent_packComponents unpackSign_packComponents
  pack_unpack_of_valid divCore)

/-- The digits of a positive number, the first of them the 53rd. -/
structure Normal (m : Nat) : Prop where
  lower : 2 ^ 52 ≤ m
  upper : m < 2 ^ 53

variable {m n : Nat} {e : Int} {s : Sign}

namespace Normal

/-- A normal mantissa is positive, as its first digit is one. -/
theorem pos (h : Normal m) : 0 < m :=
  Nat.lt_of_lt_of_le (by decide) h.lower

/-- The first digit of a normal mantissa is digit 52. -/
theorem log2_eq (h : Normal m) : m.log2 = 52 :=
  (Nat.log2_eq_iff (Nat.ne_of_gt h.pos)).2 ⟨h.lower, h.upper⟩

/-- Zeros at the end move the first digit up. -/
theorem log2_mul (h : Normal m) (k : Nat) : (m * 2 ^ k).log2 = 52 + k := by
  have hpos : 0 < m * 2 ^ k := Nat.mul_pos h.pos (Nat.two_pow_pos k)
  rw [Nat.log2_eq_iff (Nat.ne_of_gt hpos), Nat.pow_add, Nat.add_right_comm, Nat.pow_add]
  exact ⟨Nat.mul_le_mul_right _ h.lower, Nat.mul_lt_mul_of_pos_right h.upper (Nat.two_pow_pos k)⟩

end Normal

/-! ### Rounding -/

/-- Moving zeros out loses nothing. -/
theorem shiftRight_zeros (m k : Nat) :
    (⟨m * 2 ^ k, false, false⟩ : ExtendedMantissa) >>> k = ⟨m, false, false⟩ := by
  induction k generalizing m with
  | zero => rw [Nat.pow_zero, Nat.mul_one]; rfl
  | succ k ih =>
      change ExtendedMantissa.shiftRightOne
        ((⟨m * 2 ^ (k + 1), false, false⟩ : ExtendedMantissa) >>> k) = _
      rw [Nat.pow_succ', ← Nat.mul_assoc, ih]
      simp [ExtendedMantissa.shiftRightOne]

/-- Digits beyond the 53rd are shifted out. -/
theorem shiftToTargetExponent_digits (acc : Accuracy) (hm : 2 ^ 52 ≤ m)
    (he : -1074 ≤ e + (m.log2 - 52 : Nat)) :
    shiftToTargetExponent Format.binary64 m e acc =
      (ExtendedMantissa.ofMantissaAndAccuracy m acc >>> (m.log2 - 52),
        e + (m.log2 - 52 : Nat)) := by
  have hlog : 52 ≤ m.log2 := (Nat.le_log2 (by omega)).2 hm
  have htarget : Format.binary64.targetExponent (totalExponent m e) = e + (m.log2 - 52 : Nat) := by
    simp only [Format.targetExponent, totalExponent, Format.mantissaBits, Format.minExponent]
    omega
  have hshift : (e + (m.log2 - 52 : Nat) - e).toNat = m.log2 - 52 := by omega
  rw [shiftToTargetExponent, htarget, shiftToExponent, hshift]

/-- Zeros at the end of a mantissa are shifted out without loss. -/
theorem shiftToTargetExponent_zeros (h : Normal m) (k : Nat) (he : -1074 ≤ e) :
    shiftToTargetExponent Format.binary64 (m * 2 ^ k) (e - k) .exact = (⟨m, false, false⟩, e) := by
  have hlog : (m * 2 ^ k).log2 - 52 = k := by rw [h.log2_mul, Nat.add_sub_cancel_left]
  have hlower : 2 ^ 52 ≤ m * 2 ^ k :=
    Nat.le_trans h.lower (Nat.le_mul_of_pos_right m (Nat.two_pow_pos k))
  rw [shiftToTargetExponent_digits .exact hlower (by rw [hlog, Int.sub_add_cancel]; exact he),
    hlog, ExtendedMantissa.ofMantissaAndAccuracy, shiftRight_zeros, Int.sub_add_cancel]

/-- A number of 53 digits, with zeros behind them, is not rounded. -/
theorem roundWithAccuracy_zeros (h : Normal m) (k : Nat) (he : -1074 ≤ e) :
    roundWithAccuracy Format.binary64 s (m * 2 ^ k) (e - k) .exact = .finite s m e h.pos := by
  have hagain := shiftToTargetExponent_zeros h 0 he
  rw [Nat.pow_zero, Nat.mul_one, Int.natCast_zero, Int.sub_zero] at hagain
  have hrounded : (⟨m, false, false⟩ : ExtendedMantissa).roundedMantissa = m := rfl
  simp only [roundWithAccuracy, shiftToTargetExponent_zeros h k he, hrounded, hagain,
    Nat.ne_of_gt h.pos, dite_false]

/-! ### Packing -/

/-- The exponent of a number that is neither too great nor too small. -/
structure Ranged (e : Int) : Prop where
  lower : -1074 ≤ e
  upper : e ≤ 971

/-- The first digit is not written down. -/
theorem pack_eq (h : Normal m) (he : Ranged e) :
    UnpackedFloat.pack Format.binary64 (.finite s m e h.pos) =
      packComponents Format.binary64 s (BitVec.ofNat 11 (e + 1075).toNat) (BitVec.ofNat 52 m) := by
  have hlower := he.lower
  have hupper := he.upper
  have hbiased : (e + Format.binary64.exponentBias +
      Format.binary64.mantissaBitsWithoutImplicit).toNat = (e + 1075).toNat := by
    change (e + 1023 + 52).toNat = (e + 1075).toNat
    omega
  have hfits : ¬ 2 ^ Format.binary64.exponentBits ≤ (e + 1075).toNat + 1 := by
    change ¬ 2048 ≤ (e + 1075).toNat + 1
    omega
  have hdigits : m.log2 + 1 = Format.binary64.mantissaBits := by rw [h.log2_eq]; rfl
  simp only [UnpackedFloat.pack, hbiased, if_neg hfits, if_pos hdigits]

/-- A number of 53 digits is unpacked as it has been packed. -/
theorem unpack_pack (h : Normal m) (he : Ranged e) :
    (Float.Model.pack (.finite s m e h.pos)).unpack = .finite s m e h.pos := by
  have hlower := he.lower
  have hupper := he.upper
  have hmantissa : (1#1 ++ BitVec.ofNat 52 m).toNat = m := by
    have hm := h.lower
    have hm' := h.upper
    rw [BitVec.toNat_append, ← Nat.shiftLeft_add_eq_or_of_lt (BitVec.ofNat 52 m).isLt,
      Nat.shiftLeft_eq, BitVec.toNat_ofNat]
    change 1 * 2 ^ 52 + m % 2 ^ 52 = m
    omega
  have hexponent : (BitVec.ofNat 11 (e + 1075).toNat).toNat = (e + 1075).toNat := by
    rw [BitVec.toNat_ofNat, Nat.mod_eq_of_lt (by omega)]
  -- neither the exponent of what is infinite or no number, nor that of what is tiny or zero
  have hne {c : BitVec 11} (hc : (e + 1075).toNat ≠ c.toNat) :
      BitVec.ofNat 11 (e + 1075).toNat ≠ c := fun h => hc (by rw [← h, hexponent])
  have hinfinite : BitVec.ofNat 11 (e + 1075).toNat ≠ -1#11 := hne (by
    change _ ≠ 2047
    omega)
  have htiny : BitVec.ofNat 11 (e + 1075).toNat ≠ 0#11 := hne (by
    change _ ≠ 0
    omega)
  have hbias : ((e + 1075).toNat : Int) - (Format.binary64.exponentBias + (52 : Nat)) = e := by
    change ((e + 1075).toNat : Int) - (1023 + 52) = e
    omega
  change UnpackedFloat.unpack Format.binary64 (UnpackedFloat.pack Format.binary64 _) = _
  rw [pack_eq h he, UnpackedFloat.unpack]
  simp only [unpackMantissa_packComponents, unpackExponent_packComponents,
    unpackSign_packComponents, Sign.ofBitVec_toBitVec, if_neg hinfinite, if_neg htiny, hexponent,
    hmantissa, hbias]

/-! ### Counts -/

/-- How far the digits of a number are moved up. -/
def lift (n : Nat) : Nat :=
  52 - n.log2

/-- A count below `2 ^ 53` has at most 53 digits. -/
theorem log2_le (hpos : 0 < n) (hlt : n < 2 ^ 53) : n.log2 ≤ 52 :=
  Nat.le_of_lt_succ ((Nat.log2_lt (Nat.ne_of_gt hpos)).2 hlt)

/-- Lifted to 53 digits, a count is a normal mantissa. -/
theorem normal_lift (hpos : 0 < n) (hlt : n < 2 ^ 53) : Normal (n * 2 ^ lift n) := by
  have hlog := log2_le hpos hlt
  obtain ⟨hlower, hupper⟩ := (Nat.log2_eq_iff (Nat.ne_of_gt hpos)).1 rfl
  constructor
  · calc 2 ^ 52 = 2 ^ n.log2 * 2 ^ lift n := by rw [← Nat.pow_add, lift]; congr 1; omega
      _ ≤ n * 2 ^ lift n := Nat.mul_le_mul_right _ hlower
  · calc n * 2 ^ lift n < 2 ^ (n.log2 + 1) * 2 ^ lift n :=
          Nat.mul_lt_mul_of_pos_right hupper (Nat.two_pow_pos _)
      _ = 2 ^ 53 := by rw [← Nat.pow_add, lift]; congr 1; omega

/-- The digits and the exponent of a positive count. -/
theorem ofNat_eq (hpos : 0 < n) (hlt : n < 2 ^ 53) :
    UnpackedFloat.ofNat Format.binary64 n =
      .finite .positive (n * 2 ^ lift n) (-lift n) (normal_lift hpos hlt).pos := by
  have hnormal := normal_lift hpos hlt
  have hlog := log2_le hpos hlt
  have htarget : Format.binary64.targetExponent (totalExponent n 0) = -lift n := by
    simp only [Format.targetExponent, totalExponent, Format.mantissaBits, Format.minExponent, lift]
    omega
  have hcompare : compare (n : Int) 0 = .gt := Int.compare_eq_gt.2 (by omega)
  have hround := roundWithAccuracy_zeros (s := .positive) (e := -lift n) hnormal 0 (by
    rw [lift]
    omega)
  rw [Nat.pow_zero, Nat.mul_one, Int.natCast_zero, Int.sub_zero] at hround
  have hshift : ((0 : Int) - -(lift n : Int)).toNat = lift n := by omega
  simp only [UnpackedFloat.ofNat, UnpackedFloat.ofInt, UnpackedFloat.normalize, hcompare,
    Int.toNat_natCast, UnpackedFloat.round, htarget, decreaseExponent, hshift, Nat.shiftLeft_eq]
  rw [Int.zero_sub, hround]

/-- The exponent of a lifted count is in the range of doubles. -/
theorem ranged_lift (n : Nat) : Ranged (-lift n) := by
  constructor <;> rw [lift] <;> omega

/-- A count as a double. -/
theorem toModel_ofCount (hlt : n < 2 ^ 53) :
    (ofCount n : Float).toModel = Float.Model.pack (UnpackedFloat.ofNat Format.binary64 n) := by
  have hword : n.toUInt64.toNat = n := UInt64.toNat_ofNat_of_lt' (Nat.lt_trans hlt (by decide))
  change Float.Model.pack (UnpackedFloat.ofNat Format.binary64 n.toUInt64.toNat) = _
  rw [hword]

/-- A double is packed again as it has been unpacked, so that its digits and its exponent say which
one it is. -/
theorem eq_of_unpack_eq {f : UnpackedFloat} {x y : Float} (hx : x.toModel = Float.Model.pack f)
    (hy : f = y.toModel.unpack) : x = y := by
  obtain ⟨⟨⟨b⟩, hb⟩⟩ := y
  have hmodel : x.toModel = ⟨⟨b⟩, hb⟩ := by
    rw [hx, hy, Float.Model.pack, Float.Model.mk.injEq, UInt64.ofBitVec.injEq]
    exact pack_unpack_of_valid hb
  exact congrArg Float.ofModel hmodel

/-- The digits and the exponent of a positive count. -/
theorem unpack_ofCount (hpos : 0 < n) (hlt : n < 2 ^ 53) :
    (ofCount n : Float).toModel.unpack =
      .finite .positive (n * 2 ^ lift n) (-lift n) (normal_lift hpos hlt).pos := by
  rw [toModel_ofCount hlt, ofNat_eq hpos hlt, unpack_pack (normal_lift hpos hlt) (ranged_lift n)]

/-! ### Arithmetic -/

/-- The quotient of numbers with 53 digits, to 53 places. -/
theorem divCore_eq {m₁ m₂ : Nat} {e₁ e₂ : Int} (h₁ : Normal m₁) (h₂ : Normal m₂)
    (he : -1021 ≤ e₁ - e₂) :
    divCore Format.binary64 m₁ e₁ m₂ e₂ =
      (m₁ * 2 ^ 53 / m₂, e₁ - e₂ - 53, accuracyOfFraction (m₁ * 2 ^ 53 % m₂) m₂) := by
  have htarget : min (e₁ - e₂) (Format.binary64.targetExponent
      (totalExponent m₁ e₁ - totalExponent m₂ e₂)) = e₁ - e₂ - 53 := by
    simp only [Format.targetExponent, totalExponent, Format.mantissaBits, Format.minExponent,
      h₁.log2_eq, h₂.log2_eq]
    omega
  have hshift : (e₁ - e₂ - (e₁ - e₂ - 53)).toNat = 53 := by omega
  rw [divCore, htarget, hshift, Nat.shiftLeft_eq]

/-- A number by itself has the one digit that stands at the front of the quotient. -/
theorem divCore_self (h : Normal m) (e : Int) :
    divCore Format.binary64 m e m e = (2 ^ 53, -53, .exact) := by
  rw [divCore_eq h h (by omega), Nat.mul_div_cancel_left _ h.pos, Nat.mul_mod_right, Int.sub_self]
  rfl

/-- A count divided by itself is one, without a rounding error. -/
theorem quotient_self_float (hpos : 0 < n) (hlt : n < 2 ^ 53) :
    (quotient (ofCount n) (ofCount n) : Float) = ofCount 1 := by
  have hdiv : UnpackedFloat.div Format.binary64 (ofCount n : Float).toModel.unpack
      (ofCount n : Float).toModel.unpack = (ofCount 1 : Float).toModel.unpack := by
    rw [unpack_ofCount hpos hlt, unpack_ofCount Nat.one_pos (by decide), UnpackedFloat.div,
      divCore_self (normal_lift hpos hlt)]
    have hround := roundWithAccuracy_zeros (s := .positive) (normal_lift Nat.one_pos (by decide)) 1
      (ranged_lift 1).lower
    have hdigits : 1 * 2 ^ lift 1 * 2 ^ 1 = 2 ^ 53 := by decide
    have hexponent : -(lift 1 : Int) - (1 : Nat) = -53 := by decide
    rw [hdigits, hexponent] at hround
    exact hround
  exact eq_of_unpack_eq rfl hdiv

/-- A count times one is the count. -/
theorem product_one_float (hlt : n < 2 ^ 53) :
    (product (ofCount n) (ofCount 1) : Float) = ofCount n := by
  rcases Nat.eq_zero_or_pos n with rfl | hpos
  · rfl
  have hmul : UnpackedFloat.mul Format.binary64 (ofCount n : Float).toModel.unpack
      (ofCount 1 : Float).toModel.unpack = (ofCount n : Float).toModel.unpack := by
    rw [unpack_ofCount hpos hlt, unpack_ofCount Nat.one_pos (by decide)]
    exact roundWithAccuracy_zeros (normal_lift hpos hlt) 52 (ranged_lift n).lower
  exact eq_of_unpack_eq rfl hmul

/-! ### Whole numbers -/

/-- A count is brought to a whole number without loss, whatever the bounds. -/
theorem toInt_ofCount (hlt : n < 2 ^ 53) (a b : Int) :
    (ofCount n : Float).toModel.unpack.toInt a b = n := by
  rcases Nat.eq_zero_or_pos n with rfl | hpos
  · rfl
  have hnone : (-(lift n : Int) - 0).toNat = 0 := by omega
  have hshift : (0 - -(lift n : Int)).toNat = lift n := by omega
  rw [unpack_ofCount hpos hlt, UnpackedFloat.toInt, UnpackedFloat.roundToInt, decreaseExponent,
    hnone]
  simp only [shiftToExponent, Nat.shiftLeft_zero, ExtendedMantissa.ofMantissaAndAccuracy,
    Int.natCast_zero, Int.sub_zero, hshift, shiftRight_zeros]
  rfl

/-- The whole part of a count is the count. -/
theorem floorWord_float (hlt : n < UInt32.size) :
    floorWord (ofCount n : Float) = UInt32.ofNat n := by
  have hlt' : n < 2 ^ 53 := Nat.lt_trans hlt (by decide)
  change UInt32.ofNatClamp ((ofCount n : Float).toModel.unpack.toInt _ _).toNat = _
  rw [toInt_ofCount hlt', Int.toNat_natCast, UInt32.ofNatClamp_eq_ofNat n hlt]

/-- A count is not below itself. -/
theorem not_lt_self (hlt : n < 2 ^ 53) : ¬ (ofCount n : Float) < ofCount n := by
  have hcompare : (ofCount n : Float).toModel.unpack.compare (ofCount n : Float).toModel.unpack =
      some .eq := by
    rcases Nat.eq_zero_or_pos n with rfl | hpos
    · rfl
    · rw [unpack_ofCount hpos hlt]
      simp [UnpackedFloat.compare]
  intro h
  have hless : (UnpackedFloat.compare _ _ == some .lt) = true := of_decide_eq_true h
  rw [hcompare] at hless
  cases hless

/-- A count is the least word that is not below it. -/
theorem ceilWord_float (hlt : n < UInt32.size) :
    ceilWord (ofCount n : Float) = UInt32.ofNat n := by
  have hlt' : n < 2 ^ 53 := Nat.lt_trans hlt (by decide)
  have hwhole : (ofCount n : Float).toUInt32 = UInt32.ofNat n := floorWord_float hlt
  have hmodel : (UInt32.ofNat n).toFloat.toModel = (ofCount n : Float).toModel := by
    rw [toModel_ofCount hlt']
    change Float.Model.pack (UnpackedFloat.ofNat Format.binary64 (UInt32.ofNat n).toNat) = _
    rw [UInt32.toNat_ofNat_of_lt' hlt]
  have hback : (UInt32.ofNat n).toFloat = (ofCount n : Float) := congrArg Float.ofModel hmodel
  change ceilFloat (ofCount n) = _
  simp only [ceilFloat, hwhole, hback, not_lt_self hlt', false_and, if_false]

/-- Doubles hold pixel counts as they are. -/
instance : ExactCounts Float where
  quotient_self hpos hlt := quotient_self_float hpos (Nat.lt_trans hlt (by decide))
  product_one hlt := product_one_float (Nat.lt_trans hlt (by decide))
  floorWord_ofCount := floorWord_float
  ceilWord_ofCount := ceilWord_float

end WidgetStage.Double
