/-!
# The fewest digits that read back

A finite double stands for the interval of real numbers that round to it. Its shortest decimal
has the fewest digits of all decimals in that interval, and of those with as few digits it is
the nearest to the value. Everything is decided in exact integer arithmetic on the decoded bits.

* `Binary` — a positive value `mantissa * 2 ^ exponent` and the gap to its neighbours.
* `Binary.readsBack` — whether `digits * 10 ^ place` lies in the interval.
* `Binary.shortest` — the digits and their decimal place.
* `Binary.readsBack_of_candidate` — a digit string chosen on a grid lies in the interval.
-/

namespace WidgetStage.Decimal

/-- A positive number `mantissa * 2 ^ exponent`. It is `narrow` when the next smaller double is
only half as far away as the next greater one. -/
structure Binary where
  /-- The significant bits as an integer. -/
  mantissa : Nat
  /-- The power of two that scales them. -/
  exponent : Int
  /-- Whether the gap below is half the gap above. -/
  narrow : Bool
  deriving DecidableEq, Repr

/-- What the bits of a double say. -/
inductive Decoded where
  | notANumber
  | infinite (negative : Bool)
  | zero (negative : Bool)
  | finite (negative : Bool) (value : Binary)
  deriving DecidableEq, Repr

/-- Reads sign, exponent and fraction of a double from its bits. -/
def Decoded.ofBits (bits : UInt64) : Decoded :=
  let n := bits.toNat
  let negative := n >>> 63 == 1
  let exponent := (n >>> 52) % 2048
  let fraction := n % (1 <<< 52)
  if exponent = 2047 then
    if fraction = 0 then .infinite negative else .notANumber
  else if exponent = 0 then
    if fraction = 0 then .zero negative else .finite negative ⟨fraction, -1074, false⟩
  else
    .finite negative
      ⟨(1 <<< 52) + fraction, Int.ofNat exponent - 1075, fraction == 0 && exponent > 1⟩

/-- How an exact tie between two nearest candidates is broken. -/
inductive Tie where
  /-- Towards the greater candidate. -/
  | up
  /-- Towards the candidate with an even last digit. -/
  | even
  deriving DecidableEq, Repr

namespace Binary

/-- Compares `a * 2 ^ x` with `b * 10 ^ y`, both exactly. -/
def compareScaled (a : Nat) (x : Int) (b : Nat) (y : Int) : Ordering :=
  compare (a * Nat.pow 2 x.toNat * Nat.pow 10 (-y).toNat)
    (b * Nat.pow 10 y.toNat * Nat.pow 2 (-x).toNat)

/-- Whether the decimal `digits * 10 ^ place` rounds to the value: it lies between the midpoints
to the two neighbours, and may be a midpoint exactly if the mantissa is even. -/
def readsBack (b : Binary) (digits : Nat) (place : Int) : Bool :=
  let below := 4 * b.mantissa - (if b.narrow then 1 else 2)
  let above := 4 * b.mantissa + 2
  let low := compareScaled below (b.exponent - 2) digits place
  let high := compareScaled above (b.exponent - 2) digits place
  if b.mantissa % 2 = 0 then low ≠ .gt && high ≠ .lt else low == .lt && high == .gt

/-- The integer part of the value in units of `10 ^ place`. -/
def floorAt (b : Binary) (place : Int) : Nat :=
  (b.mantissa * Nat.pow 2 b.exponent.toNat * Nat.pow 10 (-place).toNat) /
    (Nat.pow 2 (-b.exponent).toNat * Nat.pow 10 place.toNat)

/-- The number of decimal digits before the point, not positive for values below one tenth:
the least `k` such that the value is below `10 ^ k`. It is searched upwards from a bound. -/
def magnitudeFrom (b : Binary) : Nat → Int → Int
  | 0, k => k
  | fuel + 1, k =>
    if compareScaled b.mantissa b.exponent 1 k = .lt then k else magnitudeFrom b fuel (k + 1)

/-- The least `k` such that the value is below `10 ^ k`. The search starts from an estimate by
binary digits, which is at most four too low for doubles. -/
def magnitude (b : Binary) : Int :=
  let bits : Int := Int.ofNat (Nat.log2 b.mantissa) + b.exponent
  magnitudeFrom b 8 (bits * 30103 / 100000 - 2)

/-- The candidate with digits in units of `10 ^ place`: the nearer of the two grid points beside
the value that read back, if any does. -/
def candidate (b : Binary) (tie : Tie) (place : Int) : Option Nat :=
  let low := b.floorAt place
  let high := low + 1
  match b.readsBack low place && low ≠ 0, b.readsBack high place with
  | true, true =>
    -- twice the value against the sum of the two grid points
    match compareScaled (2 * b.mantissa) b.exponent (low + high) place with
    | .lt => some low
    | .gt => some high
    | .eq =>
      match tie with
      | .up => some high
      | .even => some (if low % 2 = 0 then low else high)
  | true, false => some low
  | false, true => some high
  | false, false => none

/-- Searches the grids of `count`, `count + 1`, … digits below `10 ^ top`. -/
def search (b : Binary) (tie : Tie) (top : Int) : Nat → Nat → Nat × Int
  | 0, count => (b.floorAt (top - count), top - count)
  | fuel + 1, count =>
    match b.candidate tie (top - count) with
    | some digits => (digits, top - count)
    | none => search b tie top fuel (count + 1)

/-- Moves trailing zeros of the digits into the place. -/
def strip : Nat → Nat × Int → Nat × Int
  | 0, d => d
  | fuel + 1, (digits, place) =>
    if digits ≠ 0 ∧ digits % 10 = 0 then strip fuel (digits / 10, place + 1) else (digits, place)

/-- The shortest decimal of the value: its digits, without trailing zeros, and the power of ten
they count. Seventeen digits always read back. -/
def shortest (b : Binary) (tie : Tie) : Nat × Int :=
  strip 20 (search b tie b.magnitude 17 1)

/-- A digit string chosen on a grid lies in the interval. -/
theorem readsBack_of_candidate {b : Binary} {tie : Tie} {place : Int} {digits : Nat}
    (h : b.candidate tie place = some digits) : b.readsBack digits place = true := by
  simp only [candidate] at h
  split at h
  · next h₁ h₂ =>
    have hl : b.readsBack (b.floorAt place) place = true := by simp_all
    split at h
    · cases h; exact hl
    · cases h; exact h₂
    · split at h
      · cases h; exact h₂
      · cases h; split
        · exact hl
        · exact h₂
  · next h₁ h₂ => cases h; simp_all
  · next h₁ h₂ => cases h; exact h₂
  · cases h

end Binary

end WidgetStage.Decimal
