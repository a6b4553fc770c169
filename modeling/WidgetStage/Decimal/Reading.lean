/-!
# Reading doubles

A decimal is a whole number scaled by a power of ten. `nearest` reads it as the nearest double.
`scaled` reads it the quick way, with one rounding for the whole number and one for each
scaling; the two agree while both the whole number and the power of ten are doubles.

* `absorb_append` — the digits that did not fit are the last ones.
-/

namespace WidgetStage.Decimal

/-- The double nearest to `digits * 10 ^ place`. A place far out of range is not computed: it
leads to infinity or to zero. -/
def nearest (digits : Nat) (place : Int) : Float :=
  if digits = 0 then 0
  else if place > 400 then 1 / 0
  else if place < -(400 + Int.ofNat (Nat.log2 digits)) then 0
  else if 0 ≤ place then Float.ofScientific digits false place.toNat
  else Float.ofScientific digits true (-place).toNat

/-- The greatest whole number that is read exactly before it becomes a double. -/
def wholeMax : Nat := 18446744073709551615

/-- Appends digits to a whole number while it stays in range. The digits that did not fit are
answered too. -/
def absorb : List Nat → Nat → Nat × List Nat
  | [], whole => (whole, [])
  | d :: ds, whole =>
    if whole * 10 + d ≤ wholeMax then absorb ds (whole * 10 + d) else (whole, d :: ds)

/-- A power of ten as a double. -/
def powerOfTen (n : Nat) : Float :=
  Float.ofScientific 1 false n

/-- Scales a double by a power of ten, dividing by the greatest one until the rest is in range.
There is no result beyond the greatest double. -/
def scaled : Nat → Float → Int → Option Float
  | 0, x, _ => some x
  | fuel + 1, x, place =>
    if place.natAbs ≤ 308 then
      if 0 ≤ place then
        let y := x * powerOfTen place.natAbs
        if y.isInf then none else some y
      else
        some (x / powerOfTen place.natAbs)
    else if x == 0 then some x
    else if 0 ≤ place then none
    else scaled fuel (x / powerOfTen 308) (place + 308)

/-- The digits that did not fit are the last ones. -/
theorem absorb_append (ds : List Nat) (whole : Nat) :
    ∃ fitting, ds = fitting ++ (absorb ds whole).2 := by
  induction ds generalizing whole with
  | nil => exact ⟨[], rfl⟩
  | cons d ds ih =>
    rw [absorb]
    split
    · obtain ⟨fitting, h⟩ := ih (whole * 10 + d)
      exact ⟨d :: fitting, by rw [List.cons_append, ← h]⟩
    · exact ⟨[], rfl⟩

end WidgetStage.Decimal
