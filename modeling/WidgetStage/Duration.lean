import WidgetStage.Text.Numeral

/-!
# Durations

A duration is a number of nanoseconds. Clocks and time stamps count them from a common epoch.
There is a longest duration, and a sum beyond it does not exist.

* `Duration.add?_eq_some_iff` — a sum exists exactly if it is not longer than the longest
  duration.
-/

namespace WidgetStage

/-- A span of time. -/
structure Duration where
  nanos : Nat
  deriving DecidableEq, Repr, Inhabited

namespace Duration

/-- The number of nanoseconds in a second. -/
def nanosPerSecond : Nat := 1000000000

/-- No time at all. -/
def zero : Duration := ⟨0⟩

/-- The longest duration: its whole seconds fill a 64-bit word. -/
def longest : Duration := ⟨UInt64.size * nanosPerSecond - 1⟩

/-- Whole seconds and a rest in nanoseconds. -/
def ofParts (seconds nanos : Nat) : Duration :=
  ⟨seconds * nanosPerSecond + nanos⟩

/-- The whole seconds. -/
def seconds (d : Duration) : Nat :=
  d.nanos / nanosPerSecond

/-- The nanoseconds beyond the whole seconds. -/
def subsecNanos (d : Duration) : Nat :=
  d.nanos % nanosPerSecond

/-- The whole microseconds beyond the whole seconds. -/
def subsecMicros (d : Duration) : Nat :=
  d.subsecNanos / 1000

/-- A number of microseconds. -/
def ofMicros (n : Nat) : Duration :=
  ⟨n * 1000⟩

/-- A number of milliseconds. -/
def ofMillis (n : Nat) : Duration :=
  ⟨n * 1000000⟩

/-- Drops what is less than a microsecond. -/
def truncateToMicros (d : Duration) : Duration :=
  ⟨d.nanos / 1000 * 1000⟩

/-- The sum, unless it is longer than the longest duration. -/
def add? (a b : Duration) : Option Duration :=
  if a.nanos + b.nanos ≤ longest.nanos then some ⟨a.nanos + b.nanos⟩ else none

/-- The time from `b` to `a`, none at all if `b` is later. -/
def since (a b : Duration) : Duration :=
  ⟨a.nanos - b.nanos⟩

/-- What is said when a sum is longer than the longest duration. -/
def overflowMessage : String := "overflow when adding durations"

/-- A sum exists exactly if it is not longer than the longest duration. -/
theorem add?_eq_some_iff {a b c : Duration} :
    a.add? b = some c ↔ c.nanos = a.nanos + b.nanos ∧ c.nanos ≤ longest.nanos := by
  unfold add?
  obtain ⟨c⟩ := c
  split
  · next h =>
    constructor
    · rintro ⟨⟩
      exact ⟨rfl, h⟩
    · rintro ⟨rfl, -⟩
      rfl
  · next h =>
    constructor
    · intro h'
      cases h'
    · rintro ⟨rfl, hle⟩
      exact absurd hle h

end Duration

end WidgetStage
