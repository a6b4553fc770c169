import WidgetStage.Duration

/-!
# Synthetic ids

A node that would share its id with another one is named by a time stamp instead. Stamps are
whole microseconds and always go forward: when the clock has not advanced beyond the last
stamp, the next one is a microsecond later.

* `SyntheticIds.next?` — the next stamp and its text.
* `SyntheticIds.lt_of_next?` — stamps go forward.
* `SyntheticIds.unique?` — the first stamp whose text is not taken. The clock is read anew for
  every stamp, and its readings are given as a sequence.
-/

namespace WidgetStage

/-- The last stamp given out. -/
structure SyntheticIds where
  last : Option Duration
  deriving DecidableEq, Repr

namespace SyntheticIds

/-- No stamp was given out yet. -/
def start : SyntheticIds :=
  ⟨none⟩

/-- The text of a stamp: seconds and six digits of microseconds. -/
def text (stamp : Duration) : String :=
  toString stamp.seconds ++ "." ++ Text.padZeros 6 (toString stamp.subsecMicros)

/-- The stamp that follows, if there is a duration for it. -/
def stamp? (s : SyntheticIds) (now : Duration) : Option Duration :=
  let now := now.truncateToMicros
  match s.last with
  | none => some now
  | some last => if now.nanos ≤ last.nanos then last.add? (.ofMicros 1) else some now

/-- The next id; there is none if its stamp would be longer than the longest duration. -/
def next? (s : SyntheticIds) (now : Duration) : Option (String × SyntheticIds) :=
  (s.stamp? now).map fun stamp => (text stamp, ⟨some stamp⟩)

/-- Draws ids until one is not taken, at most `fuel + 1` of them. -/
def uniqueWithin? (taken : String → Bool) :
    Nat → (Nat → Duration) → SyntheticIds → Option (String × SyntheticIds)
  | 0, clock, s => s.next? (clock 0)
  | fuel + 1, clock, s =>
    match s.next? (clock 0) with
    | none => none
    | some (id, s') =>
      if taken id then uniqueWithin? taken fuel (fun k => clock (k + 1)) s' else some (id, s')

/-- The first id that is not in the list. As ids do not repeat, one more draw than there are
taken ids is enough. -/
def unique? (s : SyntheticIds) (taken : List String) (clock : Nat → Duration) :
    Option (String × SyntheticIds) :=
  uniqueWithin? taken.contains taken.length clock s

/-- Stamps go forward. -/
theorem lt_of_next? {s t : SyntheticIds} {now last : Duration} {id : String}
    (hlast : s.last = some last) (h : s.next? now = some (id, t)) :
    ∃ stamp, t.last = some stamp ∧ last.nanos < stamp.nanos := by
  simp only [next?, stamp?, hlast, Option.map_eq_some_iff, Prod.mk.injEq] at h
  obtain ⟨stamp, hstamp, -, rfl⟩ := h
  refine ⟨stamp, rfl, ?_⟩
  split at hstamp
  · obtain ⟨hsum, -⟩ := Duration.add?_eq_some_iff.1 hstamp
    rw [hsum]
    exact Nat.lt_add_of_pos_right (by decide)
  · next hlt =>
    cases hstamp
    exact Nat.lt_of_not_le hlt

end SyntheticIds

end WidgetStage
