import Mathlib.Data.Nat.Digits.Defs
import Mathlib.Order.Monotone.Basic
import WidgetStage.Proofs.SyntheticId

/-!
# Ids drawn one after another

Every draw reads the clock. A stamp is the reading, cut to whole microseconds, as long as this is
later than the stamp before; a clock that stands still, goes back or advances by less than a
microsecond leads to the next microsecond instead. Both cases are one maximum, because all stamps
are whole microseconds. As their texts show exactly these, no text comes back.

## Main results

* `stampAt`: the stamps that the readings of a clock lead to; they go forward
  (`strictMono_stampAt`).
* `text_ofMicros`: seconds and six digits of microseconds are the text of a stamp.
* `drawn?_start`: the draws from a new source are these stamps with their texts.
* `ids_never_repeat`: so its ids differ.
-/

namespace WidgetStage

namespace SyntheticIds

/-- The state after `k` draws; there is none if one of them has no stamp. -/
def after? (s : SyntheticIds) (clock : Nat → Duration) : Nat → Option SyntheticIds
  | 0 => some s
  | k + 1 => (s.after? clock k).bind fun t => (t.next? (clock k)).map Prod.snd

/-- What is drawn after `k` draws. -/
def drawn? (s : SyntheticIds) (clock : Nat → Duration) (k : Nat) :
    Option (String × SyntheticIds) :=
  (s.after? clock k).bind fun t => t.next? (clock k)

/-- The first stamp is the first reading, and every other one the reading or the microsecond after
the stamp before, whichever is later. -/
def stampAt (clock : Nat → Duration) : Nat → Duration
  | 0 => (clock 0).truncateToMicros
  | k + 1 =>
    ⟨max (clock (k + 1)).truncateToMicros.nanos
      ((stampAt clock k).nanos + (Duration.ofMicros 1).nanos)⟩

variable {s : SyntheticIds} {clock : Nat → Duration} {now : Duration} {m n j k : Nat}

/-! ### Stamps -/

/-- Truncating to microseconds leaves the whole ones. -/
theorem truncateToMicros_eq_ofMicros (d : Duration) : d.truncateToMicros = .ofMicros d.micros :=
  rfl

/-- Stamps are whole microseconds. -/
theorem exists_stampAt_eq_ofMicros (clock : Nat → Duration) (k : Nat) :
    ∃ m, stampAt clock k = .ofMicros m := by
  induction k with
  | zero => exact ⟨(clock 0).micros, rfl⟩
  | succ k ih =>
      obtain ⟨m, hm⟩ := ih
      refine ⟨max (clock (k + 1)).micros (m + 1), ?_⟩
      rw [stampAt, hm, truncateToMicros_eq_ofMicros]
      simp only [Duration.ofMicros, Duration.mk.injEq]
      omega

/-- Stamps go forward. -/
theorem strictMono_stampAt (clock : Nat → Duration) :
    StrictMono fun k => (stampAt clock k).nanos := by
  refine strictMono_nat_of_lt_succ fun k => ?_
  have hle := Nat.le_max_right (clock (k + 1)).truncateToMicros.nanos
    ((stampAt clock k).nanos + (Duration.ofMicros 1).nanos)
  exact Nat.lt_of_lt_of_le (Nat.lt_add_of_pos_right (by decide)) hle

/-- After a whole number of microseconds, the stamp that follows is a maximum. -/
theorem stamp?_eq_max (hlast : s.last = some (.ofMicros m))
    (hfits : max now.truncateToMicros.nanos
      ((Duration.ofMicros m).nanos + (Duration.ofMicros 1).nanos) ≤ Duration.longest.nanos) :
    s.stamp? now = some ⟨max now.truncateToMicros.nanos
      ((Duration.ofMicros m).nanos + (Duration.ofMicros 1).nanos)⟩ := by
  obtain ⟨-, hsum⟩ := Nat.max_le.1 hfits
  simp only [stamp?, hlast]
  split
  · next hle =>
    rw [Duration.add?_eq_some_iff]
    exact ⟨Nat.max_eq_right (Nat.le_add_right_of_le hle), hfits⟩
  · next hlt =>
    -- a whole number of microseconds that is later is later by a microsecond
    have hlater : (Duration.ofMicros m).nanos + (Duration.ofMicros 1).nanos ≤
        now.truncateToMicros.nanos := by
      simp only [truncateToMicros_eq_ofMicros, Duration.ofMicros] at hlt ⊢
      omega
    rw [Nat.max_eq_left hlater]

/-- A new source draws the stamps of its readings, if there are durations for them. -/
theorem drawn?_start (hfits : ∀ j ≤ k, (stampAt clock j).nanos ≤ Duration.longest.nanos) :
    start.drawn? clock k = some (text (stampAt clock k), ⟨some (stampAt clock k)⟩) := by
  induction k with
  | zero => rfl
  | succ k ih =>
      have hbefore := ih fun j hj => hfits j (Nat.le_succ_of_le hj)
      have hafter : start.after? clock (k + 1) = some ⟨some (stampAt clock k)⟩ := by
        rw [drawn?, Option.bind_eq_some_iff] at hbefore
        obtain ⟨t, ht, hnext⟩ := hbefore
        rw [after?, ht, Option.bind_some, hnext]
        rfl
      obtain ⟨m, hm⟩ := exists_stampAt_eq_ofMicros clock k
      have hfit := hfits (k + 1) (Nat.le_refl _)
      rw [stampAt, hm] at hfit
      rw [drawn?, hafter, Option.bind_some, next?, hm, stamp?_eq_max rfl hfit, stampAt, hm]
      rfl

/-! ### Texts -/

/-- Zeros fill up a text to the width. -/
theorem length_padZeros {width : Nat} {t : String} (h : t.length ≤ width) :
    (Text.padZeros width t).length = width := by
  rw [Text.padZeros, String.length_append, String.length_ofList, List.length_replicate]
  omega

/-- The text of a stamp has its seconds, a dot, and six digits for its microseconds. -/
theorem text_ofMicros (m : Nat) :
    text (.ofMicros m) =
        toString (m / 1000000) ++ "." ++ Text.padZeros 6 (toString (m % 1000000)) ∧
      (Text.padZeros 6 (toString (m % 1000000))).length = 6 := by
  have hseconds : (Duration.ofMicros m).seconds = m / 1000000 := by
    simp only [Duration.seconds, Duration.ofMicros, Duration.nanosPerSecond]
    omega
  have hmicros : (Duration.ofMicros m).subsecMicros = m % 1000000 := by
    simp only [Duration.subsecMicros, Duration.subsecNanos, Duration.ofMicros,
      Duration.nanosPerSecond]
    omega
  refine ⟨by rw [text, hseconds, hmicros], length_padZeros ?_⟩
  exact Nat.repr_length _ 6 (by decide) (Nat.mod_lt m (by decide))

/-- Stamps of whole microseconds have different texts. -/
theorem text_ofMicros_injective : Function.Injective fun m => text (.ofMicros m) := by
  intro a b hab
  have hmicros := micros_eq_of_text_eq hab
  simpa [Duration.micros, Duration.ofMicros] using hmicros

/-- From a new source, as long as there are durations for the stamps, every draw answers the text of
a stamp. The first stamp is the first reading, cut to whole microseconds; each later one is its
reading, cut likewise, or the microsecond after the stamp before, whichever is later. So stamps go
forward by whole microseconds, different ones have different texts, and no id is drawn twice. -/
theorem ids_never_repeat (clock : Nat → Duration) (n : Nat)
    (hfits : ∀ k < n, (stampAt clock k).nanos ≤ Duration.longest.nanos) :
    (∀ k < n, start.drawn? clock k =
      some (text (stampAt clock k), ⟨some (stampAt clock k)⟩)) ∧
    (∀ k, ∃ m, stampAt clock k = .ofMicros m) ∧
    (∀ j k, j < k → (stampAt clock j).nanos < (stampAt clock k).nanos) ∧
    (∀ m, text (.ofMicros m) =
        toString (m / 1000000) ++ "." ++ Text.padZeros 6 (toString (m % 1000000)) ∧
      (Text.padZeros 6 (toString (m % 1000000))).length = 6) ∧
    (Function.Injective fun m => text (.ofMicros m)) ∧
    ∀ j < n, ∀ k < n, (start.drawn? clock j).map Prod.fst = (start.drawn? clock k).map Prod.fst →
      j = k := by
  have hdrawn : ∀ k < n, start.drawn? clock k =
      some (text (stampAt clock k), ⟨some (stampAt clock k)⟩) := fun k hk =>
    drawn?_start fun j hj => hfits j (Nat.lt_of_le_of_lt hj hk)
  refine ⟨hdrawn, exists_stampAt_eq_ofMicros clock, fun j k hjk => strictMono_stampAt clock hjk,
    text_ofMicros, text_ofMicros_injective, fun j hj k hk hsame => ?_⟩
  rw [hdrawn j hj, hdrawn k hk, Option.map_some, Option.map_some, Option.some.injEq] at hsame
  obtain ⟨a, ha⟩ := exists_stampAt_eq_ofMicros clock j
  obtain ⟨b, hb⟩ := exists_stampAt_eq_ofMicros clock k
  have hab : a = b := text_ofMicros_injective (by rwa [ha, hb] at hsame)
  refine (strictMono_stampAt clock).injective ?_
  simp only [ha, hb, hab]

/-- A clock that advances by less than a microsecond, across a second, and then goes back. -/
theorem stalled_clock_still_advances :
    let clock := fun k =>
      [⟨5999999500⟩, ⟨5999999900⟩, ⟨4000000000⟩, ⟨7000000001⟩].getD k Duration.zero
    (∀ k < 4, (stampAt clock k).nanos ≤ Duration.longest.nanos) ∧
      (List.range 4).map (fun k => (start.drawn? clock k).map Prod.fst) =
        [some "5.999999", some "6.000000", some "6.000001", some "7.000000"] := by
  intro clock
  have hfits : ∀ k < 4, (stampAt clock k).nanos ≤ Duration.longest.nanos := by decide
  obtain ⟨hdrawn, -⟩ := ids_never_repeat clock 4 hfits
  refine ⟨hfits, ?_⟩
  simp only [List.range, List.range.loop, List.map_cons, List.map_nil, hdrawn 0 (by decide),
    hdrawn 1 (by decide), hdrawn 2 (by decide), hdrawn 3 (by decide), Option.map_some]
  decide

end SyntheticIds

end WidgetStage
