import Mathlib.Data.List.Basic
import WidgetStage.SyntheticId

/-!
# Synthetic ids do not repeat

The text of a stamp shows its whole microseconds and nothing else, so later stamps have other texts.
However often ids are drawn, the last one is the text of a stamp that is later than all before.

## Main results

* `SyntheticIds.micros_lt_of_next?`: stamps go forward by whole microseconds.
* `SyntheticIds.micros_eq_of_text_eq`: stamps with the same text have the same microseconds.
* `SyntheticIds.later_of_uniqueWithin?`: the id that is drawn in the end is that of a later stamp.
-/

namespace WidgetStage

/-- The whole microseconds. -/
def Duration.micros (d : Duration) : Nat :=
  d.nanos / 1000

namespace SyntheticIds

variable {s t : SyntheticIds} {now stamp stamp' : Duration} {id : String}

/-- The stamp is later than all that were given out. -/
def Later (s : SyntheticIds) (stamp : Duration) : Prop :=
  ∀ last, s.last = some last → last.micros < stamp.micros

/-- Stamps go forward by whole microseconds. -/
theorem micros_lt_of_next? (h : s.next? now = some (id, t)) :
    ∃ stamp, id = text stamp ∧ t.last = some stamp ∧ s.Later stamp := by
  simp only [next?, Option.map_eq_some_iff, Prod.mk.injEq] at h
  obtain ⟨stamp, hstamp, rfl, rfl⟩ := h
  refine ⟨stamp, rfl, rfl, fun last hlast => ?_⟩
  simp only [stamp?, hlast] at hstamp
  split at hstamp
  · obtain ⟨hsum, -⟩ := Duration.add?_eq_some_iff.1 hstamp
    simp only [Duration.micros, hsum, Duration.ofMicros]
    omega
  · next hnow =>
    cases hstamp
    simp only [Duration.micros, Duration.truncateToMicros] at hnow ⊢
    omega

/-! ### Texts of stamps -/

/-- Zeros before a numeral do not change its value. -/
theorem value_padZeros (width n : Nat) :
    Nat.ofDigitChars 10 (Text.padZeros width (toString n)).toList 0 = n := by
  simp [Text.padZeros, Nat.ofDigitChars_append]

/-- A numeral consists of digits. -/
theorem dot_not_mem_toString (n : Nat) : '.' ∉ (toString n).toList := by
  intro hmem
  rw [Nat.toString_eq_ofList_toDigits, String.toList_ofList] at hmem
  exact absurd (Nat.isDigit_of_mem_toDigits (by decide) (by decide) hmem) (by decide)

/-- A numeral with zeros before it does so, too. -/
theorem dot_not_mem_padZeros (width n : Nat) :
    '.' ∉ (Text.padZeros width (toString n)).toList := by
  rw [Text.padZeros, String.toList_append, String.toList_ofList, List.mem_append, not_or]
  refine ⟨fun hmem => ?_, dot_not_mem_toString n⟩
  exact absurd (List.eq_of_mem_replicate hmem) (by decide)

/-- Stamps with the same text have the same microseconds. -/
theorem micros_eq_of_text_eq (h : text stamp = text stamp') : stamp.micros = stamp'.micros := by
  have hlist := congrArg String.toList h
  simp only [text, String.toList_append, String.reduceToList, List.append_assoc,
    List.cons_append, List.nil_append] at hlist
  obtain ⟨hwhole, -, hpart⟩ := (List.append_cons_inj_of_notMem (dot_not_mem_toString _)
    (dot_not_mem_padZeros 6 _)).1 hlist
  have hseconds : stamp.seconds = stamp'.seconds := by
    simpa using congrArg (fun cs => Nat.ofDigitChars 10 cs 0) hwhole
  have hmicros : stamp.subsecMicros = stamp'.subsecMicros := by
    simpa only [value_padZeros] using congrArg (fun cs => Nat.ofDigitChars 10 cs 0) hpart
  simp only [Duration.seconds, Duration.subsecMicros, Duration.subsecNanos,
    Duration.nanosPerSecond, Duration.micros] at hseconds hmicros ⊢
  omega

/-! ### Draws -/

/-- The id that is drawn in the end is the text of a later stamp. -/
theorem later_of_uniqueWithin? {taken : String → Bool} {fuel : Nat} {clock : Nat → Duration}
    (h : uniqueWithin? taken fuel clock s = some (id, t)) :
    ∃ stamp, id = text stamp ∧ s.Later stamp := by
  induction fuel generalizing clock s with
  | zero =>
      obtain ⟨stamp, hid, -, hstamp⟩ := micros_lt_of_next? h
      exact ⟨stamp, hid, hstamp⟩
  | succ fuel ih =>
      rw [uniqueWithin?] at h
      split at h
      · cases h
      next drawn s' hnext =>
      obtain ⟨stamp, hdrawn, hlast, hstamp⟩ := micros_lt_of_next? hnext
      split at h
      · obtain ⟨stamp', hid, hstamp'⟩ := ih h
        exact ⟨stamp', hid, fun last hs => Nat.lt_trans (hstamp last hs) (hstamp' stamp hlast)⟩
      · cases h
        exact ⟨stamp, hdrawn, hstamp⟩

end SyntheticIds

end WidgetStage
