import Mathlib.Data.Finset.Card
import WidgetStage.Proofs.SyntheticId.Draws

/-!
# Searching for an id that is not taken

The search draws until an id is not taken. It does not count its draws, and the clock may say
anything at each of them. It ends all the same: no draw answers an id again, so each one that is
taken leaves fewer of the taken ids to be drawn. The only other way to end is a stamp for which
there is no duration.

## Main results

* `next?_eq_none_iff`: a draw fails only by a sum that is longer than the longest duration.
* `Search`: the search without a bound on its draws. It is deterministic (`Search.unique`), and
  `uniqueWithin?` follows it (`Search.uniqueWithin?_eq`).
* `exists_search`: it ends after one draw more than there are taken ids among those that can still
  be drawn.
* `not_mem_of_unique?`: the id that `unique?` answers is not taken.
* `search_ends`: what a search ends with, for every state, every clock and all taken ids.
-/

namespace WidgetStage

namespace SyntheticIds

/-- No stamp follows at this reading: the last one is not behind it, and a microsecond more is
beyond the longest duration. -/
def Exhausted (s : SyntheticIds) (now : Duration) : Prop :=
  ∃ last, s.last = some last ∧ now.truncateToMicros.nanos ≤ last.nanos ∧
    Duration.longest.nanos < last.nanos + (Duration.ofMicros 1).nanos

/-- A search, with the number of its draws and what it ends with: an id that is not taken, or
nothing, after a draw that fails. -/
inductive Search (taken : String → Bool) :
    (Nat → Duration) → SyntheticIds → Nat → Option (String × SyntheticIds) → Prop where
  | found {clock : Nat → Duration} {s t : SyntheticIds} {id : String}
      (hdraw : s.next? (clock 0) = some (id, t)) (hfree : taken id = false) :
      Search taken clock s 1 (some (id, t))
  | again {clock : Nat → Duration} {s t : SyntheticIds} {id : String} {k : Nat}
      {r : Option (String × SyntheticIds)}
      (hdraw : s.next? (clock 0) = some (id, t)) (htaken : taken id = true)
      (hrest : Search taken (fun j => clock (j + 1)) t k r) : Search taken clock s (k + 1) r
  | failed {clock : Nat → Duration} {s : SyntheticIds} (hdraw : s.next? (clock 0) = none) :
      Search taken clock s 1 none

variable {s t : SyntheticIds} {clock : Nat → Duration} {now : Duration} {id : String}
  {taken : String → Bool} {k k' fuel : Nat} {r r' : Option (String × SyntheticIds)}

/-! ### Draws that fail -/

/-- A draw fails only by a sum that is longer than the longest duration. -/
theorem next?_eq_none_iff : s.next? now = none ↔ s.Exhausted now := by
  rw [next?, Option.map_eq_none_iff, stamp?, Exhausted]
  rcases s.last with _ | last
  · simp
  · simp only [Option.some.injEq, exists_eq_left', Duration.add?]
    by_cases hnow : now.truncateToMicros.nanos ≤ last.nanos
    · by_cases hsum : last.nanos + (Duration.ofMicros 1).nanos ≤ Duration.longest.nanos
      · simp [hnow, hsum]
      · simp [hnow, hsum, Nat.lt_of_not_le hsum]
    · simp [hnow]

/-- The draws after the first one start from what it leaves. -/
theorem after?_succ (hdraw : s.next? (clock 0) = some (id, t)) (k : Nat) :
    s.after? clock (k + 1) = t.after? (fun j => clock (j + 1)) k := by
  induction k with
  | zero => simp only [after?, Option.bind_some, hdraw, Option.map_some]
  | succ k ih => rw [after?, ih, after?]

/-! ### Searches -/

namespace Search

/-- A search takes one draw at least. -/
theorem pos (h : Search taken clock s k r) : 0 < k := by
  cases h with
  | found hdraw hfree => exact Nat.one_pos
  | again hdraw htaken hrest => exact Nat.succ_pos _
  | failed hdraw => exact Nat.one_pos

/-- What a search does is decided by its first draw. -/
theorem cases_first (h : Search taken clock s k r) :
    match s.next? (clock 0) with
    | none => k = 1 ∧ r = none
    | some (id, t) =>
      if taken id then ∃ l, k = l + 1 ∧ Search taken (fun j => clock (j + 1)) t l r
      else k = 1 ∧ r = some (id, t) := by
  cases h with
  | found hdraw hfree => simp [hdraw, hfree]
  | again hdraw htaken hrest => simpa [hdraw, htaken] using hrest
  | failed hdraw => simp [hdraw]

/-- Every search of a state by a clock goes the same way. -/
theorem unique (h : Search taken clock s k r) (h' : Search taken clock s k' r') :
    k' = k ∧ r' = r := by
  have hfirst := h'.cases_first
  induction h generalizing k' r' with
  | found hdraw hfree => simpa [hdraw, hfree] using hfirst
  | again hdraw htaken hrest ih =>
      simp only [hdraw, htaken, if_true] at hfirst
      obtain ⟨l, rfl, hrest'⟩ := hfirst
      obtain ⟨rfl, rfl⟩ := ih hrest' hrest'.cases_first
      exact ⟨rfl, rfl⟩
  | failed hdraw => simpa [hdraw] using hfirst

/-- A bound that leaves enough draws does not show. -/
theorem uniqueWithin?_eq (h : Search taken clock s k r) (hk : k ≤ fuel + 1) :
    uniqueWithin? taken fuel clock s = r := by
  induction h generalizing fuel with
  | found hdraw hfree => cases fuel <;> simp [uniqueWithin?, hdraw, hfree]
  | again hdraw htaken hrest ih =>
      cases fuel with
      | zero => exact absurd hrest.pos (by omega)
      | succ fuel =>
          rw [uniqueWithin?, hdraw]
          simp only [htaken, if_true]
          exact ih (by omega)
  | failed hdraw => cases fuel <;> simp [uniqueWithin?, hdraw]

/-- What is found is not taken. -/
theorem not_taken (h : Search taken clock s k (some (id, t))) : taken id = false := by
  generalize hr : some (id, t) = r at h
  induction h with
  | found hdraw hfree =>
      cases hr
      exact hfree
  | again hdraw htaken hrest ih => exact ih hr
  | failed hdraw => cases hr

/-- A search finds something unless one of its draws fails. -/
theorem isSome_iff (h : Search taken clock s k r) :
    r.isSome ↔ ∀ j < k, ∀ t, s.after? clock j = some t → ¬ t.Exhausted (clock j) := by
  induction h with
  | found hdraw hfree =>
      simp [after?, ← next?_eq_none_iff, hdraw]
  | @again clock s t id k r hdraw htaken hrest ih =>
      rw [ih, Nat.forall_lt_succ_left]
      simp only [after?_succ hdraw]
      refine (and_iff_right ?_).symm
      rintro _ ⟨⟩
      rw [← next?_eq_none_iff, hdraw]
      exact Option.some_ne_none _
  | failed hdraw =>
      simp [after?, ← next?_eq_none_iff, hdraw]

end Search

/-- A search ends after one draw more than there are taken ids among the texts of later stamps. -/
theorem exists_search {later : Finset String}
    (hlater : ∀ stamp, s.Later stamp → taken (text stamp) = true → text stamp ∈ later)
    (clock : Nat → Duration) : ∃ k ≤ later.card + 1, ∃ r, Search taken clock s k r := by
  induction hcard : later.card using Nat.strong_induction_on generalizing s clock later with
  | _ n ih =>
      rcases hdraw : s.next? (clock 0) with _ | ⟨id, t⟩
      · exact ⟨1, by omega, none, .failed hdraw⟩
      cases htaken : taken id with
      | false => exact ⟨1, by omega, some (id, t), .found hdraw htaken⟩
      | true =>
          obtain ⟨stamp, rfl, hlast, hstamp⟩ := micros_lt_of_next? hdraw
          have hmem := hlater stamp hstamp htaken
          -- the text that was drawn is not drawn again
          have hrest : ∀ next, t.Later next → taken (text next) = true →
              text next ∈ later.erase (text stamp) := by
            intro next hnext htext
            have hlt := hnext stamp hlast
            refine Finset.mem_erase.2 ⟨fun heq => ?_, ?_⟩
            · exact Nat.ne_of_gt hlt (micros_eq_of_text_eq heq)
            · exact hlater next (fun last hs => Nat.lt_trans (hstamp last hs) hlt) htext
          have hless := Finset.card_erase_add_one hmem
          obtain ⟨k, hk, r, hsearch⟩ := ih _ (by omega) hrest _ rfl
          exact ⟨k + 1, by omega, r, .again hdraw htaken hsearch⟩

/-- What `unique?` answers is what a search ends with. -/
theorem exists_search_unique? (s : SyntheticIds) (taken : List String) (clock : Nat → Duration) :
    ∃ k ≤ taken.toFinset.card + 1, Search taken.contains clock s k (s.unique? taken clock) := by
  have hlater : ∀ stamp, s.Later stamp → taken.contains (text stamp) = true →
      text stamp ∈ taken.toFinset := fun _ _ hmem =>
    List.mem_toFinset.2 (List.contains_iff_mem.1 hmem)
  obtain ⟨k, hk, r, hsearch⟩ := exists_search hlater clock
  have hfuel : k ≤ taken.length + 1 := Nat.le_trans hk (Nat.succ_le_succ taken.toFinset_card_le)
  have hr : s.unique? taken clock = r := hsearch.uniqueWithin?_eq hfuel
  exact ⟨k, hk, hr ▸ hsearch⟩

/-- The id that `unique?` answers is not taken. -/
theorem not_mem_of_unique? {taken : List String} (h : s.unique? taken clock = some (id, t)) :
    id ∉ taken := by
  obtain ⟨k, -, hsearch⟩ := exists_search_unique? s taken clock
  rw [h] at hsearch
  intro hmem
  have hfree := hsearch.not_taken
  rw [List.contains_iff_mem.2 hmem] at hfree
  cases hfree

/-- For every state, all readings of the clock and every list of taken ids, the search ends after at
most one draw more than there are taken ids. It goes one way only, which is what `unique?` answers.
It finds an id that is not taken exactly if none of its draws adds up to more than the longest
duration. -/
theorem search_ends (s : SyntheticIds) (taken : List String) (clock : Nat → Duration) :
    ∃ k ≤ taken.toFinset.card + 1, ∃ r, Search taken.contains clock s k r ∧
      (∀ k' r', Search taken.contains clock s k' r' → k' = k ∧ r' = r) ∧
      s.unique? taken clock = r ∧
      ((∃ id t, r = some (id, t) ∧ id ∉ taken) ↔
        ∀ j < k, ∀ t, s.after? clock j = some t → ¬ t.Exhausted (clock j)) := by
  obtain ⟨k, hk, hsearch⟩ := exists_search_unique? s taken clock
  refine ⟨k, hk, _, hsearch, fun _ _ h => hsearch.unique h, rfl, ?_⟩
  rw [← hsearch.isSome_iff, Option.isSome_iff_exists]
  constructor
  · rintro ⟨id, t, hr, -⟩
    exact ⟨_, hr⟩
  · rintro ⟨⟨id, t⟩, hr⟩
    exact ⟨id, t, hr, not_mem_of_unique? hr⟩

/-- Taken ids are passed over, across a second. -/
example : start.unique? ["1.999999", "2.000000"] (fun _ => ⟨1999999000⟩) =
    some ("2.000001", ⟨some ⟨2000001000⟩⟩) := by
  decide

end SyntheticIds

end WidgetStage
