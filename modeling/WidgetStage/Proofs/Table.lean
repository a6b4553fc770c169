import Mathlib.Data.List.Nodup
import WidgetStage.Table

/-!
# Tables with distinct keys

Nothing in the type of a table keeps a key from standing in it twice, but every operation keeps
keys distinct. Where they are, the entries of a table are what is found in it.

## Main results

* `Table.Distinct`: no key stands in the table twice; every operation keeps it.
* `Table.Distinct.mem_values_iff`: the values are what is found under the keys.
* `Table.Distinct.find?_filterValues`: what is found after values are dropped.
* `Table.find?_foldl_erase`: what is found after keys are dropped.
* `Table.erase_insert`, `Table.insert_insert`: what is inserted under a new key leaves no trace once
  it is erased or replaced.
-/

namespace WidgetStage.Table

variable {κ ν : Type} {t : Table κ ν} {k : κ} {v : ν}

/-- No key stands in the table twice. -/
def Distinct (t : Table κ ν) : Prop :=
  t.keys.Nodup

/-- In the empty table there is no key. -/
theorem distinct_empty : (empty : Table κ ν).Distinct :=
  List.nodup_nil

/-- Dropping entries does not repeat a key. -/
theorem Distinct.filterValues (ht : t.Distinct) (p : ν → Bool) : (t.filterValues p).Distinct :=
  List.Nodup.sublist (List.filter_sublist.map _) ht

variable [DecidableEq κ]

/-- Erasing a key does not repeat another one. -/
theorem Distinct.erase (ht : t.Distinct) (k : κ) : (t.erase k).Distinct :=
  List.Nodup.sublist (List.filter_sublist.map _) ht

/-- A key that was erased is gone. -/
theorem not_mem_keys_erase (t : Table κ ν) (k : κ) : k ∉ (t.erase k).keys := by
  simp [keys, Table.erase]

/-- Inserting a key takes away its old entry. -/
theorem Distinct.insert [LT κ] [DecidableLT κ] (ht : t.Distinct) (k : κ) (v : ν) :
    (t.insert k v).Distinct := by
  have hrest := ht.erase k
  have hk := not_mem_keys_erase t k
  unfold Distinct keys at hrest ⊢
  unfold keys at hk
  simp only [Table.insert]
  generalize (t.erase k).entries = rest at hrest hk
  rw [← List.takeWhile_append_dropWhile (p := fun e : κ × ν => decide (e.1 < k)) (l := rest)]
    at hrest hk
  rw [List.map_append] at hrest hk
  rw [List.map_append, List.map_cons, List.nodup_middle]
  exact List.nodup_cons.2 ⟨hk, hrest⟩

/-- Changing a value changes no key. -/
theorem keys_modify (t : Table κ ν) (k : κ) (f : ν → ν) : (t.modify k f).keys = t.keys := by
  simp only [keys, modify, List.map_map]
  refine List.map_congr_left fun e _ => ?_
  by_cases he : e.1 = k <;> simp [he]

/-! ### Entries and what is found -/

/-- A key is found if it stands in the table. -/
theorem mem_keys_iff : k ∈ t.keys ↔ (t.find? k).isSome := by
  simp [keys, find?, List.find?_isSome]

/-- An entry with a key is found, if no other one has the key. -/
theorem Distinct.mem_entries_iff (ht : t.Distinct) : (k, v) ∈ t.entries ↔ t.find? k = some v := by
  obtain ⟨es⟩ := t
  unfold Distinct keys at ht
  simp only [find?] at ht ⊢
  induction es with
  | nil => simp
  | cons e es ih =>
      obtain ⟨j, u⟩ := e
      rw [List.map_cons, List.nodup_cons] at ht
      by_cases hj : j = k
      · subst hj
        have hrest : (j, v) ∉ es := fun hv => ht.1 (List.mem_map.2 ⟨_, hv, rfl⟩)
        simp [hrest, eq_comm]
      · simp [hj, Ne.symm hj, ih ht.2]

/-- The values are what is found under the keys. -/
theorem Distinct.mem_values_iff (ht : t.Distinct) : v ∈ t.values ↔ ∃ k, t.find? k = some v := by
  simp only [values, List.mem_map, Prod.exists, exists_eq_right, ht.mem_entries_iff]

/-- A value that is found under one key only stands among the values once. -/
theorem Distinct.nodup_values (ht : t.Distinct)
    (hv : ∀ j k v, t.find? j = some v → t.find? k = some v → j = k) : t.values.Nodup := by
  have hentries : t.entries.Nodup := ht.of_map
  refine hentries.map_on ?_
  rintro ⟨j, u⟩ hj ⟨k, v⟩ hk huv
  obtain rfl : u = v := huv
  rw [hv j k u (ht.mem_entries_iff.1 hj) (ht.mem_entries_iff.1 hk)]

/-- What is found after values are dropped. -/
theorem Distinct.find?_filterValues (ht : t.Distinct) (p : ν → Bool) :
    (t.filterValues p).find? k = (t.find? k).filter p := by
  ext v
  rw [← (ht.filterValues p).mem_entries_iff, Option.filter_eq_some_iff, ← ht.mem_entries_iff]
  simp [Table.filterValues]

/-- What is found after keys are dropped. -/
theorem find?_foldl_erase (ks : List κ) (t : Table κ ν) (k : κ) :
    (ks.foldl Table.erase t).find? k = if k ∈ ks then none else t.find? k := by
  induction ks generalizing t with
  | nil => simp
  | cons j ks ih =>
      rw [List.foldl_cons, ih, find?_erase]
      by_cases hk : k ∈ ks
      · simp [hk]
      · by_cases hj : k = j
        · simp [hj]
        · simp [hk, hj]

/-! ### Tables that come back -/

/-- A key that has no value stands in no entry. -/
theorem ne_of_find?_eq_none (h : t.find? k = none) : ∀ e ∈ t.entries, e.1 ≠ k := by
  intro e he hk
  have hmem : k ∈ t.keys := List.mem_map.2 ⟨e, he, hk⟩
  rw [mem_keys_iff, h] at hmem
  cases hmem

/-- Erasing a key that has no value changes nothing. -/
theorem erase_eq_self (h : t.find? k = none) : t.erase k = t := by
  rw [Table.erase, List.filter_eq_self.2 fun e he => by simpa using ne_of_find?_eq_none h e he]

/-- A new key that is erased again leaves the table as it was. -/
theorem erase_insert [LT κ] [DecidableLT κ] (h : t.find? k = none) (v : ν) :
    (t.insert k v).erase k = t := by
  have hnew : ∀ l : List (κ × ν), (∀ e ∈ l, e ∈ t.entries) →
      l.filter (fun e => e.1 ≠ k) = l := fun l hl =>
    List.filter_eq_self.2 fun e he => by simpa using ne_of_find?_eq_none h e (hl e he)
  simp only [Table.insert, erase_eq_self h]
  rw [Table.erase, List.filter_append, List.filter_cons_of_neg (by simp),
    hnew _ fun e he => List.takeWhile_subset _ he, hnew _ fun e he => List.dropWhile_subset _ he,
    List.takeWhile_append_dropWhile]

/-- Of two values that a new key gets, the second one counts. -/
theorem insert_insert [LT κ] [DecidableLT κ] (h : t.find? k = none) (v v' : ν) :
    (t.insert k v).insert k v' = t.insert k v' := by
  rw [Table.insert, erase_insert h, Table.insert, erase_eq_self h]

/-- Erasing a key and changing all values do not depend on each other. -/
theorem erase_mapValues {μ : Type} (f : ν → μ) (t : Table κ ν) (k : κ) :
    (t.mapValues f).erase k = (t.erase k).mapValues f := by
  simp only [Table.erase, mapValues, List.filter_map]
  rfl

omit [DecidableEq κ] in
/-- Changing all values to what they are changes nothing. -/
theorem mapValues_eq_self {f : ν → ν} (h : ∀ k v, (k, v) ∈ t.entries → f v = v) :
    t.mapValues f = t := by
  have hid : (t.entries.map fun e => (e.1, f e.2)) = t.entries.map id :=
    List.map_congr_left fun e he => by rw [h e.1 e.2 he, id]
  rw [mapValues, hid, List.map_id]

/-- Changing a value to what it is changes nothing. -/
theorem modify_eq_self {f : ν → ν} (h : ∀ v, (k, v) ∈ t.entries → f v = v) : t.modify k f = t := by
  have hid : (t.entries.map fun e => if e.1 = k then (e.1, f e.2) else e) = t.entries.map id := by
    refine List.map_congr_left fun e he => ?_
    obtain ⟨j, v⟩ := e
    by_cases hj : j = k
    · subst hj
      rw [if_pos rfl, h v he, id]
    · rw [if_neg hj, id]
  rw [modify, hid, List.map_id]

/-- Two changes of one value are one change. -/
theorem modify_modify (f f' : ν → ν) : (t.modify k f).modify k f' = t.modify k (f' ∘ f) := by
  simp only [modify, List.map_map]
  congr 1
  refine List.map_congr_left fun e _ => ?_
  by_cases he : e.1 = k <;> simp [he]

/-! ### Sizes -/

/-- Changing a value adds no entry. -/
theorem size_modify (f : ν → ν) : (t.modify k f).size = t.size :=
  List.length_map _

/-- A new key is one entry more. -/
theorem size_insert_of_new [LT κ] [DecidableLT κ] (h : t.find? k = none) (v : ν) :
    (t.insert k v).size = t.size + 1 := by
  have hlength := congrArg List.length
    (List.takeWhile_append_dropWhile (p := fun e : κ × ν => decide (e.1 < k)) (l := t.entries))
  rw [List.length_append] at hlength
  simp only [Table.insert, erase_eq_self h, size, List.length_append, List.length_cons]
  omega

end WidgetStage.Table
