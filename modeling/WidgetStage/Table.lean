/-!
# Tables

A table assigns values to keys. It is a list of pairs that is kept in ascending order of the
keys, so that whatever runs through a table does so in that order.

* `Table.find?_insert` — an inserted value is found under its key, and other keys keep theirs.
* `Table.find?_erase` — an erased key is not found, and other keys keep their values.
* `Table.find?_mapValues` — changing all values changes what is found.
-/

namespace WidgetStage

/-- Values by ascending keys. -/
structure Table (κ : Type) (ν : Type) where
  entries : List (κ × ν)
  deriving DecidableEq, Repr

namespace Table

variable {κ ν : Type}

/-- A table without entries. -/
def empty : Table κ ν :=
  ⟨[]⟩

/-- The number of entries. -/
def size (t : Table κ ν) : Nat :=
  t.entries.length

/-- The keys in order. -/
def keys (t : Table κ ν) : List κ :=
  t.entries.map Prod.fst

/-- The values in the order of their keys. -/
def values (t : Table κ ν) : List ν :=
  t.entries.map Prod.snd

/-- Changes every value. -/
def mapValues {μ : Type} (f : ν → μ) (t : Table κ ν) : Table κ μ :=
  ⟨t.entries.map fun e => (e.1, f e.2)⟩

/-- Keeps the entries whose value satisfies `p`. -/
def filterValues (p : ν → Bool) (t : Table κ ν) : Table κ ν :=
  ⟨t.entries.filter fun e => p e.2⟩

variable [DecidableEq κ]

/-- The value of a key. -/
def find? (t : Table κ ν) (k : κ) : Option ν :=
  (t.entries.find? (fun e => e.1 = k)).map Prod.snd

/-- Whether a key has a value. -/
def contains (t : Table κ ν) (k : κ) : Bool :=
  (t.find? k).isSome

/-- Takes the value from a key. -/
def erase (t : Table κ ν) (k : κ) : Table κ ν :=
  ⟨t.entries.filter fun e => e.1 ≠ k⟩

/-- Changes the value of a key, if it has one. -/
def modify (t : Table κ ν) (k : κ) (f : ν → ν) : Table κ ν :=
  ⟨t.entries.map fun e => if e.1 = k then (e.1, f e.2) else e⟩

/-- Gives a value to a key, in place of the one it may have. -/
def insert [LT κ] [DecidableLT κ] (t : Table κ ν) (k : κ) (v : ν) : Table κ ν :=
  let rest := (t.erase k).entries
  ⟨rest.takeWhile (fun e => e.1 < k) ++ (k, v) :: rest.dropWhile (fun e => e.1 < k)⟩

/-! ### What is found -/

/-- In the empty table nothing is found. -/
@[simp] theorem find?_empty (k : κ) : (empty : Table κ ν).find? k = none :=
  rfl

/-- An erased key is not found, and other keys keep their values. -/
theorem find?_erase (t : Table κ ν) (k j : κ) :
    (t.erase k).find? j = if j = k then none else t.find? j := by
  obtain ⟨es⟩ := t
  simp only [find?, erase]
  induction es with
  | nil => simp
  | cons e es ih =>
    by_cases hk : e.1 = k
    · by_cases hj : j = k
      · simp_all
      · have hne : e.1 ≠ j := fun h => hj (h.symm.trans hk)
        simp_all
    · by_cases hj : e.1 = j
      · have hne : j ≠ k := fun h => hk (hj.trans h)
        simp_all
      · simp_all

/-- An inserted value is found under its key, and other keys keep theirs. -/
theorem find?_insert [LT κ] [DecidableLT κ] (t : Table κ ν) (k j : κ) (v : ν) :
    (t.insert k v).find? j = if j = k then some v else t.find? j := by
  have herase := find?_erase t k j
  simp only [find?, insert] at herase ⊢
  generalize (t.erase k).entries = rest at herase
  rw [← List.takeWhile_append_dropWhile (p := fun e : κ × ν => decide (e.1 < k)) (l := rest)]
    at herase
  rw [List.find?_append] at herase ⊢
  by_cases hj : j = k
  · subst hj
    have hnone : ∀ l : List (κ × ν),
        (List.find? (fun e => decide (e.1 = j)) l).map Prod.snd = none →
          List.find? (fun e => decide (e.1 = j)) l = none := by
      intro l hl
      simpa using hl
    simp only [if_true] at herase ⊢
    have h := hnone _ (by rw [List.find?_append]; exact herase)
    rw [List.find?_append, Option.or_eq_none_iff] at h
    simp [h.1]
  · rw [if_neg hj] at herase ⊢
    rw [← herase, List.find?_cons_of_neg]
    simpa using fun h => hj h.symm

/-- Changing one value changes what is found under its key. -/
theorem find?_modify (t : Table κ ν) (k j : κ) (f : ν → ν) :
    (t.modify k f).find? j = if j = k then (t.find? j).map f else t.find? j := by
  obtain ⟨es⟩ := t
  simp only [find?, modify]
  induction es with
  | nil => simp
  | cons e es ih =>
    by_cases hk : e.1 = k
    · by_cases hj : j = k
      · simp_all
      · have hne : k ≠ j := fun h => hj h.symm
        simp_all
    · by_cases hj : e.1 = j
      · have hne : j ≠ k := fun h => hk (hj.trans h)
        simp_all
      · simp_all

/-- Changing all values changes what is found. -/
theorem find?_mapValues {μ : Type} (f : ν → μ) (t : Table κ ν) (k : κ) :
    (t.mapValues f).find? k = (t.find? k).map f := by
  obtain ⟨es⟩ := t
  simp only [find?, mapValues]
  induction es with
  | nil => rfl
  | cons e es ih =>
    by_cases hk : e.1 = k
    · simp [hk]
    · simpa [hk] using ih

end Table

end WidgetStage
