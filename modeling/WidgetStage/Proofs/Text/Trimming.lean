import Mathlib.Data.List.TakeWhile
import WidgetStage.Text.Blank

/-!
# Trimmed texts

Trimming drops white space at the front, turns the text round, drops white space again and turns it
back. What comes out can be said without any of this: it is trimmed, and a trimmed text within
another one is the trim of it as soon as there is nothing but white space around it.

## Main results

* `Trimmed.trim_eq`: a trimmed text is the trim of every text that pads it.
* `trimmed_trim`: neither end of a trim is white space.
* `cut_eq_splitOn`: cutting at one character is splitting the list there.
-/

namespace WidgetStage.Text

/-- A text that neither starts nor ends with white space. -/
def Trimmed (cs : List Char) : Prop :=
  (∀ c, cs.head? = some c → isBlank c = false) ∧ ∀ c, cs.getLast? = some c → isBlank c = false

/-- A text that consists of another one and white space around it. -/
def Padded (core cs : List Char) : Prop :=
  ∃ front back, cs = front ++ core ++ back ∧ (∀ c ∈ front, isBlank c = true) ∧
    ∀ c ∈ back, isBlank c = true

variable {core cs front back : List Char} {c : Char}

/-- A text is trimmed if none of its characters is white space. -/
theorem trimmed_of_forall (h : ∀ c ∈ cs, isBlank c = false) : Trimmed cs :=
  ⟨fun c hc => h c (List.mem_of_head? hc), fun c hc => h c (List.mem_of_getLast? hc)⟩

/-- What stands between two trimmed texts may hold white space. -/
theorem Trimmed.append (hfront : Trimmed front) (hback : Trimmed back) (hfront' : front ≠ [])
    (hback' : back ≠ []) (cs : List Char) : Trimmed (front ++ cs ++ back) := by
  refine ⟨fun c hc => hfront.1 c ?_, fun c hc => hback.2 c ?_⟩
  · rwa [List.append_assoc, List.head?_append, List.head?_eq_some_head hfront', Option.some_or,
      ← List.head?_eq_some_head hfront'] at hc
  · rwa [List.getLast?_append, List.getLast?_eq_some_getLast hback', Option.some_or,
      ← List.getLast?_eq_some_getLast hback'] at hc

/-- There need not be white space around a text. -/
theorem padded_self (cs : List Char) : Padded cs cs :=
  ⟨[], [], by simp, nofun, nofun⟩

/-! ### Trimming -/

/-- White space at the front is trimmed off. -/
theorem trimStart_append (h : ∀ c ∈ front, isBlank c = true) :
    trimStart (front ++ cs) = trimStart cs :=
  List.dropWhile_append_of_pos h

/-- White space at the back is trimmed off. -/
theorem trimEnd_append (h : ∀ c ∈ back, isBlank c = true) : trimEnd (cs ++ back) = trimEnd cs := by
  have hback : ∀ c ∈ back.reverse, isBlank c = true := by simpa using h
  rw [trimEnd, List.reverse_append, List.dropWhile_append_of_pos hback, trimEnd]

/-- A trimmed text is what trimming leaves, whatever white space there is around it. -/
theorem Trimmed.trim_eq (hcore : Trimmed core) (h : Padded core cs) : trim cs = core := by
  obtain ⟨front, back, rfl, hfront, hback⟩ := h
  rw [trim, List.append_assoc, trimStart_append hfront]
  rcases core with _ | ⟨c, core⟩
  · rw [List.nil_append, trimStart, List.dropWhile_eq_nil_iff.2 hback]
    rfl
  · have hc : isBlank c = false := hcore.1 c rfl
    have hstart : trimStart (c :: core ++ back) = c :: core ++ back := by
      rw [trimStart, List.cons_append, List.dropWhile_cons_of_neg (by simp [hc])]
    have hself := trim_eq_self hcore.1 hcore.2
    rw [trim, trimStart, List.dropWhile_cons_of_neg (by simp [hc])] at hself
    rw [hstart, trimEnd_append hback, hself]

/-- The second pass of trimming takes white space only. -/
theorem trim_append_eq_trimStart (cs : List Char) :
    trim cs ++ ((trimStart cs).reverse.takeWhile isBlank).reverse = trimStart cs := by
  rw [trim, trimEnd, ← List.reverse_append, List.takeWhile_append_dropWhile, List.reverse_reverse]

/-- Neither end of a trim is white space. -/
theorem trimmed_trim (cs : List Char) : Trimmed (trim cs) := by
  constructor
  · intro c hc
    -- what the second pass leaves begins where the first pass has stopped
    have hstart : (trimStart cs).head? = some c := by
      rw [← trim_append_eq_trimStart, List.head?_append, hc]
      rfl
    have hfirst := List.head?_dropWhile_not isBlank cs
    rw [trimStart] at hstart
    rw [hstart] at hfirst
    simpa using hfirst
  · intro c hc
    rw [trim, trimEnd, List.getLast?_reverse] at hc
    have hlast := List.head?_dropWhile_not isBlank (trimStart cs).reverse
    rw [hc] at hlast
    simpa using hlast

/-! ### Cutting -/

/-- Cutting at one character is splitting the list there. -/
theorem cut_eq_splitOn (sep : Char) (cs : List Char) : cut (· == sep) cs = cs.splitOn sep := by
  induction cs with
  | nil => rfl
  | cons c cs ih =>
      rw [cut, ih, List.splitOn_cons_eq_if_modifyHead]
      rcases hcs : cs.splitOn sep with _ | ⟨piece, pieces⟩
      · exact absurd hcs (List.splitOn_ne_nil sep cs)
      · rw [List.modifyHead_cons]

end WidgetStage.Text
