import WidgetStage.Proofs.Text.Trimming

/-!
# Parts between separators

A list of parts can be written one after another with a separator between every two, and with white
space around each separator. Cutting the text at the separators and trimming the pieces brings the
parts back.

## Main results

* `Separated.map_trim_cut`: the pieces are the parts.
* `Separated.trimmed`: a text of trimmed parts is trimmed.
* `Separated.forall`: what holds of all parts, of separators and of white space holds of the text.
-/

namespace WidgetStage.Text

/-- A text that consists of parts, and of a separator between every two of them, which may have
white space around it. -/
inductive Separated (sep : Char → Bool) : List (List Char) → List Char → Prop
  | one (part : List Char) : Separated sep [part] part
  | more {c : Char} {mid cs : List Char} {parts : List (List Char)} (part : List Char)
      (hc : sep c = true) (hmid : Padded [c] mid) (h : Separated sep parts cs) :
      Separated sep (part :: parts) (part ++ mid ++ cs)

variable {sep p : Char → Bool} {parts : List (List Char)} {cs front : List Char} {c : Char}

/-! ### Cutting -/

/-- A text without a separator is one piece. -/
theorem cut_eq_singleton (h : ∀ c ∈ cs, sep c = false) : cut sep cs = [cs] := by
  induction cs with
  | nil => rfl
  | cons c cs ih =>
      rw [cut, if_neg (by simp [h c List.mem_cons_self]),
        ih fun d hd => h d (List.mem_cons_of_mem c hd)]

/-- The first piece ends at the first separator. -/
theorem cut_append_cons (h : ∀ c ∈ front, sep c = false) (hc : sep c = true) (cs : List Char) :
    cut sep (front ++ c :: cs) = front :: cut sep cs := by
  induction front with
  | nil => rw [List.nil_append, cut, if_pos hc]
  | cons d front ih =>
      rw [List.cons_append, cut, if_neg (by simp [h d List.mem_cons_self]),
        ih fun e he => h e (List.mem_cons_of_mem d he)]

/-! ### Texts of parts -/

/-- What holds of all parts, of separators and of white space holds of the text. -/
theorem Separated.forall (h : Separated sep parts cs)
    (hparts : ∀ part ∈ parts, ∀ c ∈ part, p c = true)
    (hsep : ∀ c, sep c = true → p c = true) (hblank : ∀ c, isBlank c = true → p c = true) :
    ∀ c ∈ cs, p c = true := by
  induction h with
  | one part => exact hparts part List.mem_cons_self
  | more part hc hmid h ih =>
      obtain ⟨front, back, rfl, hfront, hback⟩ := hmid
      intro d hd
      simp only [List.mem_append, List.mem_singleton] at hd
      rcases hd with (hd | (hd | rfl) | hd) | hd
      · exact hparts part List.mem_cons_self d hd
      · exact hblank d (hfront d hd)
      · exact hsep d hc
      · exact hblank d (hback d hd)
      · exact ih (fun part hpart => hparts part (List.mem_cons_of_mem _ hpart)) d hd

/-- The ends of a text are those of its first and last part. -/
theorem Separated.trimmed (h : Separated sep parts cs)
    (hparts : ∀ part ∈ parts, Trimmed part ∧ part ≠ []) : Trimmed cs ∧ cs ≠ [] := by
  induction h with
  | one part => exact hparts part List.mem_cons_self
  | more part hc hmid h ih =>
      obtain ⟨hpart, hpart'⟩ := hparts part List.mem_cons_self
      obtain ⟨hcs, hcs'⟩ := ih fun part hpart => hparts part (List.mem_cons_of_mem _ hpart)
      exact ⟨hpart.append hcs hpart' hcs' _, by simp [hcs']⟩

/-- Cutting at the separators and trimming the pieces gives the parts, also if there is white space
before the first one. -/
theorem Separated.map_trim_cut_append (h : Separated sep parts cs)
    (hparts : ∀ part ∈ parts, Trimmed part ∧ ∀ c ∈ part, sep c = false)
    (hblank : ∀ c, isBlank c = true → sep c = false) (hfront : ∀ c ∈ front, isBlank c = true) :
    (cut sep (front ++ cs)).map trim = parts := by
  induction h generalizing front with
  | one part =>
      obtain ⟨htrimmed, hsep⟩ := hparts part List.mem_cons_self
      have hnone : ∀ c ∈ front ++ part, sep c = false := fun c hc =>
        (List.mem_append.1 hc).elim (fun hc => hblank c (hfront c hc)) (hsep c)
      have htrim : trim (front ++ part) = part :=
        htrimmed.trim_eq ⟨front, [], by simp, hfront, nofun⟩
      rw [cut_eq_singleton hnone, List.map_singleton, htrim]
  | @more c mid cs parts part hc hmid h ih =>
      obtain ⟨before, after, rfl, hbefore, hafter⟩ := hmid
      obtain ⟨htrimmed, hsep⟩ := hparts part List.mem_cons_self
      have hnone : ∀ c ∈ front ++ part ++ before, sep c = false := by
        intro c hc
        rcases List.mem_append.1 hc with hc | hc
        · exact (List.mem_append.1 hc).elim (fun hc => hblank c (hfront c hc)) (hsep c)
        · exact hblank c (hbefore c hc)
      have htrim : trim (front ++ part ++ before) = part :=
        htrimmed.trim_eq ⟨front, before, rfl, hfront, hbefore⟩
      have hcs : front ++ (part ++ (before ++ [c] ++ after) ++ cs) =
          front ++ part ++ before ++ c :: (after ++ cs) := by simp
      rw [hcs, cut_append_cons hnone hc, List.map_cons, htrim,
        ih (fun part hpart => hparts part (List.mem_cons_of_mem _ hpart)) hafter]

/-- Cutting a list of trimmed parts at its separators, and trimming the pieces, gives the parts
back. -/
theorem Separated.map_trim_cut (h : Separated sep parts cs)
    (hparts : ∀ part ∈ parts, Trimmed part ∧ ∀ c ∈ part, sep c = false)
    (hblank : ∀ c, isBlank c = true → sep c = false) : (cut sep cs).map trim = parts :=
  h.map_trim_cut_append hparts hblank (List.forall_mem_nil _)

end WidgetStage.Text
