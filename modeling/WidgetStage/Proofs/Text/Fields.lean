import WidgetStage.Proofs.Text.Separated

/-!
# Fields between white space

A text is split into its fields by cutting it at every white space character and dropping the empty
pieces. What comes out can be said without cutting: the text is its fields in order, with white
space between every two of them, and perhaps before the first and after the last one. Any white
space will do, and any amount of it, so that many texts have the same fields; but every text has
one list of fields only.

## Main results

* `fields_eq_iff`: the fields of a text are those of which it consists.
* `existsUnique_spaced`: there is exactly one way to take a text for fields.
-/

namespace WidgetStage.Text

/-- A text that consists of fields, which hold no white space, with white space between every two of
them and perhaps at either end. -/
inductive Spaced : List (List Char) → List Char → Prop
  | blank {ws : List Char} (hws : ∀ c ∈ ws, isBlank c = true) : Spaced [] ws
  | field {ws field cs : List Char} {fs : List (List Char)} (hws : ∀ c ∈ ws, isBlank c = true)
      (hne : field ≠ []) (hfield : ∀ c ∈ field, isBlank c = false)
      (hgap : ∀ c, cs.head? = some c → isBlank c = true) (h : Spaced fs cs) :
      Spaced (field :: fs) (ws ++ field ++ cs)

variable {cs ws field : List Char} {fs : List (List Char)} {c : Char}

/-! ### Splitting -/

/-- One character of white space at the front makes no field. -/
theorem fields_cons_blank (hc : isBlank c = true) : fields (c :: cs) = fields cs := by
  rw [fields, cut, if_pos hc, List.filter_cons_of_neg (by simp), fields]

/-- White space at the front makes no field. -/
theorem fields_append_blank (hws : ∀ c ∈ ws, isBlank c = true) : fields (ws ++ cs) = fields cs := by
  induction ws with
  | nil => rfl
  | cons c ws ih =>
      rw [List.cons_append, fields_cons_blank (hws c List.mem_cons_self),
        ih fun d hd => hws d (List.mem_cons_of_mem c hd)]

/-- A field ends at the first white space after it, or where the text ends. -/
theorem fields_append_field (hne : field ≠ []) (hfield : ∀ c ∈ field, isBlank c = false)
    (hgap : ∀ c, cs.head? = some c → isBlank c = true) :
    fields (field ++ cs) = field :: fields cs := by
  rcases cs with _ | ⟨c, cs⟩
  · have hempty : fields [] = [] := rfl
    rw [List.append_nil, fields, cut_eq_singleton hfield, hempty,
      List.filter_cons_of_pos (by simpa using hne), List.filter_nil]
  · have hc : isBlank c = true := hgap c rfl
    rw [fields, cut_append_cons hfield hc, List.filter_cons_of_pos (by simpa using hne),
      fields_cons_blank hc, fields]

/-! ### Texts of fields -/

/-- The fields of which a text consists are those that it is split into. -/
theorem Spaced.fields_eq (h : Spaced fs cs) : fields cs = fs := by
  induction h with
  | @blank ws hws =>
      rw [← List.append_nil ws, fields_append_blank hws]
      rfl
  | field hws hne hfield hgap h ih =>
      rw [List.append_assoc, fields_append_blank hws, fields_append_field hne hfield hgap, ih]

/-- There may be more white space before the first field. -/
theorem Spaced.cons_blank (hc : isBlank c = true) (h : Spaced fs cs) : Spaced fs (c :: cs) := by
  cases h with
  | blank hws => exact .blank (List.forall_mem_cons.2 ⟨hc, hws⟩)
  | field hws hne hfield hgap h =>
      exact .field (List.forall_mem_cons.2 ⟨hc, hws⟩) hne hfield hgap h

/-- A text may start with its first field. -/
theorem Spaced.of_front (hne : field ≠ []) (hfield : ∀ c ∈ field, isBlank c = false)
    (hgap : ∀ c, cs.head? = some c → isBlank c = true) (h : Spaced fs cs) :
    Spaced (field :: fs) (field ++ cs) :=
  .field (List.forall_mem_nil _) hne hfield hgap h

/-- Any other character at the front belongs to the first field, or is a field by itself. -/
theorem Spaced.exists_cons (hc : isBlank c = false) (h : Spaced fs cs) :
    ∃ fs', Spaced fs' (c :: cs) := by
  have hself : ∀ d ∈ [c], isBlank d = false := by simpa using hc
  cases h with
  | blank hws =>
      exact ⟨[[c]], .of_front (List.cons_ne_nil _ _) hself
        (fun d hd => hws d (List.mem_of_head? hd)) (.blank hws)⟩
  | @field ws field cs fs hws hne hfield hgap h =>
      rcases ws with _ | ⟨d, ws⟩
      · exact ⟨(c :: field) :: fs, .of_front (List.cons_ne_nil _ _)
          (List.forall_mem_cons.2 ⟨hc, hfield⟩) hgap h⟩
      · refine ⟨[c] :: field :: fs, .of_front (List.cons_ne_nil _ _) hself ?_
          (.field hws hne hfield hgap h)⟩
        intro e he
        cases he
        exact hws d List.mem_cons_self

/-- Every text can be taken for fields. -/
theorem exists_spaced (cs : List Char) : ∃ fs, Spaced fs cs := by
  induction cs with
  | nil => exact ⟨[], .blank nofun⟩
  | cons c cs ih =>
      obtain ⟨fs, h⟩ := ih
      rcases hc : isBlank c with _ | _
      · exact h.exists_cons hc
      · exact ⟨fs, h.cons_blank hc⟩

/-- The fields of a text are those of which it consists. -/
theorem fields_eq_iff : fields cs = fs ↔ Spaced fs cs := by
  refine ⟨fun hfs => ?_, Spaced.fields_eq⟩
  obtain ⟨fs', h⟩ := exists_spaced cs
  rwa [← hfs, h.fields_eq]

/-- There is exactly one way to take a text for fields. -/
theorem existsUnique_spaced (cs : List Char) : ∃! fs, Spaced fs cs := by
  refine ⟨fields cs, fields_eq_iff.1 rfl, fun fs h => h.fields_eq.symm⟩

end WidgetStage.Text
