import WidgetStage.Color
import WidgetStage.Proofs.Text.Fields
import WidgetStage.Proofs.Text.Numerals

/-!
# Texts of colour classes

A colour class is written as twelve numbers between white space. Which texts are read, and as what,
is said here without the reader: by the fields of which the text consists, and by what each of them
denotes. A text that is not read has another number of fields, whatever they are; or it has twelve,
and the first one that denotes no channel value is to blame.

## Main results

* `channel?_eq_some_iff`: what a single field is read as.
* `channels_eq_ok_iff`, `channels_eq_error_iff`: so for all fields, up to the first bad one.
* `ColorClass.parse_exact`: which texts are read, which errors the others have, and that every
  colour class is read back as it is written.
-/

namespace WidgetStage.ColorClass

open Text (Spaced NaturalLiteral)

/-- A field that denotes the value of a channel: a number up to 255, perhaps with a plus sign and
with zeros at the front. -/
def ChannelLiteral (field : List Char) (v : UInt8) : Prop :=
  NaturalLiteral 10 field v.toNat

/-- The twelve channels in the order in which they are written. -/
def values (c : ColorClass) : List UInt8 :=
  c.object.channels ++ c.outline.channels ++ c.shadow.channels

/-- The fields before the first one that denotes no channel value, that field, and the rest. -/
structure FirstBad (fs front : List (List Char)) (bad : List Char) : Prop where
  split : ∃ back, fs = front ++ bad :: back
  good : ∀ field ∈ front, ∃ v, ChannelLiteral field v
  bad : ∀ v, ¬ ChannelLiteral bad v

variable {s : String} {c : ColorClass} {field bad : List Char} {fs front : List (List Char)}
  {v : UInt8} {vs : List UInt8} {i n : Nat} {e : ColorClassError}

/-! ### Fields -/

/-- A field is read as the value that it denotes. -/
theorem channel?_eq_some_iff : channel? field = some v ↔ ChannelLiteral field v := by
  rw [channel?, Option.map_eq_some_iff, ChannelLiteral]
  simp only [Text.natural?_eq_some_iff (show 10 ≤ 16 by decide)]
  constructor
  · rintro ⟨n, ⟨hn, hle⟩, rfl⟩
    rwa [UInt8.toNat_ofNat_of_lt' (by rw [UInt8.size]; omega)]
  · intro h
    have hlt := v.toNat_lt
    exact ⟨v.toNat, ⟨h, by omega⟩, UInt8.ofNat_toNat⟩

/-- A field is not read if it denotes no value. -/
theorem channel?_eq_none_iff : channel? field = none ↔ ∀ v, ¬ ChannelLiteral field v := by
  simp only [Option.eq_none_iff_forall_ne_some, ne_eq, channel?_eq_some_iff]

/-- All fields are read, each as the value that it denotes. -/
theorem channels_eq_ok_iff : channels i fs = .ok vs ↔ List.Forall₂ ChannelLiteral fs vs := by
  induction fs generalizing i vs with
  | nil => simp [channels, eq_comm]
  | cons field fs ih =>
      rw [List.forall₂_cons_left_iff]
      simp only [← channel?_eq_some_iff, ← ih (i := i + 1), channels]
      rcases channel? field with _ | v
      · simp
      · rcases channels (i + 1) fs with e | ws
        · simp
        · simp [eq_comm]

/-- A bad field at the front is the first one. -/
theorem firstBad_cons_of_bad (hfield : ∀ v, ¬ ChannelLiteral field v) :
    FirstBad (field :: fs) front bad ↔ front = [] ∧ bad = field := by
  constructor
  · rintro ⟨⟨back, hsplit⟩, hgood, -⟩
    rcases front with _ | ⟨first, rest⟩
    · cases hsplit
      exact ⟨rfl, rfl⟩
    · cases hsplit
      obtain ⟨v, hv⟩ := hgood field List.mem_cons_self
      exact absurd hv (hfield v)
  · rintro ⟨rfl, rfl⟩
    exact ⟨⟨fs, rfl⟩, nofun, hfield⟩

/-- After a good field, the first bad one is that of the rest. -/
theorem firstBad_cons_of_good (hfield : ChannelLiteral field v) :
    FirstBad (field :: fs) front bad ↔
      ∃ rest, front = field :: rest ∧ FirstBad fs rest bad := by
  constructor
  · rintro ⟨⟨back, hsplit⟩, hgood, hbad⟩
    rcases front with _ | ⟨first, rest⟩
    · cases hsplit
      exact absurd hfield (hbad v)
    · cases hsplit
      exact ⟨rest, rfl, ⟨back, rfl⟩, fun g hg => hgood g (List.mem_cons_of_mem field hg), hbad⟩
  · rintro ⟨rest, rfl, ⟨back, rfl⟩, hgood, hbad⟩
    exact ⟨⟨back, rfl⟩, List.forall_mem_cons.2 ⟨⟨v, hfield⟩, hgood⟩, hbad⟩

/-- Reading stops at the first field that denotes no channel value. -/
theorem channels_eq_error_iff : channels i fs = .error e ↔
    ∃ front bad, FirstBad fs front bad ∧ e = .component (i + front.length) (String.ofList bad) := by
  induction fs generalizing i with
  | nil =>
      refine iff_of_false nofun ?_
      rintro ⟨front, bad, ⟨⟨back, hsplit⟩, -, -⟩, -⟩
      simp at hsplit
  | cons field fs ih =>
      rw [channels]
      rcases hfield : channel? field with _ | v
      · simp only [firstBad_cons_of_bad (channel?_eq_none_iff.1 hfield), Except.error.injEq]
        constructor
        · rintro rfl
          exact ⟨[], field, ⟨rfl, rfl⟩, rfl⟩
        · rintro ⟨_, _, ⟨rfl, rfl⟩, rfl⟩
          rfl
      · -- the fields before the bad one are one more than among the rest, and so is the index
        have hindex : ∀ rest : List (List Char),
            i + (field :: rest).length = i + 1 + rest.length := fun rest => by
          rw [List.length_cons, Nat.add_assoc, Nat.add_comm 1]
        have hrest : (∃ front bad, FirstBad (field :: fs) front bad ∧
              e = .component (i + front.length) (String.ofList bad)) ↔
            channels (i + 1) fs = .error e := by
          simp only [ih, firstBad_cons_of_good (channel?_eq_some_iff.1 hfield)]
          constructor
          · rintro ⟨_, bad, ⟨rest, rfl, hbad⟩, rfl⟩
            exact ⟨rest, bad, hbad, by rw [hindex]⟩
          · rintro ⟨rest, bad, hbad, rfl⟩
            exact ⟨field :: rest, bad, ⟨rest, rfl, hbad⟩, by rw [hindex]⟩
        rw [hrest]
        rcases channels (i + 1) fs with e' | vs
        · simp
        · simp

/-! ### Texts -/

/-- Twelve values are the channels of one colour class. -/
theorem exists_values (h : vs.length = 12) : ∃ c : ColorClass, c.values = vs := by
  match vs, h with
  | [a, b, c, d, e, f, g, h, i, j, k, l], _ =>
    exact ⟨⟨⟨a, b, c, d⟩, ⟨e, f, g, h⟩, ⟨i, j, k, l⟩⟩, rfl⟩

theorem length_values (c : ColorClass) : c.values.length = 12 :=
  rfl

/-- A text with another number of fields than twelve is refused, whatever they are. -/
theorem parse_of_length_ne (h : Spaced fs s.toList) (hlen : fs.length ≠ 12) :
    parse s = .error (.fieldCount fs.length) := by
  simp only [parse, h.fields_eq]
  rw [if_pos hlen]

/-- A text is read as the colour class whose values its fields denote. -/
theorem parse_of_forall₂ (h : Spaced fs s.toList) (hc : List.Forall₂ ChannelLiteral fs c.values) :
    parse s = .ok c := by
  have hlen : fs.length = 12 := hc.length_eq.trans c.length_values
  simp only [parse, h.fields_eq]
  rw [if_neg (not_not_intro hlen), channels_eq_ok_iff.2 hc]
  rfl

/-- Of twelve fields the first bad one is to blame. -/
theorem parse_of_firstBad (h : Spaced fs s.toList) (hlen : fs.length = 12)
    (hbad : FirstBad fs front bad) :
    parse s = .error (.component front.length (String.ofList bad)) := by
  have he : channels 0 fs = .error (.component front.length (String.ofList bad)) :=
    channels_eq_error_iff.2 ⟨front, bad, hbad, by rw [Nat.zero_add]⟩
  simp only [parse, h.fields_eq]
  rw [if_neg (not_not_intro hlen), he]

/-- Twelve fields are those of a colour class, unless there is a first one that is bad. -/
theorem exists_values_or_firstBad (hlen : fs.length = 12) :
    (∃ c : ColorClass, List.Forall₂ ChannelLiteral fs c.values) ∨
      ∃ front bad, FirstBad fs front bad := by
  rcases hread : channels 0 fs with e | vs
  · obtain ⟨front, bad, hbad, -⟩ := channels_eq_error_iff.1 hread
    exact .inr ⟨front, bad, hbad⟩
  · have hvs := channels_eq_ok_iff.1 hread
    obtain ⟨c, rfl⟩ := exists_values (hvs.length_eq ▸ hlen)
    exact .inl ⟨c, hvs⟩

/-- There are three kinds of texts, and each is answered in its own way. -/
theorem parse_cases (h : Spaced fs s.toList) :
    (fs.length ≠ 12 ∧ parse s = .error (.fieldCount fs.length)) ∨
      (∃ c : ColorClass, List.Forall₂ ChannelLiteral fs c.values ∧ parse s = .ok c) ∨
      ∃ front bad, fs.length = 12 ∧ FirstBad fs front bad ∧
        parse s = .error (.component front.length (String.ofList bad)) := by
  by_cases hlen : fs.length = 12
  · rcases exists_values_or_firstBad hlen with ⟨c, hc⟩ | ⟨front, bad, hbad⟩
    · exact .inr (.inl ⟨c, hc, parse_of_forall₂ h hc⟩)
    · exact .inr (.inr ⟨front, bad, hlen, hbad, parse_of_firstBad h hlen hbad⟩)
  · exact .inl ⟨hlen, parse_of_length_ne h hlen⟩

/-- What is written for a number denotes it. -/
theorem forall₂_toDigits (vs : List UInt8) :
    List.Forall₂ ChannelLiteral (vs.map fun v => Nat.toDigits 10 v.toNat) vs := by
  rw [List.forall₂_map_left_iff, List.forall₂_same]
  exact fun v _ => .bare (Text.numeral_toDigits (by decide) v.toNat)

/-- A text is read as a colour class if and only if it consists of twelve fields that denote, in
order, the four channels of the object, of the outline and of the shadow. If it has another number
of fields, then that is the error, whatever they are; otherwise the error is about the first field
that denotes no channel value. Every text consists of fields in one way only, so there is nothing
else. Hence the channels of a colour class, written in decimal with any white space between them and
around them, are read back. -/
theorem parse_exact (s : String) :
    (∃! fs, Spaced fs s.toList) ∧
    (∀ c, parse s = .ok c ↔
      ∃ fs, Spaced fs s.toList ∧ List.Forall₂ ChannelLiteral fs c.values) ∧
    (∀ n, parse s = .error (.fieldCount n) ↔
      ∃ fs, Spaced fs s.toList ∧ fs.length = n ∧ n ≠ 12) ∧
    (∀ i text, parse s = .error (.component i text) ↔
      ∃ fs front, Spaced fs s.toList ∧ fs.length = 12 ∧ FirstBad fs front text.toList ∧
        front.length = i) ∧
    (∀ c, Spaced (c.values.map fun v => Nat.toDigits 10 v.toNat) s.toList → parse s = .ok c) := by
  obtain ⟨fs, h⟩ := Text.exists_spaced s.toList
  refine ⟨Text.existsUnique_spaced s.toList, fun c => ?read, fun n => ?count, fun i text => ?blame,
    fun c hs => parse_of_forall₂ hs (forall₂_toDigits c.values)⟩
  case read =>
    refine ⟨fun hp => ?_, fun ⟨fs', h', hc⟩ => parse_of_forall₂ h' hc⟩
    rcases parse_cases h with ⟨-, hp'⟩ | ⟨c', hc, hp'⟩ | ⟨front, bad, -, -, hp'⟩
    all_goals rw [hp'] at hp; cases hp
    exact ⟨fs, h, hc⟩
  case count =>
    refine ⟨fun hp => ?_, fun ⟨fs', h', hlen, hn⟩ => hlen ▸ parse_of_length_ne h' (hlen ▸ hn)⟩
    rcases parse_cases h with ⟨hlen, hp'⟩ | ⟨c', -, hp'⟩ | ⟨front, bad, -, -, hp'⟩
    all_goals rw [hp'] at hp; cases hp
    exact ⟨fs, h, rfl, hlen⟩
  case blame =>
    constructor
    · intro hp
      rcases parse_cases h with ⟨-, hp'⟩ | ⟨c', -, hp'⟩ | ⟨front, bad, hlen, hbad, hp'⟩
      all_goals rw [hp'] at hp; cases hp
      exact ⟨fs, front, h, hlen, by rwa [String.toList_ofList], rfl⟩
    · rintro ⟨fs', front, h', hlen, hbad, rfl⟩
      rw [parse_of_firstBad h' hlen hbad, String.ofList_toList]

/-- Any white space will do, and any number of zeros; the first of two bad fields is named. -/
example :
    parse "\t+001 0 0\u00a00  0 0 0 255\n255 255 255 0255 " =
        .ok ⟨⟨1, 0, 0, 0⟩, ⟨0, 0, 0, 255⟩, ⟨255, 255, 255, 255⟩⟩ ∧
      parse "0 0 0 0 0 256 0 0 0 0 0 -1" = .error (.component 5 "256") := by
  decide

end WidgetStage.ColorClass
