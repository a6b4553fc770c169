import Mathlib.Data.List.Forall2
import Mathlib.Data.Nat.Digits.Defs
import Mathlib.Tactic.IntervalCases
import Mathlib.Tactic.Ring
import WidgetStage.Text.Numeral

/-!
# What numerals denote

The readers of numerals go through a text from the left and multiply what they have by the radix at
every digit. Here is what they read, said without them: a run of digits denotes the sum of its
digits, each multiplied by its place, and a literal is such a run after at most one sign.

## Main results

* `numeral?_eq_some_iff`: the value that is read is the one that the digits denote.
* `natural?_eq_some_iff`, `integer?_eq_some_iff`, `int32?_eq_some_iff`: so with a sign and within
  bounds.
* `numeral_toDigits`, `integerLiteral_toString`: what is written for a number denotes it.
-/

namespace WidgetStage.Text

/-- A character that stands for a digit; letters do so in either case. -/
def IsDigit (radix : Nat) (c : Char) (d : Nat) : Prop :=
  d < radix ∧ (c = d.digitChar ∨ c = d.digitChar.toUpper)

/-- A run of digits that denotes a number, the digit of the highest place first. -/
def Numeral (radix : Nat) (cs : List Char) (n : Nat) : Prop :=
  ∃ ds, ds ≠ [] ∧ List.Forall₂ (IsDigit radix) cs ds ∧ Nat.ofDigits radix ds.reverse = n

/-- A natural number with or without a plus sign. -/
inductive NaturalLiteral (radix : Nat) : List Char → Nat → Prop
  | bare {cs : List Char} {n : Nat} (h : Numeral radix cs n) : NaturalLiteral radix cs n
  | plus {cs : List Char} {n : Nat} (h : Numeral radix cs n) : NaturalLiteral radix ('+' :: cs) n

/-- A decimal integer with or without a sign. -/
inductive IntegerLiteral : List Char → Int → Prop
  | bare {cs : List Char} {n : Nat} (h : Numeral 10 cs n) : IntegerLiteral cs n
  | plus {cs : List Char} {n : Nat} (h : Numeral 10 cs n) : IntegerLiteral ('+' :: cs) n
  | minus {cs : List Char} {n : Nat} (h : Numeral 10 cs n) : IntegerLiteral ('-' :: cs) (-n)

/-- A decimal integer that fits into 32 bits. -/
def Int32Literal (cs : List Char) (n : Int) : Prop :=
  IntegerLiteral cs n ∧ int32Min ≤ n ∧ n ≤ int32Max

variable {radix acc n d : Nat} {c : Char} {cs : List Char}

/-! ### Digits -/

/-- What holds of the digits up to fifteen, in either case, holds of every character that stands for
a digit. -/
theorem IsDigit.forall {p : Char → Bool} (h : IsDigit radix c d) (hradix : radix ≤ 16)
    (hp : ∀ d < 16, p d.digitChar = true ∧ p d.digitChar.toUpper = true) : p c = true := by
  obtain ⟨hd, rfl | rfl⟩ := h
  · exact (hp d (Nat.lt_of_lt_of_le hd hradix)).1
  · exact (hp d (Nat.lt_of_lt_of_le hd hradix)).2

/-- The digits up to fifteen are read in either case. -/
theorem digitValue?_digitChar : ∀ d < 16, digitValue? 16 d.digitChar = some d ∧
    digitValue? 16 d.digitChar.toUpper = some d := by
  decide

/-- The digits of a smaller radix are the first ones of a greater one. -/
theorem digitValue?_eq_filter (hradix : radix ≤ 16) (c : Char) :
    digitValue? radix c = (digitValue? 16 c).filter (· < radix) := by
  simp only [digitValue?, Option.filter_filter]
  congr 1
  funext d
  rw [← Bool.decide_and, decide_eq_decide]
  omega

/-- A digit is decimal, or a letter in either case. -/
theorem toNat_of_digitValue? (h : digitValue? 16 c = some d) :
    d < 16 ∧
      (c.toNat = d + 48 ∧ d < 10 ∨ c.toNat = d + 87 ∧ 10 ≤ d ∨ c.toNat = d + 55 ∧ 10 ≤ d) := by
  simp only [digitValue?, Option.filter_eq_some_iff, decide_eq_true_eq] at h
  obtain ⟨hvalue, hd⟩ := h
  split_ifs at hvalue <;> cases hvalue <;> omega

/-- A character is read as a digit if it stands for one. -/
theorem digitValue?_eq_some_iff (hradix : radix ≤ 16) :
    digitValue? radix c = some d ↔ IsDigit radix c d := by
  rw [digitValue?_eq_filter hradix, Option.filter_eq_some_iff, decide_eq_true_eq, IsDigit, and_comm]
  refine and_congr_right fun hd => ?_
  have hd16 : d < 16 := Nat.lt_of_lt_of_le hd hradix
  constructor
  · intro h
    obtain ⟨-, hplace⟩ := toNat_of_digitValue? h
    have hc : c = Char.ofNat c.toNat := (Char.ofNat_toNat c).symm
    rcases hplace with ⟨hn, hlt⟩ | ⟨hn, hge⟩ | ⟨hn, hge⟩
    · left
      rw [hc, hn]
      interval_cases d <;> rfl
    · left
      rw [hc, hn]
      interval_cases d <;> rfl
    · right
      rw [hc, hn]
      interval_cases d <;> rfl
  · rintro (rfl | rfl)
    · exact (digitValue?_digitChar d hd16).1
    · exact (digitValue?_digitChar d hd16).2

/-! ### Numerals -/

/-- Reading digits goes on with what the digits before are worth. -/
theorem digits?_eq_some_iff (hradix : radix ≤ 16) : digits? radix acc cs = some n ↔
    ∃ ds, List.Forall₂ (IsDigit radix) cs ds ∧ ds.foldl (fun a d => a * radix + d) acc = n := by
  induction cs generalizing acc with
  | nil => simp [digits?]
  | cons c cs ih =>
      simp only [List.forall₂_cons_left_iff, ← digitValue?_eq_some_iff hradix]
      rcases hc : digitValue? radix c with _ | d
      · simp [digits?, hc]
      · simp only [digits?, hc, ih, Option.some.injEq]
        constructor
        · rintro ⟨ds, hds, hn⟩
          exact ⟨d :: ds, ⟨d, ds, rfl, hds, rfl⟩, hn⟩
        · rintro ⟨_, ⟨d', ds, rfl, hds, rfl⟩, hn⟩
          exact ⟨ds, hds, hn⟩

/-- Multiplying by the radix at every digit gives each digit its place. -/
theorem foldl_eq_ofDigits (radix : Nat) (ds : List Nat) :
    ds.foldl (fun a d => a * radix + d) 0 = Nat.ofDigits radix ds.reverse := by
  rw [Nat.ofDigits_eq_foldr, List.foldr_reverse]
  congr 1
  funext a d
  simp only [Nat.cast_id]
  ring

/-- The value that is read is the one that the digits denote. -/
theorem numeral?_eq_some_iff (hradix : radix ≤ 16) :
    numeral? radix cs = some n ↔ Numeral radix cs n := by
  rcases cs with _ | ⟨c, cs⟩
  · simp [numeral?, Numeral]
  · rw [numeral?, digits?_eq_some_iff hradix]
    simp only [foldl_eq_ofDigits, Numeral]
    constructor
    · rintro ⟨ds, hds, hn⟩
      refine ⟨ds, ?_, hds, hn⟩
      rintro rfl
      cases hds
    · rintro ⟨ds, -, hds, hn⟩
      exact ⟨ds, hds, hn⟩

/-- A numeral has a digit. -/
theorem Numeral.ne_nil (h : Numeral radix cs n) : cs ≠ [] := by
  obtain ⟨ds, hne, hds, -⟩ := h
  rintro rfl
  exact hne (List.forall₂_nil_left_iff.1 hds)

/-- Every character of a numeral stands for a digit. -/
theorem Numeral.exists_isDigit (h : Numeral radix cs n) (hc : c ∈ cs) : ∃ d, IsDigit radix c d := by
  obtain ⟨ds, -, hds, -⟩ := h
  induction hds with
  | nil => cases hc
  | cons hd _ ih =>
      rcases List.mem_cons.1 hc with rfl | hc
      · exact ⟨_, hd⟩
      · exact ih hc

/-- What holds of all digits holds of all characters of a numeral. -/
theorem Numeral.forall {p : Char → Bool} (h : Numeral radix cs n) (hradix : radix ≤ 16)
    (hp : ∀ d < 16, p d.digitChar = true ∧ p d.digitChar.toUpper = true) :
    ∀ c ∈ cs, p c = true := by
  intro c hc
  obtain ⟨d, hd⟩ := h.exists_isDigit hc
  exact hd.forall hradix hp

/-- A sign is no digit. -/
theorem Numeral.not_sign (h : Numeral radix (c :: cs) n) (hradix : radix ≤ 16) :
    c ≠ '+' ∧ c ≠ '-' := by
  have hsign := h.forall (p := fun c => c != '+' && c != '-') hradix (by decide) c
    List.mem_cons_self
  simpa using hsign

/-- A digit after a numeral has the lowest place. -/
theorem Numeral.append_digit (h : Numeral radix cs n) (hd : IsDigit radix c d) :
    Numeral radix (cs ++ [c]) (n * radix + d) := by
  obtain ⟨ds, -, hds, rfl⟩ := h
  refine ⟨ds ++ [d], by simp, List.rel_append hds (.cons hd .nil), ?_⟩
  rw [List.reverse_append, List.reverse_singleton, List.singleton_append, Nat.ofDigits_cons]
  ring

/-- The digits of a number denote it. -/
theorem numeral_toDigits (hradix : 1 < radix) (n : Nat) :
    Numeral radix (Nat.toDigits radix n) n := by
  induction n using Nat.strong_induction_on with
  | _ n ih =>
      rw [Nat.toDigits_eq_if hradix]
      split
      · next hn => exact ⟨[n], by simp, .cons ⟨hn, .inl rfl⟩ .nil, by simp⟩
      · next hn =>
        have hdiv : n / radix < n := Nat.div_lt_self (by omega) hradix
        have hmod : n % radix < radix := Nat.mod_lt n (by omega)
        have hn := (ih (n / radix) hdiv).append_digit (c := (n % radix).digitChar)
          (d := n % radix) ⟨hmod, .inl rfl⟩
        rwa [Nat.div_add_mod'] at hn

/-! ### Literals -/

/-- An integer has a digit, with or without a sign. -/
theorem IntegerLiteral.ne_nil {n : Int} (h : IntegerLiteral cs n) : cs ≠ [] := by
  cases h with
  | bare h => exact h.ne_nil
  | plus _ => exact List.cons_ne_nil _ _
  | minus _ => exact List.cons_ne_nil _ _

/-- What holds of the signs and of all digits holds of all characters of a literal. -/
theorem IntegerLiteral.forall {n : Int} {p : Char → Bool} (h : IntegerLiteral cs n)
    (hsign : p '+' = true ∧ p '-' = true)
    (hp : ∀ d < 16, p d.digitChar = true ∧ p d.digitChar.toUpper = true) :
    ∀ c ∈ cs, p c = true := by
  cases h with
  | bare h => exact h.forall (by decide) hp
  | plus h => exact List.forall_mem_cons.2 ⟨hsign.1, h.forall (by decide) hp⟩
  | minus h => exact List.forall_mem_cons.2 ⟨hsign.2, h.forall (by decide) hp⟩

/-- A natural number is read if it is a literal within the bound. -/
theorem natural?_eq_some_iff {greatest : Nat} (hradix : radix ≤ 16) :
    natural? radix greatest cs = some n ↔ NaturalLiteral radix cs n ∧ n ≤ greatest := by
  unfold natural?
  split
  · next cs =>
    rw [Option.filter_eq_some_iff, numeral?_eq_some_iff hradix, decide_eq_true_eq]
    refine and_congr_left fun _ => ⟨.plus, fun h => ?_⟩
    cases h with
    | bare h => exact absurd rfl (h.not_sign hradix).1
    | plus h => exact h
  · next hplus =>
    rw [Option.filter_eq_some_iff, numeral?_eq_some_iff hradix, decide_eq_true_eq]
    refine and_congr_left fun _ => ⟨.bare, fun h => ?_⟩
    cases h with
    | bare h => exact h
    | plus h => exact absurd rfl (hplus _)

/-- An integer is read if it is a literal within the bounds. -/
theorem integer?_eq_some_iff {least greatest n : Int} :
    integer? least greatest cs = some n ↔ IntegerLiteral cs n ∧ least ≤ n ∧ n ≤ greatest := by
  have hnumeral : ∀ {cs k}, numeral? 10 cs = some k ↔ Numeral 10 cs k :=
    numeral?_eq_some_iff (by decide)
  simp only [integer?, Option.filter_eq_some_iff, decide_eq_true_eq]
  refine and_congr_left fun _ => ?_
  split
  · next cs =>
    simp only [Option.map_eq_some_iff, hnumeral]
    refine ⟨?_, fun h => ?_⟩
    · rintro ⟨k, hk, rfl⟩
      exact .plus hk
    · cases h with
      | bare h => exact absurd rfl (h.not_sign (by decide)).1
      | plus h => exact ⟨_, h, rfl⟩
  · next cs =>
    simp only [Option.map_eq_some_iff, hnumeral]
    refine ⟨?_, fun h => ?_⟩
    · rintro ⟨k, hk, rfl⟩
      exact .minus hk
    · cases h with
      | bare h => exact absurd rfl (h.not_sign (by decide)).2
      | minus h => exact ⟨_, h, rfl⟩
  · next hplus hminus =>
    simp only [Option.map_eq_some_iff, hnumeral]
    refine ⟨?_, fun h => ?_⟩
    · rintro ⟨k, hk, rfl⟩
      exact .bare hk
    · cases h with
      | bare h => exact ⟨_, h, rfl⟩
      | plus h => exact absurd rfl (hplus _)
      | minus h => exact absurd rfl (hminus _)

/-- What is read as a word of 32 bits is the decimal integers that fit into one. -/
theorem int32?_eq_some_iff {n : Int} : int32? cs = some n ↔ Int32Literal cs n :=
  integer?_eq_some_iff

/-- What is written for an integer denotes it. -/
theorem integerLiteral_toString (n : Int) : IntegerLiteral (toString n).toList n := by
  rcases n with n | n
  · have htext : (toString (Int.ofNat n)).toList = Nat.toDigits 10 n := Nat.toList_repr
    rw [htext]
    exact .bare (numeral_toDigits (by decide) n)
  · have htext : (toString (Int.negSucc n)).toList = '-' :: Nat.toDigits 10 (n + 1) := by
      rw [← Nat.toList_repr]
      exact String.toList_append
    rw [htext, Int.negSucc_eq]
    exact .minus (numeral_toDigits (by decide) (n + 1))

end WidgetStage.Text
