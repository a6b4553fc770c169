/-!
# White space and pieces of a text

`isBlank` is the White_Space property of Unicode. `trim` drops the white space at both ends of
a text. `cut` splits a text at every character of a class and keeps the empty pieces;
`fields` drops them, which leaves the maximal runs of characters that are not white space.

* `trim_eq_self` — a text that neither starts nor ends with white space is its own trim.
* `mem_cut` — no piece holds a character of the class it was cut at.
-/

namespace WidgetStage.Text

/-- The characters with the White_Space property: the controls from tab to carriage return,
the next-line control, and every space, line and paragraph separator. -/
def isBlank (c : Char) : Bool :=
  let n := c.toNat
  (9 ≤ n && n ≤ 13) || n == 0x20 || n == 0x85 || n == 0xA0 || n == 0x1680 ||
    (0x2000 ≤ n && n ≤ 0x200A) || n == 0x2028 || n == 0x2029 || n == 0x202F || n == 0x205F ||
    n == 0x3000

/-- Drops white space at the front. -/
def trimStart (cs : List Char) : List Char :=
  cs.dropWhile isBlank

/-- Drops white space at the back. -/
def trimEnd (cs : List Char) : List Char :=
  (cs.reverse.dropWhile isBlank).reverse

/-- Drops white space at both ends. -/
def trim (cs : List Char) : List Char :=
  trimEnd (trimStart cs)

/-- The pieces between the characters that satisfy `p`, empty ones included: one piece more
than there are such characters. -/
def cut (p : Char → Bool) : List Char → List (List Char)
  | [] => [[]]
  | c :: cs =>
    if p c then [] :: cut p cs
    else
      match cut p cs with
      | [] => [[c]]
      | f :: fs => (c :: f) :: fs

/-- The maximal runs of characters that are not white space, in order. -/
def fields (cs : List Char) : List (List Char) :=
  (cut isBlank cs).filter (· ≠ [])

/-! ### Trimming -/

/-- A text that neither starts nor ends with white space is its own trim. -/
theorem trim_eq_self {cs : List Char} (hfront : ∀ c, cs.head? = some c → isBlank c = false)
    (hback : ∀ c, cs.getLast? = some c → isBlank c = false) : trim cs = cs := by
  have hs : trimStart cs = cs := by
    cases cs with
    | nil => rfl
    | cons c cs => simp [trimStart, hfront c rfl]
  rw [trim, hs, trimEnd]
  cases hr : cs.reverse with
  | nil => simp_all
  | cons c r =>
    have hc : isBlank c = false := hback c (by rw [List.getLast?_eq_head?_reverse, hr]; rfl)
    rw [List.dropWhile_cons_of_neg (by simp [hc]), ← hr, List.reverse_reverse]

/-! ### Cutting -/

/-- No piece holds a character of the class it was cut at. -/
theorem mem_cut {p : Char → Bool} {cs : List Char} :
    ∀ f ∈ cut p cs, ∀ c ∈ f, p c = false := by
  induction cs with
  | nil => simp [cut]
  | cons c cs ih =>
    intro f hf d hd
    rw [cut] at hf
    split at hf
    · rcases List.mem_cons.1 hf with rfl | hf
      · cases hd
      · exact ih f hf d hd
    · next hc =>
      split at hf
      · obtain rfl := List.mem_singleton.1 hf
        obtain rfl := List.mem_singleton.1 hd
        simpa using hc
      · next g gs hcut =>
        rw [hcut] at ih
        rcases List.mem_cons.1 hf with rfl | hf
        · rcases List.mem_cons.1 hd with rfl | hd
          · simpa using hc
          · exact ih g List.mem_cons_self d hd
        · exact ih f (List.mem_cons_of_mem _ hf) d hd

end WidgetStage.Text
