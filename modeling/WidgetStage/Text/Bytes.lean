/-!
# Bytes of a text

A text can be measured and cut by the bytes of its UTF-8 form. A cut through a character has no
result.

* `bytesPrefix?_append`, `bytesSuffix?_append` — a text is cut in two where its first part ends.
-/

namespace WidgetStage.Text

/-- The number of bytes of a text. -/
def byteCount : List Char → Nat
  | [] => 0
  | c :: cs => c.utf8Size + byteCount cs

/-- The first characters that fill exactly `n` bytes; there are none if a character crosses the
boundary. -/
def bytesPrefix? : Nat → List Char → Option (List Char)
  | 0, _ => some []
  | _ + 1, [] => none
  | n + 1, c :: cs =>
    if c.utf8Size ≤ n + 1 then (bytesPrefix? (n + 1 - c.utf8Size) cs).map (c :: ·) else none

/-- The characters after exactly `n` bytes; there are none if a character crosses the
boundary. -/
def bytesSuffix? : Nat → List Char → Option (List Char)
  | 0, cs => some cs
  | _ + 1, [] => none
  | n + 1, c :: cs => if c.utf8Size ≤ n + 1 then bytesSuffix? (n + 1 - c.utf8Size) cs else none

/-- The characters that fill exactly `length` bytes after `start` bytes. -/
def bytesBetween? (start length : Nat) (cs : List Char) : Option (List Char) :=
  (bytesSuffix? start cs).bind (bytesPrefix? length)

/-- The first part of a text is what fills its bytes. -/
theorem bytesPrefix?_append (xs ys : List Char) :
    bytesPrefix? (byteCount xs) (xs ++ ys) = some xs := by
  induction xs with
  | nil => simp [byteCount, bytesPrefix?]
  | cons c cs ih =>
    have hc := c.utf8Size_pos
    obtain ⟨n, hn⟩ : ∃ n, byteCount (c :: cs) = n + 1 :=
      ⟨byteCount (c :: cs) - 1, by simp only [byteCount]; omega⟩
    have hle : c.utf8Size ≤ n + 1 := by simp only [byteCount] at hn; omega
    have hrest : n + 1 - c.utf8Size = byteCount cs := by simp only [byteCount] at hn; omega
    rw [hn, List.cons_append, bytesPrefix?, if_pos hle, hrest, ih]
    rfl

/-- The second part of a text is what comes after the bytes of the first. -/
theorem bytesSuffix?_append (xs ys : List Char) :
    bytesSuffix? (byteCount xs) (xs ++ ys) = some ys := by
  induction xs with
  | nil => simp [byteCount, bytesSuffix?]
  | cons c cs ih =>
    have hc := c.utf8Size_pos
    obtain ⟨n, hn⟩ : ∃ n, byteCount (c :: cs) = n + 1 :=
      ⟨byteCount (c :: cs) - 1, by simp only [byteCount]; omega⟩
    have hle : c.utf8Size ≤ n + 1 := by simp only [byteCount] at hn; omega
    have hrest : n + 1 - c.utf8Size = byteCount cs := by simp only [byteCount] at hn; omega
    rw [hn, List.cons_append, bytesSuffix?, if_pos hle, hrest, ih]

end WidgetStage.Text
