import Mathlib.Algebra.Group.Int.Defs
import Mathlib.Algebra.Group.Nat.Defs
import WidgetStage.Geometry

/-!
# Common points of rectangles

The common part of two rectangles lies between the greater of the left edges and the lesser of the
right ones, and likewise from top to bottom. An edge may lie beyond the range of an origin, and the
distance of two edges beyond that of an extent; but the greater of two left edges is one of them,
and the common part is no wider than either rectangle. So nothing is lost when the edges are written
down as an origin and an extent.

## Main results

* `Rect.intersection?_eq_some_iff`: the edges of the common part.
* `Rect.IsIntersection.contains_iff`: its points are the common ones.
* `Rect.isSome_intersection?_iff`: there is one if there is a common point.
* `Rect.intersection_exact`: the common part is that of two sets of points, whichever rectangle
  comes first, and nothing is lost when it is written down.
-/

namespace WidgetStage

namespace Size

/-- A size is not empty if neither dimension is zero. -/
theorem isEmpty_eq_false_iff {s : Size} :
    s.isEmpty = false ↔ 0 < s.width.toNat ∧ 0 < s.height.toNat := by
  simp only [isEmpty, Bool.or_eq_false_iff, beq_eq_false_iff_ne, ne_eq, ← UInt32.toNat_inj,
    UInt32.toNat_zero, Nat.pos_iff_ne_zero]

end Size

namespace Rect

/-- The rectangle between the inner edges of two others, with at least one point in it. -/
structure IsIntersection (a b r : Rect) : Prop where
  left : r.left = max a.left b.left
  right : r.right = min a.right b.right
  top : r.top = max a.top b.top
  bottom : r.bottom = min a.bottom b.bottom
  left_lt_right : r.left < r.right
  top_lt_bottom : r.top < r.bottom

/-- No edge of a rectangle lies beyond that of another one. -/
structure Inside (r a : Rect) : Prop where
  left : a.left ≤ r.left
  right : r.right ≤ a.right
  top : a.top ≤ r.top
  bottom : r.bottom ≤ a.bottom

instance (r : Rect) (px py : Int) : Decidable (r.Contains px py) :=
  inferInstanceAs (Decidable (_ ∧ _ ∧ _ ∧ _))

variable {a b r s : Rect} {px py : Int}

/-! ### Edges -/

/-- The left edge is an origin, and so within the range of one. -/
theorem left_bounds (r : Rect) : -2 ^ 31 ≤ r.left ∧ r.left < 2 ^ 31 :=
  ⟨r.x.le_toInt, r.x.toInt_lt⟩

/-- The top edge is within the range of an origin. -/
theorem top_bounds (r : Rect) : -2 ^ 31 ≤ r.top ∧ r.top < 2 ^ 31 :=
  ⟨r.y.le_toInt, r.y.toInt_lt⟩

@[simp]
theorem left_ofSize (size : Size) : (ofSize size).left = 0 :=
  rfl

@[simp]
theorem top_ofSize (size : Size) : (ofSize size).top = 0 :=
  rfl

@[simp]
theorem right_ofSize (size : Size) : (ofSize size).right = size.width.toNat :=
  Int.zero_add _

@[simp]
theorem bottom_ofSize (size : Size) : (ofSize size).bottom = size.height.toNat :=
  Int.zero_add _

/-- Columns and rows are counted from the corner. -/
theorem contains_ofSize_iff {size : Size} {x y : Nat} :
    (ofSize size).Contains x y ↔ x < size.width.toNat ∧ y < size.height.toNat := by
  rw [Contains, left_ofSize, top_ofSize, right_ofSize, bottom_ofSize]
  omega

/-- The right edge is less than the largest extent away from the left one. -/
theorem right_lt (r : Rect) : r.right < r.left + 2 ^ 32 := by
  have hwidth := r.width.toNat_lt
  simp only [right, Int.ofNat_eq_natCast]
  omega

/-- The bottom edge is less than the largest extent away from the top one. -/
theorem bottom_lt (r : Rect) : r.bottom < r.top + 2 ^ 32 := by
  have hheight := r.height.toNat_lt
  simp only [bottom, Int.ofNat_eq_natCast]
  omega

/-- The width is the distance of the edges. -/
theorem toNat_width (r : Rect) : (r.width.toNat : Int) = r.right - r.left := by
  simp only [right, Int.ofNat_eq_natCast]
  omega

/-- The height is the distance of the edges. -/
theorem toNat_height (r : Rect) : (r.height.toNat : Int) = r.bottom - r.top := by
  simp only [bottom, Int.ofNat_eq_natCast]
  omega

/-- A rectangle is known by its edges. -/
theorem ext_of_edges (hleft : r.left = s.left) (hright : r.right = s.right) (htop : r.top = s.top)
    (hbottom : r.bottom = s.bottom) : r = s := by
  obtain ⟨x, y, width, height⟩ := r
  obtain ⟨x', y', width', height'⟩ := s
  simp only [left, right, top, bottom, Int.ofNat_eq_natCast] at hleft hright htop hbottom
  rw [mk.injEq, ← Int32.toInt_inj, ← Int32.toInt_inj, ← UInt32.toNat_inj, ← UInt32.toNat_inj]
  omega

/-- Two edges, the first within the range of origins and the other not too far beyond it, are those
that an origin and an extent are written down for. -/
theorem edges_of_bounds {first last : Int} (hfirst : -2 ^ 31 ≤ first ∧ first < 2 ^ 31)
    (hlt : first < last) (hlast : last < first + 2 ^ 32) :
    (Int32.ofInt first).toInt = first ∧
      (Int32.ofInt first).toInt + Int.ofNat (UInt32.ofNat (last - first).toNat).toNat = last := by
  have hextent : (last - first).toNat < UInt32.size := by
    have hsize : UInt32.size = 2 ^ 32 := rfl
    omega
  rw [Int32.toInt_ofInt_of_le hfirst.1 hfirst.2, UInt32.toNat_ofNat_of_lt' hextent,
    Int.ofNat_eq_natCast]
  omega

/-! ### The common part -/

/-- Two rectangles have one common part, as its edges are given. -/
theorem IsIntersection.unique (h : a.IsIntersection b r) (h' : a.IsIntersection b s) : r = s :=
  ext_of_edges (h.left.trans h'.left.symm) (h.right.trans h'.right.symm) (h.top.trans h'.top.symm)
    (h.bottom.trans h'.bottom.symm)

/-- The edges of the common part survive being written down, so that it lies between the inner
edges. -/
theorem isIntersection_of_intersection? (h : a.intersection? b = some r) :
    a.IsIntersection b r := by
  rw [intersection?] at h
  split at h
  next hlt =>
    obtain ⟨hacross, hdown⟩ := hlt
    have hal := a.left_bounds
    have hat := a.top_bounds
    have hbl := b.left_bounds
    have hbt := b.top_bounds
    have har := a.right_lt
    have hab := a.bottom_lt
    obtain ⟨hleft, hright⟩ := edges_of_bounds (by omega) hacross (by omega)
    obtain ⟨htop, hbottom⟩ := edges_of_bounds (by omega) hdown (by omega)
    cases h
    exact ⟨hleft, hright, htop, hbottom,
      calc _ = max a.left b.left := hleft
        _ < min a.right b.right := hacross
        _ = _ := hright.symm,
      calc _ = max a.top b.top := htop
        _ < min a.bottom b.bottom := hdown
        _ = _ := hbottom.symm⟩
  · cases h

/-- There is a common part if the inner edges leave room between them. -/
theorem exists_intersection? (hacross : max a.left b.left < min a.right b.right)
    (hdown : max a.top b.top < min a.bottom b.bottom) : ∃ r, a.intersection? b = some r :=
  ⟨_, if_pos ⟨hacross, hdown⟩⟩

/-- The edges of the common part, which has at least one point. -/
theorem intersection?_eq_some_iff : a.intersection? b = some r ↔ a.IsIntersection b r := by
  refine ⟨isIntersection_of_intersection?, fun h => ?_⟩
  obtain ⟨s, hs⟩ := exists_intersection? (h.left ▸ h.right ▸ h.left_lt_right)
    (h.top ▸ h.bottom ▸ h.top_lt_bottom)
  rw [hs, h.unique (isIntersection_of_intersection? hs)]

/-- The width of the common part is the distance of the inner edges. -/
theorem IsIntersection.toNat_width (h : a.IsIntersection b r) :
    (r.width.toNat : Int) = min a.right b.right - max a.left b.left := by
  rw [Rect.toNat_width, h.left, h.right]

/-- The height of the common part is the distance of the inner edges. -/
theorem IsIntersection.toNat_height (h : a.IsIntersection b r) :
    (r.height.toNat : Int) = min a.bottom b.bottom - max a.top b.top := by
  rw [Rect.toNat_height, h.top, h.bottom]

/-- The points of the common part are the common points. -/
theorem IsIntersection.contains_iff (h : a.IsIntersection b r) :
    r.Contains px py ↔ a.Contains px py ∧ b.Contains px py := by
  simp only [Contains, h.left, h.right, h.top, h.bottom]
  omega

/-- There is a common part as soon as there is a common point. -/
theorem isSome_intersection?_iff :
    (a.intersection? b).isSome = true ↔ ∃ px py, a.Contains px py ∧ b.Contains px py := by
  constructor
  · intro h
    obtain ⟨r, hr⟩ := Option.isSome_iff_exists.1 h
    have hr := intersection?_eq_some_iff.1 hr
    exact ⟨r.left, r.top, hr.contains_iff.1
      ⟨Int.le_refl _, hr.left_lt_right, Int.le_refl _, hr.top_lt_bottom⟩⟩
  · rintro ⟨px, py, ha, hb⟩
    obtain ⟨hal, har, hat, hab⟩ := ha
    obtain ⟨hbl, hbr, hbt, hbb⟩ := hb
    rw [intersection?, Option.isSome_ite]
    omega

/-- Which of the two rectangles comes first does not matter to the inner edges. -/
theorem IsIntersection.symm (h : a.IsIntersection b r) : b.IsIntersection a r where
  left := h.left.trans (Int.max_comm _ _)
  right := h.right.trans (Int.min_comm _ _)
  top := h.top.trans (Int.max_comm _ _)
  bottom := h.bottom.trans (Int.min_comm _ _)
  left_lt_right := h.left_lt_right
  top_lt_bottom := h.top_lt_bottom

/-- Whichever rectangle comes first, the common part is the same. -/
theorem intersection?_comm (a b : Rect) : a.intersection? b = b.intersection? a := by
  ext r
  rw [intersection?_eq_some_iff, intersection?_eq_some_iff]
  exact ⟨IsIntersection.symm, IsIntersection.symm⟩

/-- A rectangle that is not empty is what it has in common with itself. -/
theorem isIntersection_self (h : a.size.isEmpty = false) : a.IsIntersection a a := by
  obtain ⟨hwidth, hheight⟩ : 0 < a.width.toNat ∧ 0 < a.height.toNat :=
    Size.isEmpty_eq_false_iff.1 h
  have hacross := a.toNat_width
  have hdown := a.toNat_height
  exact ⟨by simp, by simp, by simp, by simp, by omega, by omega⟩

/-- The common part reaches beyond neither of them; the other half is by `symm`. -/
theorem IsIntersection.inside (h : a.IsIntersection b r) : r.Inside a where
  left := h.left ▸ Int.le_max_left _ _
  right := h.right ▸ Int.min_le_left _ _
  top := h.top ▸ Int.le_max_left _ _
  bottom := h.bottom ▸ Int.min_le_left _ _

/-- Two rectangles with any origins and extents have a common part if and only if some point lies in
both, and then its points are the common ones. Its origin and its extent, which are narrower words
than the edges between which it lies, are exactly those of the edges. It is the same whichever
rectangle comes first, a rectangle that is not empty has all of itself in common with itself, and
the common part reaches beyond neither rectangle. -/
theorem intersection_exact (a b : Rect) :
    ((a.intersection? b).isSome = true ↔ ∃ px py, a.Contains px py ∧ b.Contains px py) ∧
    (∀ r, a.intersection? b = some r →
      (∀ px py, r.Contains px py ↔ a.Contains px py ∧ b.Contains px py) ∧
      r.x.toInt = max a.left b.left ∧ r.y.toInt = max a.top b.top ∧
      (r.width.toNat : Int) = min a.right b.right - max a.left b.left ∧
      (r.height.toNat : Int) = min a.bottom b.bottom - max a.top b.top ∧
      r.Inside a ∧ r.Inside b) ∧
    a.intersection? b = b.intersection? a ∧
    (a.size.isEmpty = false → a.intersection? a = some a) := by
  refine ⟨isSome_intersection?_iff, fun r hr => ?_, intersection?_comm a b,
    fun h => intersection?_eq_some_iff.2 (isIntersection_self h)⟩
  have h := intersection?_eq_some_iff.1 hr
  exact ⟨fun _ _ => h.contains_iff, h.left, h.top, h.toNat_width, h.toNat_height, h.inside,
    h.symm.inside⟩

/-- The widest rectangles at the far ends have one column and one row in common. -/
example :
    intersection? ⟨-2147483648, -2147483648, 4294967295, 4294967295⟩
        ⟨2147483646, 2147483646, 4294967295, 4294967295⟩ =
      some ⟨2147483646, 2147483646, 1, 1⟩ := by
  decide

end Rect

end WidgetStage
