import WidgetStage.Proofs.Stage.Ownership

/-!
# The trees of handles

Every live object belongs to the handle at whose root its chain of containers ends. The layouts
among the objects of a handle are what its scene graph is to follow.

## Main results

* `Owned.handle_unique`, `Owned.exists_inTree`: a live object belongs to exactly one handle
  (`owner?`).
* `mem_objectsOf_iff`, `mem_layoutsOf_iff`: the objects and the layouts of a handle.
* `Owned.layoutOf_shrunk_iff`, `Owned.layoutOf_placed_iff`, `Owned.layoutOf_allocated_iff`,
  `Owned.layoutOf_root_iff`: how the layouts of a handle change.
-/

namespace WidgetStage.Stage

open Toolkit (Shrunk Placed Allocated)

/-- The live objects of a handle. -/
def objectsOf (s : Stage) (h : Nat) : List ObjectId :=
  ((s.rootObject? h).map s.toolkit.cascade).getD []

/-- The live layouts of a handle. -/
def layoutsOf (s : Stage) (h : Nat) : List ObjectId :=
  (s.objectsOf h).filter s.toolkit.isLayout

/-- The handle to which an object belongs. -/
def owner? (s : Stage) (o : ObjectId) : Option Nat :=
  s.handles.keys.find? fun h => o ∈ s.objectsOf h

/-- The object is at or below the root of a handle. -/
def InTree (s : Stage) (h : Nat) (o : ObjectId) : Prop :=
  ∃ r, s.RootOf h r ∧ s.toolkit.Below r o

/-- The object is a live layout at or below the root of a handle. -/
def LayoutOf (s : Stage) (h : Nat) (o : ObjectId) : Prop :=
  s.InTree h o ∧ s.toolkit.isLayout o = true

variable {s s' : Stage} {gone : ObjectId → Prop} {h k : Nat} {o p c : ObjectId} {part : String}
  {kind : ObjectKind}

/-- What is below an object of a handle belongs to the handle. -/
theorem InTree.below (ho : s.InTree h p) (hx : s.toolkit.Below p o) : s.InTree h o := by
  obtain ⟨r, hr, hp⟩ := ho
  exact ⟨r, hr, hp.trans hx⟩

namespace Owned

/-- Only the root itself is above a root. -/
theorem eq_of_below_root (hs : s.Owned) (hr : s.RootOf h o) (hp : s.toolkit.Below p o) :
    p = o := by
  rcases Relation.ReflTransGen.cases_tail_iff _ _ _ |>.1 hp with rfl | ⟨q, -, hq⟩
  · rfl
  · exact absurd hq (hs.root_unheld h o q hr)

/-- An object belongs to one handle at most. -/
theorem handle_unique (hs : s.Owned) (hh : s.InTree h o) (hk : s.InTree k o) : h = k := by
  obtain ⟨r, hr, hro⟩ := hh
  obtain ⟨r', hr', hro'⟩ := hk
  obtain rfl : r = r' := by
    rcases hs.forest.below_total hro hro' with hb | hb
    · exact hs.eq_of_below_root hr' hb
    · exact (hs.eq_of_below_root hr hb).symm
  exact hs.root_once h k r hr hr'

/-- A live object belongs to a handle. -/
theorem exists_inTree (hs : s.Owned) (ho : s.toolkit.Live o) : ∃ h, s.InTree h o := by
  induction o using Nat.strongRecOn with
  | _ o ih =>
      rcases hs.owned o ho with ⟨h, hr⟩ | ⟨p, part, hp⟩
      · exact ⟨h, o, hr, .refl⟩
      · obtain ⟨h, hin⟩ := ih p (hs.forest.older p part o hp) (Toolkit.live_of_swallowed? hp)
        exact ⟨h, hin.below (.single ⟨part, hp⟩)⟩

/-- Objects that do not exist yet belong to no handle. -/
theorem inTree_lt (hs : s.Owned) (ho : s.InTree h o) : o < s.toolkit.nextObject := by
  obtain ⟨r, hr, hb⟩ := ho
  rcases Relation.ReflTransGen.cases_tail_iff _ _ _ |>.1 hb with rfl | ⟨p, -, part, hp⟩
  · exact hs.root_lt hr
  · exact hs.forest.fresh o (hs.forest.content_live p part o hp)

/-! ### Objects by handle -/

/-- The objects of a handle are the live ones at and below its root. -/
theorem mem_objectsOf_iff (hs : s.Owned) :
    o ∈ s.objectsOf h ↔ s.toolkit.Live o ∧ s.InTree h o := by
  rcases hroot : s.rootObject? h with _ | r
  · have hnone : ¬ s.InTree h o := by
      rintro ⟨r, hr, -⟩
      rw [hs.rootObject?_eq_some_iff.2 hr] at hroot
      cases hroot
    simp [objectsOf, hroot, hnone]
  · have hr := hs.rootObject?_eq_some_iff.1 hroot
    have hin : s.InTree h o ↔ s.toolkit.Below r o := by
      refine ⟨fun ⟨r', hr', hb⟩ => ?_, fun hb => ⟨r, hr, hb⟩⟩
      rw [hs.rootObject?_eq_some_iff.2 hr', Option.some.injEq] at hroot
      exact hroot ▸ hb
    simp only [objectsOf, hroot, Option.map_some, Option.getD_some, hin]
    constructor
    · intro ho
      obtain ⟨hlive, hb⟩ := hs.forest.mem_cascade_iff.1 ho
      exact ⟨hs.forest.live_of_below hlive hb, hb⟩
    · rintro ⟨hlive, hb⟩
      exact (hs.forest.mem_cascade_iff_of_live hlive).2 hb

/-- The layouts of a handle are those of its objects. -/
theorem mem_layoutsOf_iff (hs : s.Owned) : o ∈ s.layoutsOf h ↔ s.LayoutOf h o := by
  rw [layoutsOf, List.mem_filter, hs.mem_objectsOf_iff, LayoutOf, and_assoc]
  exact and_iff_right_of_imp fun ho => Toolkit.live_of_isLayout ho.2

/-- No layout is listed twice. -/
theorem nodup_layoutsOf (hs : s.Owned) (h : Nat) : (s.layoutsOf h).Nodup := by
  refine List.Nodup.filter _ ?_
  rcases hroot : s.rootObject? h with _ | r
  · simp [objectsOf, hroot]
  · simpa [objectsOf, hroot] using hs.forest.nodup_cascade r

/-- The owner of a live object is the handle to which it belongs. -/
theorem owner?_eq_some_iff (hs : s.Owned) (ho : s.toolkit.Live o) :
    s.owner? o = some h ↔ s.InTree h o := by
  have hmem : ∀ k, decide (o ∈ s.objectsOf k) = true ↔ s.InTree k o := fun k => by
    rw [decide_eq_true_eq, hs.mem_objectsOf_iff, and_iff_right ho]
  constructor
  · intro howner
    exact (hmem h).1 (List.find?_some (p := fun k => decide (o ∈ s.objectsOf k)) howner)
  · intro hin
    have hkey : h ∈ s.handles.keys := by
      obtain ⟨r, ⟨g, hg, -⟩, -⟩ := hin
      obtain ⟨hd, hf, -⟩ := Option.map_eq_some_iff.1 hg
      exact Table.mem_keys_iff.2 (by rw [hf]; rfl)
    have hsome : (s.owner? o).isSome := by
      rw [owner?, List.find?_isSome]
      exact ⟨h, hkey, (hmem h).2 hin⟩
    obtain ⟨k, hk⟩ := Option.isSome_iff_exists.1 hsome
    have hin' := (hmem k).1 (List.find?_some (p := fun k => decide (o ∈ s.objectsOf k)) hk)
    rw [hk, hs.handle_unique hin hin']

/-- Every live object has an owner. -/
theorem owner?_isSome (hs : s.Owned) (ho : s.toolkit.Live o) : (s.owner? o).isSome := by
  obtain ⟨h, hin⟩ := hs.exists_inTree ho
  rw [(hs.owner?_eq_some_iff ho).2 hin]
  rfl

/-! ### Layouts after a change -/

/-- Some objects are gone. -/
theorem layoutOf_shrunk_iff (hs : s.Owned) (toolkit : Shrunk gone s.toolkit s'.toolkit)
    (hclosed : ∀ p c, s.toolkit.Holds p c → gone p → gone c)
    (hroot : ∀ r, s.toolkit.Live r → ¬ gone r → (s'.RootOf h r ↔ s.RootOf h r)) :
    s'.LayoutOf h o ↔ s.LayoutOf h o ∧ ¬ gone o := by
  -- what is above a layout that is not gone is live and not gone
  have habove : ∀ r, s.toolkit.isLayout o = true → ¬ gone o → s.toolkit.Below r o →
      (s'.RootOf h r ↔ s.RootOf h r) := by
    intro r hl hgone hb
    refine hroot r ?_ fun hr => hgone (Toolkit.of_below hclosed hb hr)
    have hlive := Toolkit.live_of_isLayout hl
    exact (hs.forest.mem_cascade_iff.1 ((hs.forest.mem_cascade_iff_of_live hlive).2 hb)).1
  constructor
  · rintro ⟨⟨r, hr, hb⟩, hl⟩
    obtain ⟨hl, hgone⟩ := toolkit.isLayout_iff.1 hl
    rw [toolkit.below_iff hclosed hgone] at hb
    exact ⟨⟨⟨r, (habove r hl hgone hb).1 hr, hb⟩, hl⟩, hgone⟩
  · rintro ⟨⟨⟨r, hr, hb⟩, hl⟩, hgone⟩
    exact ⟨⟨r, (habove r hl hgone hb).2 hr, (toolkit.below_iff hclosed hgone).2 hb⟩,
      toolkit.isLayout_iff.2 ⟨hl, hgone⟩⟩

/-- A new object is in a part. -/
theorem layoutOf_placed_iff (hs : s.Owned) (toolkit : Placed p part c kind s.toolkit s'.toolkit)
    (hroot : ∀ r, s'.RootOf h r ↔ s.RootOf h r) :
    s'.LayoutOf h o ↔
      s.LayoutOf h o ∨ (o = c ∧ kind.isLayout = true ∧ s.InTree h p) := by
  have hin : s'.InTree h o ↔ s.InTree h o ∨ (o = c ∧ s.InTree h p) := by
    constructor
    · rintro ⟨r, hr, hb⟩
      rw [hroot] at hr
      rcases (toolkit.below_iff hs.forest).1 hb with hb | ⟨rfl, hb⟩
      · exact Or.inl ⟨r, hr, hb⟩
      · exact Or.inr ⟨rfl, r, hr, hb⟩
    · rintro (⟨r, hr, hb⟩ | ⟨rfl, r, hr, hb⟩)
      · exact ⟨r, (hroot r).2 hr, (toolkit.below_iff hs.forest).2 (Or.inl hb)⟩
      · exact ⟨r, (hroot r).2 hr, (toolkit.below_iff hs.forest).2 (Or.inr ⟨rfl, hb⟩)⟩
  have hkind : s'.toolkit.isLayout o = if o = c then kind.isLayout else s.toolkit.isLayout o := by
    rw [Toolkit.isLayout, Toolkit.isLayout, toolkit.kind?]
    split <;> rfl
  rw [LayoutOf, LayoutOf, hin, hkind]
  by_cases ho : o = c
  · subst ho
    have hold : ¬ s.InTree h o := fun hold =>
      Nat.ne_of_lt (hs.inTree_lt hold) toolkit.number
    simp [hold, and_comm]
  · simp [ho]

/-- A new object is the root of another handle. -/
theorem layoutOf_allocated_iff {path group : String} (hs : s.Owned)
    (toolkit : Allocated c (.layout path group) s.toolkit s'.toolkit)
    (hroot : ∀ r, s'.RootOf h r ↔ s.RootOf h r) : s'.LayoutOf h o ↔ s.LayoutOf h o := by
  have hin : s'.InTree h o ↔ s.InTree h o := by
    simp only [InTree, hroot, toolkit.below_congr]
  rw [LayoutOf, LayoutOf, hin]
  refine and_congr_right fun ho => ?_
  have hne : o ≠ c := fun hoc => Nat.ne_of_lt (hs.inTree_lt ho) (hoc.trans toolkit.number)
  rw [Toolkit.isLayout, Toolkit.isLayout, toolkit.kind?, if_neg hne]

/-- It is the only layout of that handle. -/
theorem layoutOf_root_iff {path group : String} (hs : s.Owned)
    (toolkit : Allocated c (.layout path group) s.toolkit s'.toolkit)
    (hroot : ∀ r, s'.RootOf h r ↔ r = c) : s'.LayoutOf h o ↔ o = c := by
  constructor
  · rintro ⟨⟨r, hr, hb⟩, -⟩
    obtain rfl := (hroot r).1 hr
    exact (toolkit.below_iff hs.forest).1 hb
  · rintro rfl
    refine ⟨⟨o, (hroot o).2 rfl, .refl⟩, ?_⟩
    rw [Toolkit.isLayout, toolkit.kind?, if_pos rfl]
    rfl

end Owned

end WidgetStage.Stage
