import WidgetStage.Proofs.Stage.Addressing

/-!
# What a command leaves to other handles

All handles share one toolkit. What keeps them apart is that no object is at or below objects that
the scene graphs of two handles track. This is so throughout every play, also after false reports:
whatever is created is put below an object of one handle, or is the root of a new one, and the rest
is only taken away.

A command changes, deletes or fills nothing but what is at or below the object that it addresses,
and what it has created itself. So it leaves other handles and their objects as they are.

## Main results

* `Separate`: no object is reached from two handles; every shift keeps this (`Separate.shift`).
* `Spares`: a handle and some objects are left as they were.
* `Separate.spares_run`: what a command spares.
* `other_handles_untouched`: this holds throughout every play.
-/

namespace WidgetStage

namespace Toolkit

/-- Some objects are left as they were. -/
def Untouched (own : ObjectId → Prop) (t t' : Toolkit) : Prop :=
  ∀ o, own o → t'.object? o = t.object? o

variable {t t' t'' : Toolkit} {o p c : ObjectId} {part : String} {kind : ObjectKind}
  {own : ObjectId → Prop}

/-- What is left twice is left. -/
theorem Untouched.trans (h : Untouched own t t') (h' : Untouched own t' t'') :
    Untouched own t t'' :=
  fun o ho => (h' o ho).trans (h o ho)

/-- Where the objects stay, all of them are left. -/
theorem untouched_of_objects_eq (h : t'.objects = t.objects) : Untouched own t t' :=
  fun o _ => by rw [object?, object?, h]

/-- Changing an object leaves the others. -/
theorem untouched_modifyObject (ho : ¬ own o) (f : ToolkitObject → ToolkitObject) :
    Untouched own t (t.modifyObject o f) := by
  intro x hx
  rw [object?_modifyObject, if_neg]
  rintro rfl
  exact ho hx

/-- Only the container changes when an object is put into it. -/
theorem untouched_swallow (hp : ¬ own p) (h : t.swallow p part c = .ok t') :
    Untouched own t t' := by
  rw [swallow] at h
  split at h
  · cases h
  split at h
  · cases h
  · cases h
    exact untouched_modifyObject hp _

/-- What is new is none of the old objects. -/
theorem untouched_allocate (hown : ∀ x, own x → x < t.nextObject) (kind : ObjectKind)
    (size : Option Size) : Untouched own t (t.allocate kind size).2 :=
  fun x hx => (live_allocate ..).trans (if_neg (Nat.ne_of_lt (hown x hx)))

/-- Deleting an object concerns what is at and below it, and what holds it. -/
theorem untouched_delete (ht : t.Forest) (hbelow : ∀ x, own x → ¬ t.Below o x)
    (hheld : ∀ x, own x → ¬ t.Holds x o) : Untouched own t (t.delete o).2 := by
  intro x hx
  have hout : x ∉ t.cascade o := fun hmem => hbelow x hx (ht.mem_cascade_iff.1 hmem).2
  rw [object?_delete, if_neg hout]
  cases hr : t.object? x with
  | none => rfl
  | some r => rw [Option.map_some, ht.filterValues_eq_self hr (hheld x hx)]

/-- Nothing old is below a new object, or holds it. -/
theorem Allocated.untouched_discard (h : Allocated c kind t t') (ht : t.Forest)
    (hown : ∀ x, own x → x < t.nextObject) : Untouched own t' (t'.delete c).2 := by
  refine untouched_delete (h.forest ht) (fun x hx hb => ?_) fun x _ hheld => ?_
  · rw [h.below_iff ht] at hb
    exact Nat.ne_of_lt (hown x hx) (hb.trans h.number)
  · obtain ⟨part, hheld⟩ := hheld
    rw [h.swallowed?] at hheld
    exact h.not_live ht (ht.content_live x part c hheld)

/-- Taking out what is in a part, and deleting it, concerns what is at and below the container. -/
theorem untouched_clear (ht : t.Forest) (hc : t.swallowed? p part = some c)
    (hout : ∀ x, own x → ¬ t.Below p x) :
    Untouched own t ((t.unswallow p part).2.delete c).2 := by
  have htaken : Untouched own t (t.unswallow p part).2 :=
    untouched_modifyObject (fun hp => hout p hp .refl) _
  refine htaken.trans
    (untouched_delete (forest_unswallow ht p part) (fun x hx hb => ?_) fun x hx hheld => ?_)
  · exact hout x hx (.head ⟨part, hc⟩ ((below_unswallow_iff ht hc).1 hb))
  · obtain ⟨part', hheld⟩ := hheld
    rw [swallowed?_unswallow] at hheld
    split at hheld
    · cases hheld
    · obtain ⟨rfl, -⟩ := ht.held_once x p part' part c hheld hc
      exact hout x hx .refl

end Toolkit

namespace Stage

open Toolkit (Shrunk Allocated Placed)
open Relation (ReflTransGen)

/-- The object is at or below one that the scene graph of a handle tracks. -/
def Reaches (s : Stage) (h : Nat) (x : ObjectId) : Prop :=
  ∃ g o n, s.graph? h = some g ∧ g.nodeOf? o = some n ∧ s.toolkit.Below o x

/-- No object is reached from two handles. -/
def Separate (s : Stage) : Prop :=
  ∀ h k x, s.Reaches h x → s.Reaches k x → h = k

variable {s s' s'' : Stage} {h k : Nat} {o p c x : ObjectId} {part : String}

/-! ### What a handle reaches -/

/-- What is below an object that is reached is reached. -/
theorem Reaches.below (hp : s.Reaches h p) (hx : s.toolkit.Below p x) : s.Reaches h x := by
  obtain ⟨g, o, n, hg, hn, hb⟩ := hp
  exact ⟨g, o, n, hg, hn, hb.trans hx⟩

/-- The root is reached. -/
theorem RootOf.reaches (hr : s.RootOf h o) : s.Reaches h o := by
  obtain ⟨g, hg, n, hn, -⟩ := hr
  exact ⟨g, o, n, hg, hn, .refl⟩

/-- What a command addresses is reached. -/
theorem Consistent.reaches_target {id : Option String} {target : Target} (hs : s.Consistent)
    (ha : s.address h id = .ok target) : s.Reaches h target.object := by
  obtain ⟨hf, hn⟩ := hs.address_eq_ok ha
  exact ⟨_, _, _, graph?_of_find hf, hn, .refl⟩

/-- Objects that do not exist yet are not reached. -/
theorem Consistent.reaches_lt (hs : s.Consistent) (hx : s.Reaches h x) :
    x < s.toolkit.nextObject := by
  obtain ⟨g, o, n, hg, hn, hb⟩ := hx
  rcases ReflTransGen.cases_tail_iff _ _ _ |>.1 hb with rfl | ⟨p, -, part, hp⟩
  · exact hs.tracked_lt h g x n hg hn
  · exact hs.forest.fresh x (hs.forest.content_live p part x hp)

/-- Without some of its contents and nodes a stage reaches no more. -/
theorem Within.reaches (hw : s'.Within s)
    (hholds : ∀ p c, s'.toolkit.Holds p c → s.toolkit.Holds p c) (hx : s'.Reaches h x) :
    s.Reaches h x := by
  obtain ⟨g', o, n, hg', hn, hb⟩ := hx
  obtain ⟨g, hg, hgg⟩ := hw h g' hg'
  exact ⟨g, o, n, hg, hgg.nodeOf? o n hn, ReflTransGen.mono hholds _ _ hb⟩

namespace Separate

/-- Handles that reach less stay apart. -/
theorem of_within (hsep : s.Separate) (hw : s'.Within s)
    (hholds : ∀ p c, s'.toolkit.Holds p c → s.toolkit.Holds p c) : s'.Separate :=
  fun h k x hh hk => hsep h k x (hw.reaches hholds hh) (hw.reaches hholds hk)

/-- One object is new, and reached from one handle. -/
theorem of_added (mine : Nat → Prop) (hs : s.Consistent) (hsep : s.Separate)
    (hc : c = s.toolkit.nextObject) (hmine : ∀ h k, mine h → mine k → h = k)
    (hreaches : ∀ k x, s'.Reaches k x → s.Reaches k x ∨ (x = c ∧ mine k)) : s'.Separate := by
  have hnew : ∀ {k}, ¬ s.Reaches k c := fun hreach =>
    Nat.lt_irrefl _ (hc ▸ hs.reaches_lt hreach)
  intro h k x hh hk
  rcases hreaches h x hh with hh | ⟨rfl, hh⟩
  · rcases hreaches k x hk with hk | ⟨rfl, -⟩
    · exact hsep h k x hh hk
    · exact absurd hh hnew
  · rcases hreaches k x hk with hk | ⟨-, hk⟩
    · exact absurd hk hnew
    · exact hmine h k hh hk

/-- The new object is in a part, and tracked by nobody who does not reach the container. -/
theorem of_placed {kind : ObjectKind} (hs : s.Consistent) (hsep : s.Separate)
    (toolkit : Placed p part c kind s.toolkit s'.toolkit)
    (hgraphs : ∀ k g' o n, s'.graph? k = some g' → g'.nodeOf? o = some n →
      (∃ g, s.graph? k = some g ∧ g.nodeOf? o = some n) ∨ (o = c ∧ s.Reaches k p)) :
    s'.Separate := by
  refine hsep.of_added (fun k => s.Reaches k p) hs toolkit.number (fun h k => hsep h k p) ?_
  rintro k x ⟨g', o, n, hg', hn, hb⟩
  rw [toolkit.below_iff hs.forest] at hb
  rcases hgraphs k g' o n hg' hn with ⟨g, hg, hn⟩ | ⟨rfl, hp⟩
  · rcases hb with hb | ⟨rfl, hb⟩
    · exact Or.inl ⟨g, o, n, hg, hn, hb⟩
    · exact Or.inr ⟨rfl, g, o, n, hg, hn, hb⟩
  · rcases hb with hb | ⟨rfl, -⟩
    · exact Or.inr ⟨Toolkit.eq_of_below_of_not_live (toolkit.not_live hs.forest) hb, hp⟩
    · exact Or.inr ⟨rfl, hp⟩

/-- The new object is the root of a new handle, if it is tracked at all. -/
theorem of_allocated {kind : ObjectKind} (hs : s.Consistent) (hsep : s.Separate)
    (toolkit : Allocated c kind s.toolkit s'.toolkit)
    (hgraphs : ∀ k g' o n, s'.graph? k = some g' → g'.nodeOf? o = some n →
      (∃ g, s.graph? k = some g ∧ g.nodeOf? o = some n) ∨ (o = c ∧ k = s.nextHandle)) :
    s'.Separate := by
  refine hsep.of_added (· = s.nextHandle) hs toolkit.number (fun h k hh hk => hh.trans hk.symm) ?_
  rintro k x ⟨g', o, n, hg', hn, hb⟩
  rcases hgraphs k g' o n hg' hn with ⟨g, hg, hn⟩ | ⟨rfl, hk⟩
  · exact Or.inl ⟨g, o, n, hg, hn, toolkit.below_congr.1 hb⟩
  · exact Or.inr ⟨(toolkit.below_iff hs.forest).1 hb, hk⟩

/-- Every move keeps handles apart. -/
theorem move (hs : s.Consistent) (hsep : s.Separate) (hm : Move s s') : s'.Separate := by
  cases hm with
  | idle toolkit nextHandle graphs =>
      exact hsep.of_within (hs.within_self graphs) fun _ _ => toolkit.holds
  | @load c path group n g toolkit attached nextHandle graphs =>
      refine hsep.of_allocated hs toolkit fun k d o m hd ho => ?_
      rw [graphs] at hd
      split at hd
      · next hk =>
        cases hd
        rw [attached.nodeOf?] at ho
        split at ho
        · next hoc => exact Or.inr ⟨hoc, hk⟩
        · cases ho
      · exact Or.inl ⟨d, hd, ho⟩
  | unload loaded toolkit nextHandle graphs =>
      exact hsep.of_within (hs.within_erase graphs) fun _ _ => toolkit.holds
  | @clear h g p c n part ds loaded tracked held destroyed toolkit nextHandle graphs =>
      have hw := (hs.wellFormed h g loaded).within_destroyAll ds
      exact hsep.of_within (hs.within_set loaded hw graphs) fun _ _ => toolkit.holds
  | display loaded tracked image toolkit nextHandle graphs =>
      refine hsep.of_placed hs toolkit fun k d o m hd ho => ?_
      exact Or.inl ⟨d, (graphs k).symm.trans hd, ho⟩
  | @nest h g g' p c n m part path group id loaded tracked toolkit attached nextHandle graphs =>
      refine hsep.of_placed hs toolkit fun k d o j hd ho => ?_
      rw [graphs] at hd
      split at hd
      · next hk =>
        cases hd
        rw [attached.nodeOf?] at ho
        split at ho
        · next hoc => exact Or.inr ⟨hoc, hk ▸ ⟨g, p, n, loaded, tracked, .refl⟩⟩
        · exact Or.inl ⟨g, hk ▸ loaded, ho⟩
      · exact Or.inl ⟨d, hd, ho⟩
  | @giveUp h g g' c m id parent ds loaded attached destroyed toolkit nextHandle graphs =>
      have hw := attached.within_takeBack (hs.wellFormed h g loaded) destroyed
      exact hsep.of_within (hs.within_set loaded hw graphs) fun _ _ => toolkit.holds

/-- So does every shift. -/
theorem shift (hs : s.Consistent) (hsep : s.Separate) (hshift : Shift s s') : s'.Separate := by
  cases hshift with
  | move hm => exact hsep.move hs hm
  | report h o =>
      refine hsep.of_within (hs.within_report h o) fun p c hc => ?_
      rwa [(toolkit_objectDestroyed s h o).1] at hc
  | leave kind size =>
      refine hsep.of_allocated hs (Toolkit.allocated_allocate hs.forest kind size)
        fun k d o m hd ho => ?_
      exact Or.inl ⟨d, hd, ho⟩
  | delete o =>
      exact hsep.of_within (hs.within_self fun _ => rfl)
        fun _ _ => (Toolkit.shrunk_delete hs.forest).holds

end Separate

/-! ### What is left as it was -/

/-- A handle and some objects are left as they were. -/
structure Spares (k : Nat) (own : ObjectId → Prop) (s s' : Stage) : Prop where
  handle : s'.handles.find? k = s.handles.find? k
  objects : s.toolkit.Untouched own s'.toolkit

variable {own : ObjectId → Prop}

/-- Where nothing happens, everything is left. -/
theorem spares_self (s : Stage) : Spares k own s s :=
  ⟨rfl, fun _ _ => rfl⟩

/-- What is left twice is left. -/
theorem Spares.trans (h : Spares k own s s') (h' : Spares k own s' s'') : Spares k own s s'' :=
  ⟨h'.handle.trans h.handle, h.objects.trans h'.objects⟩

/-- Changing a handle leaves the others. -/
theorem spares_modifyHandle (hk : k ≠ h) (f : Handle → Handle) :
    Spares k own s (s.modifyHandle h f) where
  handle := by rw [modifyHandle, Table.find?_modify, if_neg hk]
  objects _ _ := rfl

/-- Emptying a part changes what is at and below its container. -/
theorem spares_clearPart (ht : s.toolkit.Forest) (hk : k ≠ h)
    (hout : ∀ x, own x → ¬ s.toolkit.Below p x) (part : String) :
    Spares k own s (s.clearPart h p part) := by
  cases hc : s.toolkit.swallowed? p part with
  | none =>
      simp only [clearPart, Toolkit.unswallow, hc]
      exact spares_self s
  | some c =>
      have hcleared : Spares k own s (s.withToolkit ((s.toolkit.unswallow p part).2.delete c).2) :=
        ⟨rfl, Toolkit.untouched_clear ht hc hout⟩
      simp only [clearPart, Toolkit.unswallow, hc]
      exact hcleared.trans (spares_modifyHandle hk _)

namespace Consistent

/-- Showing an image changes the container and the new image. -/
theorem spares_showImage (hs : s.Consistent) (hown : ∀ x, own x → x < s.toolkit.nextObject)
    (hp : ¬ own p) (part : String) (options : ImageOptions) (content : ImageContent) :
    Spares k own s (s.showImage p part options content).2 := by
  rw [showImage, Toolkit.createImage]
  cases s.toolkit.imageFailure with
  | some e => exact spares_self s
  | none =>
      have hcreated := Toolkit.untouched_allocate hown content.kind (some content.size)
      have halloc := Toolkit.allocated_allocate hs.forest content.kind (some content.size)
      obtain ⟨shadows, hcast⟩ := castShadow_eq
        (s.withToolkit (s.toolkit.allocate content.kind (some content.size)).2)
        s.toolkit.nextObject options.shadow
      dsimp only
      rw [Toolkit.fst_allocate, hcast]
      split
      · exact ⟨rfl, hcreated.trans (halloc.untouched_discard hs.forest hown)⟩
      · next hswallow => exact ⟨rfl, hcreated.trans (Toolkit.untouched_swallow hp hswallow)⟩

/-- Placing a new layout changes the container, the layout and the handle. -/
theorem spares_loadInto {w : Surroundings} {target : Target} {g : SceneGraph}
    {wanted : Option String} {path group : String} (hs : s.Consistent) (hk : k ≠ h)
    (hown : ∀ x, own x → x < s.toolkit.nextObject) (hp : ¬ own target.object) :
    Spares k own s (s.loadInto w h target g wanted part path group).2 := by
  have hcreated := Toolkit.untouched_allocate hown (.layout path group) none
  have halloc := Toolkit.allocated_allocate hs.forest (.layout path group) none
  rw [loadInto]
  split
  · exact spares_self s
  split
  · exact spares_self s
  split
  · exact spares_self s
  dsimp only
  split
  · exact ⟨rfl, hcreated⟩
  rw [placeLayout]
  split
  · exact ⟨rfl, hcreated.trans (halloc.untouched_discard hs.forest hown)⟩
  dsimp only
  split
  · refine ⟨?_, hcreated.trans (halloc.untouched_discard hs.forest hown)⟩
    simp only [deleteReporting, modifyHandle, withToolkit, Table.find?_modify, if_neg hk]
  · next hswallow =>
    refine ⟨?_, hcreated.trans (Toolkit.untouched_swallow hp hswallow)⟩
    simp only [modifyHandle, withToolkit, Table.find?_modify, if_neg hk]

end Consistent

/-! ### Commands -/

/-- A new handle is none of the loaded ones, and its root is none of the old objects. -/
theorem spares_create (hk : k < s.nextHandle) (hown : ∀ x, own x → x < s.toolkit.nextObject)
    (files : Files) (path group : String) (size : Size) :
    Spares k own s (s.create files path group size).2 := by
  rw [create, Toolkit.loadLayout]
  split
  · exact spares_self s
  split
  · exact spares_self s
  cases s.toolkit.loadFailure with
  | some e => exact spares_self s
  | none =>
      have hcreated := Toolkit.untouched_allocate hown (.layout path group) none
      have hfit : ∀ t, Toolkit.Untouched own t (fitToBuffer t s.toolkit.nextObject size) := by
        intro t
        rw [fitToBuffer]
        split
        · exact Toolkit.untouched_of_objects_eq rfl
        · exact Toolkit.untouched_modifyObject (fun hc => Nat.lt_irrefl _ (hown _ hc)) _
      dsimp only
      split
      · exact ⟨rfl, hcreated.trans (hfit _)⟩
      · refine ⟨?_, hcreated.trans (hfit _)⟩
        exact (Table.find?_insert ..).trans (if_neg (Nat.ne_of_lt hk))

/-- A handle that is unloaded takes with it what is at and below its root. -/
theorem spares_destroy (ht : s.toolkit.Forest) (hk : k ≠ h)
    (hout : ∀ r, s.rootObject? h = some r →
      ∀ x, own x → ¬ s.toolkit.Below r x ∧ ¬ s.toolkit.Holds x r) :
    Spares k own s (s.destroy h).2 := by
  rw [destroy, lookup]
  cases hf : s.handles.find? h with
  | none => exact spares_self s
  | some hd =>
      refine ⟨(Table.find?_erase ..).trans (if_neg hk), ?_⟩
      rw [rootObject?, hf, Option.bind_some] at hout
      change Toolkit.Untouched own s.toolkit (tearDown hd s.toolkit).2
      rw [tearDown]
      split
      · exact Toolkit.untouched_of_objects_eq rfl
      · next r hr =>
        exact Toolkit.untouched_delete ht (fun x hx => (hout r hr x hx).1)
          fun x hx => (hout r hr x hx).2

/-- A touch concerns the handle that is touched, and the objects that are. -/
theorem spares_touch {mine : ObjectId → Prop} (hk : k ≠ h) (hmine : ∀ o, mine o → ¬ own o)
    (ht : Touch mine h s s') : Spares k own s s' := by
  cases ht with
  | object concerned _ _ =>
      exact ⟨rfl, Toolkit.untouched_modifyObject (hmine _ concerned) _⟩
  | call _ objects => exact ⟨rfl, Toolkit.untouched_of_objects_eq objects⟩
  | handle _ => exact spares_modifyHandle hk _

/-- Any number of touches leave what is not touched. -/
theorem spares_touches {mine : ObjectId → Prop} (hk : k ≠ h) (hmine : ∀ o, mine o → ¬ own o)
    (ht : ReflTransGen (Touch mine h) s s') : Spares k own s s' := by
  induction ht with
  | refl => exact spares_self s
  | tail _ hlast ih => exact ih.trans (spares_touch hk hmine hlast)

/-- Emptying a part makes no object. -/
theorem nextObject_clearPart (h : Nat) (p : ObjectId) (part : String) :
    (s.clearPart h p part).toolkit.nextObject = s.toolkit.nextObject := by
  simp only [clearPart, Toolkit.unswallow]
  cases s.toolkit.swallowed? p part <;> rfl

namespace Consistent

variable {id : Option String}

/-- What a command shows in a part is at or below what it addresses. -/
theorem spares_updateImage (hs : s.Consistent) (hk : k ≠ h)
    (hown : ∀ x, own x → x < s.toolkit.nextObject)
    (hout : ∀ target, s.address h id = .ok target → ∀ x, own x → ¬ s.toolkit.Below target.object x)
    (files : Files) (part path : String) (option : Option String) :
    Spares k own s (s.updateImage files h id part path option).2 := by
  rw [updateImage]
  split
  · exact spares_self s
  next target ha =>
  have hclear := spares_clearPart hs.forest hk (hout target ha) part
  have hs₁ := hs.moves (hs.moves_clearPart ha part).1
  have hown₁ : ∀ x, own x → x < (s.clearPart h target.object part).toolkit.nextObject := by
    rwa [nextObject_clearPart]
  dsimp only
  split
  · exact hclear
  split
  · exact hclear
  · have hp : ¬ own target.object := fun hp => hout target ha _ hp .refl
    exact hclear.trans (hs₁.spares_showImage hown₁ hp ..)

/-- A layout is made anew and put at or below what the command addresses, too. -/
theorem spares_updateScript (hs : s.Consistent) (hk : k ≠ h)
    (hown : ∀ x, own x → x < s.toolkit.nextObject)
    (hout : ∀ target, s.address h id = .ok target → ∀ x, own x → ¬ s.toolkit.Below target.object x)
    (w : Surroundings) (wanted : Option String) (part path group : String) :
    Spares k own s (s.updateScript w h id wanted part path group).2 := by
  cases ha : s.address h id with
  | error e =>
      rw [Stage.updateScript, ha]
      exact spares_self s
  | ok target =>
      obtain ⟨hd, -, -, heq⟩ := hs.updateScript_eq ha w wanted part path group
      have hclear := spares_clearPart hs.forest hk (hout target ha) part
      have hs₁ := hs.moves (hs.moves_clearPart ha part).1
      have hown₁ : ∀ x, own x → x < (s.clearPart h target.object part).toolkit.nextObject := by
        rwa [nextObject_clearPart]
      rw [heq]
      exact hclear.trans (hs₁.spares_loadInto hk hown₁ fun hp => hout target ha _ hp .refl)

end Consistent

/-- A command spares every other loaded handle, and all that it reaches. -/
theorem Separate.spares_run {w : Surroundings} {cmd : Command} (hs : s.Consistent)
    (hsep : s.Separate) (hk : (s.handles.find? k).isSome) (hcmd : cmd.handle? ≠ some k) :
    Spares k (s.Reaches k) s (s.run w cmd).2 := by
  have hown : ∀ x, s.Reaches k x → x < s.toolkit.nextObject := fun x => hs.reaches_lt
  have hne : ∀ h, cmd.handle? = some h → k ≠ h := by
    rintro h hh rfl
    exact hcmd hh
  have hout : ∀ h p, cmd.handle? = some h → s.Reaches h p →
      ∀ x, s.Reaches k x → ¬ s.toolkit.Below p x := by
    intro h p hh hp x hx hb
    exact hne h hh (hsep k h x hx (hp.below hb))
  have htouched : ∀ h, cmd.handle? = some h → ∀ o, s.Addressed h o → ¬ s.Reaches k o := by
    rintro h hh _ ⟨id, target, ha, rfl⟩ hp
    exact hout h _ hh (hs.reaches_target ha) _ hp .refl
  cases cmd with
  | create path group size =>
      obtain ⟨hd, hf⟩ := Option.isSome_iff_exists.1 hk
      rw [run, answering_snd]
      exact spares_create (hs.numbered k _ (graph?_of_find hf)) hown w.files path group size
  | destroy h =>
      rw [run, answering_snd]
      refine spares_destroy hs.forest (hne h rfl) fun r hr x hx => ?_
      have hroot : s.Reaches h r := (hs.rootObject?_eq_some_iff.1 hr).reaches
      -- whoever reaches a container of the root reaches the root
      exact ⟨hout h r rfl hroot x hx,
        fun hheld => hout h r rfl hroot r (hx.below (.single hheld)) .refl⟩
  | objectDestroyed h o =>
      rw [run, answering_snd, objectDestroyed]
      split
      · exact spares_self s
      · exact spares_modifyHandle (hne h rfl) _
  | image h id part path option =>
      rw [run, answering_snd]
      exact hs.spares_updateImage (hne h rfl) hown
        (fun target ha => hout h _ rfl (hs.reaches_target ha)) w.files part path option
  | script h source wanted part path group =>
      exact hs.spares_updateScript (hne h rfl) hown
        (fun target ha => hout h _ rfl (hs.reaches_target ha)) w wanted part path group
  | _ => exact spares_touches (hne _ rfl) (htouched _ rfl) (run_touches rfl)

/-! ### Throughout a play -/

/-- A play from an empty stage keeps handles apart. -/
theorem separate_play (order : DestroyOrder) (config : Config) (castsShadows : Bool)
    (turns : List Turn) : ((start (.start order) config castsShadows).play turns).Separate := by
  have hstart : (start (.start order) config castsShadows).Separate := by
    rintro h k x ⟨g, o, n, hg, -⟩
    cases hg
  exact (owned_start order config castsShadows).toConsistent.play_of_shift
    (fun _ _ hs hshift hsep => hsep.shift hs hshift) hstart turns

/-- After every play, a command leaves every loaded handle to which it is not addressed exactly as
it was, with its scene graph, buffer, category and pointer state. Every object at or below the root
of such a handle exists after the command if and only if it did before, as the same object with the
same contents. -/
theorem other_handles_untouched (order : DestroyOrder) (config : Config) (castsShadows : Bool)
    (turns : List Turn) (w : Surroundings) (c : Command) (k : Nat)
    (hloaded : (((start (.start order) config castsShadows).play turns).handles.find? k).isSome)
    (hc : c.handle? ≠ some k) :
    let s := (start (.start order) config castsShadows).play turns
    (s.run w c).2.handles.find? k = s.handles.find? k ∧
      ∀ r, s.rootObject? k = some r → ∀ o, s.toolkit.Below r o →
        (s.run w c).2.toolkit.object? o = s.toolkit.object? o := by
  intro s
  have hs : s.Consistent := consistent_play order config castsShadows turns
  have hsep : s.Separate := separate_play order config castsShadows turns
  have hspared := hsep.spares_run (w := w) hs hloaded hc
  refine ⟨hspared.handle, fun r hr o hb => hspared.objects o ?_⟩
  exact (hs.rootObject?_eq_some_iff.1 hr).reaches.below hb

/-- Two handles of one layout, with a row in the second one. -/
def pairTurns : List Turn :=
  let w : Surroundings := ⟨Files.empty.write "rows.edj" (.text ""), fun _ => .ofMicros 0⟩
  [.command w (.create "rows.edj" "main" ⟨0, 0⟩), .command w (.create "rows.edj" "main" ⟨0, 0⟩),
    .command w (.script 2 none none "slot" "rows.edj" "row")]

/-- Unloading the first handle leaves the second one and its row. -/
theorem other_handles_untouched_pair :
    let s := (start (.start .parentFirst) .standard false).play pairTurns
    let s' := (s.run ⟨.empty, fun _ => .ofMicros 0⟩ (.destroy 1)).2
    (s.toolkit.object? 3).isSome ∧ s'.toolkit.object? 3 = s.toolkit.object? 3 ∧
      s'.handles.find? 2 = s.handles.find? 2 := by
  have hspared := other_handles_untouched .parentFirst .standard false pairTurns
    ⟨.empty, fun _ => .ofMicros 0⟩ (.destroy 1) 2 (by decide) (by decide)
  exact ⟨by decide, hspared.2 2 (by decide) 3 (.single ⟨"slot", by decide⟩), hspared.1⟩

end Stage

end WidgetStage
