import WidgetStage.Proofs.Stage.Commands
import WidgetStage.Session

/-!
# Who owns an object

Every live object is either the root of a loaded handle or swallowed into a part of a live
object, and not both. A command that fails half-way deletes what it has made so far, so nothing
is left without an owner, and nothing is left at all once every handle is unloaded.

A report is true if its object is gone. False reports do no harm either, except about the root of
a handle: the handle would forget the layout, and nobody would delete it.

## Main results

* `Owned`: every live object is a root or held, and no root is held.
* `Owned.move`, `Owned.report`, `Owned.delete`: ownership is kept by every move of a stage, by
  reports, and when the toolkit deletes an object by itself.
* `Owned.not_live_of_unloaded`: nothing is live if nothing is loaded.
-/

namespace WidgetStage

namespace Stage

open Toolkit (Shrunk Allocated Placed Alike)
open Relation (ReflTransGen)

/-- The object of the root layout of a handle. -/
def rootObject? (s : Stage) (h : Nat) : Option ObjectId :=
  (s.handles.find? h).bind Handle.rootObject?

/-- The object is that of the root of the scene graph of a loaded handle. -/
def RootOf (s : Stage) (h : Nat) (o : ObjectId) : Prop :=
  ∃ g, s.graph? h = some g ∧ g.IsRoot o

/-- Every live object is a root or held, and no root is held. -/
structure Owned (s : Stage) : Prop extends Consistent s where
  root_unheld : ∀ h o p, s.RootOf h o → ¬ s.toolkit.Holds p o
  root_once : ∀ h h' o, s.RootOf h o → s.RootOf h' o → h = h'
  owned : ∀ o, s.toolkit.Live o → (∃ h, s.RootOf h o) ∨ ∃ p, s.toolkit.Holds p o

variable {s s' : Stage} {gone : ObjectId → Prop} {h k : Nat} {o : ObjectId}

/-- The root of a handle is the object that its scene graph tracks without an id. -/
theorem Consistent.rootObject?_eq_some_iff (hs : s.Consistent) :
    s.rootObject? h = some o ↔ s.RootOf h o := by
  rcases hf : s.handles.find? h with _ | hd
  · simp [rootObject?, RootOf, graph?, hf]
  · have hg := graph?_of_find hf
    simp only [rootObject?, hf, Option.bind_some, RootOf, hg, Option.some.injEq,
      exists_eq_left']
    exact (hs.wellFormed h _ hg).rootObject?_eq_some_iff

/-- Roots exist, or did so. -/
theorem Consistent.root_lt (hs : s.Consistent) (hr : s.RootOf h o) :
    o < s.toolkit.nextObject := by
  obtain ⟨g, hg, n, hn, -⟩ := hr
  exact hs.tracked_lt h g o n hg hn

/-- A stage with less in its scene graphs has no other roots. -/
theorem Within.rootOf (hw : s'.Within s) (hr : s'.RootOf h o) : s.RootOf h o := by
  obtain ⟨g', hg', hroot⟩ := hr
  obtain ⟨g, hg, hgg⟩ := hw h g' hg'
  exact ⟨g, hg, hgg.isRoot hroot⟩

/-! ### Roots after a change -/

/-- Where a scene graph is replaced by one with the same root. -/
theorem rootOf_set_iff {g g' : SceneGraph} (loaded : s.graph? h = some g)
    (graphs : ∀ k, s'.graph? k = if k = h then some g' else s.graph? k)
    (hroot : g'.IsRoot o ↔ g.IsRoot o) : s'.RootOf k o ↔ s.RootOf k o := by
  by_cases hk : k = h
  · simp only [RootOf, graphs, hk, if_true, loaded, Option.some.injEq, exists_eq_left', hroot]
  · simp only [RootOf, graphs, if_neg hk]

/-- Where a layout is loaded into a new handle. -/
theorem Consistent.rootOf_load_iff {c : ObjectId} {n : NodeId} {g : SceneGraph}
    (hs : s.Consistent) (attached : SceneGraph.Attached .empty c none none n g)
    (graphs : ∀ k, s'.graph? k = if k = s.nextHandle then some g else s.graph? k) :
    s'.RootOf k o ↔ (k = s.nextHandle ∧ o = c) ∨ s.RootOf k o := by
  by_cases hk : k = s.nextHandle
  · have hold : ¬ s.RootOf k o := by
      rintro ⟨d, hd, -⟩
      exact Nat.lt_irrefl k (hk ▸ hs.numbered k d hd)
    rw [or_iff_left hold, and_iff_right hk]
    simp only [RootOf, graphs, if_pos hk, Option.some.injEq, exists_eq_left',
      attached.isRoot_of_empty]
  · simp only [RootOf, graphs, hk, if_false, false_and, false_or]

namespace Owned

/-- Ownership is kept if some objects are gone, and every root that is not gone is still one. -/
theorem of_shrunk (hs : s.Owned) (toolkit : Shrunk gone s.toolkit s'.toolkit)
    (hcons : s'.Consistent) (hw : s'.Within s)
    (hroot : ∀ h o, s.RootOf h o → s.toolkit.Live o → ¬ gone o → s'.RootOf h o) :
    s'.Owned where
  toConsistent := hcons
  root_unheld h o p hr hp := by
    obtain ⟨part, hp⟩ := hp
    exact hs.root_unheld h o p (hw.rootOf hr) ⟨part, ((toolkit.swallowed? p part o).1 hp).1⟩
  root_once h h' o hr hr' := hs.root_once h h' o (hw.rootOf hr) (hw.rootOf hr')
  owned o ho := by
    obtain ⟨hlive, hgone⟩ := toolkit.live_iff.1 ho
    rcases hs.owned o hlive with ⟨h, hr⟩ | ⟨p, part, hp⟩
    · exact Or.inl ⟨h, hroot h o hr hlive hgone⟩
    · exact Or.inr ⟨p, part, (toolkit.swallowed? p part o).2 ⟨hp, hgone⟩⟩

/-- Ownership is kept if an object is new and held, and the roots are the same. -/
theorem of_placed {p c : ObjectId} {part : String} {kind : ObjectKind} (hs : s.Owned)
    (toolkit : Placed p part c kind s.toolkit s'.toolkit) (hcons : s'.Consistent)
    (hroot : ∀ h o, s'.RootOf h o ↔ s.RootOf h o) : s'.Owned where
  toConsistent := hcons
  root_unheld h o q hr hq := by
    obtain ⟨part', hq⟩ := hq
    rw [hroot] at hr
    rcases (toolkit.swallowed?_iff q part').1 hq with ⟨-, -, rfl⟩ | hq
    · exact Nat.ne_of_lt (hs.root_lt hr) toolkit.number
    · exact hs.root_unheld h o q hr ⟨part', hq⟩
  root_once h h' o hr hr' := hs.root_once h h' o ((hroot h o).1 hr) ((hroot h' o).1 hr')
  owned o ho := by
    rcases toolkit.live_iff.1 ho with rfl | ho
    · exact Or.inr ⟨p, part, (toolkit.swallowed?_iff p part).2 (Or.inl ⟨rfl, rfl, rfl⟩)⟩
    · rcases hs.owned o ho with ⟨h, hr⟩ | ⟨q, part', hq⟩
      · exact Or.inl ⟨h, (hroot h o).2 hr⟩
      · exact Or.inr ⟨q, part', (toolkit.swallowed?_iff q part').2 (Or.inr hq)⟩

/-- Ownership is kept if an object is new and the root of a handle that has no other root. -/
theorem of_allocated {c : ObjectId} {kind : ObjectKind} (hs : s.Owned)
    (toolkit : Allocated c kind s.toolkit s'.toolkit) (hcons : s'.Consistent)
    (hroot : ∀ k o, s'.RootOf k o ↔ (k = h ∧ o = c) ∨ s.RootOf k o) : s'.Owned where
  toConsistent := hcons
  root_unheld k o p hr hp := by
    obtain ⟨part, hp⟩ := hp
    rw [toolkit.swallowed?] at hp
    rcases (hroot k o).1 hr with ⟨-, rfl⟩ | hr
    · exact toolkit.not_live hs.forest (hs.forest.content_live p part o hp)
    · exact hs.root_unheld k o p hr ⟨part, hp⟩
  root_once k k' o hr hr' := by
    have hnew : ∀ k, ¬ s.RootOf k c := fun k hr => Nat.ne_of_lt (hs.root_lt hr) toolkit.number
    rcases (hroot k o).1 hr with ⟨rfl, rfl⟩ | hr
    · rcases (hroot k' o).1 hr' with ⟨rfl, -⟩ | hr'
      · rfl
      · exact absurd hr' (hnew k')
    · rcases (hroot k' o).1 hr' with ⟨-, rfl⟩ | hr'
      · exact absurd hr (hnew k)
      · exact hs.root_once k k' o hr hr'
  owned o ho := by
    rcases toolkit.live_iff.1 ho with rfl | ho
    · exact Or.inl ⟨h, (hroot h o).2 (Or.inl ⟨rfl, rfl⟩)⟩
    · rcases hs.owned o ho with ⟨k, hr⟩ | ⟨p, part, hp⟩
      · exact Or.inl ⟨k, (hroot k o).2 (Or.inr hr)⟩
      · exact Or.inr ⟨p, part, (toolkit.swallowed? p part).trans hp⟩

/-- Every move keeps ownership. -/
theorem move (hs : s.Owned) (hm : Move s s') : s'.Owned := by
  have hcons := hs.toConsistent.move hm
  cases hm with
  | idle toolkit nextHandle graphs =>
      refine hs.of_shrunk toolkit hcons (hs.within_self graphs) fun k o hr _ _ => ?_
      obtain ⟨g, hg, hroot⟩ := hr
      exact ⟨g, (graphs k).trans hg, hroot⟩
  | load toolkit attached nextHandle graphs =>
      exact hs.of_allocated toolkit hcons fun k o => hs.rootOf_load_iff attached graphs
  | @unload h g loaded toolkit nextHandle graphs =>
      refine hs.of_shrunk toolkit hcons (hs.within_erase graphs) fun k o hr _ hgone => ?_
      obtain ⟨d, hd, hroot⟩ := hr
      refine ⟨d, ?_, hroot⟩
      rw [graphs, if_neg, hd]
      rintro rfl
      rw [loaded, Option.some.injEq] at hd
      exact hgone ⟨o, hd ▸ hroot, .refl⟩
  | @clear h g p c n part ds loaded tracked held destroyed toolkit nextHandle graphs =>
      have hg := hs.wellFormed h g loaded
      have hw := hs.within_set loaded (hg.within_destroyAll ds) graphs
      refine hs.of_shrunk toolkit hcons hw fun k o hr _ hgone => ?_
      refine (rootOf_set_iff loaded graphs ?_).2 hr
      rw [hg.isRoot_destroyAll_iff, destroyed]
      exact and_iff_left hgone
  | display loaded tracked image toolkit nextHandle graphs =>
      refine hs.of_placed toolkit hcons fun k o => ?_
      simp only [RootOf, graphs]
  | @nest h g g' p c n m part path group id loaded tracked toolkit attached nextHandle graphs =>
      have hg := hs.wellFormed h g loaded
      exact hs.of_placed toolkit hcons fun k o =>
        rootOf_set_iff loaded graphs (attached.isRoot_iff hg)
  | @giveUp h g g' c m id parent ds loaded attached destroyed toolkit nextHandle graphs =>
      have hg := hs.wellFormed h g loaded
      have hw := hs.within_set loaded (attached.within_takeBack hg destroyed) graphs
      exact hs.of_shrunk toolkit hcons hw fun k o hr _ _ =>
        (rootOf_set_iff loaded graphs (attached.isRoot_takeBack_iff hg destroyed)).2 hr

/-- So does a series of moves. -/
theorem moves (hs : s.Owned) (hm : ReflTransGen Move s s') : s'.Owned := by
  induction hm with
  | refl => exact hs
  | tail _ hm ih => exact ih.move hm

/-- A report keeps ownership, unless it says of a live root that it is gone. -/
theorem report (hs : s.Owned) (htrue : s.RootOf h o → ¬ s.toolkit.Live o) :
    (s.objectDestroyed h o).2.Owned := by
  obtain ⟨htoolkit, hnext⟩ := toolkit_objectDestroyed s h o
  have hw : (s.objectDestroyed h o).2.Within s := by
    intro k g' hk
    rw [graph?_objectDestroyed] at hk
    split at hk
    · obtain ⟨g, hg, rfl⟩ := Option.map_eq_some_iff.1 hk
      exact ⟨g, hg, (hs.wellFormed k g hg).within_destroyAll [o]⟩
    · exact ⟨g', hk, (hs.wellFormed k g' hk).within_self⟩
  have hshrunk : Shrunk (fun _ => False) s.toolkit (s.objectDestroyed h o).2.toolkit :=
    htoolkit ▸ Alike.rfl.shrunk
  refine hs.of_shrunk hshrunk (hs.toConsistent.of_shrunk hshrunk hnext hw) hw
    fun k x hr hlive _ => ?_
  obtain ⟨g, hg, hroot⟩ := hr
  by_cases hk : k = h
  · refine ⟨g.destroy o, ?_, ?_⟩
    · rw [graph?_objectDestroyed, if_pos hk, hg, Option.map_some]
    · refine ((hs.wellFormed k g hg).isRoot_destroyAll_iff [o]).2 ⟨hroot, ?_⟩
      rw [List.mem_singleton]
      rintro rfl
      exact htrue ⟨g, hk ▸ hg, hroot⟩ hlive
  · exact ⟨g, by rw [graph?_objectDestroyed, if_neg hk, hg], hroot⟩

/-- So does the toolkit when it deletes an object by itself. -/
theorem delete (hs : s.Owned) (o : ObjectId) :
    (s.withToolkit (s.toolkit.delete o).2).Owned := by
  have hshrunk := Toolkit.shrunk_delete (o := o) hs.forest
  have hw : (s.withToolkit (s.toolkit.delete o).2).Within s := hs.within_self fun _ => rfl
  exact hs.of_shrunk hshrunk (hs.toConsistent.of_shrunk hshrunk rfl hw) hw fun _ _ hr _ _ => hr

/-- Nothing is live if nothing is loaded. -/
theorem not_live_of_unloaded (hs : s.Owned) (hnone : ∀ h, s.graph? h = none) (o : ObjectId) :
    ¬ s.toolkit.Live o := by
  induction o using Nat.strongRecOn with
  | _ o ih =>
      intro ho
      rcases hs.owned o ho with ⟨h, g, hg, -⟩ | ⟨p, part, hp⟩
      · rw [hnone] at hg
        cases hg
      · exact ih p (hs.forest.older p part o hp) (Toolkit.live_of_swallowed? hp)

end Owned

/-- An empty stage owns nothing. -/
theorem owned_start (order : DestroyOrder) (config : Config) (castsShadows : Bool) :
    (start (.start order) config castsShadows).Owned := by
  have hnone : ∀ h, (start (.start order) config castsShadows).graph? h = none := fun _ => rfl
  have hobject : ∀ o, (Toolkit.start order).object? o = none := fun _ => rfl
  have hdead : ∀ o, ¬ (Toolkit.start order).Live o := fun o => Toolkit.not_live_iff.2 (hobject o)
  have hempty : ∀ p part c, (Toolkit.start order).swallowed? p part ≠ some c :=
    fun p part c hc => hdead p (Toolkit.live_of_swallowed? hc)
  exact {
    forest := {
      tidy o r ho := by cases ho
      fresh o ho := absurd ho (hdead o)
      content_live p part c hc := absurd hc (hempty p part c)
      older p part c hc := absurd hc (hempty p part c)
      held_once p q part part' c hc _ := absurd hc (hempty p part c) }
    wellFormed h g hg := by cases hg
    numbered h g hg := by cases hg
    tracked_lt h g o n hg := by cases hg
    root_unheld h o p hr := by
      obtain ⟨g, hg, -⟩ := hr
      cases hg
    root_once h h' o hr := by
      obtain ⟨g, hg, -⟩ := hr
      cases hg
    owned o ho := absurd ho (hdead o) }

end Stage

end WidgetStage
