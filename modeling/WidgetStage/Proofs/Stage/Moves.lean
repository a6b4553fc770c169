import WidgetStage.Proofs.Scene.Tracking
import WidgetStage.Proofs.Toolkit.Changes
import WidgetStage.Stage.Command

/-!
# What commands do to objects

Most of what commands do concerns neither the forest of the toolkit nor what the scene graphs
track. The rest is a few kinds of moves: a layout is loaded or unloaded with its handle, a part is
emptied, an image or a layout is put into an empty part, and a layout that could not be placed is
given up. Whatever is to hold between commands is shown for each kind of move once.

## Main results

* `Move`: the kinds of moves.
* `Move.forward`: no move takes back a number, or makes an old object live.
* `Consistent`: the scene graphs are well-formed, the toolkit is a forest, and numbers are not
  used again; every move keeps this (`Consistent.move`).
-/

namespace WidgetStage.Stage

open Toolkit (Shrunk Allocated Placed)

/-- The scene graph of a loaded handle. -/
def graph? (s : Stage) (h : Nat) : Option SceneGraph :=
  (s.handles.find? h).map Handle.graph

/-- What a move makes of a stage. -/
inductive Move (s s' : Stage) : Prop where
  /-- No object and no scene graph is concerned. -/
  | idle (toolkit : Shrunk (fun _ => False) s.toolkit s'.toolkit)
      (nextHandle : s'.nextHandle = s.nextHandle) (graphs : ∀ k, s'.graph? k = s.graph? k)
  /-- A layout is loaded, and is the root of a new handle. -/
  | load {c : ObjectId} {path group : String} {n : NodeId} {g : SceneGraph}
      (toolkit : Allocated c (.layout path group) s.toolkit s'.toolkit)
      (attached : SceneGraph.Attached .empty c none none n g)
      (nextHandle : s'.nextHandle = s.nextHandle + 1)
      (graphs : ∀ k, s'.graph? k = if k = s.nextHandle then some g else s.graph? k)
  /-- A handle is unloaded, and its root is deleted. -/
  | unload {h : Nat} {g : SceneGraph} (loaded : s.graph? h = some g)
      (toolkit : Shrunk (fun x => ∃ o, g.IsRoot o ∧ s.toolkit.Below o x) s.toolkit s'.toolkit)
      (nextHandle : s'.nextHandle = s.nextHandle)
      (graphs : ∀ k, s'.graph? k = if k = h then none else s.graph? k)
  /-- The content of a part is deleted and reported. -/
  | clear {h : Nat} {g : SceneGraph} {p c : ObjectId} {n : NodeId} {part : String}
      {ds : List ObjectId} (loaded : s.graph? h = some g) (tracked : g.nodeOf? p = some n)
      (held : s.toolkit.swallowed? p part = some c)
      (destroyed : ∀ x, x ∈ ds ↔ s.toolkit.Below c x)
      (toolkit : Shrunk (s.toolkit.Below c) s.toolkit s'.toolkit)
      (nextHandle : s'.nextHandle = s.nextHandle)
      (graphs : ∀ k, s'.graph? k = if k = h then some (g.destroyAll ds) else s.graph? k)
  /-- An image is put into an empty part. -/
  | display {h : Nat} {g : SceneGraph} {p c : ObjectId} {n : NodeId} {part : String}
      {kind : ObjectKind} (loaded : s.graph? h = some g) (tracked : g.nodeOf? p = some n)
      (image : kind.isLayout = false) (toolkit : Placed p part c kind s.toolkit s'.toolkit)
      (nextHandle : s'.nextHandle = s.nextHandle) (graphs : ∀ k, s'.graph? k = s.graph? k)
  /-- A layout is put into an empty part, and tracked. -/
  | nest {h : Nat} {g g' : SceneGraph} {p c : ObjectId} {n m : NodeId}
      {part path group id : String} (loaded : s.graph? h = some g)
      (tracked : g.nodeOf? p = some n)
      (toolkit : Placed p part c (.layout path group) s.toolkit s'.toolkit)
      (attached : SceneGraph.Attached g c (some id) (some (n, part)) m g')
      (nextHandle : s'.nextHandle = s.nextHandle)
      (graphs : ∀ k, s'.graph? k = if k = h then some g' else s.graph? k)
  /-- A layout was tracked, but could not be put into its part: it is deleted and reported. -/
  | giveUp {h : Nat} {g g' : SceneGraph} {c : ObjectId} {m : NodeId} {id : String}
      {parent : Option (NodeId × String)} {ds : List ObjectId} (loaded : s.graph? h = some g)
      (attached : SceneGraph.Attached g c (some id) parent m g')
      (destroyed : ∀ x, x ∈ ds ↔ x = c)
      (toolkit : Shrunk (fun _ => False) s.toolkit s'.toolkit)
      (nextHandle : s'.nextHandle = s.nextHandle)
      (graphs : ∀ k, s'.graph? k = if k = h then some (g'.destroyAll ds) else s.graph? k)

/-- What holds between commands, whoever owns which object. -/
structure Consistent (s : Stage) : Prop where
  forest : s.toolkit.Forest
  wellFormed : ∀ h g, s.graph? h = some g → g.WellFormed
  /-- The numbers of the next handles are not in use. -/
  numbered : ∀ h g, s.graph? h = some g → h < s.nextHandle
  /-- Objects that do not exist yet are not tracked. -/
  tracked_lt : ∀ h g o n, s.graph? h = some g → g.nodeOf? o = some n →
    o < s.toolkit.nextObject

variable {s s' : Stage} {gone : ObjectId → Prop}

/-- No move takes back the number of a handle or an object, or makes an old object live. -/
theorem Move.forward (hm : Move s s') :
    s.nextHandle ≤ s'.nextHandle ∧ s.toolkit.nextObject ≤ s'.toolkit.nextObject ∧
      ∀ o, o < s.toolkit.nextObject → s'.toolkit.Live o → s.toolkit.Live o := by
  have hold : ∀ {c o : ObjectId}, c = s.toolkit.nextObject → o < s.toolkit.nextObject →
      o = c ∨ s.toolkit.Live o → s.toolkit.Live o := by
    intro c o number ho hlive
    exact hlive.resolve_left fun hoc => Nat.ne_of_lt ho (hoc.trans number)
  have hshrunk : ∀ {gone : ObjectId → Prop}, Shrunk gone s.toolkit s'.toolkit →
      s'.nextHandle = s.nextHandle →
      s.nextHandle ≤ s'.nextHandle ∧ s.toolkit.nextObject ≤ s'.toolkit.nextObject ∧
        ∀ o, o < s.toolkit.nextObject → s'.toolkit.Live o → s.toolkit.Live o := by
    intro gone toolkit nextHandle
    exact ⟨Nat.le_of_eq nextHandle.symm, toolkit.nextObject,
      fun o _ hlive => (toolkit.live_iff.1 hlive).1⟩
  cases hm with
  | idle toolkit nextHandle graphs => exact hshrunk toolkit nextHandle
  | load toolkit attached nextHandle graphs =>
      exact ⟨nextHandle ▸ Nat.le_succ _, toolkit.nextObject ▸ Nat.le_succ _,
        fun o ho hlive => hold toolkit.number ho (toolkit.live_iff.1 hlive)⟩
  | unload loaded toolkit nextHandle graphs => exact hshrunk toolkit nextHandle
  | clear loaded tracked held destroyed toolkit nextHandle graphs =>
      exact hshrunk toolkit nextHandle
  | display loaded tracked image toolkit nextHandle graphs =>
      exact ⟨Nat.le_of_eq nextHandle.symm, toolkit.nextObject ▸ Nat.le_succ _,
        fun o ho hlive => hold toolkit.number ho (toolkit.live_iff.1 hlive)⟩
  | nest loaded tracked toolkit attached nextHandle graphs =>
      exact ⟨Nat.le_of_eq nextHandle.symm, toolkit.nextObject ▸ Nat.le_succ _,
        fun o ho hlive => hold toolkit.number ho (toolkit.live_iff.1 hlive)⟩
  | giveUp loaded attached destroyed toolkit nextHandle graphs =>
      exact hshrunk toolkit nextHandle

/-- The scene graphs of `s'` are those of `s` with nothing more in them. -/
def Within (s' s : Stage) : Prop :=
  ∀ k g', s'.graph? k = some g' → ∃ g, s.graph? k = some g ∧ g'.Within g

namespace Consistent

/-- Where the scene graphs stay, there is nothing more in them. -/
theorem within_self (hs : s.Consistent) (graphs : ∀ k, s'.graph? k = s.graph? k) :
    s'.Within s := by
  intro k g hk
  rw [graphs] at hk
  exact ⟨g, hk, (hs.wellFormed k g hk).within_self⟩

/-- Where one scene graph is exchanged for a part of itself, there is nothing more in any. -/
theorem within_set {h : Nat} {g g' : SceneGraph} (hs : s.Consistent)
    (loaded : s.graph? h = some g) (hw : g'.Within g)
    (graphs : ∀ k, s'.graph? k = if k = h then some g' else s.graph? k) : s'.Within s := by
  intro k d hk
  rw [graphs] at hk
  split at hk
  · next hkh =>
    cases hk
    exact ⟨g, hkh ▸ loaded, hw⟩
  · exact ⟨d, hk, (hs.wellFormed k d hk).within_self⟩

/-- Where a scene graph is dropped, there is nothing more in the others. -/
theorem within_erase {h : Nat} (hs : s.Consistent)
    (graphs : ∀ k, s'.graph? k = if k = h then none else s.graph? k) : s'.Within s := by
  intro k d hk
  rw [graphs] at hk
  split at hk
  · cases hk
  · exact ⟨d, hk, (hs.wellFormed k d hk).within_self⟩

/-- Without some objects and some nodes a consistent stage is consistent. -/
theorem of_shrunk (hs : s.Consistent) (toolkit : Shrunk gone s.toolkit s'.toolkit)
    (nextHandle : s'.nextHandle = s.nextHandle) (hw : s'.Within s) : s'.Consistent where
  forest := toolkit.forest hs.forest
  wellFormed k g' hk := by
    obtain ⟨g, -, hg⟩ := hw k g' hk
    exact hg.wellFormed
  numbered k g' hk := by
    obtain ⟨g, hg, -⟩ := hw k g' hk
    rw [nextHandle]
    exact hs.numbered k g hg
  tracked_lt k g' o n hk hn := by
    obtain ⟨g, hg, hw⟩ := hw k g' hk
    exact Nat.lt_of_lt_of_le (hs.tracked_lt k g o n hg (hw.nodeOf? o n hn)) toolkit.nextObject

/-- A consistent stage is consistent with one more object, if the scene graphs that are not as
before are well-formed, and track that object besides old ones only. -/
theorem of_added {c : ObjectId} (hs : s.Consistent) (forest : s'.toolkit.Forest)
    (number : c = s.toolkit.nextObject)
    (nextObject : s'.toolkit.nextObject = s.toolkit.nextObject + 1)
    (nextHandle : s.nextHandle ≤ s'.nextHandle)
    (graphs : ∀ k d, s'.graph? k = some d → s.graph? k = some d ∨
      (d.WellFormed ∧ k < s'.nextHandle ∧
        ∀ o m, d.nodeOf? o = some m → o = c ∨ o < s.toolkit.nextObject)) : s'.Consistent where
  forest := forest
  wellFormed k d hk := by
    rcases graphs k d hk with hk | ⟨hd, -⟩
    · exact hs.wellFormed k d hk
    · exact hd
  numbered k d hk := by
    rcases graphs k d hk with hk | ⟨-, hlt, -⟩
    · exact Nat.lt_of_lt_of_le (hs.numbered k d hk) nextHandle
    · exact hlt
  tracked_lt k d o m hk ho := by
    rw [nextObject]
    rcases graphs k d hk with hk | ⟨-, -, hold⟩
    · exact Nat.lt_succ_of_lt (hs.tracked_lt k d o m hk ho)
    · rcases hold o m ho with rfl | hlt
      · rw [number]
        exact Nat.lt_succ_self _
      · exact Nat.lt_succ_of_lt hlt

/-- Every move keeps a stage consistent. -/
theorem move (hs : s.Consistent) (hm : Move s s') : s'.Consistent := by
  cases hm with
  | idle toolkit nextHandle graphs =>
      exact hs.of_shrunk toolkit nextHandle (hs.within_self graphs)
  | @load c path group n g toolkit attached nextHandle graphs =>
      refine hs.of_added (toolkit.forest hs.forest) toolkit.number toolkit.nextObject
        (nextHandle ▸ Nat.le_succ _) fun k d hk => ?_
      rw [graphs] at hk
      split at hk
      · next hks =>
        cases hk
        refine Or.inr ⟨attached.wellFormed SceneGraph.wellFormed_empty, ?_, fun o m ho => ?_⟩
        · omega
        · refine Or.inl (Classical.byContradiction fun hoc => ?_)
          rw [attached.nodeOf?, if_neg hoc] at ho
          cases ho
      · exact Or.inl hk
  | unload loaded toolkit nextHandle graphs =>
      exact hs.of_shrunk toolkit nextHandle (hs.within_erase graphs)
  | @clear h g p c n part ds loaded tracked held destroyed toolkit nextHandle graphs =>
      have hw := (hs.wellFormed h g loaded).within_destroyAll ds
      exact hs.of_shrunk toolkit nextHandle (hs.within_set loaded hw graphs)
  | display loaded tracked image toolkit nextHandle graphs =>
      refine hs.of_added (toolkit.forest hs.forest) toolkit.number toolkit.nextObject
        (Nat.le_of_eq nextHandle.symm) fun k d hk => ?_
      exact Or.inl ((graphs k).symm.trans hk)
  | @nest h g g' p c n m part path group id loaded tracked toolkit attached nextHandle graphs =>
      refine hs.of_added (toolkit.forest hs.forest) toolkit.number toolkit.nextObject
        (Nat.le_of_eq nextHandle.symm) fun k d hk => ?_
      rw [graphs] at hk
      split at hk
      · next hkh =>
        cases hk
        refine Or.inr ⟨attached.wellFormed (hs.wellFormed h g loaded), ?_, fun o j ho => ?_⟩
        · rw [hkh, nextHandle]
          exact hs.numbered h g loaded
        · rw [attached.nodeOf?] at ho
          split at ho
          · next hoc => exact Or.inl hoc
          · exact Or.inr (hs.tracked_lt h g o j loaded ho)
      · exact Or.inl hk
  | @giveUp h g g' c m id parent ds loaded attached destroyed toolkit nextHandle graphs =>
      have hw := attached.within_takeBack (hs.wellFormed h g loaded) destroyed
      exact hs.of_shrunk toolkit nextHandle (hs.within_set loaded hw graphs)

/-- So does a series of moves. -/
theorem moves (hs : s.Consistent) (hm : Relation.ReflTransGen Move s s') : s'.Consistent := by
  induction hm with
  | refl => exact hs
  | tail _ hm ih => exact ih.move hm

end Consistent

end WidgetStage.Stage
