import WidgetStage.Proofs.Stage.Agreement
import WidgetStage.Proofs.Stage.Ids
import WidgetStage.Proofs.Stage.Numbering

/-!
# The lifetimes of handles

A handle is loaded from the command that makes it to the one that unloads it, and after that its
number stands for nothing. Unloading deletes the root layout with everything below it, and drops
what the scene graph still holds. Something is left over either way only after false or missing
reports: a root that is reported although it is live is forgotten and not deleted, and a layout that
the toolkit deleted by itself keeps its node until it is reported.

As long as reports are true, the root layout of a handle is known to its scene graph until it is
gone. Which layouts a scene graph has not heard of yet can be read off the play: the toolkit deleted
them by itself, and no report has been made since.

## Main results

* `Truthful`, `Unreported`: the plays with true reports only, and the layouts that were deleted but
  not reported in them.
* `Consistent.anchors_play`: the root of a handle stays its root until it is gone.
* `followed_play`: scene graphs and toolkit agree up to the layouts that are not reported.
* `Followed.destroy`: then unloading leaves nothing over.
* `handles_live_once`: numbers are issued once and die for good, and what unloading leaves.
-/

namespace WidgetStage.Stage

open Relation (ReflTransGen)

/-- A turn that does not end the run, and makes no false report: what is reported is not live. -/
def Permits (s : Stage) : Turn → Prop
  | .command _ (.objectDestroyed _ o) => ¬ s.toolkit.Live o
  | t => (s.turn t).1 ≠ some (.error .overflow)

/-- No turn of the play ends the run or makes a false report. -/
def Truthful : Stage → List Turn → Prop
  | _, [] => True
  | s, t :: turns => s.Permits t ∧ Truthful (s.turn t).2 turns

/-- The toolkit deletes a layout of the handle by itself. -/
def Loses (s : Stage) (h : Nat) (x : ObjectId) : Turn → Prop
  | .delete o => x ∈ s.layoutsOf h ∧ x ∈ (s.toolkit.delete o).1
  | _ => False

/-- The toolkit has deleted a layout of the handle by itself during the play, and the layout has not
been reported to the handle since. -/
def Unreported (h : Nat) (x : ObjectId) : Stage → List Turn → Prop
  | _, [] => False
  | s, t :: turns =>
    (s.Loses h x t ∧ ∀ w, .command w (.objectDestroyed h x) ∉ turns) ∨
      Unreported h x (s.turn t).2 turns

variable {s s' : Stage} {h k : Nat} {o r x : ObjectId} {t : Turn} {turns turns' : List Turn}
  {late : Nat → ObjectId → Prop}

/-- A play is truthful if its first part is, and the rest from there on. -/
theorem truthful_append :
    Truthful s (turns ++ turns') ↔ Truthful s turns ∧ Truthful (s.play turns) turns' := by
  induction turns generalizing s with
  | nil => exact (and_iff_right trivial).symm
  | cons t turns ih =>
      rw [List.cons_append, Truthful, ih, Truthful, and_assoc]
      rfl

/-- What is unreported after a further turn: what was and is not reported by it, and what is lost by
it. -/
theorem unreported_append_singleton :
    Unreported h x s (turns ++ [t]) ↔
      (Unreported h x s turns ∧ ∀ w, t ≠ .command w (.objectDestroyed h x)) ∨
        (s.play turns).Loses h x t := by
  induction turns generalizing s with
  | nil => simp [Unreported, play]
  | cons u turns ih =>
      have hplay : s.play (u :: turns) = (s.turn u).2.play turns := rfl
      have hlast : (∀ w, .command w (.objectDestroyed h x) ∉ turns ++ [t]) ↔
          (∀ w, .command w (.objectDestroyed h x) ∉ turns) ∧
            ∀ w, t ≠ .command w (.objectDestroyed h x) := by
        simp only [List.mem_append, List.mem_singleton, not_or, forall_and, ne_eq, eq_comm]
      rw [List.cons_append, Unreported, ih, Unreported, hlast, hplay, ← and_assoc, ← or_assoc,
        ← or_and_right]

/-! ### What a permitted turn does -/

/-- A permitted turn is a series of moves, a true report or a deletion. -/
inductive Permitted (s : Stage) (t : Turn) : Prop where
  | moves (ordinary : ReflTransGen Move s (s.turn t).2)
      (unreporting : ∀ w h o, t ≠ .command w (.objectDestroyed h o)) (keeping : ∀ o, t ≠ .delete o)
  | report {w : Surroundings} {h : Nat} {o : ObjectId} (is : t = .command w (.objectDestroyed h o))
      (dead : ¬ s.toolkit.Live o)
  | delete {o : ObjectId} (is : t = .delete o)

/-- A turn that is permitted is one of the three. -/
theorem Consistent.permitted (hs : s.Consistent) (ht : s.Permits t) : s.Permitted t := by
  cases t with
  | behave b => exact .moves (.single (.of_alike (Toolkit.alike_of_objects_eq rfl rfl))) nofun nofun
  | busy h busy => exact .moves (.single (.of_modifyHandle fun _ => rfl)) nofun nofun
  | delete o => exact .delete rfl
  | command w c =>
      by_cases hc : ∃ h o, c = .objectDestroyed h o
      · obtain ⟨h, o, rfl⟩ := hc
        exact .report rfl ht
      · have hreport : ∀ h o, c ≠ .objectDestroyed h o := fun h o heq => hc ⟨h, o, heq⟩
        have hrun : (s.run w c).1 ≠ .error .overflow := by
          intro hover
          have hturn : (s.turn (.command w c)).1 = some (.error .overflow) := congrArg some hover
          cases c with
          | objectDestroyed h o => exact hreport h o rfl
          | _ => exact ht hturn
        exact .moves (hs.run_moves w c hreport hrun)
          (fun _ h o heq => hreport h o (Turn.command.inj heq).2) nofun

/-! ### Roots that stay -/

/-- A root stays the root of its handle through every move after which it is live. -/
theorem Consistent.rootOf_move (hs : s.Consistent) (hm : Move s s') (hr : s.RootOf h r)
    (hlive : s'.toolkit.Live r) : s'.RootOf h r := by
  cases hm with
  | idle toolkit nextHandle graphs =>
      obtain ⟨g, hg, hroot⟩ := hr
      exact ⟨g, (graphs h).trans hg, hroot⟩
  | load toolkit attached nextHandle graphs =>
      exact (hs.rootOf_load_iff attached graphs).2 (Or.inr hr)
  | @unload k g loaded toolkit nextHandle graphs =>
      obtain ⟨d, hd, hroot⟩ := hr
      refine ⟨d, ?_, hroot⟩
      rw [graphs, if_neg, hd]
      rintro rfl
      rw [loaded, Option.some.injEq] at hd
      exact (toolkit.live_iff.1 hlive).2 ⟨r, hd ▸ hroot, .refl⟩
  | @clear k g p c n part ds loaded tracked held destroyed toolkit nextHandle graphs =>
      refine (rootOf_set_iff loaded graphs ?_).2 hr
      rw [(hs.wellFormed k g loaded).isRoot_destroyAll_iff, destroyed]
      exact and_iff_left (toolkit.live_iff.1 hlive).2
  | display loaded tracked image toolkit nextHandle graphs =>
      obtain ⟨g, hg, hroot⟩ := hr
      exact ⟨g, (graphs h).trans hg, hroot⟩
  | @nest k g g' p c n m part path group id loaded tracked toolkit attached nextHandle graphs =>
      exact (rootOf_set_iff loaded graphs (attached.isRoot_iff (hs.wellFormed k g loaded))).2 hr
  | @giveUp k g g' c m id parent ds loaded attached destroyed toolkit nextHandle graphs =>
      have hg := hs.wellFormed k g loaded
      exact (rootOf_set_iff loaded graphs (attached.isRoot_takeBack_iff hg destroyed)).2 hr

/-- A true report about another object leaves a live root where it is. -/
theorem Consistent.rootOf_report (hs : s.Consistent) (hdead : ¬ s.toolkit.Live o)
    (hr : s.RootOf h r) (hlive : s.toolkit.Live r) : (s.objectDestroyed k o).2.RootOf h r := by
  obtain ⟨g, hg, hroot⟩ := hr
  by_cases hk : h = k
  · refine ⟨g.destroy o, ?_, ?_⟩
    · rw [graph?_objectDestroyed, if_pos hk, hg, Option.map_some]
    · refine ((hs.wellFormed h g hg).isRoot_destroyAll_iff [o]).2 ⟨hroot, ?_⟩
      rw [List.mem_singleton]
      rintro rfl
      exact hdead hlive
  · exact ⟨g, by rw [graph?_objectDestroyed, if_neg hk, hg], hroot⟩

/-- The object is the root of the handle, or was live and is not any more. -/
structure Anchors (s : Stage) (h : Nat) (r : ObjectId) : Prop where
  made : r < s.toolkit.nextObject
  root : s.RootOf h r ∨ ¬ s.toolkit.Live r

/-- What keeps a live root, brings nothing back to life and takes back no number of an object. -/
theorem Anchors.of_forward (ha : s.Anchors h r)
    (hmade : s.toolkit.nextObject ≤ s'.toolkit.nextObject)
    (hold : s'.toolkit.Live r → s.toolkit.Live r)
    (hkept : s.RootOf h r → s'.toolkit.Live r → s'.RootOf h r) : s'.Anchors h r := by
  refine ⟨Nat.lt_of_lt_of_le ha.made hmade, ?_⟩
  by_cases hlive : s'.toolkit.Live r
  · rcases ha.root with hr | hdead
    · exact Or.inl (hkept hr hlive)
    · exact absurd (hold hlive) hdead
  · exact Or.inr hlive

/-- A move leaves a handle its root as long as the root is live. -/
theorem Consistent.anchors_move (hs : s.Consistent) (ha : s.Anchors h r) (hm : Move s s') :
    s'.Anchors h r :=
  ha.of_forward hm.forward.2.1 (hm.forward.2.2 r ha.made) (hs.rootOf_move hm)

/-- A permitted turn does so, too: a report about a live root is false. -/
theorem Consistent.anchors_turn (hs : s.Consistent) (ha : s.Anchors h r) (ht : s.Permits t) :
    (s.turn t).2.Anchors h r := by
  cases hs.permitted ht with
  | moves ordinary unreporting keeping =>
      generalize (s.turn t).2 = s' at ordinary
      induction ordinary with
      | refl => exact ha
      | tail hm hlast ih => exact (hs.moves hm).anchors_move ih hlast
  | @report w k o is dead =>
      have htoolkit := (toolkit_objectDestroyed s k o).1
      rw [is, turn_objectDestroyed]
      refine ha.of_forward (Nat.le_of_eq (by rw [htoolkit])) (fun hl => htoolkit ▸ hl)
        fun hr hlive => hs.rootOf_report dead hr (htoolkit ▸ hlive)
  | @delete o is =>
      rw [is]
      exact ha.of_forward (Nat.le_refl _)
        (fun hl => ((Toolkit.shrunk_delete hs.forest).live_iff.1 hl).1) fun hr _ => hr

/-- The root of a handle stays its root until it is gone. -/
theorem Consistent.anchors_play (hs : s.Consistent) (ha : s.Anchors h r)
    (ht : Truthful s turns) : (s.play turns).Anchors h r := by
  induction turns generalizing s with
  | nil => exact ha
  | cons t turns ih => exact ih (hs.turn t) (hs.anchors_turn ha ht.1) ht.2

/-- Fitting a root to its buffer destroys nothing. -/
theorem live_fitToBuffer (t : Toolkit) (o : ObjectId) (size : Size) :
    (fitToBuffer t o size).Live x ↔ t.Live x := by
  rw [fitToBuffer]
  split
  · exact Iff.rfl
  · rw [Toolkit.resize, Toolkit.Live, Toolkit.object?_modifyObject, Toolkit.Live]
    split
    · rw [Option.isSome_map]
    · exact Iff.rfl

/-- A handle that has just been made has a root, which is live. -/
theorem Consistent.rootOf_made (hs : s.Consistent) (ht : s.made? t = some h) :
    ∃ r, (s.turn t).2.RootOf h r ∧ (s.turn t).2.toolkit.Live r := by
  cases t with
  | command w c =>
      cases c with
      | create path group size =>
          obtain rfl := eq_nextHandle_of_made ht
          have hok : (s.create w.files path group size).1 = .ok s.nextHandle := by
            rw [made?_create] at ht
            cases hr : (s.create w.files path group size).1 with
            | error e =>
                rw [hr] at ht
                cases ht
            | ok n =>
                rw [hr] at ht
                exact congrArg Except.ok (Option.some.inj ht)
          obtain ⟨node, g, hattach, hnew⟩ := create_of_ok hok
          have hattached := SceneGraph.attached_of_attach
            SceneGraph.wellFormed_empty.toFreeListed hattach
          rw [turn_create, hnew]
          refine ⟨s.toolkit.nextObject, ⟨g, ?_, hattached.isRoot_of_empty.2 rfl⟩, ?_⟩
          · rw [graph?, Table.find?_insert, if_pos rfl]
            rfl
          · refine (live_fitToBuffer _ _ size).2 ?_
            exact (Toolkit.allocated_allocate hs.forest _ none).live_iff.2 (Or.inl rfl)
      | _ => cases ht
  | _ => cases ht

/-! ### Scene graphs that follow -/

/-- Every live object is owned, and scene graphs and toolkit agree up to what is late. -/
structure Followed (late : Nat → ObjectId → Prop) (s : Stage) : Prop where
  owned : s.Owned
  agrees : s.Agrees late
  past : s.Past late

namespace Followed

/-- It only matters which layouts are late. -/
theorem congr {late' : Nat → ObjectId → Prop} (hf : Followed late s)
    (hlate : ∀ k x, late' k x ↔ late k x) : Followed late' s := by
  obtain rfl : late' = late := funext fun k => funext fun x => propext (hlate k x)
  exact hf

/-- A move makes nothing late. -/
theorem moves (hf : Followed late s) (hm : ReflTransGen Move s s') : Followed late s' := by
  induction hm with
  | refl => exact hf
  | tail _ hm ih =>
      refine ⟨ih.owned.move hm, ih.agrees.move ih.owned ih.past hm, fun k x hl => ?_⟩
      obtain ⟨hh, hx, hdead⟩ := ih.past k x hl
      obtain ⟨hhandle, hobject, hlive⟩ := hm.forward
      exact ⟨Nat.lt_of_lt_of_le hh hhandle, Nat.lt_of_lt_of_le hx hobject,
        fun hl => hdead (hlive x hx hl)⟩

/-- After a true report about an object, it is not late for this handle any more. -/
theorem report {late' : Nat → ObjectId → Prop} (hf : Followed late s)
    (hdead : ¬ s.toolkit.Live o) (hlate : ∀ k x, late' k x ↔ late k x ∧ (k = h → x ≠ o)) :
    Followed late' (s.objectDestroyed h o).2 := by
  obtain ⟨htoolkit, hnext⟩ := toolkit_objectDestroyed s h o
  refine ⟨hf.owned.report fun _ => hdead, hf.agrees.report hf.owned hdead hlate, fun k x hl => ?_⟩
  rw [htoolkit, hnext]
  exact hf.past k x ((hlate k x).1 hl).1

/-- When the toolkit deletes an object, the layouts below it are late until they are reported. -/
theorem delete {late' : Nat → ObjectId → Prop} (hf : Followed late s)
    (hlate : ∀ k x, late' k x ↔ late k x ∨ (s.LayoutOf k x ∧ s.toolkit.Below o x)) :
    Followed late' (s.withToolkit (s.toolkit.delete o).2) := by
  have hs := hf.owned
  have hshrunk := Toolkit.shrunk_delete (o := o) hs.forest
  refine ⟨hs.delete o, hf.agrees.delete hs hlate, fun k x hl => ?_⟩
  rcases (hlate k x).1 hl with hl | ⟨hlayout, hb⟩
  · obtain ⟨hh, hx, hdead⟩ := hf.past k x hl
    exact ⟨hh, hx, fun hl => hdead (hshrunk.live_iff.1 hl).1⟩
  · obtain ⟨g, hg, -⟩ := hlayout.1.choose_spec.1
    exact ⟨hs.numbered k g hg, hs.inTree_lt hlayout.1, fun hl => (hshrunk.live_iff.1 hl).2 hb⟩

/-- Every permitted turn keeps the agreement: what is lost is late until it is reported. -/
theorem turn {late' : Nat → ObjectId → Prop} (hf : Followed late s) (ht : s.Permits t)
    (hlate : ∀ k x, late' k x ↔
      (late k x ∧ ∀ w, t ≠ .command w (.objectDestroyed k x)) ∨ s.Loses k x t) :
    Followed late' (s.turn t).2 := by
  have hs := hf.owned
  cases hs.permitted ht with
  | moves ordinary unreporting keeping =>
      refine (hf.moves ordinary).congr fun k x => ?_
      have hkept : ¬ s.Loses k x t := by
        cases t with
        | delete o => exact absurd rfl (keeping o)
        | _ => exact id
      rw [hlate, or_iff_left hkept]
      exact and_iff_left fun w => unreporting w k x
  | @report w h o is dead =>
      subst is
      rw [turn_objectDestroyed]
      refine hf.report dead fun k x => ?_
      have hkept : ¬ s.Loses k x (.command w (.objectDestroyed h o)) := id
      rw [hlate, or_iff_left hkept]
      refine and_congr_right fun _ => ?_
      simp only [ne_eq, Turn.command.injEq, Command.objectDestroyed.injEq, not_and]
      constructor
      · rintro hne rfl rfl
        exact hne w rfl rfl rfl
      · rintro hne w' - rfl rfl
        exact hne rfl rfl
  | @delete o is =>
      subst is
      refine hf.delete fun k x => ?_
      have hother : ∀ w, Turn.delete o ≠ .command w (.objectDestroyed k x) := by simp
      rw [hlate, and_iff_left hother]
      refine or_congr_right ?_
      change x ∈ s.layoutsOf k ∧ x ∈ s.toolkit.cascade o ↔ _
      rw [hs.mem_layoutsOf_iff]
      refine and_congr_right fun hlayout => ?_
      exact hs.forest.mem_cascade_iff_of_live (Toolkit.live_of_isLayout hlayout.2)

/-- Where nothing is late, unloading leaves nothing live at or below what was the root when the
handle was made, and no node in the scene graph. -/
theorem destroy {hd : Handle} (hf : Followed late s) (hloaded : s.handles.find? h = some hd)
    (hlate : ∀ x, ¬ late h x) (ha : s.Anchors h r) :
    (∀ x, s.toolkit.Below r x → ¬ (s.destroy h).2.toolkit.Live x) ∧
      (tearDown hd s.toolkit).1.discard.1 = 0 := by
  have hs := hf.owned
  have hg := graph?_of_find hloaded
  have hwf := hs.wellFormed h _ hg
  have hroot : ∀ o, hd.rootObject? = some o ↔ s.RootOf h o := by
    intro o
    rw [← hs.rootObject?_eq_some_iff, Stage.rootObject?, hloaded]
    rfl
  -- without late objects the nodes are those of the live layouts of the handle
  have htracked : ∀ x n, hd.graph.nodeOf? x = some n → s.LayoutOf h x := fun x n hn =>
    (((hf.agrees.mirrors h _ hg).tracked x).1 ⟨n, hn⟩).resolve_right (hlate x)
  constructor
  · intro x hx hlive
    have hold := (hs.move_destroy h).forward.2.2 x
    rcases ha.root with hr | hdead
    · have htoolkit : (s.destroy h).2.toolkit = (s.toolkit.delete r).2 := by
        rw [Stage.destroy, lookup, hloaded]
        change (tearDown hd s.toolkit).2 = _
        rw [tearDown, (hroot r).2 hr]
      rw [htoolkit] at hlive
      exact ((Toolkit.shrunk_delete hs.forest).live_iff.1 hlive).2 hx
    · obtain rfl : x = r := Toolkit.eq_of_below_of_not_live hdead hx
      exact hdead (hold ha.made hlive)
  · rw [tearDown]
    cases ho : hd.rootObject? with
    | none =>
        have hempty : ∀ x n, hd.graph.nodeOf? x = some n → x ∈ ([] : List ObjectId) := by
          intro x n hn
          obtain ⟨⟨o, hr, -⟩, -⟩ := htracked x n hn
          rw [(hroot o).2 hr] at ho
          cases ho
        exact (hwf.destroyAll_of_covered hempty).1
    | some o =>
        refine (hwf.destroyAll_of_covered fun x n hn => ?_).1
        obtain ⟨⟨o', hr, hb⟩, hl⟩ := htracked x n hn
        rw [(hroot o').2 hr, Option.some.injEq] at ho
        exact (hs.forest.mem_cascade_iff_of_live (Toolkit.live_of_isLayout hl)).2 (ho ▸ hb)

end Followed

/-- In the beginning there is nothing to follow. -/
theorem followed_start (order : DestroyOrder) (config : Config) (castsShadows : Bool)
    (hlate : ∀ k x, ¬ late k x) : Followed late (start (.start order) config castsShadows) := by
  have hs := owned_start order config castsShadows
  refine ⟨hs, ⟨fun p c hc => ?_, fun k g hk => by cases hk⟩, fun k x hl => absurd hl (hlate k x)⟩
  obtain ⟨part, hc⟩ := hc
  exact absurd (Toolkit.live_of_swallowed? hc) (hs.not_live_of_unloaded (fun _ => rfl) p)

section Play

variable (order : DestroyOrder) (config : Config) (castsShadows : Bool) (turns : List Turn)

/-- After every play with true reports only, scene graphs and toolkit agree up to the layouts that
were deleted but not reported. -/
theorem followed_play (ht : Truthful (start (.start order) config castsShadows) turns) :
    Followed (fun h x => Unreported h x (start (.start order) config castsShadows) turns)
      ((start (.start order) config castsShadows).play turns) := by
  induction turns using List.reverseRecOn with
  | nil => exact followed_start order config castsShadows fun _ _ => id
  | append_singleton turns t ih =>
      rw [truthful_append] at ht
      rw [play_append]
      exact (ih ht.1).turn ht.2.1 fun k x => unreported_append_singleton

/-- After every play, the handles made so far have the numbers from one on, in the order in which
they were made. The next one has the next number; it is made if and only if there is one left, the
file can be opened and the toolkit does not fail, and otherwise the stage stays as it was. Once no
number is left every attempt is refused as a fault, whatever else is wrong with it, and nothing is
loaded. A handle is loaded if and only if it was made and not unloaded; none is unloaded twice, and
every command for one that was unloaded is answered that it is not found, ever after.

A handle that has just been made has a root. Whatever happens then: if all reports were true and
every layout of the handle that the toolkit deleted by itself was reported, unloading the handle
succeeds, leaves nothing live that is at or below this root, and its scene graph holds no node that
would have to be dropped. -/
theorem handles_live_once :
    let start := start (.start order) config castsShadows
    let s := start.play turns
    let made := collect made? start turns
    let unloaded := collect unloaded? start turns
    made = List.range' 1 made.length ∧
    (∀ w path group size,
      let r := s.run w (.create path group size)
      (∀ a, r.1 = .ok a ↔ a = .handle (made.length + 1) ∧ made.length + 1 < handleBound ∧
        w.files.isReadable path = true ∧ s.toolkit.loadFailure = none) ∧
      (∀ f, r.1 = .error f → r.2 = s)) ∧
    (handleBound ≤ made.length + 1 → ∀ later w path group size,
      (s.play later).run w (.create path group size) =
        (.error (.refused (.fault "handle ids exhausted")), s.play later)) ∧
    (∀ h, (s.handles.find? h).isSome = true ↔ h ∈ made ∧ h ∉ unloaded) ∧
    (unloaded.Nodup ∧ ∀ h ∈ unloaded, h ∈ made ∧ ∀ later w c, c.handle? = some h →
      (s.play later).run w c = (.error (.refused (.handleNotFound h)), s.play later)) ∧
    ∀ before t after h, turns = before ++ t :: after → (start.play before).made? t = some h →
      ∃ r, (start.play (before ++ [t])).rootObject? h = some r ∧
        (start.play (before ++ [t])).toolkit.Live r ∧
        (Truthful start turns → (∀ x, ¬ Unreported h x start turns) →
          ∀ hd, s.handles.find? h = some hd →
            (s.destroy h).1 = .ok () ∧
            (∀ x, s.toolkit.Below r x → ¬ (s.destroy h).2.toolkit.Live x) ∧
            (tearDown hd s.toolkit).1.discard.1 = 0) := by
  intro start s made unloaded
  have hs : s.Consistent := consistent_play order config castsShadows turns
  have hn : Numbered made unloaded s := numbered_play order config castsShadows turns
  refine ⟨hn.sequence, fun w path group size => ?create, fun hbound later w path group size => ?out,
    hn.loaded, ⟨hn.once, fun h hh => ⟨hn.covered h hh, fun later w c hc => ?gone⟩⟩, ?root⟩
  case create =>
    rw [← hn.counter]
    exact ⟨fun a => run_create_eq_ok_iff, fun f => run_create_of_error⟩
  case out =>
    rw [← hn.counter] at hbound
    exact run_create_of_exhausted
      (hbound.trans (nextHandle_le_play order config castsShadows turns later))
  case gone =>
    exact (hs.play later).run_of_lost (.handle hc
      (not_loaded_iff.1 (not_loaded_play order config castsShadows turns hh later)))
  case root =>
    rintro before t after h rfl hmade
    have hbefore : (start.play before).Consistent :=
      consistent_play order config castsShadows before
    have hplayed : start.play (before ++ [t]) = ((start.play before).turn t).2 := play_append ..
    have hturned := hbefore.turn t
    obtain ⟨r, hr, hlive⟩ := hbefore.rootOf_made hmade
    rw [← hplayed] at hturned hr hlive
    refine ⟨r, hturned.rootObject?_eq_some_iff.2 hr, hlive, fun htrue hreported hd hloaded => ?_⟩
    have hfollowed := followed_play order config castsShadows _ htrue
    have hsplit : before ++ t :: after = (before ++ [t]) ++ after := by
      rw [List.append_assoc, List.singleton_append]
    have hanchors : s.Anchors h r := by
      rw [hsplit, truthful_append] at htrue
      have hlast := hturned.anchors_play ⟨hturned.root_lt hr, Or.inl hr⟩ htrue.2
      rwa [← play_append, ← hsplit] at hlast
    obtain ⟨hdead, hempty⟩ := hfollowed.destroy hloaded hreported hanchors
    exact ⟨by rw [destroy, lookup, hloaded], hdead, hempty⟩

end Play

/-- A row that the toolkit deletes by itself, and the report of it. -/
def reportedRow : List Turn :=
  [.command rowFiles (.create "rows.edj" "main" ⟨0, 0⟩),
    .command rowFiles (.script 1 none none "slot" "rows.edj" "row"), .delete 2,
    .command rowFiles (.objectDestroyed 1 2)]

/-- After the report the root is all that is left, and it goes with its handle. -/
theorem handles_live_once_row :
    Truthful (start (.start .parentFirst) .standard false) reportedRow ∧
      (∀ x, ¬ Unreported 1 x (start (.start .parentFirst) .standard false) reportedRow) ∧
      ((start (.start .parentFirst) .standard false).play reportedRow).toolkit.Live 1 ∧
      ¬ (((start (.start .parentFirst) .standard false).play reportedRow).destroy
        1).2.toolkit.Live 1 ∧
      ∃ hd, ((start (.start .parentFirst) .standard false).play reportedRow).handles.find? 1 =
          some hd ∧
        (tearDown hd ((start (.start .parentFirst) .standard false).play
          reportedRow).toolkit).1.discard.1 = 0 := by
  have hmade : (start (.start .parentFirst) .standard false).made?
      (.command rowFiles (.create "rows.edj" "main" ⟨0, 0⟩)) = some 1 := by decide
  have hroot : ((start (.start .parentFirst) .standard false).play
      (reportedRow.take 1)).rootObject? 1 = some 1 := by decide
  have hdeleted : (((start (.start .parentFirst) .standard false).play
      (reportedRow.take 2)).toolkit.delete 2).1 = [2] := by decide
  have hgone : (((start (.start .parentFirst) .standard false).play
      (reportedRow.take 3)).toolkit.object? 2).isSome = false := by decide
  have hlive : (((start (.start .parentFirst) .standard false).play
      reportedRow).toolkit.object? 1).isSome = true := by decide
  have hloaded : (((start (.start .parentFirst) .standard false).play
      reportedRow).handles.find? 1).isSome = true := by decide
  have htrue : Truthful (start (.start .parentFirst) .standard false) reportedRow :=
    ⟨nofun, nofun, nofun, Bool.eq_false_iff.1 hgone, trivial⟩
  have hreported : ∀ x,
      ¬ Unreported 1 x (start (.start .parentFirst) .standard false) reportedRow := by
    rintro x (⟨hlost, -⟩ | ⟨hlost, -⟩ | ⟨⟨-, hx⟩, hnone⟩ | ⟨hlost, -⟩ | hlost)
    · exact hlost
    · exact hlost
    · obtain rfl : x = 2 := List.mem_singleton.1 (hdeleted ▸ hx)
      exact hnone rowFiles (List.mem_singleton.2 rfl)
    · exact hlost
    · exact hlost
  obtain ⟨hd, hloaded⟩ := Option.isSome_iff_exists.1 hloaded
  obtain ⟨r, hr, -, hrest⟩ := (handles_live_once .parentFirst .standard false reportedRow).2.2.2.2.2
    [] _ _ 1 rfl hmade
  obtain rfl : 1 = r := Option.some.inj (hroot.symm.trans hr)
  obtain ⟨-, hdead, hempty⟩ := hrest htrue hreported hd hloaded
  exact ⟨htrue, hreported, hlive, hdead 1 .refl, hd, hloaded, hempty⟩

end WidgetStage.Stage
