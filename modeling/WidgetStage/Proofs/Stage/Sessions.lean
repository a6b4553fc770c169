import WidgetStage.Proofs.Stage.Ownership

/-!
# Ownership throughout a session

A session takes the commands of a host with any arguments, while the toolkit and the buffers may
be told to fail at any time, and the toolkit may delete objects by itself. Reports are passed on
in any order, late, repeatedly or not at all. Two things are left out: a false report about the
root of a handle, and a toolkit that is replaced while the stage still uses it. A step that ends
the run, because a time stamp became too long, leads to no further state.

## Main results

* `moves_of_ordinary`: steps of a session are moves of its stage, reports and deletions apart.
* `Reachable.owned`: every live object of a session has an owner.
* `reachable_ownership`: what this means for the objects of a session, for deleting one of them,
  and for a session that has unloaded everything.
-/

namespace WidgetStage

/-- A step in which no object is reported destroyed, deleted by the toolkit, or forgotten with
it. -/
def Step.IsOrdinary : Step → Prop
  | .command (.objectDestroyed _ _) => False
  | .deleteObject _ => False
  | .resetToolkit _ => False
  | _ => True

namespace Session

open Stage (Move)
open Toolkit (Alike)
open Relation (ReflTransGen)

variable {s : Session} {st : Step}

/-- A change of the toolkit that concerns no object. -/
theorem moves_of_alike {f : Toolkit → Toolkit} (hf : Alike s.stage.toolkit (f s.stage.toolkit)) :
    ReflTransGen Move s.stage (s.modifyToolkit f).stage :=
  .single (.of_alike hf)

/-- An ordinary step is a series of moves of the stage, unless it ends the run. -/
theorem moves_of_ordinary (hs : s.stage.Consistent) (hst : st.IsOrdinary)
    (hrun : (s.step st).1 ≠ .replied (.error .overflow)) :
    ReflTransGen Move s.stage (s.step st).2.stage := by
  cases st with
  | command c =>
      refine hs.run_moves ⟨s.files, fun _ => s.now⟩ c ?_ fun hover => hrun ?_
      · rintro h o rfl
        exact hst
      · exact congrArg StepResult.replied hover
  | partGeometry part size => exact moves_of_alike (Toolkit.alike_of_objects_eq rfl rfl)
  | accessResult action handled => exact moves_of_alike (Toolkit.alike_of_objects_eq rfl rfl)
  | keyResult handled => exact moves_of_alike (Toolkit.alike_of_objects_eq rfl rfl)
  | failLoads e => exact moves_of_alike (Toolkit.alike_of_objects_eq rfl rfl)
  | failImages e => exact moves_of_alike (Toolkit.alike_of_objects_eq rfl rfl)
  | failSwallows e => exact moves_of_alike (Toolkit.alike_of_objects_eq rfl rfl)
  | failAcquire h busy => exact .single (.of_modifyHandle fun _ => rfl)
  | setClock now => exact .refl
  | advanceClock span =>
      simp only [step]
      split <;> exact .refl
  | writeFile path content => exact .refl
  | removeFile path => exact .refl
  | deleteObject o => exact hst.elim
  | resetToolkit order => exact hst.elim

/-- The steps that a run may take: no false report about a live root, and no other toolkit. -/
def Admits (s : Session) : Step → Prop
  | .command (.objectDestroyed h o) =>
    s.stage.rootObject? h = some o → ¬ s.stage.toolkit.Live o
  | .resetToolkit _ => False
  | _ => True

/-- The sessions that runs lead to, from an empty stage with any settings. -/
inductive Reachable : Session → Prop where
  | start (order : DestroyOrder) (config : Config) (castsShadows : Bool) (files : Files)
      (now : Duration) :
      Reachable (Session.start (.start (.start order) config castsShadows) files now)
  | step {s : Session} (st : Step) (hs : Reachable s) (hadmits : s.Admits st)
      (hrun : (s.step st).1 ≠ .replied (.error .overflow)) : Reachable (s.step st).2

/-- A report is passed to the stage. -/
theorem stage_objectDestroyed (s : Session) (h : Nat) (o : ObjectId) :
    (s.step (.command (.objectDestroyed h o))).2.stage = (s.stage.objectDestroyed h o).2 := by
  simp only [step, command, Stage.run, Stage.answering, noteBuffers]
  rcases s.stage.objectDestroyed h o with ⟨e | v, d⟩ <;> rfl

/-- Every step that a run may take keeps ownership. -/
theorem owned_step (hs : s.stage.Owned) (hadmits : s.Admits st)
    (hrun : (s.step st).1 ≠ .replied (.error .overflow)) : (s.step st).2.stage.Owned := by
  by_cases hst : st.IsOrdinary
  · exact hs.moves (moves_of_ordinary hs.toConsistent hst hrun)
  · cases st with
    | command c =>
        cases c with
        | objectDestroyed h o =>
            rw [stage_objectDestroyed]
            exact hs.report fun hr => hadmits (hs.rootObject?_eq_some_iff.2 hr)
        | _ => exact absurd trivial hst
    | deleteObject o => exact hs.delete o
    | resetToolkit order => exact hadmits.elim
    | _ => exact absurd trivial hst

/-- Every live object of a session has an owner. -/
theorem Reachable.owned (hs : Reachable s) : s.stage.Owned := by
  induction hs with
  | start order config castsShadows files now => exact Stage.owned_start order config castsShadows
  | step st _ hadmits hrun ih => exact owned_step ih hadmits hrun

/-- Throughout every run of a session, parts of live objects hold live objects only. A live object
is the root of exactly one handle and held nowhere, or it is no root and held in exactly one part
of exactly one object. No object is below itself, so the walk that collects what is deleted with
an object ends before its bound, and reports exactly what is live at or below it, each object
once. When no handle is loaded no object is left. -/
theorem reachable_ownership (hs : Reachable s) :
    (∀ o r part c, s.stage.toolkit.object? o = some r → (part, c) ∈ r.parts.entries →
      s.stage.toolkit.Live c) ∧
    (∀ o, s.stage.toolkit.Live o →
      ((∃! h, s.stage.rootObject? h = some o) ∧
        ∀ p part, s.stage.toolkit.swallowed? p part ≠ some o) ∨
      ((∀ h, s.stage.rootObject? h ≠ some o) ∧
        ∃! place : ObjectId × String, s.stage.toolkit.swallowed? place.1 place.2 = some o)) ∧
    (∀ o, ¬ Relation.TransGen s.stage.toolkit.Holds o o) ∧
    (∀ o depth, s.stage.toolkit.liveCount ≤ depth →
      s.stage.toolkit.cascadeTo depth o = (s.stage.toolkit.delete o).1) ∧
    (∀ o, (s.stage.toolkit.delete o).1.Nodup ∧
      ∀ x, x ∈ (s.stage.toolkit.delete o).1 ↔
        s.stage.toolkit.Live o ∧ s.stage.toolkit.Below o x) ∧
    (s.stage.handles.size = 0 → s.stage.toolkit.liveCount = 0) := by
  have howned := hs.owned
  have hforest := howned.forest
  refine ⟨fun o r part c ho hc => ?_, fun o ho => ?_, fun o h => ?_,
    fun o depth hdepth => hforest.cascadeTo_eq_cascade hdepth,
    fun o => ⟨hforest.nodup_cascade o, fun x => hforest.mem_cascade_iff⟩, fun hnone => ?_⟩
  · refine hforest.content_live o part c ?_
    rw [Toolkit.swallowed?_of_object ho]
    exact (hforest.tidy o r ho).mem_entries_iff.1 hc
  · simp only [howned.rootObject?_eq_some_iff, ne_eq]
    rcases howned.owned o ho with ⟨h, hr⟩ | ⟨p, part, hp⟩
    · refine Or.inl ⟨⟨h, hr, fun h' hr' => howned.root_once h' h o hr' hr⟩, fun p part hp => ?_⟩
      exact howned.root_unheld h o p hr ⟨part, hp⟩
    · refine Or.inr ⟨fun h hr => howned.root_unheld h o p hr ⟨part, hp⟩, ⟨p, part⟩, hp, ?_⟩
      rintro ⟨q, part'⟩ hq
      obtain ⟨rfl, rfl⟩ := hforest.held_once q p part' part o hq hp
      rfl
  · obtain ⟨p, ⟨part, hp⟩, hbelow⟩ := Relation.TransGen.head'_iff.1 h
    exact Nat.not_le_of_lt (hforest.older o part p hp) (hforest.le_of_below hbelow)
  · have hunloaded : ∀ h, s.stage.graph? h = none := by
      intro h
      have hentries : s.stage.handles.entries = [] := List.length_eq_zero_iff.1 hnone
      simp [Stage.graph?, Table.find?, hentries]
    rw [Toolkit.liveCount, Table.size, List.length_eq_zero_iff, List.eq_nil_iff_forall_not_mem]
    rintro ⟨o, r⟩ hmem
    have hkey : o ∈ s.stage.toolkit.objects.keys := List.mem_map.2 ⟨_, hmem, rfl⟩
    exact howned.not_live_of_unloaded hunloaded o (Table.mem_keys_iff.1 hkey)

/-- A layout within a layout, after which swallowing fails once. -/
def nestedRun : Session :=
  let s := Session.start (.start (.start .childrenFirst) .standard false) .empty (.ofMicros 0)
  let s := (s.step (.writeFile "rows.edj" (.text ""))).2
  let s := (s.step (.command (.create "rows.edj" "main" ⟨0, 0⟩))).2
  let s := (s.step (.command (.script 1 none none "slot" "rows.edj" "row"))).2
  let s := (s.step (.failSwallows (some .outOfMemory))).2
  (s.step (.command (.script 1 none none "rest" "rows.edj" "row"))).2

/-- The nested layout has one place; the layout that could not be swallowed is gone. -/
theorem reachable_ownership_nested :
    Reachable nestedRun ∧ nestedRun.stage.toolkit.Live 2 ∧ ¬ nestedRun.stage.toolkit.Live 3 ∧
      ∃! place : ObjectId × String,
        nestedRun.stage.toolkit.swallowed? place.1 place.2 = some 2 := by
  have hstart := Reachable.start .childrenFirst .standard false .empty (.ofMicros 0)
  have hfile := hstart.step (.writeFile "rows.edj" (.text "")) trivial nofun
  have hcreate := hfile.step (.command (.create "rows.edj" "main" ⟨0, 0⟩)) trivial nofun
  have hnest := hcreate.step (.command (.script 1 none none "slot" "rows.edj" "row")) trivial nofun
  have hfail := hnest.step (.failSwallows (some .outOfMemory)) trivial nofun
  have hrun : Reachable nestedRun :=
    hfail.step (.command (.script 1 none none "rest" "rows.edj" "row")) trivial nofun
  have hlive : nestedRun.stage.toolkit.Live 2 := by
    unfold Toolkit.Live
    decide
  have hgone : ¬ nestedRun.stage.toolkit.Live 3 := by
    unfold Toolkit.Live
    decide
  obtain ⟨-, howner, -⟩ := reachable_ownership hrun
  rcases howner 2 hlive with ⟨-, hunheld⟩ | ⟨-, hheld⟩
  · exact absurd (by decide) (hunheld 1 "slot")
  · exact ⟨hrun, hlive, hgone, hheld⟩

end Session

end WidgetStage
