import WidgetStage.Proofs.Stage.Exchanges
import WidgetStage.Proofs.Stage.Ownership

/-!
# Plays of a stage

A play is everything that can happen to a stage, in any order: commands with any arguments and any
surroundings, reports of objects whether they are true or not, a toolkit and buffers that are told
to fail, and objects that the toolkit deletes by itself. A play goes on after a command that failed,
even after one whose time stamp became too long. What holds after every play holds whatever a host
does.

## Main results

* `Toolkit.Edit`: what single calls do to the objects of a toolkit; commands are made of these
  (`run_edits`).
* `loadInto`, `Consistent.updateScript_eq`: the way of a layout into a part that has been emptied.
* `Shift`: the moves, and what else a turn can be made of (`Consistent.shifts_turn`).
* `Consistent.turn`: whatever happens, a stage stays consistent.
* `Consistent.play_of_shift`: what every shift keeps is kept by a play.
* `consistent_play`, `distinct_play`: what holds after every play.
-/

namespace WidgetStage

/-- How a toolkit is told to behave. -/
structure Behaviour where
  partGeometry : Table String Size
  accessResults : List (AccessAction × Bool)
  keyResult : Bool
  loadFailure : Option ToolkitError
  imageFailure : Option ToolkitError
  swallowFailure : Option ToolkitError

namespace Toolkit

/-- Tells the toolkit how to behave. -/
def behave (t : Toolkit) (b : Behaviour) : Toolkit :=
  { t with
    partGeometry := b.partGeometry
    accessResults := b.accessResults
    keyResult := b.keyResult
    loadFailure := b.loadFailure
    imageFailure := b.imageFailure
    swallowFailure := b.swallowFailure }

/-- What a single call makes of the objects of a toolkit. -/
inductive Edit (t : Toolkit) : Toolkit → Prop where
  | keep {t' : Toolkit} (objects : t'.objects = t.objects) : Edit t t'
  | modify (o : ObjectId) (f : ToolkitObject → ToolkitObject) : Edit t (t.modifyObject o f)
  | allocate (kind : ObjectKind) (size : Option Size) : Edit t (t.allocate kind size).2
  | delete (o : ObjectId) : Edit t (t.delete o).2

/-- No call numbers two objects alike. -/
theorem Edit.distinct {t t' : Toolkit} (h : Edit t t') (ht : t.objects.Distinct) :
    t'.objects.Distinct := by
  cases h with
  | keep objects => rwa [objects]
  | modify o f =>
      rwa [modifyObject, Table.Distinct, Table.keys_modify]
  | allocate kind size => exact ht.insert t.nextObject _
  | delete o =>
      have hrelease : (t.release o).objects.keys = t.objects.keys := by
        simp only [release, Table.mapValues, Table.keys, List.map_map]
        rfl
      have hdistinct : (t.release o).objects.Distinct := by rwa [Table.Distinct, hrelease]
      have hall : ∀ (os : List ObjectId) (objects : Table ObjectId ToolkitObject),
          objects.Distinct → (os.foldl Table.erase objects).Distinct := by
        intro os
        induction os with
        | nil => exact fun _ h => h
        | cons o os ih => exact fun _ h => ih _ (h.erase o)
      exact hall _ _ hdistinct

/-- What single calls keep is kept by any number of them. -/
theorem distinct_of_edits {t t' : Toolkit} (h : Relation.ReflTransGen Edit t t')
    (ht : t.objects.Distinct) : t'.objects.Distinct := by
  induction h with
  | refl => exact ht
  | tail _ h ih => exact h.distinct ih

end Toolkit

/-- What can happen to a stage. -/
inductive Turn where
  /-- A command, with what surrounds it. -/
  | command (w : Surroundings) (c : Command)
  | behave (b : Behaviour)
  /-- The buffer of a handle becomes busy, or ceases to be. -/
  | busy (handle : Nat) (busy : Bool)
  /-- The toolkit deletes an object by itself. -/
  | delete (object : ObjectId)

namespace Stage

open Toolkit (Edit Alike Shrunk)
open Relation (ReflTransGen)

/-- What is answered to a turn, and the stage after it. -/
def turn (s : Stage) : Turn → Option (Except Failure Answer) × Stage
  | .command w c =>
    let (answer, s) := s.run w c
    (some answer, s)
  | .behave b => (none, s.withToolkit (s.toolkit.behave b))
  | .busy h busy =>
    (none, s.modifyHandle h fun hd => { hd with buffer := hd.buffer.setBusy busy })
  | .delete o => (none, s.withToolkit (s.toolkit.delete o).2)

/-- The stage after a number of turns. -/
def play (s : Stage) (turns : List Turn) : Stage :=
  turns.foldl (fun s turn => (s.turn turn).2) s

variable {s : Stage} {h : Nat} {id : Option String} {target : Target} {part : String}

/-! ### Calls of a command -/

/-- Putting an object into a part is one call. -/
theorem edit_swallow {t t' : Toolkit} {p c : ObjectId} (h : t.swallow p part c = .ok t') :
    Edit t t' := by
  unfold Toolkit.swallow at h
  split at h
  · cases h
  split at h
  · cases h
  · cases h
    exact .modify p _

/-- The root of a new handle is loaded by one call, and fitted to its buffer by another one. -/
theorem edits_create (files : Files) (path group : String) (size : Size) :
    ReflTransGen Edit s.toolkit (s.create files path group size).2.toolkit := by
  have hfit : ∀ t o, ReflTransGen Edit t (fitToBuffer t o size) := by
    intro t o
    unfold fitToBuffer
    split
    · exact .refl
    · exact .single (.modify o _)
  unfold create
  split
  · exact .refl
  split
  · exact .refl
  unfold Toolkit.loadLayout
  rcases s.toolkit.loadFailure with _ | e
  · have hload := (ReflTransGen.single (.allocate (.layout path group) none)).trans
      (hfit (s.toolkit.allocate (.layout path group) none).2 s.toolkit.nextObject)
    dsimp only
    split
    · exact hload
    · exact hload
  · exact .refl

/-- Unloading a handle deletes its root by one call. -/
theorem edits_destroy (h : Nat) : ReflTransGen Edit s.toolkit (s.destroy h).2.toolkit := by
  unfold destroy
  split
  · exact .refl
  next hd _ =>
  unfold tearDown
  rcases hd.rootObject? with _ | o
  · exact .refl
  · exact .single (.delete o)

/-- A step on the way of new content is a single call. -/
theorem edit_of_exchange {s' : Stage} (he : Exchange s s') : Edit s.toolkit s'.toolkit := by
  cases he with
  | take o part => exact .modify o _
  | drop o => exact .delete o
  | make kind size => exact .allocate kind size
  | put swallow => exact edit_swallow swallow
  | track h f => exact .keep rfl
  | note ids shadows => exact .keep rfl

/-- So new content comes by single calls. -/
theorem edits_of_exchanges {s' : Stage} (he : ReflTransGen Exchange s s') :
    ReflTransGen Edit s.toolkit s'.toolkit :=
  ReflTransGen.lift Stage.toolkit (fun _ _ => edit_of_exchange) _ _ he

/-- Emptying a part is done by single calls. -/
theorem edits_clearPart (h : Nat) (o : ObjectId) (part : String) :
    ReflTransGen Edit s.toolkit (s.clearPart h o part).toolkit :=
  edits_of_exchanges (exchanges_clearPart h o part)

/-- A touch is a single call. -/
theorem edit_of_touch {mine : ObjectId → Prop} {s' : Stage} (ht : Touch mine h s s') :
    Edit s.toolkit s'.toolkit := by
  cases ht with
  | object _ _ _ => exact .modify _ _
  | call _ objects => exact .keep objects
  | handle _ => exact .keep rfl

/-- Every command is made of single calls of the toolkit. -/
theorem run_edits (s : Stage) (w : Surroundings) (c : Command) :
    ReflTransGen Edit s.toolkit (s.run w c).2.toolkit := by
  cases c with
  | create path group size =>
      rw [run, answering_snd]
      exact edits_create w.files path group size
  | destroy h =>
      rw [run, answering_snd]
      exact edits_destroy h
  | objectDestroyed h o =>
      rw [run, answering_snd, (toolkit_objectDestroyed s h o).1]
  | image h id part path option =>
      rw [run, answering_snd]
      exact edits_of_exchanges (exchanges_updateImage w.files h id part path option)
  | script h source wanted part path group =>
      exact edits_of_exchanges (exchanges_updateScript w h source wanted part path group)
  | _ => exact ReflTransGen.lift Stage.toolkit (fun _ _ => edit_of_touch) _ _ (run_touches rfl)

/-! ### The way of a layout into a part -/

/-- A new object has no node in any scene graph. -/
theorem Consistent.nodeOf?_of_le (hs : s.Consistent) {g : SceneGraph} {c : ObjectId}
    (hg : s.graph? h = some g) (hc : s.toolkit.nextObject ≤ c) : g.nodeOf? c = none := by
  rw [Option.eq_none_iff_forall_ne_some]
  intro n hcn
  exact Nat.not_lt_of_le hc (hs.tracked_lt h g c n hg hcn)

/-- A layout that is new to a scene graph can be attached under a tracked object. -/
theorem Consistent.exists_attach {hd : Handle} {c : ObjectId} (hs : s.Consistent)
    (hf : s.handles.find? h = some hd) (hn : hd.graph.nodeOf? target.object = some target.node)
    (hc : s.toolkit.nextObject ≤ c) (id part : String) :
    ∃ n g, hd.graph.attach c (some id) (some (target.node, part)) = .ok (n, g) := by
  have hnew := hs.nodeOf?_of_le (graph?_of_find hf) hc
  have halive := (hs.wellFormed_of_find hf).alive_iff.2 ⟨target.object, hn⟩
  refine SceneGraph.exists_attach hnew ?_ nofun
  rintro p slot ⟨⟩
  exact halive

/-- Loads a layout, picks an id for it and places it in a part that is empty. Without a path the
part is left empty. -/
def loadInto (s : Stage) (w : Surroundings) (h : Nat) (target : Target) (g : SceneGraph)
    (wanted : Option String) (part path group : String) : Except Failure Unit × Stage :=
  if path = "" then (.ok (), s)
  else if !w.files.isReadable path then (.error (.refused (.io path unreadableLayout)), s)
  else
    match s.toolkit.loadFailure with
    | some e => (.error (.refused (loadError path e)), s)
    | none =>
      let s' := s.withToolkit (s.toolkit.allocate (.layout path group) none).2
      match s'.chooseId? w.clock g wanted part with
      | none => (.error .overflow, s')
      | some (id, ids) =>
        let r := placeLayout { s' with ids := ids } h target g part id s.toolkit.nextObject
        (r.1.mapError .refused, r.2)

/-- A command that puts a layout into a part empties the part, and then loads the layout into it.
The handle is still there, and still tracks the object. -/
theorem Consistent.updateScript_eq (hs : s.Consistent) {source : Option String}
    (ha : s.address h source = .ok target) (w : Surroundings) (wanted : Option String)
    (part path group : String) :
    ∃ hd, (s.clearPart h target.object part).handles.find? h = some hd ∧
      hd.graph.nodeOf? target.object = some target.node ∧
      s.updateScript w h source wanted part path group =
        (s.clearPart h target.object part).loadInto w h target hd.graph wanted part path group := by
  obtain ⟨-, -, g, hg, hn⟩ := hs.moves_clearPart ha part
  obtain ⟨hd, hf, rfl⟩ := Option.map_eq_some_iff.1 hg
  refine ⟨hd, hf, hn, ?_⟩
  have hlookup : (s.clearPart h target.object part).lookup h = .ok hd := by rw [lookup, hf]
  simp only [updateScript, loadInto, ha, hlookup, Toolkit.loadLayout]
  generalize s.clearPart h target.object part = s₁
  rcases s₁.toolkit.loadFailure with _ | e <;> rfl

/-- If there is no id for a layout, it is left alone. -/
theorem loadInto_of_overflow {g : SceneGraph} {w : Surroundings} {wanted : Option String}
    {path group : String}
    (hr : (s.loadInto w h target g wanted part path group).1 = .error .overflow) :
    (s.loadInto w h target g wanted part path group).2 =
      s.withToolkit (s.toolkit.allocate (.layout path group) none).2 := by
  rw [loadInto] at hr ⊢
  split at hr
  · cases hr
  next hpath =>
  rw [if_neg hpath]
  split at hr
  · cases hr
  next hread =>
  rw [if_neg hread]
  cases hfail : s.toolkit.loadFailure with
  | some e =>
      rw [hfail] at hr
      cases hr
  | none =>
      simp only [hfail] at hr ⊢
      split at hr
      · rfl
      · -- what is refused while it is placed has an id
        generalize placeLayout _ _ _ _ _ _ _ = placed at hr
        obtain ⟨e | v, d⟩ := placed <;> cases hr

/-! ### Turns -/

/-- What a turn is made of. -/
inductive Shift (s : Stage) : Stage → Prop where
  | move {s' : Stage} (hm : Move s s') : Shift s s'
  /-- An object is reported destroyed, whether it is or not. -/
  | report (h : Nat) (o : ObjectId) : Shift s (s.objectDestroyed h o).2
  /-- An object is created, and left alone. -/
  | leave (kind : ObjectKind) (size : Option Size) :
      Shift s (s.withToolkit (s.toolkit.allocate kind size).2)
  /-- The toolkit deletes an object by itself. -/
  | delete (o : ObjectId) : Shift s (s.withToolkit (s.toolkit.delete o).2)

/-- What is done by moves is done by shifts. -/
theorem shifts_of_moves {s' : Stage} (hm : ReflTransGen Move s s') : ReflTransGen Shift s s' :=
  ReflTransGen.mono (fun _ _ => Shift.move) _ _ hm

/-- What is refused does not end a run. -/
theorem answering_ne_overflow {α : Type} (answer : α → Answer) (r : Except StageError α × Stage) :
    (answering answer r).1 ≠ .error .overflow := by
  obtain ⟨e | v, s'⟩ := r <;> nofun

namespace Consistent

/-- A report leaves of the scene graphs no more than there was. -/
theorem within_report (hs : s.Consistent) (h : Nat) (o : ObjectId) :
    (s.objectDestroyed h o).2.Within s := by
  intro k g' hk
  rw [graph?_objectDestroyed] at hk
  split at hk
  · obtain ⟨g, hg, rfl⟩ := Option.map_eq_some_iff.1 hk
    exact ⟨g, hg, (hs.wellFormed k g hg).within_destroyAll [o]⟩
  · exact ⟨g', hk, (hs.wellFormed k g' hk).within_self⟩

/-- Every shift keeps a stage consistent. -/
theorem shift {s' : Stage} (hs : s.Consistent) (hshift : Shift s s') : s'.Consistent := by
  cases hshift with
  | move hm => exact hs.move hm
  | report h o =>
      obtain ⟨htoolkit, hnext⟩ := toolkit_objectDestroyed s h o
      have hshrunk : Shrunk (fun _ => False) s.toolkit (s.objectDestroyed h o).2.toolkit :=
        htoolkit ▸ Alike.rfl.shrunk
      exact hs.of_shrunk hshrunk hnext (hs.within_report h o)
  | leave kind size =>
      have hforest := (Toolkit.allocated_allocate hs.forest kind size).forest hs.forest
      exact hs.of_added hforest rfl rfl (Nat.le_refl _) fun _ _ hk => Or.inl hk
  | delete o =>
      exact hs.of_shrunk (Toolkit.shrunk_delete hs.forest) rfl (hs.within_self fun _ => rfl)

/-- A command that puts a layout into a part is a series of shifts, also if it ends a run. -/
theorem shifts_updateScript (hs : s.Consistent) (w : Surroundings) (h : Nat)
    (source wanted : Option String) (part path group : String) :
    ReflTransGen Shift s (s.updateScript w h source wanted part path group).2 := by
  by_cases hr : (s.updateScript w h source wanted part path group).1 = .error .overflow
  · cases ha : s.address h source with
    | error e => simp [updateScript, ha] at hr
    | ok target =>
        obtain ⟨hd, -, -, heq⟩ := hs.updateScript_eq ha w wanted part path group
        rw [heq] at hr ⊢
        rw [loadInto_of_overflow hr]
        exact (shifts_of_moves (hs.moves_clearPart ha part).1).tail (.leave _ none)
  · exact shifts_of_moves (hs.moves_updateScript w h source wanted part path group hr)

/-- Every turn is a series of shifts. -/
theorem shifts_turn (hs : s.Consistent) (t : Turn) : ReflTransGen Shift s (s.turn t).2 := by
  cases t with
  | command w c =>
      rw [turn]
      cases c with
      | objectDestroyed h o =>
          rw [run, answering_snd]
          exact .single (.report h o)
      | script h source wanted part path group =>
          exact hs.shifts_updateScript w h source wanted part path group
      | _ => exact shifts_of_moves (hs.run_moves w _ (by simp) (answering_ne_overflow _ _))
  | behave b => exact .single (.move (.of_alike (Toolkit.alike_of_objects_eq rfl rfl)))
  | busy h busy => exact .single (.move (.of_modifyHandle fun _ => rfl))
  | delete o => exact .single (.delete o)

/-- Any number of shifts keep a stage consistent. -/
theorem shifts {s' : Stage} (hs : s.Consistent) (hm : ReflTransGen Shift s s') :
    s'.Consistent := by
  induction hm with
  | refl => exact hs
  | tail _ hm ih => exact ih.shift hm

/-- Whatever happens, a stage stays consistent. -/
theorem turn (hs : s.Consistent) (t : Turn) : (s.turn t).2.Consistent :=
  hs.shifts (hs.shifts_turn t)

/-- Every play leaves a consistent stage consistent. -/
theorem play (hs : s.Consistent) (turns : List Turn) : (s.play turns).Consistent := by
  induction turns generalizing s with
  | nil => exact hs
  | cons t turns ih => exact ih (hs.turn t)

/-- What every shift of a consistent stage keeps is kept by a play. -/
theorem play_of_shift {P : Stage → Prop} (hs : s.Consistent)
    (hshift : ∀ s s', Consistent s → Shift s s' → P s → P s') (hP : P s) (turns : List Turn) :
    P (s.play turns) := by
  have hshifts : ∀ {s s'}, Consistent s → ReflTransGen Shift s s' → P s → P s' := by
    intro s s' hs hm hP
    induction hm with
    | refl => exact hP
    | tail hm hlast ih => exact hshift _ _ (hs.shifts hm) hlast ih
  induction turns generalizing s with
  | nil => exact hP
  | cons t turns ih => exact ih (hs.turn t) (hshifts hs (hs.shifts_turn t) hP)

end Consistent

/-- Every turn is made of single calls of the toolkit. -/
theorem turn_edits (s : Stage) (t : Turn) :
    ReflTransGen Edit s.toolkit (s.turn t).2.toolkit := by
  cases t with
  | command w c => exact run_edits s w c
  | behave b => exact .single (.keep rfl)
  | busy h busy => exact .refl
  | delete o => exact .single (.delete o)

/-- In every play the objects of the toolkit keep one entry each. -/
theorem distinct_play_of (hs : s.toolkit.objects.Distinct) (turns : List Turn) :
    (s.play turns).toolkit.objects.Distinct := by
  induction turns generalizing s with
  | nil => exact hs
  | cons t turns ih => exact ih (Toolkit.distinct_of_edits (turn_edits s t) hs)

/-! ### Plays from an empty stage -/

variable (order : DestroyOrder) (config : Config) (castsShadows : Bool) (turns : List Turn)

/-- A play from an empty stage keeps it consistent. -/
theorem consistent_play : ((start (.start order) config castsShadows).play turns).Consistent :=
  (owned_start order config castsShadows).toConsistent.play turns

/-- A play from an empty stage never numbers two objects alike. -/
theorem distinct_play :
    ((start (.start order) config castsShadows).play turns).toolkit.objects.Distinct :=
  distinct_play_of Table.distinct_empty turns

end Stage

end WidgetStage
