import WidgetStage.Proofs.Stage.Failures

/-!
# What a command addresses

Every command but the one that makes a handle is addressed to a handle, and most of them to a node
of it. The address is looked up before anything else: whatever else is wrong with a command, it is
answered that its handle is not loaded, or that no alive node has the id, and these answers mean
nothing else. A command that is answered so has changed nothing.

Most commands change nothing either if they are refused for any other reason. Only those that show
something in a part, and rendering, have begun by then.

## Main results

* `Consistent.address_eq_error_iff`: when an address leads nowhere, and what is answered then.
* `Consistent.run_of_lost`: a command whose address leads nowhere (`Lost`) is answered so, and
  changes nothing.
* `Consistent.run_of_found`: no other command is answered so; one that is done in one go changes
  nothing unless it succeeds.
* `lost_command_changes_nothing`: this holds throughout every play.
-/

namespace WidgetStage

namespace Command

/-- The handle to which a command is addressed. -/
def handle? : Command → Option Nat
  | .create _ _ _ => none
  | .destroy h => some h
  | .objectDestroyed h _ => some h
  | .text h _ _ _ => some h
  | .image h _ _ _ _ => some h
  | .script h _ _ _ _ _ => some h
  | .signal h _ _ _ => some h
  | .drag h _ _ _ _ => some h
  | .size h _ _ => some h
  | .category h _ _ => some h
  | .color h _ _ _ => some h
  | .event h _ _ => some h
  | .render h => some h

/-- The id of the node to which a command is addressed, if it is addressed to a node. Events and
rendering are for the root, which has no id. -/
def node? : Command → Option (Option String)
  | .create _ _ _ => none
  | .destroy _ => none
  | .objectDestroyed _ _ => none
  | .text _ id _ _ => some id
  | .image _ id _ _ _ => some id
  | .script _ source _ _ _ _ => some source
  | .signal _ id _ _ => some id
  | .drag _ id _ _ _ => some id
  | .size _ id _ => some id
  | .category _ _ _ => none
  | .color _ id _ _ => some id
  | .event _ _ _ => some none
  | .render _ => some none

/-- Whether a command is done in one go, after everything that can be wrong with it was looked
at. -/
def isAtomic : Command → Bool
  | .image _ _ _ _ _ => false
  | .script _ _ _ _ _ _ => false
  | .render _ => false
  | _ => true

end Command

/-! ### Errors of other kinds -/

/-- No failure of the toolkit is passed on as something that does not exist. -/
theorem ToolkitError.status_toStageError (e : ToolkitError) :
    e.toStageError.status ≠ .notExist := by
  cases e <;> nofun

/-- No refusal of a scene graph is passed on as something that does not exist. -/
theorem SceneError.status_toStageError (e : SceneError) : e.toStageError.status ≠ .notExist := by
  cases e <;> nofun

/-- No picture that cannot be read is passed on as something that does not exist, not even a missing
file. -/
theorem PictureError.status_toStageError (e : PictureError) :
    e.toStageError.status ≠ .notExist := by
  rw [toStageError]
  split <;> nofun

namespace Stage

variable {s : Stage} {w : Surroundings} {c : Command} {h : Nat} {id : Option String}
  {target : Target} {part : String} {e : StageError}

/-- A layout that cannot be loaded is blamed on its file or on the toolkit. -/
theorem status_loadError (path : String) (e : ToolkitError) :
    (loadError path e).status ≠ .notExist := by
  cases e <;> nofun

/-- Whatever is wrong with an image, it is not that what was addressed does not exist. -/
theorem status_prepareImage {files : Files} {o : ObjectId} {path : String} {options : ImageOptions}
    (he : s.prepareImage files o part path options = .error e) : e.status ≠ .notExist := by
  rw [prepareImage] at he
  split at he
  · next failure _ =>
    cases he
    exact failure.status_toStageError
  dsimp only at he
  split at he
  · cases he
    nofun
  split at he
  · cases he
    nofun
  · cases he

/-- The toolkit may fail to show an image, but not for a missing address. -/
theorem status_showImage {o : ObjectId} {options : ImageOptions} {content : ImageContent}
    (he : (s.showImage o part options content).1 = .error e) : e.status ≠ .notExist := by
  rw [showImage] at he
  split at he
  · next failure _ =>
    cases he
    exact failure.status_toStageError
  dsimp only at he
  split at he
  · next failure _ =>
    cases he
    exact failure.status_toStageError
  · cases he

/-- A layout that cannot be placed is no missing address, either. -/
theorem status_placeLayout {g : SceneGraph} {name : String} {o : ObjectId}
    (he : (s.placeLayout h target g part name o).1 = .error e) : e.status ≠ .notExist := by
  rw [placeLayout] at he
  split at he
  · next failure _ =>
    cases he
    exact failure.status_toStageError
  dsimp only at he
  split at he
  · next failure _ =>
    cases he
    exact failure.status_toStageError
  · cases he

/-- Nor is one that cannot be loaded, or for which there is no id. -/
theorem status_loadInto {g : SceneGraph} {wanted : Option String} {path group : String}
    (he : (s.loadInto w h target g wanted part path group).1 = .error (.refused e)) :
    e.status ≠ .notExist := by
  rw [loadInto] at he
  split at he
  · cases he
  split at he
  · cases he
    rintro ⟨⟩
  split at he
  · next failure _ =>
    cases he
    exact status_loadError path failure
  dsimp only at he
  split at he
  · cases he
  · exact status_placeLayout (eq_error_of_refused he)

/-! ### Addresses -/

/-- A handle is not found if it is not loaded. -/
theorem lookup_eq_error_iff : s.lookup h = .error e ↔ s.handles.find? h = none ∧
    e = .handleNotFound h := by
  rw [lookup]
  cases s.handles.find? h with
  | none => simp [eq_comm]
  | some hd => simp

/-- An address leads nowhere if the handle is not loaded, or else if no alive node has the id. -/
theorem Consistent.address_eq_error_iff (hs : s.Consistent) :
    s.address h id = .error e ↔
      (s.handles.find? h = none ∧ e = .handleNotFound h) ∨
      ∃ hd, s.handles.find? h = some hd ∧
        (∀ n, hd.graph.lifecycle n = .alive → hd.graph.id? n ≠ id) ∧ e = .nodeNotFound id := by
  cases hf : s.handles.find? h with
  | none => simp [address, lookup, hf, eq_comm]
  | some hd =>
      have hg := hs.wellFormed_of_find hf
      simp only [address, lookup, hf, reduceCtorEq, false_and, false_or, Option.some.injEq,
        exists_eq_left', ← hg.find_eq_none_iff, resolve]
      cases hfind : hd.graph.find id with
      | none => simp [eq_comm]
      | some n =>
          obtain ⟨o, ho⟩ := hg.exists_object_of_find hfind
          simp [ho]

/-- The address of a command leads nowhere, and this is answered to it. -/
inductive Lost (s : Stage) (c : Command) : StageError → Prop where
  /-- The handle is not loaded. -/
  | handle {h : Nat} (addressed : c.handle? = some h) (unloaded : s.handles.find? h = none) :
      Lost s c (.handleNotFound h)
  /-- The handle is loaded, but no alive node has the id. -/
  | node {h : Nat} {id : Option String} {hd : Handle} (addressed : c.handle? = some h)
      (asked : c.node? = some id) (loaded : s.handles.find? h = some hd)
      (unknown : ∀ n, hd.graph.lifecycle n = .alive → hd.graph.id? n ≠ id) :
      Lost s c (.nodeNotFound id)

/-- A command whose address leads nowhere is answered so, whatever else is wrong with it, and
changes nothing. -/
theorem Consistent.run_of_lost (hs : s.Consistent) (hlost : s.Lost c e) :
    s.run w c = (.error (.refused e), s) := by
  cases hlost with
  | @handle h addressed unloaded =>
      have hlookup : s.lookup h = .error (.handleNotFound h) :=
        lookup_eq_error_iff.2 ⟨unloaded, rfl⟩
      have haddress : ∀ id, s.address h id = .error (.handleNotFound h) := fun id =>
        hs.address_eq_error_iff.2 (Or.inl ⟨unloaded, rfl⟩)
      cases c
      all_goals cases addressed
      all_goals simp only [Stage.run, destroy, objectDestroyed, updateText, updateImage,
        updateScript, updateSignal, updateDrag, updateSize, updateCategory, updateColor, feedEvent,
        render, hlookup, haddress, answering, Except.map]
  | @node h id hd addressed asked loaded unknown =>
      have haddress : s.address h id = .error (.nodeNotFound id) :=
        hs.address_eq_error_iff.2 (Or.inr ⟨hd, loaded, unknown, rfl⟩)
      cases c
      all_goals cases addressed
      all_goals cases asked
      all_goals simp only [Stage.run, updateText, updateImage, updateScript, updateSignal,
        updateDrag, updateSize, updateColor, feedEvent, render, haddress, answering, Except.map]

/-- A command that is not lost finds its handle. -/
theorem lookup_of_found (hfound : ∀ e, ¬ s.Lost c e) (hh : c.handle? = some h) :
    ∃ hd, s.lookup h = .ok hd := by
  cases hl : s.lookup h with
  | ok hd => exact ⟨hd, rfl⟩
  | error e => exact absurd (.handle hh (lookup_eq_error_iff.1 hl).1) (hfound _)

/-- A command that is not lost finds its node, and an object there. -/
theorem Consistent.address_of_found (hs : s.Consistent) (hfound : ∀ e, ¬ s.Lost c e)
    (hh : c.handle? = some h) (hid : c.node? = some id) :
    ∃ target, s.address h id = .ok target := by
  cases ha : s.address h id with
  | ok target => exact ⟨target, rfl⟩
  | error e =>
      rcases hs.address_eq_error_iff.1 ha with ⟨hf, -⟩ | ⟨hd, hf, hnone, -⟩
      · exact absurd (.handle hh hf) (hfound _)
      · exact absurd (.node hh hid hf hnone) (hfound _)

/-! ### Commands that find what they address -/

/-- A handle is made in one go. -/
theorem create_of_error {files : Files} {path group : String} {size : Size}
    (he : (s.create files path group size).1 = .error e) :
    e.status ≠ .notExist ∧ (s.create files path group size).2 = s := by
  have hattach : ∀ o, ∃ n g, SceneGraph.empty.attach o none none = .ok (n, g) :=
    fun o => ⟨_, _, rfl⟩
  rw [create] at he ⊢
  split at he
  · next hbound =>
    cases he
    exact ⟨nofun, by rw [if_pos hbound]⟩
  next hbound =>
  rw [if_neg hbound]
  split at he
  · next hread =>
    cases he
    exact ⟨nofun, by rw [if_pos hread]⟩
  next hread =>
  rw [if_neg hread]
  cases hload : s.toolkit.loadLayout path group with
  | error failure =>
      rw [hload] at he
      cases he
      exact ⟨status_loadError path failure, rfl⟩
  | ok loaded =>
      obtain ⟨root, t⟩ := loaded
      obtain ⟨n, g, hg⟩ := hattach root
      simp [hload, hg] at he

/-- Colours are read before they are set. -/
theorem updateColor_of_error {name value : String} (ha : s.address h id = .ok target)
    (he : (s.updateColor h id name value).1 = .error e) :
    e.status ≠ .notExist ∧ (s.updateColor h id name value).2 = s := by
  simp only [updateColor, ha] at he ⊢
  cases hparse : ColorClass.parse value with
  | error failure =>
      rw [hparse] at he
      cases he
      exact ⟨by rintro ⟨⟩, rfl⟩
  | ok colors => simp [hparse] at he

/-- Events are decoded before they are delivered. -/
theorem feedEvent_of_error {now : Duration} {raw : UInt32} {info : EventInfo}
    (ha : s.address h none = .ok target) (he : (s.feedEvent now h raw info).1 = .error e) :
    e.status ≠ .notExist ∧ (s.feedEvent now h raw info).2 = s := by
  simp only [feedEvent, ha] at he ⊢
  cases hdecode : InputEvent.decode raw info.actionType with
  | error failure =>
      rw [hdecode] at he
      cases he
      exact ⟨by rintro ⟨⟩, rfl⟩
  | ok event => simp [hdecode] at he

/-- Once it has found its node, an image command fails for other reasons only. -/
theorem status_updateImage {files : Files} {path : String} {option : Option String}
    (ha : s.address h id = .ok target)
    (he : (s.updateImage files h id part path option).1 = .error e) : e.status ≠ .notExist := by
  simp only [updateImage, ha] at he
  split at he
  · cases he
  split at he
  · next hprepare =>
    cases he
    exact status_prepareImage hprepare
  · exact status_showImage he

/-- Once it has found the root, rendering fails for other reasons only. -/
theorem status_render (ha : s.address h none = .ok target) (he : (s.render h).1 = .error e) :
    e.status ≠ .notExist := by
  simp only [render, ha] at he
  split at he
  · next failure _ =>
    cases he
    exact failure.status_toStageError
  split at he
  · next failure _ =>
    cases he
    exact failure.status_toStageError
  · cases he

/-- What is answered to the host inherits both from the operation: the status of its errors, and
that an error changes nothing. -/
theorem answering_of_error {α : Type} {answer : α → Answer} {r : Except StageError α × Stage}
    {f : Failure} {atomic : Bool} (hr : (answering answer r).1 = .error f)
    (hstatus : ∀ e, r.1 = .error e → e.status ≠ .notExist)
    (hstage : atomic = true → ∀ e, r.1 = .error e → r.2 = s) :
    (∀ e, f = .refused e → e.status ≠ .notExist) ∧
      (atomic = true → (answering answer r).2 = s) := by
  obtain ⟨e, rfl, he⟩ := eq_error_of_answering hr
  refine ⟨fun e' hf => ?_, fun hc => ?_⟩
  · cases hf
    exact hstatus e he
  · rw [answering_snd]
    exact hstage hc e he

/-- A command that finds what it addresses is not answered otherwise, and if it is done in one go,
then it changes nothing unless it succeeds. -/
theorem Consistent.run_of_found {f : Failure} (hs : s.Consistent) (hfound : ∀ e, ¬ s.Lost c e)
    (hr : (s.run w c).1 = .error f) :
    (∀ e, f = .refused e → e.status ≠ .notExist) ∧ (c.isAtomic = true → (s.run w c).2 = s) := by
  -- where `hr` is simplified nothing else can go wrong
  cases c with
  | create path group size =>
      exact answering_of_error hr (fun e he => (create_of_error he).1)
        fun _ e he => (create_of_error he).2
  | destroy h =>
      obtain ⟨hd, hl⟩ := lookup_of_found hfound rfl
      simp [Stage.run, destroy, hl, answering] at hr
  | objectDestroyed h o =>
      obtain ⟨hd, hl⟩ := lookup_of_found hfound rfl
      simp [Stage.run, objectDestroyed, hl, answering] at hr
  | text h id part text =>
      obtain ⟨target, ha⟩ := hs.address_of_found hfound rfl rfl
      simp [Stage.run, updateText, ha, answering] at hr
  | image h id part path option =>
      obtain ⟨target, ha⟩ := hs.address_of_found hfound rfl rfl
      exact answering_of_error hr (fun e he => status_updateImage ha he) (by rintro ⟨⟩)
  | script h source wanted part path group =>
      obtain ⟨target, ha⟩ := hs.address_of_found hfound rfl rfl
      obtain ⟨hd, -, -, heq⟩ := hs.updateScript_eq ha w wanted part path group
      have hf : (s.updateScript w h source wanted part path group).1 = .error f :=
        eq_error_of_map hr
      rw [heq] at hf
      refine ⟨fun e he => ?_, by rintro ⟨⟩⟩
      rw [he] at hf
      exact status_loadInto hf
  | signal h id part signal =>
      obtain ⟨target, ha⟩ := hs.address_of_found hfound rfl rfl
      simp [Stage.run, updateSignal, ha, answering] at hr
  | drag h id part x y =>
      obtain ⟨target, ha⟩ := hs.address_of_found hfound rfl rfl
      simp [Stage.run, updateDrag, ha, answering] at hr
  | size h id size =>
      obtain ⟨target, ha⟩ := hs.address_of_found hfound rfl rfl
      cases id <;> simp [Stage.run, updateSize, ha, answering] at hr
  | category h id category =>
      obtain ⟨hd, hl⟩ := lookup_of_found hfound rfl
      simp [Stage.run, updateCategory, hl, answering] at hr
  | color h id name value =>
      obtain ⟨target, ha⟩ := hs.address_of_found hfound rfl rfl
      exact answering_of_error hr (fun e he => (updateColor_of_error ha he).1)
        fun _ e he => (updateColor_of_error ha he).2
  | event h raw info =>
      obtain ⟨target, ha⟩ := hs.address_of_found hfound rfl rfl
      exact answering_of_error hr (fun e he => (feedEvent_of_error ha he).1)
        fun _ e he => (feedEvent_of_error ha he).2
  | render h =>
      obtain ⟨target, ha⟩ := hs.address_of_found hfound rfl rfl
      exact answering_of_error hr (fun e he => status_render ha he) (by rintro ⟨⟩)

/-- That something does not exist is answered if and only if the address leads nowhere. -/
theorem Consistent.run_eq_notExist_iff (hs : s.Consistent) (he : e.status = .notExist) :
    (s.run w c).1 = .error (.refused e) ↔ s.Lost c e := by
  constructor
  · intro hr
    by_contra hlost
    have hfound : ∀ e', ¬ s.Lost c e' := by
      intro e' hlost'
      rw [hs.run_of_lost hlost'] at hr
      cases hr
      exact hlost hlost'
    exact (hs.run_of_found hfound hr).1 e rfl he
  · intro hlost
    rw [hs.run_of_lost hlost]

/-! ### Throughout a play -/

/-- After every play, a command for a handle is answered that the handle is not found if and only if
it is not loaded. If it is loaded, a command for a node is answered that the node is not found if
and only if no alive node has its id, whatever else is wrong with the command; commands that are
not for a node are never answered so. A command that is answered so, and every command done in one
go that is refused for whatever reason, leaves the stage as it was. -/
theorem lost_command_changes_nothing (order : DestroyOrder) (config : Config)
    (castsShadows : Bool) (turns : List Turn) (w : Surroundings) (c : Command) :
    let s := (start (.start order) config castsShadows).play turns
    (∀ k, (s.run w c).1 = .error (.refused (.handleNotFound k)) ↔
      c.handle? = some k ∧ s.handles.find? k = none) ∧
    (∀ id, (s.run w c).1 = .error (.refused (.nodeNotFound id)) ↔
      c.node? = some id ∧ ∃ h hd, c.handle? = some h ∧ s.handles.find? h = some hd ∧
        ∀ n, hd.graph.lifecycle n = .alive → hd.graph.id? n ≠ id) ∧
    (∀ f, (s.run w c).1 = .error f →
      (c.isAtomic = true ∨ ∃ e, f = .refused e ∧ e.status = .notExist) →
      (s.run w c).2 = s) := by
  intro s
  have hs : s.Consistent := consistent_play order config castsShadows turns
  refine ⟨fun k => ?_, fun id => ?_, fun f hr hc => ?_⟩
  · rw [hs.run_eq_notExist_iff rfl]
    constructor
    · rintro (⟨hh, hf⟩ | _)
      exact ⟨hh, hf⟩
    · rintro ⟨hh, hf⟩
      exact .handle hh hf
  · rw [hs.run_eq_notExist_iff rfl]
    constructor
    · rintro (_ | ⟨hh, hid, hf, hnone⟩)
      exact ⟨hid, _, _, hh, hf, hnone⟩
    · rintro ⟨hid, h, hd, hh, hf, hnone⟩
      exact .node hh hid hf hnone
  · by_cases hlost : ∃ e, s.Lost c e
    · obtain ⟨e, hlost⟩ := hlost
      rw [hs.run_of_lost hlost]
    · obtain ⟨hstatus, hstage⟩ := hs.run_of_found (not_exists.1 hlost) hr
      rcases hc with hc | ⟨e, hf, he⟩
      · exact hstage hc
      · exact absurd he (hstatus e hf)

/-- A node that is not there is reported even if the colour cannot be read either. Neither this
command nor one that fails for the colour changes anything. -/
theorem lost_command_changes_nothing_color :
    let w : Surroundings := ⟨Files.empty.write "rows.edj" (.text ""), fun _ => .ofMicros 0⟩
    let turns : List Turn := [.command w (.create "rows.edj" "main" ⟨0, 0⟩)]
    let s := (start (.start .parentFirst) .standard false).play turns
    let lost := Command.color 1 (some "row") "back" "not a colour"
    let unread := Command.color 1 none "back" "not a colour"
    (s.run w lost).1 = .error (.refused (.nodeNotFound (some "row"))) ∧ (s.run w lost).2 = s ∧
      (s.run w unread).1 = .error (.refused (.invalidParameter
        "color class \"back\": color class needs 12 integers, got 3")) ∧
      (s.run w unread).2 = s := by
  intro w turns s lost unread
  have hlost : (s.run w lost).1 = .error (.refused (.nodeNotFound (some "row"))) := by decide
  have hunread : (s.run w unread).1 = .error (.refused (.invalidParameter
      "color class \"back\": color class needs 12 integers, got 3")) := by decide
  obtain ⟨-, -, hsame⟩ :=
    lost_command_changes_nothing .parentFirst .standard false turns w lost
  obtain ⟨-, -, hsame'⟩ :=
    lost_command_changes_nothing .parentFirst .standard false turns w unread
  exact ⟨hlost, hsame _ hlost (.inr ⟨_, rfl, rfl⟩), hunread, hsame' _ hunread (.inl rfl)⟩

end Stage

end WidgetStage
