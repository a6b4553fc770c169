import Mathlib.Data.List.Induction
import WidgetStage.Proofs.Stage.Buffers

/-!
# Presses and releases

A pointer event is withheld from the toolkit if it comes late, unless a button is held. Whether one
is held is noted with the handle, while what the toolkit has been told stands in its record of
calls. The two agree throughout every play: the note of a handle says that a button is held exactly
if the last press or release that was delivered to its root is a press. Therefore no press is left
without what follows it, up to and including the release, and no longer than that.

The note belongs to one handle. Nothing but a pointer event for this handle changes it, and only if
the event is delivered; and since no two handles have a root in common, nobody else is told of it.

## Main results

* `Stage.deliveries`: the pointer actions that the root of a handle was told of during a play, read
  off the calls of the toolkit.
* `pointerTurn_cases`: a turn delivers a pointer event, makes a handle or has nothing to do with
  the pointer.
* `Separate.input_turn`: the state of the pointer follows what is delivered during a turn.
* `led_play`: so it does throughout every play.
* `presses_never_dangle`: what is withheld, and that no press is left without its release.
-/

namespace WidgetStage

/-! ### Pointer actions -/

/-- Whether the button is pressed or released. -/
def MouseAction.isButton : MouseAction → Bool
  | .down => true
  | .up => true
  | .move => false
  | .enter => false
  | .leave => false

/-- The last of the actions that press or release the button is a press. -/
def Pressed (actions : List MouseAction) : Prop :=
  (actions.filter MouseAction.isButton).getLast? = some .down

/-- The pointer action of which an object is told by a call. -/
def ToolkitCall.pointerAction? (o : ObjectId) : ToolkitCall → Option MouseAction
  | .mouse o' action _ _ _ => if o' = o then some action else none
  | _ => none

section Pressed

variable {actions before after : List MouseAction} {action : MouseAction}

/-- In the beginning nothing is pressed. -/
theorem not_pressed_nil : ¬ Pressed [] := nofun

/-- After an action the button is held if the action is a press, or if it is about no button and the
button was held before. -/
theorem pressed_append_singleton :
    Pressed (actions ++ [action]) ↔
      action = .down ∨ (action.isButton = false ∧ Pressed actions) := by
  rw [Pressed, List.filter_append, Pressed]
  cases action <;> simp [MouseAction.isButton]

/-- After a press the button is held as long as it is not released. -/
theorem pressed_of_not_released (h : MouseAction.up ∉ after) :
    Pressed (before ++ .down :: after) := by
  induction after using List.reverseRecOn with
  | nil => exact pressed_append_singleton.2 (.inl rfl)
  | append_singleton after action ih =>
      rw [List.mem_append, not_or] at h
      rw [← List.cons_append, ← List.append_assoc, pressed_append_singleton]
      cases action with
      | down => exact .inl rfl
      | up => exact absurd (List.mem_singleton.2 rfl) h.2
      | _ => exact .inr ⟨rfl, ih h.1⟩

/-- After a release the button is not held as long as it is not pressed. -/
theorem not_pressed_of_released (h : MouseAction.down ∉ after) :
    ¬ Pressed (before ++ .up :: after) := by
  induction after using List.reverseRecOn with
  | nil =>
      rw [pressed_append_singleton]
      rintro (h | ⟨h, -⟩) <;> cases h
  | append_singleton after action ih =>
      rw [List.mem_append, not_or] at h
      rw [← List.cons_append, ← List.append_assoc, pressed_append_singleton]
      rintro (rfl | ⟨-, hpressed⟩)
      · exact h.2 (List.mem_singleton.2 rfl)
      · exact ih h.1 hpressed

end Pressed

namespace StalenessFilter

variable {f : StalenessFilter}

/-- No action changes the time after which a press is stale. -/
theorem window_foldl (actions : List MouseAction) : (actions.foldl after f).window = f.window := by
  induction actions generalizing f with
  | nil => rfl
  | cons action actions ih =>
      rw [List.foldl_cons, ih]
      cases action <;> rfl

/-- A filter that starts with no button held keeps to the last press or release. -/
theorem latched_foldl_start (window : Duration) (actions : List MouseAction) :
    (actions.foldl after (start window)).latched = true ↔ Pressed actions := by
  induction actions using List.reverseRecOn with
  | nil => exact iff_of_false Bool.false_ne_true not_pressed_nil
  | append_singleton actions action ih =>
      rw [List.foldl_append, pressed_append_singleton, ← ih]
      cases action <;> simp [after, MouseAction.isButton]

end StalenessFilter

namespace Stage

open Relation (ReflTransGen)

/-! ### What the toolkit is told -/

/-- What the toolkit is told of during a turn. -/
def callsDuring (s : Stage) (t : Turn) : List ToolkitCall :=
  (s.turn t).2.toolkit.calls.drop s.toolkit.calls.length

/-- The pointer actions of which the root of a handle is told during a turn. -/
def delivered (s : Stage) (h : Nat) (t : Turn) : List MouseAction :=
  match s.rootObject? h with
  | some o => (s.callsDuring t).filterMap (ToolkitCall.pointerAction? o)
  | none => []

/-- The pointer actions of which the root of a handle is told during a play, the first one first. -/
def deliveries (h : Nat) : Stage → List Turn → List MouseAction
  | _, [] => []
  | s, t :: turns => s.delivered h t ++ deliveries h (s.turn t).2 turns

variable {s s' s'' : Stage} {h k : Nat} {o : ObjectId} {id : Option String} {target : Target}
  {part : String} {t : Turn}

/-- A play goes on where its first part ends. -/
theorem play_append (s : Stage) (turns turns' : List Turn) :
    s.play (turns ++ turns') = (s.play turns).play turns' :=
  List.foldl_append

/-- What is delivered in a play is delivered in its first part, or in the rest from there on. -/
theorem deliveries_append (h : Nat) (s : Stage) (turns turns' : List Turn) :
    deliveries h s (turns ++ turns') =
      deliveries h s turns ++ deliveries h (s.play turns) turns' := by
  induction turns generalizing s with
  | nil => rfl
  | cons t turns ih =>
      rw [List.cons_append, deliveries, ih, deliveries, List.append_assoc]
      rfl

/-- Nothing is delivered to a handle that is not loaded. -/
theorem delivered_of_not_loaded (hf : s.handles.find? h = none) (t : Turn) :
    s.delivered h t = [] := by
  rw [delivered, rootObject?, hf]
  rfl

/-! ### Turns without a pointer event -/

/-- The toolkit is told of no pointer action, and loaded handles keep the state of their pointer. -/
structure Quiet (s s' : Stage) : Prop where
  config : s'.config = s.config
  calls : ∃ new, s'.toolkit.calls = s.toolkit.calls ++ new ∧
    ∀ o, ∀ call ∈ new, call.pointerAction? o = none
  inputs : ∀ h hd', s'.handles.find? h = some hd' →
    ∃ hd, s.handles.find? h = some hd ∧ hd'.input = hd.input

/-- What is quiet twice is quiet. -/
theorem Quiet.trans (h : Quiet s s') (h' : Quiet s' s'') : Quiet s s'' where
  config := h'.config.trans h.config
  calls := by
    obtain ⟨new, hnew, hnone⟩ := h.calls
    obtain ⟨new', hnew', hnone'⟩ := h'.calls
    refine ⟨new ++ new', by rw [hnew', hnew, List.append_assoc], fun o call hcall => ?_⟩
    rcases List.mem_append.1 hcall with hcall | hcall
    · exact hnone o call hcall
    · exact hnone' o call hcall
  inputs k hd'' hf'' := by
    obtain ⟨hd', hf', hinput'⟩ := h'.inputs k hd'' hf''
    obtain ⟨hd, hf, hinput⟩ := h.inputs k hd' hf'
    exact ⟨hd, hf, hinput'.trans hinput⟩

/-- Where the toolkit is told nothing. -/
theorem quiet_of_calls_eq (config : s'.config = s.config)
    (calls : s'.toolkit.calls = s.toolkit.calls)
    (inputs : ∀ h hd', s'.handles.find? h = some hd' →
      ∃ hd, s.handles.find? h = some hd ∧ hd'.input = hd.input) : Quiet s s' :=
  ⟨config, ⟨[], calls.trans (List.append_nil _).symm, fun _ _ hc => absurd hc List.not_mem_nil⟩,
    inputs⟩

/-- Where the toolkit is told nothing, and handles are not concerned. -/
theorem quiet_of_handles_eq (config : s'.config = s.config)
    (calls : s'.toolkit.calls = s.toolkit.calls) (handles : s'.handles = s.handles) :
    Quiet s s' :=
  quiet_of_calls_eq config calls fun _ hd hf => ⟨hd, handles ▸ hf, rfl⟩

/-- Where nothing happens, all is quiet. -/
theorem quiet_self (s : Stage) : Quiet s s :=
  quiet_of_handles_eq rfl rfl rfl

/-- Where the toolkit is told something else. -/
theorem quiet_note {call : ToolkitCall} (hcall : ∀ o, call.pointerAction? o = none) :
    Quiet s (s.withToolkit (s.toolkit.note call)) where
  config := rfl
  calls := ⟨[call], rfl, fun o c hc => by rw [List.mem_singleton.1 hc, hcall]⟩
  inputs _ hd hf := ⟨hd, hf, rfl⟩

/-- Where something else of a handle is concerned. -/
theorem quiet_modifyHandle {f : Handle → Handle}
    (hf : ∀ hd, s.handles.find? h = some hd → (f hd).input = hd.input) :
    Quiet s (s.modifyHandle h f) := by
  refine quiet_of_calls_eq rfl rfl fun k hd' hf' => ?_
  rw [modifyHandle, Table.find?_modify] at hf'
  split at hf'
  · next hk =>
    obtain ⟨hd, hfind, rfl⟩ := Option.map_eq_some_iff.1 hf'
    exact ⟨hd, hfind, hf hd (hk ▸ hfind)⟩
  · exact ⟨hd', hf', rfl⟩

/-- During a quiet turn nothing is delivered. -/
theorem Quiet.delivered_eq_nil (hquiet : Quiet s (s.turn t).2) (h : Nat) :
    s.delivered h t = [] := by
  obtain ⟨new, hnew, hnone⟩ := hquiet.calls
  rw [delivered]
  split
  · next o _ =>
    rw [callsDuring, hnew, List.drop_left, List.filterMap_eq_nil_iff]
    exact hnone o
  · rfl

/-- The toolkit is told nothing by what is put into parts. -/
theorem calls_swallow {t t' : Toolkit} {p c : ObjectId} (h : t.swallow p part c = .ok t') :
    t'.calls = t.calls := by
  rw [Toolkit.swallow] at h
  split at h
  · cases h
  split at h
  · cases h
  · cases h
    rfl

/-- No step on the way of new content has to do with the pointer. -/
theorem quiet_of_exchange (he : Exchange s s') : Quiet s s' := by
  cases he with
  | put swallow =>
      have hcalls := calls_swallow swallow
      exact quiet_of_handles_eq rfl hcalls rfl
  | track h f => exact quiet_modifyHandle fun _ _ => rfl
  | _ => exact quiet_of_handles_eq rfl rfl rfl

/-- So new content is quiet. -/
theorem quiet_of_exchanges (he : ReflTransGen Exchange s s') : Quiet s s' := by
  induction he with
  | refl => exact quiet_self s
  | tail _ hlast ih => exact ih.trans (quiet_of_exchange hlast)

/-- The toolkit is told nothing by what is torn down. -/
theorem calls_tearDown (hd : Handle) (t : Toolkit) : (tearDown hd t).2.calls = t.calls := by
  rw [tearDown]
  cases hd.rootObject? with
  | none => rfl
  | some o => rfl

/-- Unloading a handle is quiet, since the state of its pointer goes with it. -/
theorem quiet_destroy (h : Nat) : Quiet s (s.destroy h).2 := by
  rw [destroy]
  cases s.lookup h with
  | error e => exact quiet_self s
  | ok hd =>
      have hcalls := calls_tearDown hd s.toolkit
      refine quiet_of_calls_eq rfl hcalls fun k hd' hf' => ?_
      change Table.find? (s.handles.erase h) k = some hd' at hf'
      rw [Table.find?_erase] at hf'
      split at hf'
      · cases hf'
      · exact ⟨hd', hf', rfl⟩

/-- Rendering tells the toolkit of no pointer action. -/
theorem quiet_render (h : Nat) : Quiet s (s.render h).2 := by
  rw [render]
  split
  · exact quiet_self s
  split
  · exact quiet_self s
  split
  · exact quiet_modifyHandle fun _ _ => rfl
  · next hpaint =>
    obtain ⟨-, rfl⟩ := paint_eq_ok hpaint
    exact (quiet_note fun _ => rfl).trans (quiet_modifyHandle fun _ _ => rfl)

/-- Resizing has nothing to do with the pointer. -/
theorem quiet_updateSize (h : Nat) (id : Option String) (size : Size) :
    Quiet s (s.updateSize h id size).2 := by
  rw [updateSize]
  split
  · exact quiet_self s
  next target _ =>
  have hresized : Quiet s (s.withToolkit (s.toolkit.resize target.object size)) :=
    quiet_of_handles_eq rfl rfl rfl
  cases id with
  | some name => exact hresized
  | none => exact hresized.trans (quiet_modifyHandle fun _ _ => rfl)

/-- A command that neither makes a handle nor feeds an event. -/
theorem quiet_run (w : Surroundings) (c : Command)
    (hcreate : ∀ path group size, c ≠ .create path group size)
    (hevent : ∀ h raw info, c ≠ .event h raw info) : Quiet s (s.run w c).2 := by
  cases c with
  | create path group size => exact absurd rfl (hcreate path group size)
  | event h raw info => exact absurd rfl (hevent h raw info)
  | destroy h =>
      rw [run, answering_snd]
      exact quiet_destroy h
  | objectDestroyed h o =>
      rw [run, answering_snd, objectDestroyed]
      split
      · exact quiet_self s
      · exact quiet_modifyHandle fun _ _ => rfl
  | text h id part text =>
      rw [run, answering_snd, updateText]
      split
      · exact quiet_self s
      · exact quiet_of_handles_eq rfl rfl rfl
  | image h id part path option =>
      rw [run, answering_snd]
      exact quiet_of_exchanges (exchanges_updateImage w.files h id part path option)
  | script h source wanted part path group =>
      exact quiet_of_exchanges (exchanges_updateScript w h source wanted part path group)
  | signal h id part signal =>
      rw [run, answering_snd, updateSignal]
      split
      · exact quiet_self s
      · exact quiet_note fun _ => rfl
  | drag h id part x y =>
      rw [run, answering_snd, updateDrag]
      split
      · exact quiet_self s
      · exact quiet_of_handles_eq rfl rfl rfl
  | size h id size =>
      rw [run, answering_snd]
      exact quiet_updateSize h id size
  | category h id category =>
      rw [run, answering_snd, updateCategory]
      split
      · exact quiet_self s
      · exact quiet_modifyHandle fun _ _ => rfl
  | color h id name value =>
      rw [run, answering_snd, updateColor]
      split
      · exact quiet_self s
      split
      · exact quiet_self s
      · exact quiet_of_handles_eq rfl rfl rfl
  | render h =>
      rw [run, answering_snd]
      exact quiet_render h

/-! ### Events -/

/-- An event that is not about the pointer, or finds no root. -/
theorem quiet_feedEvent {now : Duration} {raw : UInt32} {info : EventInfo}
    (hother : ∀ target, s.address h none = .ok target →
      ∀ action, InputEvent.decode raw info.actionType ≠ .ok (.mouse action)) :
    Quiet s (s.feedEvent now h raw info).2 := by
  rw [feedEvent]
  split
  · exact quiet_self s
  next target ha =>
  split
  · exact quiet_self s
  next event hdecode =>
  cases event with
  | access action => exact quiet_note fun _ => rfl
  | key action => exact quiet_note fun _ => rfl
  | mouse action => exact absurd hdecode (hother target ha action)

section Pointer

variable {now : Duration} {raw : UInt32} {info : EventInfo} {action : MouseAction}

/-- What is made of a pointer event for a root that is alive. -/
theorem feedEvent_pointer (ha : s.address h none = .ok target)
    (hdecode : InputEvent.decode raw info.actionType = .ok (.mouse action)) :
    s.feedEvent now h raw info =
      (.ok .done,
        if target.handle.input.isStale info.timestamp now then
          s.modifyHandle h fun hd => { hd with input := target.handle.input }
        else
          (s.modifyHandle h fun hd =>
            { hd with input := target.handle.input.after action }).withToolkit
            (s.toolkit.feedMouse target.object action info.x info.y info.timestamp)) := by
  simp only [feedEvent, ha, hdecode, deliver, StalenessFilter.accept]
  split <;> rfl

/-- A stale event leaves no trace. -/
theorem quiet_of_stale (ha : s.address h none = .ok target)
    (hdecode : InputEvent.decode raw info.actionType = .ok (.mouse action))
    (hstale : target.handle.input.isStale info.timestamp now = true) :
    Quiet s (s.feedEvent now h raw info).2 := by
  rw [feedEvent_pointer ha hdecode]
  dsimp only
  rw [if_pos hstale]
  refine quiet_modifyHandle fun hd hf => ?_
  rw [(address_eq_ok_iff.1 ha).1, Option.some.injEq] at hf
  rw [hf]

/-- The toolkit is told of a pointer action, and the state of the pointer of one handle follows. -/
structure Told (h : Nat) (o : ObjectId) (action : MouseAction) (info : EventInfo)
    (s s' : Stage) : Prop where
  config : s'.config = s.config
  calls : s'.toolkit.calls =
    s.toolkit.calls ++ [.mouse o action info.x info.y info.timestamp]
  inputs : ∀ k hd', s'.handles.find? k = some hd' → ∃ hd, s.handles.find? k = some hd ∧
    hd'.input = if k = h then hd.input.after action else hd.input

/-- A pointer event that is not stale is told, and its action follows for the handle. -/
theorem told_of_fresh (ha : s.address h none = .ok target)
    (hdecode : InputEvent.decode raw info.actionType = .ok (.mouse action))
    (hfresh : target.handle.input.isStale info.timestamp now = false) :
    Told h target.object action info s (s.feedEvent now h raw info).2 := by
  rw [feedEvent_pointer ha hdecode]
  dsimp only
  rw [if_neg (Bool.eq_false_iff.1 hfresh)]
  refine ⟨rfl, rfl, fun k hd' hf' => ?_⟩
  rw [withToolkit, modifyHandle, Table.find?_modify] at hf'
  split at hf'
  · next hk =>
    obtain ⟨hd, hf, rfl⟩ := Option.map_eq_some_iff.1 hf'
    have hown := hk ▸ hf
    rw [(address_eq_ok_iff.1 ha).1, Option.some.injEq] at hown
    exact ⟨hd, hf, by rw [if_pos hk, hown]⟩
  · next hk => exact ⟨hd', hf', (if_neg hk).symm⟩

/-- What the toolkit is told is delivered to the root of the handle, and to no other one. -/
theorem Separate.delivered_of_told (hsep : s.Separate) (hs : s.Consistent)
    (ha : s.address h none = .ok target)
    (htold : Told h target.object action info s (s.turn t).2) (k : Nat) :
    s.delivered k t = if k = h then [action] else [] := by
  have hduring : s.callsDuring t =
      [.mouse target.object action info.x info.y info.timestamp] := by
    rw [callsDuring, htold.calls, List.drop_left]
  have hown : s.rootObject? h = some target.object := by
    obtain ⟨hf, hfind, ho⟩ := address_eq_ok_iff.1 ha
    rw [rootObject?, hf, Option.bind_some, Handle.rootObject?, Handle.root?, hfind,
      Option.bind_some, ho]
  rw [delivered, hduring]
  split
  · next o ho =>
    rw [List.filterMap_cons, ToolkitCall.pointerAction?]
    by_cases hk : k = h
    · rw [hk, hown, Option.some.injEq] at ho
      rw [if_pos ho, if_pos hk]
      rfl
    · have hne : target.object ≠ o := by
        rintro rfl
        exact hk (hsep.eq_target_of_rootOf hs ha (hs.rootObject?_eq_some_iff.1 ho))
      rw [if_neg hne, if_neg hk]
      rfl
  · next hnone =>
    rw [if_neg]
    rintro rfl
    rw [hown] at hnone
    cases hnone

end Pointer

/-! ### The state of the pointer -/

/-- What a turn is to the pointer. -/
inductive PointerTurn (s : Stage) (t : Turn) : Prop where
  /-- The turn has nothing to do with the pointer. -/
  | quiet (hquiet : Quiet s (s.turn t).2)
  /-- A handle is made, with no button held. -/
  | made {hd : Handle} (config : (s.turn t).2.config = s.config)
      (calls : (s.turn t).2.toolkit.calls = s.toolkit.calls)
      (handles : (s.turn t).2.handles = s.handles.insert s.nextHandle hd)
      (input : hd.input = .start s.config.staleWindow)
  /-- A pointer event is delivered. -/
  | told {w : Surroundings} {h : Nat} {raw : UInt32} {info : EventInfo} {target : Target}
      {action : MouseAction} (event : t = .command w (.event h raw info))
      (address : s.address h none = .ok target)
      (decode : InputEvent.decode raw info.actionType = .ok (.mouse action))
      (htold : Told h target.object action info s (s.turn t).2)

/-- Creating a handle is quiet if it fails. -/
theorem pointerTurn_create (w : Surroundings) (path group : String) (size : Size) :
    PointerTurn s (.command w (.create path group size)) := by
  have hturn : (s.turn (.command w (.create path group size))).2 =
      (s.create w.files path group size).2 := by
    rw [turn, run, answering_snd]
  cases hr : (s.create w.files path group size).1 with
  | error e =>
      refine .quiet ?_
      rw [hturn, (create_of_error hr).2]
      exact quiet_self s
  | ok n =>
      obtain ⟨node, g, -, hnew⟩ := create_of_ok hr
      rw [hnew] at hturn
      refine .made (by rw [hturn]) ?_ (by rw [hturn]) rfl
      rw [hturn]
      dsimp only [fitToBuffer]
      split <;> rfl

/-- An event is quiet if it is stale, or about something else than the pointer. -/
theorem pointerTurn_event (w : Surroundings) (h : Nat) (raw : UInt32) (info : EventInfo) :
    PointerTurn s (.command w (.event h raw info)) := by
  have hturn : (s.turn (.command w (.event h raw info))).2 =
      (s.feedEvent (w.clock 0) h raw info).2 := by
    rw [turn, run, answering_snd]
  by_cases hpointer : ∃ target action, s.address h none = .ok target ∧
      InputEvent.decode raw info.actionType = .ok (.mouse action)
  · obtain ⟨target, action, ha, hdecode⟩ := hpointer
    cases hstale : target.handle.input.isStale info.timestamp (w.clock 0) with
    | true => exact .quiet (hturn ▸ quiet_of_stale ha hdecode hstale)
    | false => exact .told rfl ha hdecode (hturn ▸ told_of_fresh ha hdecode hstale)
  · refine .quiet (hturn ▸ quiet_feedEvent fun target ha action hdecode => ?_)
    exact hpointer ⟨target, action, ha, hdecode⟩

/-- Every turn is one of the three to the pointer. -/
theorem pointerTurn_cases (s : Stage) (t : Turn) : PointerTurn s t := by
  cases t with
  | command w c =>
      by_cases hcreate : ∃ path group size, c = .create path group size
      · obtain ⟨path, group, size, rfl⟩ := hcreate
        exact pointerTurn_create w path group size
      by_cases hevent : ∃ h raw info, c = .event h raw info
      · obtain ⟨h, raw, info, rfl⟩ := hevent
        exact pointerTurn_event w h raw info
      · refine .quiet (quiet_run w c ?_ ?_)
        · exact fun path group size hc => hcreate ⟨path, group, size, hc⟩
        · exact fun h raw info hc => hevent ⟨h, raw, info, hc⟩
  | behave b => exact .quiet (quiet_of_handles_eq rfl rfl rfl)
  | busy h busy => exact .quiet (quiet_modifyHandle fun _ _ => rfl)
  | delete o => exact .quiet (quiet_of_handles_eq rfl rfl rfl)

/-- Where no call was added, there was none during the turn. -/
theorem callsDuring_of_calls_eq (hcalls : (s.turn t).2.toolkit.calls = s.toolkit.calls) :
    s.callsDuring t = [] := by
  rw [callsDuring, hcalls, List.drop_length]

/-- Where no call was added, nothing was delivered. -/
theorem delivered_of_calls_eq (hcalls : (s.turn t).2.toolkit.calls = s.toolkit.calls) (h : Nat) :
    s.delivered h t = [] := by
  rw [delivered, callsDuring_of_calls_eq hcalls]
  split <;> rfl

/-- Only a pointer event for the handle is delivered to its root. -/
theorem Separate.exists_event_of_delivered (hsep : s.Separate) (hs : s.Consistent)
    (hne : s.delivered h t ≠ []) : ∃ w raw info action, t = .command w (.event h raw info) ∧
      InputEvent.decode raw info.actionType = .ok (.mouse action) ∧
        s.delivered h t = [action] := by
  cases pointerTurn_cases s t with
  | quiet hquiet => exact absurd (hquiet.delivered_eq_nil h) hne
  | made config calls handles input => exact absurd (delivered_of_calls_eq calls h) hne
  | told event address decode htold =>
      rw [hsep.delivered_of_told hs address htold] at hne ⊢
      split at hne
      · next hk => exact ⟨_, _, _, _, hk ▸ event, decode, if_pos hk⟩
      · exact absurd rfl hne

/-- The state of the pointer follows what is delivered. -/
theorem Separate.input_turn {hd' : Handle} (hsep : s.Separate) (hs : s.Consistent)
    (hf' : (s.turn t).2.handles.find? k = some hd') :
    (∃ hd, s.handles.find? k = some hd ∧
      hd'.input = (s.delivered k t).foldl StalenessFilter.after hd.input) ∨
    (k = s.nextHandle ∧ hd'.input = .start s.config.staleWindow) := by
  cases pointerTurn_cases s t with
  | quiet hquiet =>
      rw [hquiet.delivered_eq_nil]
      exact .inl (hquiet.inputs k hd' hf')
  | made config calls handles input =>
      rw [delivered_of_calls_eq calls]
      rw [handles, Table.find?_insert] at hf'
      split at hf'
      · next hk =>
        cases hf'
        exact .inr ⟨hk, input⟩
      · exact .inl ⟨hd', hf', rfl⟩
  | told event address decode htold =>
      obtain ⟨hd, hf, hinput⟩ := htold.inputs k hd' hf'
      refine .inl ⟨hd, hf, ?_⟩
      rw [hinput, hsep.delivered_of_told hs address htold]
      split <;> rfl

/-- No turn changes the configuration. -/
theorem config_turn (s : Stage) (t : Turn) : (s.turn t).2.config = s.config := by
  cases pointerTurn_cases s t with
  | quiet hquiet => exact hquiet.config
  | made config calls handles input => exact config
  | told event address decode htold => exact htold.config

/-- No turn takes a number back. -/
theorem Consistent.nextHandle_turn (hs : s.Consistent) (t : Turn) :
    s.nextHandle ≤ (s.turn t).2.nextHandle := by
  have hm := hs.shifts_turn t
  generalize (s.turn t).2 = s' at hm
  induction hm with
  | refl => exact Nat.le_refl _
  | tail _ hshift ih => exact Nat.le_trans ih hshift.nextHandle_le

/-- The pointers of a stage have gone where they were led by what was delivered. -/
structure Led (config : Config) (past : Nat → List MouseAction) (s : Stage) : Prop where
  settings : s.config = config
  inputs : ∀ k hd, s.handles.find? k = some hd →
    hd.input = (past k).foldl StalenessFilter.after (.start config.staleWindow)
  /-- Nothing was delivered to handles that are not made yet. -/
  unborn : ∀ k, s.nextHandle ≤ k → past k = []

/-- One turn leads the pointers on. -/
theorem Led.turn {config : Config} {past : Nat → List MouseAction} (hled : s.Led config past)
    (hs : s.Consistent) (hsep : s.Separate) (t : Turn) :
    (s.turn t).2.Led config fun k => past k ++ s.delivered k t := by
  have hunborn : ∀ k, s.nextHandle ≤ k → s.handles.find? k = none := by
    intro k hk
    cases hf : s.handles.find? k with
    | none => rfl
    | some hd => exact absurd (hs.numbered k _ (graph?_of_find hf)) (Nat.not_lt.2 hk)
  have hnext := hs.nextHandle_turn t
  refine ⟨(config_turn s t).trans hled.settings, fun k hd' hf' => ?_, fun k hk => ?_⟩
  · rw [List.foldl_append]
    rcases hsep.input_turn hs hf' with ⟨hd, hf, hinput⟩ | ⟨rfl, hinput⟩
    · rw [hinput, hled.inputs k hd hf]
    · have hnone := hunborn _ (Nat.le_refl _)
      rw [hinput, hled.unborn _ (Nat.le_refl _), delivered_of_not_loaded hnone, hled.settings]
      rfl
  · have hk := Nat.le_trans hnext hk
    rw [hled.unborn k hk, delivered_of_not_loaded (hunborn k hk), List.append_nil]

/-- A root that is alive is found. -/
theorem Consistent.target_of_alive {hd : Handle} {n : NodeId} (hs : s.Consistent)
    (hf : s.handles.find? h = some hd) (hl : hd.graph.lifecycle n = .alive)
    (hid : hd.graph.id? n = none) (ho : hd.graph.object? n = some o) :
    ∃ target, s.address h none = .ok target ∧ target.handle = hd ∧ target.object = o := by
  obtain ⟨target, ha⟩ := hs.exists_address_iff.2 ⟨hd, n, hf, hl, hid⟩
  have hn := (hs.wellFormed_of_find hf).nodeOf?_eq_some_iff.2 ⟨hl, ho⟩
  refine ⟨target, ha, ?_, (hs.eq_target_of_rootOf ha ⟨_, graph?_of_find hf, n, hn, hid⟩).symm⟩
  exact Option.some.inj ((address_eq_ok_iff.1 ha).1.symm.trans hf)

/-- A pointer event for a root that is alive is answered as done. The root is told of it unless it
is stale. -/
theorem Separate.pointer_event {hd : Handle} {n : NodeId} {raw : UInt32} {info : EventInfo}
    {action : MouseAction} (hsep : s.Separate) (hs : s.Consistent)
    (hf : s.handles.find? h = some hd) (hl : hd.graph.lifecycle n = .alive)
    (hid : hd.graph.id? n = none) (ho : hd.graph.object? n = some o) (w : Surroundings)
    (hdecode : InputEvent.decode raw info.actionType = .ok (.mouse action)) :
    let t := .command w (.event h raw info)
    let stale := hd.input.isStale info.timestamp (w.clock 0)
    (s.turn t).1 = some (.ok (.event .done)) ∧
      (stale = true → s.callsDuring t = [] ∧ s.delivered h t = []) ∧
      (stale = false → s.callsDuring t = [.mouse o action info.x info.y info.timestamp] ∧
        s.delivered h t = [action]) := by
  intro t stale
  obtain ⟨target, ha, rfl, rfl⟩ := hs.target_of_alive hf hl hid ho
  have hturn : s.turn t = (some (.ok (.event .done)), (s.feedEvent (w.clock 0) h raw info).2) := by
    rw [turn, run, feedEvent_pointer ha hdecode]
    rfl
  refine ⟨by rw [hturn], fun hstale => ?_, fun hfresh => ?_⟩
  · have hcalls : (s.turn t).2.toolkit.calls = s.toolkit.calls := by
      rw [hturn, feedEvent_pointer ha hdecode]
      dsimp only
      rw [if_pos hstale]
      rfl
    exact ⟨callsDuring_of_calls_eq hcalls, delivered_of_calls_eq hcalls h⟩
  · have htold : Told h target.object action info s (s.turn t).2 := by
      rw [hturn]
      exact told_of_fresh ha hdecode hfresh
    rw [hsep.delivered_of_told hs ha htold, if_pos rfl, callsDuring, htold.calls, List.drop_left]
    exact ⟨rfl, rfl⟩

section Play

variable (order : DestroyOrder) (config : Config) (castsShadows : Bool) (turns : List Turn)

/-- After every play from an empty stage, the pointers are where they were led. -/
theorem led_play : ((start (.start order) config castsShadows).play turns).Led config
    fun h => deliveries h (start (.start order) config castsShadows) turns := by
  induction turns using List.reverseRecOn with
  | nil => exact ⟨rfl, nofun, fun _ _ => rfl⟩
  | append_singleton turns t ih =>
      have hs := consistent_play order config castsShadows turns
      have hsep := separate_play order config castsShadows turns
      have hlast : (start (.start order) config castsShadows).play (turns ++ [t]) =
          (((start (.start order) config castsShadows).play turns).turn t).2 := play_append ..
      rw [hlast]
      simpa only [deliveries_append, deliveries, List.append_nil] using ih.turn hs hsep t

/-- After every play, of every handle: the state of its pointer says that a button is held if and
only if the last press or release that was delivered to its root is a press. A pointer event for
an alive root is answered as done; it is withheld from the toolkit if and only if no button is held
and it comes later than the window permits, a time stamp in the future being no delay. Nothing else
is delivered to the root, and where nothing is delivered the state of the pointer stays what it was:
events that are withheld, malformed, about keys or accessibility or for another handle are such.
Hence a press is followed by everything up to and including the next release, however late. -/
theorem presses_never_dangle (h : Nat) :
    let start := start (.start order) config castsShadows
    let s := start.play turns
    let past := deliveries h start turns
    (∀ hd, s.handles.find? h = some hd → hd.input.window = config.staleWindow ∧
      (hd.input.latched = true ↔ Pressed past)) ∧
    (∀ hd n o w raw info action, s.handles.find? h = some hd → hd.graph.lifecycle n = .alive →
      hd.graph.id? n = none → hd.graph.object? n = some o →
      InputEvent.decode raw info.actionType = .ok (.mouse action) →
        let t := .command w (.event h raw info)
        let withheld := ¬ Pressed past ∧
          config.staleWindow.nanos < (w.clock 0).nanos - info.timestamp.nanos
        (s.turn t).1 = some (.ok (.event .done)) ∧
          (withheld → s.callsDuring t = [] ∧ s.delivered h t = []) ∧
          (¬ withheld → s.callsDuring t = [.mouse o action info.x info.y info.timestamp] ∧
            s.delivered h t = [action])) ∧
    (∀ t, s.delivered h t ≠ [] → ∃ w raw info action, t = .command w (.event h raw info) ∧
      InputEvent.decode raw info.actionType = .ok (.mouse action) ∧
        s.delivered h t = [action]) ∧
    (∀ t hd hd', s.handles.find? h = some hd → (s.turn t).2.handles.find? h = some hd' →
      s.delivered h t = [] → hd'.input = hd.input) ∧
    (∀ before t after, turns = before ++ t :: after →
      let later := deliveries h ((start.play before).turn t).2 after
      ((start.play before).delivered h t = [.down] → .up ∉ later → Pressed past) ∧
        ((start.play before).delivered h t = [.up] → .down ∉ later → ¬ Pressed past)) := by
  intro start s past
  have hs : s.Consistent := consistent_play order config castsShadows turns
  have hsep : s.Separate := separate_play order config castsShadows turns
  have hled : s.Led config fun h => deliveries h start turns :=
    led_play order config castsShadows turns
  have hlatch : ∀ hd, s.handles.find? h = some hd → hd.input.window = config.staleWindow ∧
      (hd.input.latched = true ↔ Pressed past) := by
    intro hd hf
    rw [hled.inputs h hd hf, StalenessFilter.latched_foldl_start, StalenessFilter.window_foldl]
    exact ⟨rfl, .rfl⟩
  refine ⟨hlatch, ?event, fun t hne => hsep.exists_event_of_delivered hs hne, ?still, ?between⟩
  case event =>
    intro hd n o w raw info action hf hl hid ho hdecode t withheld
    obtain ⟨hwindow, hpressed⟩ := hlatch hd hf
    have hstale : hd.input.isStale info.timestamp (w.clock 0) = true ↔ withheld := by
      rw [StalenessFilter.isStale, hwindow, Bool.and_eq_true, Bool.not_eq_true',
        ← Bool.not_eq_true, hpressed, decide_eq_true_iff]
      rfl
    obtain ⟨hdone, hlate, hfresh⟩ := hsep.pointer_event hs hf hl hid ho w hdecode
    exact ⟨hdone, fun h => hlate (hstale.2 h),
      fun h => hfresh (Bool.eq_false_iff.2 (mt hstale.1 h))⟩
  case still =>
    intro t hd hd' hf hf' hnone
    rcases hsep.input_turn hs hf' with ⟨hd₁, hf₁, hinput⟩ | ⟨rfl, -⟩
    · rw [hf, Option.some.injEq] at hf₁
      rw [hinput, hnone, hf₁]
      rfl
    · exact absurd (hs.numbered _ _ (graph?_of_find hf)) (Nat.lt_irrefl _)
  case between =>
    rintro before t after rfl later
    have hpast : past = deliveries h start before ++ ((start.play before).delivered h t ++ later) :=
      deliveries_append ..
    rw [hpast]
    refine ⟨fun hdown hup => ?_, fun hup hdown => ?_⟩
    · rw [hdown]
      exact pressed_of_not_released hup
    · rw [hup]
      exact not_pressed_of_released hdown

/-- What comes late is delivered between the press and the release, and not after it. -/
example :
    let around now : Surroundings :=
      ⟨Files.empty.write "rows.edj" (.text ""), fun _ => .ofMillis now⟩
    let event now (raw : UInt32) : Turn :=
      .command (around now) (.event 1 raw (.pointer 0 0 (.ofMillis 1000)))
    deliveries 1 (.start (.start .parentFirst) .standard false)
      [.command (around 0) (.create "rows.edj" "main" ⟨0, 0⟩), event 5000 0x02000001,
        event 1000 0x02000001, event 5000 0x02000003, event 5000 0x02000002,
        event 5000 0x02000003] = [.down, .move, .up] := by
  decide

end Play

end Stage

end WidgetStage
