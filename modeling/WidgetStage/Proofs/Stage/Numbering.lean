import Mathlib.Data.List.Nodup
import WidgetStage.Proofs.Stage.Failures
import WidgetStage.Proofs.Stage.Presses

/-!
# Numbers of handles

The handles of a stage are numbered in the order in which they are made, and a number is not used
again. So which handles are loaded can be read off what was made and unloaded so far, without
looking at the stage: and the counter of the stage is one more than the number of handles made.

Every turn makes a handle, unloads one or leaves the handles as they are, as far as their numbers
are concerned. What a refused command has begun, or a report has changed, is within the handles.

## Main results

* `collect`: what is found in the turns of a play, in order.
* `handleTurn`: what a turn does to the numbers.
* `create_cases`: when a handle is made, and what is answered otherwise.
* `run_create_eq_ok_iff`, `run_create_of_error`, `run_create_of_exhausted`: the answers to the
  command that makes a handle.
* `Numbered.turn`, `numbered_play`: the counter and the loaded handles follow what was made and
  unloaded, throughout every play.
* `nextHandle_le_play`, `not_loaded_play`: no number is used again.
-/

namespace WidgetStage.Stage

open Relation (ReflTransGen)

/-- The number of the handle that a turn makes, if it makes one. -/
def made? (s : Stage) : Turn → Option Nat
  | .command w (.create path group size) =>
    match (s.run w (.create path group size)).1 with
    | .ok (.handle h) => some h
    | _ => none
  | _ => none

/-- The number of the handle that a turn unloads, if it unloads one. -/
def unloaded? (s : Stage) : Turn → Option Nat
  | .command w (.destroy h) =>
    match (s.run w (.destroy h)).1 with
    | .ok _ => some h
    | .error _ => none
  | _ => none

/-- What is found in the turns of a play, in order. -/
def collect {α : Type} (f : Stage → Turn → Option α) : Stage → List Turn → List α
  | _, [] => []
  | s, t :: turns => (f s t).toList ++ collect f (s.turn t).2 turns

/-- A handle with this number is loaded. -/
def Loaded (s : Stage) (h : Nat) : Prop :=
  (s.handles.find? h).isSome = true

variable {s s' s'' : Stage} {h k : Nat} {t : Turn} {made unloaded : List Nat}

/-- What is found in a play is found in its first part, or in the rest from there on. -/
theorem collect_append {α : Type} (f : Stage → Turn → Option α) (s : Stage)
    (turns turns' : List Turn) :
    collect f s (turns ++ turns') = collect f s turns ++ collect f (s.play turns) turns' := by
  induction turns generalizing s with
  | nil => rfl
  | cons t turns ih =>
      rw [List.cons_append, collect, ih, collect, List.append_assoc]
      rfl

/-- Handles that are not loaded are not found. -/
theorem not_loaded_iff : ¬ s.Loaded h ↔ s.handles.find? h = none := by
  rw [Loaded, Bool.not_eq_true, Option.isSome_eq_false_iff, Option.isNone_iff_eq_none]

/-! ### Turns that keep the numbers -/

/-- The counter stays, and the same handles are loaded. -/
structure SameNumbers (s s' : Stage) : Prop where
  nextHandle : s'.nextHandle = s.nextHandle
  loaded : ∀ k, s'.Loaded k ↔ s.Loaded k

/-- Where nothing happens, the numbers stay. -/
theorem sameNumbers_self (s : Stage) : SameNumbers s s :=
  ⟨rfl, fun _ => Iff.rfl⟩

/-- Numbers that stay twice stay. -/
theorem SameNumbers.trans (h : SameNumbers s s') (h' : SameNumbers s' s'') :
    SameNumbers s s'' :=
  ⟨h'.nextHandle.trans h.nextHandle, fun k => (h'.loaded k).trans (h.loaded k)⟩

/-- The toolkit knows nothing of the numbers of handles. -/
theorem sameNumbers_withToolkit (t : Toolkit) : SameNumbers s (s.withToolkit t) :=
  ⟨rfl, fun _ => Iff.rfl⟩

/-- Changing a handle neither loads nor unloads it. -/
theorem sameNumbers_modifyHandle (h : Nat) (f : Handle → Handle) :
    SameNumbers s (s.modifyHandle h f) := by
  refine ⟨rfl, fun k => ?_⟩
  rw [Loaded, modifyHandle, Table.find?_modify, Loaded]
  split
  · rw [Option.isSome_map]
  · rfl

/-- New content is put into handles that are loaded. -/
theorem sameNumbers_of_exchanges (he : ReflTransGen Exchange s s') : SameNumbers s s' := by
  induction he with
  | refl => exact sameNumbers_self s
  | tail _ hlast ih =>
      refine ih.trans ?_
      cases hlast with
      | track h f => exact sameNumbers_modifyHandle h _
      | note ids shadows => exact ⟨rfl, fun _ => Iff.rfl⟩
      | _ => exact sameNumbers_withToolkit _

/-- Touches concern handles that are loaded. -/
theorem sameNumbers_of_touches {mine : ObjectId → Prop} (ht : ReflTransGen (Touch mine h) s s') :
    SameNumbers s s' := by
  induction ht with
  | refl => exact sameNumbers_self s
  | tail _ hlast ih =>
      refine ih.trans ?_
      cases hlast with
      | handle graph => exact sameNumbers_modifyHandle h _
      | _ => exact sameNumbers_withToolkit _

/-- A report, even about a root, does not unload a handle. -/
theorem sameNumbers_objectDestroyed (h : Nat) (o : ObjectId) :
    SameNumbers s (s.objectDestroyed h o).2 := by
  rw [objectDestroyed]
  split
  · exact sameNumbers_self s
  · exact sameNumbers_modifyHandle h _

/-- A command that neither makes nor unloads a handle. -/
theorem sameNumbers_run (w : Surroundings) (c : Command)
    (hcreate : ∀ path group size, c ≠ .create path group size) (hdestroy : ∀ h, c ≠ .destroy h) :
    SameNumbers s (s.run w c).2 := by
  cases c with
  | create path group size => exact absurd rfl (hcreate path group size)
  | destroy h => exact absurd rfl (hdestroy h)
  | objectDestroyed h o =>
      rw [run, answering_snd]
      exact sameNumbers_objectDestroyed h o
  | image h id part path option =>
      rw [run, answering_snd]
      exact sameNumbers_of_exchanges (exchanges_updateImage w.files h id part path option)
  | script h source wanted part path group =>
      exact sameNumbers_of_exchanges (exchanges_updateScript w h source wanted part path group)
  | _ => exact sameNumbers_of_touches (run_touches rfl)

/-! ### Turns that make or unload a handle -/

/-- When a handle is made, and what is answered otherwise. Nothing else is looked at once there are
no numbers left. -/
theorem create_cases (s : Stage) (files : Files) (path group : String) (size : Size) :
    (handleBound ≤ s.nextHandle ∧
      s.create files path group size = (.error (.fault "handle ids exhausted"), s)) ∨
    (s.nextHandle < handleBound ∧
      ((files.isReadable path = true ∧ s.toolkit.loadFailure = none) ∧
          (s.create files path group size).1 = .ok s.nextHandle ∨
        ¬ (files.isReadable path = true ∧ s.toolkit.loadFailure = none) ∧
          ∃ e, s.create files path group size = (.error e, s))) := by
  rw [create]
  by_cases hbound : handleBound ≤ s.nextHandle
  · exact Or.inl ⟨hbound, if_pos hbound⟩
  refine Or.inr ⟨Nat.lt_of_not_le hbound, ?_⟩
  rw [if_neg hbound]
  cases hread : files.isReadable path with
  | false => exact Or.inr ⟨by simp, _, rfl⟩
  | true =>
      rw [Toolkit.loadLayout]
      cases hfail : s.toolkit.loadFailure with
      | some e => exact Or.inr ⟨by simp, _, rfl⟩
      | none => exact Or.inl ⟨⟨rfl, rfl⟩, rfl⟩

section Creating

variable {w : Surroundings} {path group : String} {size : Size}

/-- A handle is made if and only if there is a number left for it, the file can be opened and the
toolkit does not fail. -/
theorem run_create_eq_ok_iff {a : Answer} :
    (s.run w (.create path group size)).1 = .ok a ↔
      a = .handle s.nextHandle ∧ s.nextHandle < handleBound ∧
        w.files.isReadable path = true ∧ s.toolkit.loadFailure = none := by
  rw [run]
  rcases create_cases s w.files path group size with
    ⟨hbound, heq⟩ | ⟨hleft, ⟨hable, hok⟩ | ⟨hunable, e, heq⟩⟩
  · rw [heq]
    exact iff_of_false (by simp [answering]) fun ha => Nat.not_lt_of_le hbound ha.2.1
  · generalize s.create w.files path group size = created at hok
    obtain ⟨_, s'⟩ := created
    cases hok
    rw [and_iff_left ⟨hleft, hable⟩]
    exact ⟨fun ha => (Except.ok.inj ha).symm, fun ha => congrArg Except.ok ha.symm⟩
  · rw [heq]
    exact iff_of_false (by simp [answering]) fun ha => hunable ha.2.2

/-- An attempt to make a handle that fails leaves nothing behind. -/
theorem run_create_of_error {f : Failure}
    (hf : (s.run w (.create path group size)).1 = .error f) :
    (s.run w (.create path group size)).2 = s := by
  rw [run] at hf ⊢
  obtain ⟨e, -, he⟩ := eq_error_of_answering hf
  rw [answering_snd]
  rcases create_cases s w.files path group size with ⟨-, heq⟩ | ⟨-, ⟨-, hok⟩ | ⟨-, e', heq⟩⟩
  · rw [heq]
  · rw [hok] at he
    cases he
  · rw [heq]

/-- Without a number left, no file is opened and nothing is loaded. -/
theorem run_create_of_exhausted (hbound : handleBound ≤ s.nextHandle) :
    s.run w (.create path group size) =
      (.error (.refused (.fault "handle ids exhausted")), s) := by
  rw [run]
  rcases create_cases s w.files path group size with ⟨-, heq⟩ | ⟨hleft, -⟩
  · rw [heq]
    rfl
  · exact absurd hleft (Nat.not_lt_of_le hbound)

end Creating

/-- What a turn does to the numbers of handles. -/
inductive HandleTurn (s s' : Stage) : Option Nat → Option Nat → Prop where
  | made (left : s.nextHandle < handleBound) (nextHandle : s'.nextHandle = s.nextHandle + 1)
      (loaded : ∀ k, s'.Loaded k ↔ k = s.nextHandle ∨ s.Loaded k) :
      HandleTurn s s' (some s.nextHandle) none
  | unloaded {h : Nat} (was : s.Loaded h) (nextHandle : s'.nextHandle = s.nextHandle)
      (loaded : ∀ k, s'.Loaded k ↔ s.Loaded k ∧ k ≠ h) : HandleTurn s s' none (some h)
  | kept (same : SameNumbers s s') : HandleTurn s s' none none

/-- The number that is made is what creating answers. -/
theorem made?_create (s : Stage) (w : Surroundings) (path group : String) (size : Size) :
    s.made? (.command w (.create path group size)) =
      (s.create w.files path group size).1.toOption := by
  rw [made?, run]
  rcases s.create w.files path group size with ⟨e | n, s'⟩ <;> rfl

/-- A handle is unloaded if unloading it succeeds. -/
theorem unloaded?_destroy (s : Stage) (w : Surroundings) (h : Nat) :
    s.unloaded? (.command w (.destroy h)) = (s.destroy h).1.toOption.map fun _ => h := by
  rw [unloaded?, run]
  rcases s.destroy h with ⟨e | v, s'⟩ <;> rfl

theorem turn_create (s : Stage) (w : Surroundings) (path group : String) (size : Size) :
    (s.turn (.command w (.create path group size))).2 = (s.create w.files path group size).2 := by
  rw [turn, run, answering_snd]

theorem turn_destroy (s : Stage) (w : Surroundings) (h : Nat) :
    (s.turn (.command w (.destroy h))).2 = (s.destroy h).2 := by
  rw [turn, run, answering_snd]

theorem turn_objectDestroyed (s : Stage) (w : Surroundings) (h : Nat) (o : ObjectId) :
    (s.turn (.command w (.objectDestroyed h o))).2 = (s.objectDestroyed h o).2 := by
  rw [turn, run, answering_snd]

/-- Creating makes the next number, or fails and keeps the numbers. -/
theorem handleTurn_create (w : Surroundings) (path group : String) (size : Size) :
    let t := Turn.command w (.create path group size)
    HandleTurn s (s.turn t).2 (s.made? t) (s.unloaded? t) := by
  intro t
  rw [turn_create, made?_create]
  rcases create_cases s w.files path group size with ⟨-, heq⟩ | ⟨hleft, ⟨-, hok⟩ | ⟨-, e, heq⟩⟩
  · rw [heq]
    exact .kept (sameNumbers_self s)
  · obtain ⟨node, g, -, hnew⟩ := create_of_ok hok
    rw [hok, hnew]
    refine .made hleft rfl fun k => ?_
    rw [Loaded, Table.find?_insert, Loaded]
    split
    · next hk => exact iff_of_true rfl (Or.inl hk)
    · next hk => exact (or_iff_right hk).symm
  · rw [heq]
    exact .kept (sameNumbers_self s)

/-- Unloading needs a handle that is loaded, and leaves the others. -/
theorem handleTurn_destroy (w : Surroundings) (h : Nat) :
    let t := Turn.command w (.destroy h)
    HandleTurn s (s.turn t).2 (s.made? t) (s.unloaded? t) := by
  intro t
  rw [turn_destroy, unloaded?_destroy, destroy, lookup]
  cases hf : s.handles.find? h with
  | none => exact .kept (sameNumbers_self s)
  | some hd =>
      refine .unloaded (by rw [Loaded, hf]; rfl) rfl fun k => ?_
      rw [Loaded, Table.find?_erase, Loaded]
      split
      · next hk => exact iff_of_false Bool.false_ne_true fun hkept => hkept.2 hk
      · next hk => exact (and_iff_left hk).symm

/-- Every turn makes a handle, unloads one, or keeps the numbers. -/
theorem handleTurn (s : Stage) (t : Turn) :
    HandleTurn s (s.turn t).2 (s.made? t) (s.unloaded? t) := by
  cases t with
  | behave b => exact .kept (sameNumbers_withToolkit _)
  | busy h busy => exact .kept (sameNumbers_modifyHandle h _)
  | delete o => exact .kept (sameNumbers_withToolkit _)
  | command w c =>
      have hother : (∀ path group size, c ≠ .create path group size) → (∀ h, c ≠ .destroy h) →
          SameNumbers s (s.turn (.command w c)).2 := sameNumbers_run w c
      cases c with
      | create path group size => exact handleTurn_create w path group size
      | destroy h => exact handleTurn_destroy w h
      | _ => exact .kept (hother (by simp) (by simp))

/-- A handle that is made has the next number. -/
theorem eq_nextHandle_of_made (ht : s.made? t = some h) : h = s.nextHandle := by
  have hturn := handleTurn s t
  rw [ht] at hturn
  generalize s.unloaded? t = u at hturn
  cases hturn
  rfl

/-! ### Throughout a play -/

/-- The counter and the loaded handles are what they have to be after handles with these numbers
were made and unloaded. -/
structure Numbered (made unloaded : List Nat) (s : Stage) : Prop where
  sequence : made = List.range' 1 made.length
  counter : s.nextHandle = made.length + 1
  bound : made.length < handleBound
  loaded : ∀ k, s.Loaded k ↔ k ∈ made ∧ k ∉ unloaded
  once : unloaded.Nodup
  covered : ∀ k ∈ unloaded, k ∈ made

namespace Numbered

/-- No number is made beyond the count of those that are made. -/
theorem le_length (hn : Numbered made unloaded s) (hk : k ∈ made) : k ≤ made.length := by
  rw [hn.sequence, List.mem_range'_1] at hk
  omega

/-- The next number is made by a turn that loads a handle under it. -/
theorem make (hn : Numbered made unloaded s) (hleft : s.nextHandle < handleBound)
    (hnext : s'.nextHandle = s.nextHandle + 1)
    (hloaded : ∀ k, s'.Loaded k ↔ k = s.nextHandle ∨ s.Loaded k) :
    Numbered (made ++ [s.nextHandle]) unloaded s' := by
  have hnew : s.nextHandle ∉ made := fun hmem => by
    have hle := hn.le_length hmem
    have hcounter := hn.counter
    omega
  have hlength : (made ++ [s.nextHandle]).length = made.length + 1 := by
    rw [List.length_append, List.length_singleton]
  refine ⟨?_, ?_, ?_, fun k => ?_, hn.once, fun k hk => ?_⟩
  · rw [hlength, List.range'_concat, ← hn.sequence, hn.counter, Nat.one_mul, Nat.add_comm 1]
  · rw [hnext, hlength, hn.counter]
  · rw [hlength, ← hn.counter]
    exact hleft
  · rw [hloaded, hn.loaded, List.mem_append, List.mem_singleton]
    constructor
    · rintro (rfl | ⟨hmade, hkept⟩)
      · exact ⟨Or.inr rfl, fun hk => hnew (hn.covered _ hk)⟩
      · exact ⟨Or.inl hmade, hkept⟩
    · rintro ⟨hmade | rfl, hkept⟩
      · exact Or.inr ⟨hmade, hkept⟩
      · exact Or.inl rfl
  · exact List.mem_append_left _ (hn.covered k hk)

/-- A loaded handle was made and not unloaded before, so that it is unloaded once. -/
theorem unload (hn : Numbered made unloaded s) (hwas : s.Loaded h)
    (hnext : s'.nextHandle = s.nextHandle)
    (hloaded : ∀ k, s'.Loaded k ↔ s.Loaded k ∧ k ≠ h) :
    Numbered made (unloaded ++ [h]) s' := by
  obtain ⟨hmade, hkept⟩ := (hn.loaded h).1 hwas
  refine ⟨hn.sequence, hnext.trans hn.counter, hn.bound, fun k => ?_, ?_, fun k hk => ?_⟩
  · rw [hloaded, hn.loaded, List.mem_append, List.mem_singleton, not_or, and_assoc]
  · exact List.nodup_append.2 ⟨hn.once, List.nodup_singleton h, fun a ha b hb hab =>
      hkept (List.mem_singleton.1 hb ▸ hab ▸ ha)⟩
  · rcases List.mem_append.1 hk with hk | hk
    · exact hn.covered k hk
    · exact List.mem_singleton.1 hk ▸ hmade

/-- A turn that keeps the numbers makes and unloads nothing. -/
theorem keep (hn : Numbered made unloaded s) (hsame : SameNumbers s s') :
    Numbered made unloaded s' :=
  ⟨hn.sequence, hsame.nextHandle.trans hn.counter, hn.bound,
    fun k => (hsame.loaded k).trans (hn.loaded k), hn.once, hn.covered⟩

/-- Every turn adds what it makes and unloads to what was made and unloaded. -/
theorem turn (hn : Numbered made unloaded s) (t : Turn) :
    Numbered (made ++ (s.made? t).toList) (unloaded ++ (s.unloaded? t).toList) (s.turn t).2 := by
  have hturn := handleTurn s t
  generalize (s.turn t).2 = s', s.made? t = m, s.unloaded? t = u at hturn ⊢
  cases hturn with
  | made left nextHandle loaded =>
      simpa using hn.make left nextHandle loaded
  | unloaded was nextHandle loaded =>
      simpa using hn.unload was nextHandle loaded
  | kept same =>
      simpa using hn.keep same

end Numbered

variable (order : DestroyOrder) (config : Config) (castsShadows : Bool) (turns : List Turn)

/-- After every play from an empty stage. -/
theorem numbered_play :
    Numbered (collect made? (start (.start order) config castsShadows) turns)
      (collect unloaded? (start (.start order) config castsShadows) turns)
      ((start (.start order) config castsShadows).play turns) := by
  induction turns using List.reverseRecOn with
  | nil =>
      refine ⟨rfl, rfl, (by decide : 0 < handleBound), fun k => ?_, List.nodup_nil, nofun⟩
      exact iff_of_false Bool.false_ne_true fun hk => List.not_mem_nil hk.1
  | append_singleton turns t ih =>
      simp only [collect_append, collect, List.append_nil, play_append]
      exact ih.turn t

/-- The counter never goes back. -/
theorem nextHandle_le_play (later : List Turn) :
    ((start (.start order) config castsShadows).play turns).nextHandle ≤
      (((start (.start order) config castsShadows).play turns).play later).nextHandle := by
  have hlater := numbered_play order config castsShadows (turns ++ later)
  rw [collect_append made?, play_append] at hlater
  rw [(numbered_play order config castsShadows turns).counter, hlater.counter, List.length_append]
  exact Nat.succ_le_succ (Nat.le_add_right _ _)

/-- A handle that was unloaded is not loaded ever after. -/
theorem not_loaded_play {h : Nat}
    (hh : h ∈ collect unloaded? (start (.start order) config castsShadows) turns)
    (later : List Turn) :
    ¬ (((start (.start order) config castsShadows).play turns).play later).Loaded h := by
  have hlater := numbered_play order config castsShadows (turns ++ later)
  rw [collect_append unloaded?, play_append] at hlater
  exact fun hloaded => ((hlater.loaded h).1 hloaded).2 (List.mem_append_left _ hh)

end WidgetStage.Stage
