import Mathlib.Logic.Relation
import WidgetStage.Stage.Command

/-!
# Commands that only touch

Most commands neither make an object nor delete or move one. They set something about the object
that they address, make a call of the toolkit that leaves no trace on objects, or change the handle,
but not its scene graph. What such touches keep is kept by all of these commands.

## Main results

* `Touch`: the kinds of touches.
* `run_touches`: what a command that only touches makes of a stage.
-/

namespace WidgetStage

/-- The handle of a command that neither makes an object nor deletes or moves one. -/
def Command.touched? : Command → Option Nat
  | .text h _ _ _ => some h
  | .signal h _ _ _ => some h
  | .drag h _ _ _ _ => some h
  | .size h _ _ => some h
  | .category h _ _ => some h
  | .color h _ _ _ => some h
  | .event h _ _ => some h
  | .render h => some h
  | _ => none

namespace Stage

open Relation (ReflTransGen)

/-- The object is what some id of a handle addresses. -/
def Addressed (s : Stage) (h : Nat) (o : ObjectId) : Prop :=
  ∃ id target, s.address h id = .ok target ∧ target.object = o

/-- A small change that concerns some objects or a handle. -/
inductive Touch (mine : ObjectId → Prop) (h : Nat) (s : Stage) : Stage → Prop where
  /-- Something is set about an object, beside its contents. -/
  | object {o : ObjectId} (concerned : mine o) {f : ToolkitObject → ToolkitObject}
      (kind : ∀ r, (f r).kind = r.kind) (parts : ∀ r, (f r).parts = r.parts) :
      Touch mine h s (s.withToolkit (s.toolkit.modifyObject o f))
  /-- A call of the toolkit leaves no trace on objects. -/
  | call {t : Toolkit} (nextObject : t.nextObject = s.toolkit.nextObject)
      (objects : t.objects = s.toolkit.objects) : Touch mine h s (s.withToolkit t)
  /-- The handle is changed beside its scene graph. -/
  | handle {f : Handle → Handle} (graph : ∀ hd, (f hd).graph = hd.graph) :
      Touch mine h s (s.modifyHandle h f)

variable {s : Stage} {h : Nat} {id : Option String} {target : Target}

/-- An answer does not change the stage that it comes with. -/
theorem answering_snd {α : Type} (answer : α → Answer) (r : Except StageError α × Stage) :
    (answering answer r).2 = r.2 := by
  obtain ⟨e | v, s'⟩ := r
  · rfl
  · rfl

/-- What a command addresses is what some id addresses. -/
theorem addressed_of_address (ha : s.address h id = .ok target) : s.Addressed h target.object :=
  ⟨id, target, ha, rfl⟩

/-- The text is set about the object, and then its description. -/
theorem touches_updateText (h : Nat) (id : Option String) (part text : String) :
    ReflTransGen (Touch (s.Addressed h) h) s (s.updateText h id part text).2 := by
  rw [updateText]
  split
  · exact .refl
  next target ha =>
  have htext := ReflTransGen.single (Touch.object (s := s) (h := h) (addressed_of_address ha)
    (f := fun r => { r with texts := r.texts.insert part text }) (fun _ => rfl) fun _ => rfl)
  refine htext.tail (.object (addressed_of_address ha) (fun _ => ?_) fun _ => ?_)
  · split <;> rfl
  · split <;> rfl

/-- A signal is a call that leaves no trace. -/
theorem touches_updateSignal (h : Nat) (id : Option String) (part signal : String) :
    ReflTransGen (Touch (s.Addressed h) h) s (s.updateSignal h id part signal).2 := by
  rw [updateSignal]
  split
  · exact .refl
  · exact .single (.call rfl rfl)

/-- The place of a part is set about the object. -/
theorem touches_updateDrag (h : Nat) (id : Option String) (part : String) (x y : Float) :
    ReflTransGen (Touch (s.Addressed h) h) s (s.updateDrag h id part x y).2 := by
  rw [updateDrag]
  split
  · exact .refl
  next target ha =>
  exact .single (.object (addressed_of_address ha) (fun _ => rfl) fun _ => rfl)

/-- The object is resized first, and then the buffer if the object is the root. -/
theorem touches_updateSize (h : Nat) (id : Option String) (size : Size) :
    ReflTransGen (Touch (s.Addressed h) h) s (s.updateSize h id size).2 := by
  rw [updateSize]
  split
  · exact .refl
  next target ha =>
  have hresize : Touch (s.Addressed h) h s (s.withToolkit (s.toolkit.resize target.object size)) :=
    .object (addressed_of_address ha) (fun _ => rfl) fun _ => rfl
  dsimp only
  split
  · exact .single hresize
  · exact (ReflTransGen.single hresize).tail (.handle fun _ => rfl)

/-- A category is a matter of the handle. -/
theorem touches_updateCategory (h : Nat) (category : Option String) :
    ReflTransGen (Touch (s.Addressed h) h) s (s.updateCategory h category).2 := by
  rw [updateCategory]
  split
  · exact .refl
  · exact .single (.handle fun _ => rfl)

/-- Colours are set about the object if they can be read. -/
theorem touches_updateColor (h : Nat) (id : Option String) (name value : String) :
    ReflTransGen (Touch (s.Addressed h) h) s (s.updateColor h id name value).2 := by
  rw [updateColor]
  split
  · exact .refl
  next target ha =>
  split
  · exact .refl
  · exact .single (.object (addressed_of_address ha) (fun _ => rfl) fun _ => rfl)

/-- A pointer event is noted with the handle, whether it is delivered or not. -/
theorem touches_feedEvent (now : Duration) (h : Nat) (raw : UInt32) (info : EventInfo) :
    ReflTransGen (Touch (s.Addressed h) h) s (s.feedEvent now h raw info).2 := by
  rw [feedEvent]
  split
  · exact .refl
  split
  · exact .refl
  next target _ _ event _ =>
  cases event with
  | access action => exact .single (.call rfl rfl)
  | key action => exact .single (.call rfl rfl)
  | mouse action =>
      simp only [deliver]
      generalize target.handle.input.accept action info.timestamp now = accepted
      obtain ⟨fresh, input⟩ := accepted
      have hinput : Touch (s.Addressed h) h s
          (s.modifyHandle h fun hd => { hd with input := input }) := .handle fun _ => rfl
      dsimp only
      split
      · exact (ReflTransGen.single hinput).tail (.call rfl rfl)
      · exact .single hinput

/-- The buffer is released, whether something was painted or not. -/
theorem touches_render (h : Nat) :
    ReflTransGen (Touch (s.Addressed h) h) s (s.render h).2 := by
  rw [render]
  split
  · exact .refl
  split
  · exact .refl
  split
  · exact .single (.handle fun _ => rfl)
  next t hpaint =>
  have hpainted : Touch (s.Addressed h) h s (s.withToolkit t) := by
    rw [Toolkit.paint] at hpaint
    split at hpaint
    · cases hpaint
    · cases hpaint
      exact .call rfl rfl
  exact (ReflTransGen.single hpainted).tail (.handle fun _ => rfl)

/-- Such a command touches its handle and what it addresses. -/
theorem run_touches {w : Surroundings} {c : Command} (hc : c.touched? = some h) :
    ReflTransGen (Touch (s.Addressed h) h) s (s.run w c).2 := by
  cases c with
  | text _ id part text =>
      cases hc
      rw [run, answering_snd]
      exact touches_updateText h id part text
  | signal _ id part signal =>
      cases hc
      rw [run, answering_snd]
      exact touches_updateSignal h id part signal
  | drag _ id part x y =>
      cases hc
      rw [run, answering_snd]
      exact touches_updateDrag h id part x y
  | size _ id size =>
      cases hc
      rw [run, answering_snd]
      exact touches_updateSize h id size
  | category _ id category =>
      cases hc
      rw [run, answering_snd]
      exact touches_updateCategory h category
  | color _ id name value =>
      cases hc
      rw [run, answering_snd]
      exact touches_updateColor h id name value
  | event _ raw info =>
      cases hc
      rw [run, answering_snd]
      exact touches_feedEvent (w.clock 0) h raw info
  | render _ =>
      cases hc
      rw [run, answering_snd]
      exact touches_render h
  | _ => cases hc

end Stage

end WidgetStage
