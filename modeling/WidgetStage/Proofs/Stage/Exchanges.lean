import Mathlib.Logic.Relation
import WidgetStage.Stage.Command

/-!
# Commands that exchange content

The content of a part is exchanged in a few small steps, and an image goes through the same ones as
a layout: what is in the part is taken out and deleted, something new is made and put into the part,
and the scene graph is told. A command stops after some of them if it fails. What a single step
keeps is kept by these commands, however far they come.

## Main results

* `Exchange`: the kinds of steps.
* `exchanges_updateImage`, `exchanges_updateScript`: the commands are made of such steps.
-/

namespace WidgetStage.Stage

open Relation (ReflTransGen)

/-- A single step on the way of new content into a part. -/
inductive Exchange (s : Stage) : Stage → Prop where
  /-- A part is emptied. -/
  | take (o : ObjectId) (part : String) :
      Exchange s (s.withToolkit (s.toolkit.modifyObject o fun r =>
        { r with parts := r.parts.erase part }))
  /-- An object is deleted. -/
  | drop (o : ObjectId) : Exchange s (s.withToolkit (s.toolkit.delete o).2)
  /-- An object is made. -/
  | make (kind : ObjectKind) (size : Option Size) :
      Exchange s (s.withToolkit (s.toolkit.allocate kind size).2)
  /-- An object is put into a part. -/
  | put {o c : ObjectId} {part : String} {t : Toolkit}
      (swallow : s.toolkit.swallow o part c = .ok t) : Exchange s (s.withToolkit t)
  /-- A scene graph is told. -/
  | track (h : Nat) (f : SceneGraph → SceneGraph) :
      Exchange s (s.modifyHandle h fun hd => { hd with graph := f hd.graph })
  /-- An id or a shadow is noted. -/
  | note (ids : SyntheticIds) (shadows : Option (List (ObjectId × ShadowOptions))) :
      Exchange s { s with ids := ids, shadows := shadows }

variable {s : Stage}

/-- Deleting an object is an exchange, and so is the report about it. -/
theorem exchanges_deleteReporting (h : Nat) (o : ObjectId) :
    ReflTransGen Exchange s (s.deleteReporting h o) :=
  (ReflTransGen.single (.drop o)).tail (.track h fun g => g.destroyAll (s.toolkit.delete o).1)

/-- Emptying a part consists of exchanges. -/
theorem exchanges_clearPart (h : Nat) (o : ObjectId) (part : String) :
    ReflTransGen Exchange s (s.clearPart h o part) := by
  rw [clearPart, Toolkit.unswallow]
  cases s.toolkit.swallowed? o part with
  | none => exact .refl
  | some old => exact (ReflTransGen.single (.take o part)).trans (exchanges_deleteReporting h old)

/-- Casting a shadow is at most a note. -/
theorem exchanges_castShadow (c : ObjectId) (shadow : ShadowOptions) :
    ReflTransGen Exchange s (s.castShadow c shadow) := by
  rw [castShadow]
  split
  · exact .single (.note s.ids _)
  · exact .refl

/-- An image is made, noted and put into its part. -/
theorem exchanges_showImage (o : ObjectId) (part : String) (options : ImageOptions)
    (content : ImageContent) : ReflTransGen Exchange s (s.showImage o part options content).2 := by
  rw [showImage, Toolkit.createImage]
  cases s.toolkit.imageFailure with
  | some e => exact .refl
  | none =>
      have hmade := (ReflTransGen.single
        (Exchange.make content.kind (some content.size) (s := s))).trans
          (exchanges_castShadow (s.toolkit.allocate content.kind (some content.size)).1
            options.shadow)
      dsimp only
      split
      · exact hmade.tail (.drop _)
      · next hswallow => exact hmade.tail (.put hswallow)

/-- An image takes the place of what was there by exchanges. -/
theorem exchanges_updateImage (files : Files) (h : Nat) (id : Option String) (part path : String)
    (option : Option String) :
    ReflTransGen Exchange s (s.updateImage files h id part path option).2 := by
  rw [updateImage]
  split
  · exact .refl
  next target _ =>
  have hclear := exchanges_clearPart (s := s) h target.object part
  dsimp only
  split
  · exact hclear
  split
  · exact hclear
  · exact hclear.trans (exchanges_showImage ..)

/-- A layout is tracked and put into its part, or dropped. -/
theorem exchanges_placeLayout (h : Nat) (target : Target) (g : SceneGraph) (part id : String)
    (c : ObjectId) : ReflTransGen Exchange s (s.placeLayout h target g part id c).2 := by
  rw [placeLayout]
  split
  · exact .single (.drop c)
  next g' _ =>
  have htracked := ReflTransGen.single (Exchange.track (s := s) h fun _ => g')
  dsimp only
  split
  · exact htracked.trans (exchanges_deleteReporting h c)
  · next hswallow => exact htracked.tail (.put hswallow)

/-- A layout takes the place of what was there by exchanges. -/
theorem exchanges_updateScript (w : Surroundings) (h : Nat) (source wanted : Option String)
    (part path group : String) :
    ReflTransGen Exchange s (s.updateScript w h source wanted part path group).2 := by
  rw [updateScript]
  split
  · exact .refl
  next target _ =>
  have hclear := exchanges_clearPart (s := s) h target.object part
  dsimp only
  generalize s.clearPart h target.object part = s₁ at hclear
  split
  · exact hclear
  split
  · exact hclear
  rw [Toolkit.loadLayout]
  cases s₁.toolkit.loadFailure with
  | some e => exact hclear
  | none =>
      cases s₁.lookup h with
      | error e => exact hclear
      | ok hd =>
          have hmade := hclear.tail (.make (.layout path group) none)
          dsimp only
          split
          · exact hmade
          · next ids _ =>
            exact (hmade.tail (.note ids s₁.shadows)).trans (exchanges_placeLayout ..)

end WidgetStage.Stage
