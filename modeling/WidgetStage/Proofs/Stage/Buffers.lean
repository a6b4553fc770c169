import WidgetStage.Proofs.Scene.Attaching
import WidgetStage.Proofs.Stage.Isolation

/-!
# Buffers that fit

The size of a root layout stands in three places: with its object, with the buffer of its handle,
and in the number of bytes that the buffer holds. They are set by different commands under
different conditions: a new object without pixels is given no size, and a size for a node with an
id is none of the buffer's business. All the same they agree throughout every play, as long as the
handle knows its root and the root exists.

So painting never finds a buffer of the wrong length. Since nobody holds a buffer between turns,
rendering fails only where there is nothing to render, or where the buffer is told to be busy.

## Main results

* `PixelBuffer.AtRest`, `Fitted`: what holds between turns.
* `Steady`: what most commands keep; they keep stages fitted (`Fitted.of_steady`).
* `Fitted.create`, `Fitted.updateSize`: so do the two commands that set sizes.
* `Fitted.turn`: and so does every turn.
* `Fitted.render_eq`: what rendering answers.
* `buffers_fit`: this holds throughout every play.
-/

namespace WidgetStage

namespace PixelBuffer

/-- Four bytes for every pixel, and every acquisition released. -/
structure AtRest (b : PixelBuffer) : Prop where
  pixels : b.pixels.size = b.size.area * 4
  held : b.held = false
  balanced : b.acquires = b.releases

/-- The recorded size of an object is that of the buffer. An object without a size has nothing to
be shown. -/
def Fits (b : PixelBuffer) (size : Option Size) : Prop :=
  size = some b.size ∨ (size = none ∧ b.size.isEmpty = true)

variable {b c : PixelBuffer}

/-- A blank buffer has four bytes for every pixel. -/
theorem size_blank (size : Size) : (blank size).size = size.area * 4 :=
  Array.size_replicate

/-- A new buffer is at rest. -/
theorem atRest_start (size : Size) : (start size).AtRest :=
  ⟨size_blank size, rfl, rfl⟩

/-- A buffer that is resized is blank, and at rest as before. -/
theorem AtRest.resize (h : b.AtRest) (size : Size) : (b.resize size).AtRest :=
  ⟨size_blank size, h.held, h.balanced⟩

/-- Whether a buffer is busy is not a matter of its rest. -/
theorem AtRest.setBusy (h : b.AtRest) (busy : Bool) : (b.setBusy busy).AtRest :=
  ⟨h.pixels, h.held, h.balanced⟩

/-- Acquiring notes that the buffer is held, and changes nothing else. -/
theorem acquire_eq_ok (hc : b.acquire = .ok c) :
    c = { b with held := true, acquires := b.acquires + 1 } := by
  rw [acquire] at hc
  split at hc
  · cases hc
  split at hc
  · cases hc
  · cases hc
    rfl

/-- A buffer at rest can be acquired unless it is busy. -/
theorem AtRest.acquire_eq (h : b.AtRest) :
    b.acquire = if b.busy then .error (.fault "buffer busy")
      else .ok { b with held := true, acquires := b.acquires + 1 } := by
  simp [acquire, h.held]

/-- A buffer that is acquired, painted and released is at rest again. -/
theorem AtRest.released (h : b.AtRest) (hc : b.acquire = .ok c) {pixels : Array UInt8}
    (hpixels : pixels.size = c.size.area * 4) : ({ c with pixels := pixels }.release).AtRest := by
  obtain rfl := acquire_eq_ok hc
  exact ⟨hpixels, rfl, congrArg (· + 1) h.balanced⟩

end PixelBuffer

namespace Toolkit

/-- The recorded size of a live object. -/
def size? (t : Toolkit) (o : ObjectId) : Option (Option Size) :=
  (t.object? o).map ToolkitObject.size

/-- No object that there was gets another size. -/
structure KeepsSizes (t t' : Toolkit) : Prop where
  nextObject : t.nextObject ≤ t'.nextObject
  size? : ∀ o z, o < t.nextObject → t'.size? o = some z → t.size? o = some z

variable {t t' t'' : Toolkit} {o p c x : ObjectId} {part : String}

/-- Where nothing happens, no size changes. -/
theorem keepsSizes_self (t : Toolkit) : KeepsSizes t t :=
  ⟨Nat.le_refl _, fun _ _ _ h => h⟩

/-- Sizes that are kept twice are kept. -/
theorem KeepsSizes.trans (h : KeepsSizes t t') (h' : KeepsSizes t' t'') : KeepsSizes t t'' where
  nextObject := Nat.le_trans h.nextObject h'.nextObject
  size? o z ho hz := h.size? o z ho (h'.size? o z (Nat.lt_of_lt_of_le ho h.nextObject) hz)

/-- Sizes are kept with the objects that have them. -/
theorem keepsSizes_of_objects_eq (hnext : t'.nextObject = t.nextObject)
    (hobjects : t'.objects = t.objects) : KeepsSizes t t' where
  nextObject := Nat.le_of_eq hnext.symm
  size? o z _ hz := by
    rwa [Toolkit.size?, object?, hobjects] at hz

theorem size?_modifyObject_of_ne (hx : x ≠ o) (f : ToolkitObject → ToolkitObject) :
    (t.modifyObject o f).size? x = t.size? x := by
  rw [size?, object?_modifyObject, if_neg hx, size?]

/-- Something else than the size is set about an object. -/
theorem keepsSizes_modifyObject (o : ObjectId) (f : ToolkitObject → ToolkitObject)
    (hf : ∀ r, (f r).size = r.size) : KeepsSizes t (t.modifyObject o f) where
  nextObject := Nat.le_refl _
  size? x z _ hz := by
    rw [Toolkit.size?, object?_modifyObject] at hz
    split at hz
    · rw [Option.map_map] at hz
      rw [← hz]
      exact congrArg (t.object? x).map (funext fun r => (hf r).symm)
    · exact hz

/-- A new object has a size of its own. -/
theorem keepsSizes_allocate (kind : ObjectKind) (size : Option Size) :
    KeepsSizes t (t.allocate kind size).2 where
  nextObject := Nat.le_succ _
  size? x z hx hz := by
    rwa [Toolkit.size?, live_allocate, if_neg (Nat.ne_of_lt hx)] at hz

/-- Objects that are left have their sizes. -/
theorem keepsSizes_delete (o : ObjectId) : KeepsSizes t (t.delete o).2 where
  nextObject := Nat.le_refl _
  size? x z _ hz := by
    rw [Toolkit.size?, object?_delete] at hz
    split at hz
    · cases hz
    · rwa [Option.map_map] at hz

/-- Putting an object into a part does not resize it. -/
theorem keepsSizes_swallow (h : t.swallow p part c = .ok t') : KeepsSizes t t' := by
  rw [swallow] at h
  split at h
  · cases h
  split at h
  · cases h
  · cases h
    exact keepsSizes_modifyObject p _ fun _ => rfl

/-- A new object is given the size of a buffer in which there is something to be shown. -/
theorem size?_resize_self (size : Size) :
    (t.resize o size).size? o = (t.size? o).map fun _ => some size := by
  rw [resize, size?, object?_modifyObject, if_pos rfl, size?, Option.map_map, Option.map_map]
  rfl

end Toolkit

namespace Stage

open Toolkit (KeepsSizes)
open Relation (ReflTransGen)

/-- The buffer of a loaded handle. -/
def buffer? (s : Stage) (h : Nat) : Option PixelBuffer :=
  (s.handles.find? h).map Handle.buffer

/-- Buffers are at rest, and roots have the sizes of their buffers. -/
structure Fitted (s : Stage) : Prop where
  atRest : ∀ h b, s.buffer? h = some b → b.AtRest
  fits : ∀ h b o z, s.buffer? h = some b → s.RootOf h o → s.toolkit.size? o = some z → b.Fits z

/-- No size changes, neither of an object that there was nor of a buffer. -/
structure Steady (s s' : Stage) : Prop where
  sizes : KeepsSizes s.toolkit s'.toolkit
  buffers : ∀ h b', s'.buffer? h = some b' →
    ∃ b, s.buffer? h = some b ∧ b'.size = b.size ∧ (b.AtRest → b'.AtRest)

variable {s s' s'' : Stage} {h k : Nat} {o : ObjectId} {id : Option String} {target : Target}
  {part : String}

/-- The buffer of a handle is found with it. -/
theorem buffer?_of_find {hd : Handle} (hf : s.handles.find? h = some hd) :
    s.buffer? h = some hd.buffer := by
  rw [buffer?, hf, Option.map_some]

/-- Changing a handle concerns its own buffer only. -/
theorem buffer?_modifyHandle (f : Handle → Handle) :
    (s.modifyHandle h f).buffer? k =
      if k = h then (s.handles.find? k).map fun hd => (f hd).buffer else s.buffer? k := by
  rw [buffer?, modifyHandle, Table.find?_modify]
  split
  · rw [Option.map_map]
    rfl
  · rfl

/-- A handle with a buffer has been numbered. -/
theorem Consistent.lt_of_buffer? {b : PixelBuffer} (hs : s.Consistent)
    (hb : s.buffer? h = some b) : h < s.nextHandle := by
  obtain ⟨hd, hf, -⟩ := Option.map_eq_some_iff.1 hb
  exact hs.numbered h _ (graph?_of_find hf)

/-! ### Roots of loaded handles -/

/-- No loaded handle gets another root. -/
theorem Consistent.rootOf_of_move (hs : s.Consistent) (hm : Move s s') (hk : k < s.nextHandle)
    (hr : s'.RootOf k o) : s.RootOf k o := by
  cases hm with
  | idle toolkit nextHandle graphs => exact (hs.within_self graphs).rootOf hr
  | load toolkit attached nextHandle graphs =>
      rcases (hs.rootOf_load_iff attached graphs).1 hr with ⟨hnew, -⟩ | hr
      · exact absurd hnew (Nat.ne_of_lt hk)
      · exact hr
  | unload loaded toolkit nextHandle graphs => exact (hs.within_erase graphs).rootOf hr
  | clear loaded tracked held destroyed toolkit nextHandle graphs =>
      have hg := hs.wellFormed _ _ loaded
      exact (hs.within_set loaded (hg.within_destroyAll _) graphs).rootOf hr
  | display loaded tracked image toolkit nextHandle graphs =>
      exact (hs.within_self graphs).rootOf hr
  | nest loaded tracked toolkit attached nextHandle graphs =>
      have hg := hs.wellFormed _ _ loaded
      exact (rootOf_set_iff loaded graphs (attached.isRoot_iff hg)).1 hr
  | giveUp loaded attached destroyed toolkit nextHandle graphs =>
      have hg := hs.wellFormed _ _ loaded
      exact (hs.within_set loaded (attached.within_takeBack hg destroyed) graphs).rootOf hr

/-- Outside of commands no root is set, either. -/
theorem Consistent.rootOf_of_shift (hs : s.Consistent) (hshift : Shift s s')
    (hk : k < s.nextHandle) (hr : s'.RootOf k o) : s.RootOf k o := by
  cases hshift with
  | move hm => exact hs.rootOf_of_move hm hk hr
  | report h x => exact (hs.within_report h x).rootOf hr
  | leave kind size => exact hr
  | delete x => exact hr

/-- The counter of handles never goes back. -/
theorem Shift.nextHandle_le (hshift : Shift s s') : s.nextHandle ≤ s'.nextHandle := by
  cases hshift with
  | move hm => exact hm.forward.1
  | report h x => exact Nat.le_of_eq (toolkit_objectDestroyed s h x).2.symm
  | leave kind size => exact Nat.le_refl _
  | delete x => exact Nat.le_refl _

/-- So whatever happens, a handle that is numbered does not get another root. -/
theorem Consistent.rootOf_of_shifts (hs : s.Consistent) (hm : ReflTransGen Shift s s')
    (hk : k < s.nextHandle) (hr : s'.RootOf k o) : s.RootOf k o := by
  induction hm using ReflTransGen.head_induction_on with
  | refl => exact hr
  | head hfirst _ ih =>
      exact hs.rootOf_of_shift hfirst hk
        (ih (hs.shift hfirst) (Nat.lt_of_lt_of_le hk hfirst.nextHandle_le))

/-! ### Steady changes -/

/-- Where nothing happens, all is steady. -/
theorem steady_self (s : Stage) : Steady s s :=
  ⟨Toolkit.keepsSizes_self _, fun _ b hb => ⟨b, hb, rfl, id⟩⟩

/-- What is steady twice is steady. -/
theorem Steady.trans (h : Steady s s') (h' : Steady s' s'') : Steady s s'' where
  sizes := h.sizes.trans h'.sizes
  buffers k b'' hb'' := by
    obtain ⟨b', hb', hsize', hrest'⟩ := h'.buffers k b'' hb''
    obtain ⟨b, hb, hsize, hrest⟩ := h.buffers k b' hb'
    exact ⟨b, hb, hsize'.trans hsize, hrest' ∘ hrest⟩

/-- Where handles are not concerned. -/
theorem steady_of_handles_eq (sizes : KeepsSizes s.toolkit s'.toolkit)
    (handles : s'.handles = s.handles) : Steady s s' where
  sizes := sizes
  buffers k b hb := by
    rw [buffer?, handles] at hb
    exact ⟨b, hb, rfl, id⟩

/-- Where only a handle is concerned. -/
theorem steady_modifyHandle {f : Handle → Handle}
    (hf : ∀ hd, s.handles.find? h = some hd → (f hd).buffer.size = hd.buffer.size ∧
      (hd.buffer.AtRest → (f hd).buffer.AtRest)) : Steady s (s.modifyHandle h f) where
  sizes := Toolkit.keepsSizes_self _
  buffers k b hb := by
    rw [buffer?_modifyHandle] at hb
    split at hb
    · next hk =>
      subst hk
      obtain ⟨hd, hfind, rfl⟩ := Option.map_eq_some_iff.1 hb
      exact ⟨hd.buffer, buffer?_of_find hfind, hf hd hfind⟩
    · exact ⟨b, hb, rfl, id⟩

/-- Changing anything of a handle but its buffer. -/
theorem steady_modifyHandle_of_buffer_eq {f : Handle → Handle}
    (hf : ∀ hd, (f hd).buffer = hd.buffer) : Steady s (s.modifyHandle h f) :=
  steady_modifyHandle fun hd _ => by
    rw [hf]
    exact ⟨rfl, id⟩

/-- No step on the way of new content changes a size. -/
theorem steady_of_exchange (he : Exchange s s') : Steady s s' := by
  cases he with
  | take o part => exact steady_of_handles_eq (Toolkit.keepsSizes_modifyObject o _ fun _ => rfl) rfl
  | drop o => exact steady_of_handles_eq (Toolkit.keepsSizes_delete o) rfl
  | make kind size => exact steady_of_handles_eq (Toolkit.keepsSizes_allocate kind size) rfl
  | put swallow => exact steady_of_handles_eq (Toolkit.keepsSizes_swallow swallow) rfl
  | track h f => exact steady_modifyHandle_of_buffer_eq fun _ => rfl
  | note ids shadows => exact steady_of_handles_eq (Toolkit.keepsSizes_self _) rfl

/-- So new content leaves all sizes as they are. -/
theorem steady_of_exchanges (he : ReflTransGen Exchange s s') : Steady s s' := by
  induction he with
  | refl => exact steady_self s
  | tail _ hlast ih => exact ih.trans (steady_of_exchange hlast)

/-- Unloading a handle takes its buffer away and resizes none. -/
theorem steady_destroy (h : Nat) : Steady s (s.destroy h).2 := by
  rw [destroy]
  split
  · exact steady_self s
  next hd _ =>
  refine ⟨?_, fun k b hb => ⟨b, ?_, rfl, id⟩⟩
  · change KeepsSizes s.toolkit (tearDown hd s.toolkit).2
    rw [tearDown]
    split
    · exact Toolkit.keepsSizes_self _
    · exact Toolkit.keepsSizes_delete _
  · change (Table.find? (s.handles.erase h) k).map Handle.buffer = some b at hb
    rw [Table.find?_erase] at hb
    split at hb
    · cases hb
    · exact hb

/-- Input may be noted and delivered, but it resizes nothing. -/
theorem steady_feedEvent (now : Duration) (h : Nat) (raw : UInt32) (info : EventInfo) :
    Steady s (s.feedEvent now h raw info).2 := by
  rw [feedEvent]
  split
  · exact steady_self s
  split
  · exact steady_self s
  next target _ _ event _ =>
  cases event with
  | access action => exact steady_of_handles_eq (Toolkit.keepsSizes_of_objects_eq rfl rfl) rfl
  | key action => exact steady_of_handles_eq (Toolkit.keepsSizes_of_objects_eq rfl rfl) rfl
  | mouse action =>
      simp only [deliver]
      generalize target.handle.input.accept action info.timestamp now = accepted
      obtain ⟨fresh, input⟩ := accepted
      have hinput : Steady s (s.modifyHandle h fun hd => { hd with input := input }) :=
        steady_modifyHandle_of_buffer_eq fun _ => rfl
      dsimp only
      split
      · exact hinput.trans
          (steady_of_handles_eq (Toolkit.keepsSizes_of_objects_eq rfl rfl) rfl)
      · exact hinput

/-- Four bytes are painted for every pixel. -/
theorem size_shadePixels (o : ObjectId) (count : Nat) :
    (Toolkit.shadePixels o count).size = count * 4 := by
  simp [Toolkit.shadePixels]

/-- Painting answers as many bytes as there are to be painted. -/
theorem paint_eq_ok {t t' : Toolkit} {length : Nat} {size : Size} {pixels : Array UInt8}
    (h : t.paint o length size = .ok (pixels, t')) :
    pixels.size = size.area * 4 ∧ t' = t.note (.paint o size) := by
  rw [Toolkit.paint] at h
  split at h
  · cases h
  · cases h
    exact ⟨size_shadePixels o size.area, rfl⟩

/-- The buffer is released, whatever becomes of the painting. -/
theorem Consistent.steady_render (hs : s.Consistent) (h : Nat) : Steady s (s.render h).2 := by
  rw [render]
  split
  · exact steady_self s
  next target ha =>
  obtain ⟨hf, -⟩ := hs.address_eq_ok ha
  split
  · exact steady_self s
  next buffer hacquire =>
  have hbuffer := PixelBuffer.acquire_eq_ok hacquire
  split
  · refine steady_modifyHandle fun hd hfind => ?_
    rw [hf, Option.some.injEq] at hfind
    rw [← hfind]
    refine ⟨by rw [hbuffer]; rfl, fun hrest => hrest.released hacquire ?_⟩
    rw [hbuffer]
    exact hrest.pixels
  · next pixels t hpaint =>
    obtain ⟨hpixels, rfl⟩ := paint_eq_ok hpaint
    have hnoted : Steady s (s.withToolkit (s.toolkit.note (.paint target.object buffer.size))) :=
      steady_of_handles_eq (Toolkit.keepsSizes_of_objects_eq rfl rfl) rfl
    refine hnoted.trans (steady_modifyHandle fun hd hfind => ?_)
    obtain rfl : target.handle = hd := Option.some.inj (hf.symm.trans hfind)
    exact ⟨by rw [hbuffer]; rfl, fun hrest => hrest.released hacquire hpixels⟩

/-- A command that neither makes a handle nor sets a size. -/
theorem Consistent.steady_run (hs : s.Consistent) (w : Surroundings) (c : Command)
    (hcreate : ∀ path group size, c ≠ .create path group size)
    (hsize : ∀ h id size, c ≠ .size h id size) : Steady s (s.run w c).2 := by
  cases c with
  | create path group size => exact absurd rfl (hcreate path group size)
  | size h id size => exact absurd rfl (hsize h id size)
  | destroy h =>
      rw [run, answering_snd]
      exact steady_destroy h
  | objectDestroyed h o =>
      rw [run, answering_snd, objectDestroyed]
      split
      · exact steady_self s
      · exact steady_modifyHandle_of_buffer_eq fun _ => rfl
  | text h id part text =>
      rw [run, answering_snd, updateText]
      split
      · exact steady_self s
      next target _ =>
      have htext := Toolkit.keepsSizes_modifyObject (t := s.toolkit) target.object
        (fun r => { r with texts := r.texts.insert part text }) fun _ => rfl
      refine steady_of_handles_eq
        (htext.trans (Toolkit.keepsSizes_modifyObject target.object _ fun r => ?_)) rfl
      split <;> rfl
  | image h id part path option =>
      rw [run, answering_snd]
      exact steady_of_exchanges (exchanges_updateImage w.files h id part path option)
  | script h source wanted part path group =>
      exact steady_of_exchanges (exchanges_updateScript w h source wanted part path group)
  | signal h id part signal =>
      rw [run, answering_snd, updateSignal]
      split
      · exact steady_self s
      · exact steady_of_handles_eq (Toolkit.keepsSizes_of_objects_eq rfl rfl) rfl
  | drag h id part x y =>
      rw [run, answering_snd, updateDrag]
      split
      · exact steady_self s
      · exact steady_of_handles_eq (Toolkit.keepsSizes_modifyObject _ _ fun _ => rfl) rfl
  | category h id category =>
      rw [run, answering_snd, updateCategory]
      split
      · exact steady_self s
      · exact steady_modifyHandle_of_buffer_eq fun _ => rfl
  | color h id name value =>
      rw [run, answering_snd, updateColor]
      split
      · exact steady_self s
      split
      · exact steady_self s
      · exact steady_of_handles_eq (Toolkit.keepsSizes_modifyObject _ _ fun _ => rfl) rfl
  | event h raw info =>
      rw [run, answering_snd]
      exact steady_feedEvent (w.clock 0) h raw info
  | render h =>
      rw [run, answering_snd]
      exact hs.steady_render h

/-! ### Fitted stages -/

/-- A steady change keeps a stage fitted. -/
theorem Fitted.of_steady (hfit : s.Fitted) (hs : s.Consistent) (hsteady : Steady s s')
    (hroots : ∀ k o, k < s.nextHandle → s'.RootOf k o → s.RootOf k o) : s'.Fitted where
  atRest k b' hb' := by
    obtain ⟨b, hb, -, hrest⟩ := hsteady.buffers k b' hb'
    exact hrest (hfit.atRest k b hb)
  fits k b' o z hb' hr hz := by
    obtain ⟨b, hb, hsize, -⟩ := hsteady.buffers k b' hb'
    have hr := hroots k o (hs.lt_of_buffer? hb) hr
    have hold := hfit.fits k b o z hb hr (hsteady.sizes.size? o z (hs.root_lt hr) hz)
    rwa [PixelBuffer.Fits, hsize]

/-- What a new handle consists of. -/
theorem create_of_ok {files : Files} {path group : String} {size : Size} {n : Nat}
    (hr : (s.create files path group size).1 = .ok n) :
    ∃ node g, SceneGraph.empty.attach s.toolkit.nextObject none none = .ok (node, g) ∧
      (s.create files path group size).2 =
        { s with
          toolkit := fitToBuffer (s.toolkit.allocate (.layout path group) none).2
            s.toolkit.nextObject size
          handles := s.handles.insert s.nextHandle
            { file := path
              group := group
              category := none
              graph := g
              buffer := .start size
              input := .start s.config.staleWindow }
          nextHandle := s.nextHandle + 1 } := by
  rw [create] at hr ⊢
  split at hr
  · cases hr
  next hbound =>
  rw [if_neg hbound]
  split at hr
  · cases hr
  next hread =>
  rw [if_neg hread]
  rw [Toolkit.loadLayout] at hr ⊢
  cases hfail : s.toolkit.loadFailure with
  | some e =>
      rw [hfail] at hr
      cases hr
  | none => exact ⟨_, _, rfl, rfl⟩

/-- A new object is given the size of its buffer, if something can be shown in it. -/
theorem sizes_fitToBuffer {t : Toolkit} (kind : ObjectKind) (size : Size) :
    KeepsSizes t (fitToBuffer (t.allocate kind none).2 t.nextObject size) ∧
      ∀ z, (fitToBuffer (t.allocate kind none).2 t.nextObject size).size? t.nextObject = some z →
        (PixelBuffer.start size).Fits z := by
  have hnew : (t.allocate kind none).2.size? t.nextObject = some none := by
    rw [Toolkit.size?, Toolkit.live_allocate, if_pos rfl]
    rfl
  have hcreated := Toolkit.keepsSizes_allocate (t := t) kind none
  rw [fitToBuffer]
  split
  · next hempty =>
    refine ⟨hcreated, fun z hz => Or.inr ⟨?_, hempty⟩⟩
    rw [hnew, Option.some.injEq] at hz
    exact hz.symm
  · refine ⟨⟨Nat.le_succ _, fun x z hx hz => ?_⟩, fun z hz => Or.inl ?_⟩
    · rw [Toolkit.resize, Toolkit.size?_modifyObject_of_ne (Nat.ne_of_lt hx)] at hz
      exact hcreated.size? x z hx hz
    · rw [Toolkit.size?_resize_self, hnew, Option.map_some, Option.some.injEq] at hz
      exact hz.symm

/-- The root of a new handle has the size of its buffer. -/
theorem Fitted.create (hfit : s.Fitted) (hs : s.Consistent) (files : Files) (path group : String)
    (size : Size) : (s.create files path group size).2.Fitted := by
  cases hr : (s.create files path group size).1 with
  | error e => rwa [(create_of_error hr).2]
  | ok n =>
      obtain ⟨node, g, hattach, hnew⟩ := create_of_ok hr
      obtain ⟨hkept, hfits⟩ := sizes_fitToBuffer (t := s.toolkit) (.layout path group) size
      rw [hnew]
      generalize hs' : (Stage.mk _ _ _ _ _ _) = s'
      have hbuffer : ∀ k, s'.buffer? k =
          if k = s.nextHandle then some (.start size) else s.buffer? k := by
        intro k
        rw [← hs', buffer?, Table.find?_insert]
        split <;> rfl
      have hgraphs : ∀ k, s'.graph? k = if k = s.nextHandle then some g else s.graph? k := by
        intro k
        rw [← hs', graph?, Table.find?_insert]
        split <;> rfl
      have hroots : ∀ k o, s'.RootOf k o ↔
          (k = s.nextHandle ∧ o = s.toolkit.nextObject) ∨ s.RootOf k o := fun k o =>
        hs.rootOf_load_iff (SceneGraph.attached_of_attach
          SceneGraph.wellFormed_empty.toFreeListed hattach) hgraphs
      have hsizes : s'.toolkit = fitToBuffer (s.toolkit.allocate (.layout path group) none).2
          s.toolkit.nextObject size := by rw [← hs']
      refine ⟨fun k b hb => ?_, fun k b o z hb hroot hz => ?_⟩
      · rw [hbuffer] at hb
        split at hb
        · cases hb
          exact PixelBuffer.atRest_start size
        · exact hfit.atRest k b hb
      · rw [hsizes] at hz
        rcases (hroots k o).1 hroot with ⟨rfl, rfl⟩ | hroot
        · rw [hbuffer, if_pos rfl, Option.some.injEq] at hb
          exact hb ▸ hfits z hz
        · rw [hbuffer, if_neg] at hb
          · exact hfit.fits k b o z hb hroot (hkept.size? o z (hs.root_lt hroot) hz)
          · rintro rfl
            obtain ⟨d, hd, -⟩ := hroot
            exact Nat.lt_irrefl _ (hs.numbered _ d hd)

/-- A node with an id is the root of no handle. -/
theorem Separate.not_rootOf_target {name : String} (hsep : s.Separate) (hs : s.Consistent)
    (ha : s.address h (some name) = .ok target) : ¬ s.RootOf k target.object := by
  intro hroot
  obtain rfl := hsep k h _ hroot.reaches (hs.reaches_target ha)
  obtain ⟨hf, hn⟩ := hs.address_eq_ok ha
  obtain ⟨g, hg, n, hnode, hid⟩ := hroot
  obtain rfl : target.handle.graph = g := Option.some.inj ((graph?_of_find hf).symm.trans hg)
  obtain rfl : target.node = n := Option.some.inj (hn.symm.trans hnode)
  rw [hs.id?_of_address ha] at hid
  cases hid

/-- The node without an id is the root of its handle, and of no other one. -/
theorem Separate.eq_target_of_rootOf (hsep : s.Separate) (hs : s.Consistent)
    (ha : s.address h none = .ok target) : s.RootOf k target.object → k = h :=
  fun hroot => hsep k h _ hroot.reaches (hs.reaches_target ha)

/-- A handle has one root, which is what it is addressed for without an id. -/
theorem Consistent.eq_target_of_rootOf (hs : s.Consistent) (ha : s.address h none = .ok target)
    (hroot : s.RootOf h o) : o = target.object := by
  obtain ⟨hf, hfind, ho⟩ := address_eq_ok_iff.1 ha
  obtain ⟨g, hg, hroot⟩ := hroot
  obtain rfl : target.handle.graph = g := Option.some.inj ((graph?_of_find hf).symm.trans hg)
  have hobject := (hs.wellFormed h _ hg).rootObject?_eq_some_iff.2 hroot
  rw [hfind, Option.bind_some, ho, Option.some.injEq] at hobject
  exact hobject.symm

/-- Where the root is resized, the buffer is resized with it. -/
theorem Fitted.resizeRoot (hfit : s.Fitted) (hs : s.Consistent) (hsep : s.Separate)
    (ha : s.address h none = .ok target) (size : Size) :
    ((s.withToolkit (s.toolkit.resize target.object size)).modifyHandle h fun hd =>
      { hd with buffer := hd.buffer.resize size }).Fitted := by
  refine ⟨fun k b hb => ?_, fun k b o z hb hroot hz => ?_⟩
  · rw [buffer?_modifyHandle] at hb
    split at hb
    · obtain ⟨hd, hf, rfl⟩ := Option.map_eq_some_iff.1 hb
      exact (hfit.atRest k hd.buffer (buffer?_of_find hf)).resize size
    · exact hfit.atRest k b hb
  · -- the change of the handle moves no root
    obtain ⟨g, hg, hroot⟩ := hroot
    have hgraph := (graph?_modifyHandle_of_graph_eq
      (f := fun hd => { hd with buffer := hd.buffer.resize size }) fun _ => rfl).symm.trans hg
    have hold : s.RootOf k o := ⟨g, hgraph, hroot⟩
    rw [buffer?_modifyHandle] at hb
    split at hb
    · next hk =>
      subst hk
      obtain ⟨hd, -, rfl⟩ := Option.map_eq_some_iff.1 hb
      obtain rfl := hs.eq_target_of_rootOf ha hold
      have hnew := (Toolkit.size?_resize_self size).symm.trans hz
      obtain ⟨-, -, rfl⟩ := Option.map_eq_some_iff.1 hnew
      exact Or.inl rfl
    · next hk =>
      refine hfit.fits k b o z hb hold ?_
      rw [← hz]
      refine (Toolkit.size?_modifyObject_of_ne ?_ _).symm
      rintro rfl
      exact hk (hsep.eq_target_of_rootOf hs ha hold)

/-- The buffer follows the root, and no other node. -/
theorem Fitted.updateSize (hfit : s.Fitted) (hs : s.Consistent) (hsep : s.Separate) (h : Nat)
    (id : Option String) (size : Size) : (s.updateSize h id size).2.Fitted := by
  rw [Stage.updateSize]
  split
  · exact hfit
  next target ha =>
  cases id with
  | some name =>
      refine ⟨hfit.atRest, fun k b o z hb hroot hz => hfit.fits k b o z hb hroot ?_⟩
      rw [← hz]
      refine (Toolkit.size?_modifyObject_of_ne ?_ _).symm
      rintro rfl
      exact hsep.not_rootOf_target hs ha hroot
  | none => exact hfit.resizeRoot hs hsep ha size

/-- Every turn keeps a stage fitted. -/
theorem Fitted.turn (hfit : s.Fitted) (hs : s.Consistent) (hsep : s.Separate) (t : Turn) :
    (s.turn t).2.Fitted := by
  have hroots : ∀ k o, k < s.nextHandle → (s.turn t).2.RootOf k o → s.RootOf k o :=
    fun k o => hs.rootOf_of_shifts (hs.shifts_turn t)
  cases t with
  | command w c =>
      rw [Stage.turn] at hroots ⊢
      by_cases hcreate : ∃ path group size, c = .create path group size
      · obtain ⟨path, group, size, rfl⟩ := hcreate
        dsimp only
        rw [run, answering_snd]
        exact hfit.create hs w.files path group size
      by_cases hsize : ∃ h id size, c = .size h id size
      · obtain ⟨h, id, size, rfl⟩ := hsize
        dsimp only
        rw [run, answering_snd]
        exact hfit.updateSize hs hsep h id size
      · refine hfit.of_steady hs (hs.steady_run w c ?_ ?_) hroots
        · exact fun path group size hc => hcreate ⟨path, group, size, hc⟩
        · exact fun h id size hc => hsize ⟨h, id, size, hc⟩
  | behave b =>
      have hkept : s.toolkit.KeepsSizes (s.toolkit.behave b) :=
        Toolkit.keepsSizes_of_objects_eq rfl rfl
      exact hfit.of_steady hs (steady_of_handles_eq hkept rfl) hroots
  | busy h busy =>
      refine hfit.of_steady hs (steady_modifyHandle fun hd _ => ?_) hroots
      exact ⟨rfl, fun hrest => hrest.setBusy busy⟩
  | delete o =>
      exact hfit.of_steady hs (steady_of_handles_eq (Toolkit.keepsSizes_delete o) rfl) hroots

/-! ### Rendering -/

/-- An address leads somewhere if the handle is loaded and an alive node has the id. -/
theorem Consistent.exists_address_iff (hs : s.Consistent) :
    (∃ target, s.address h id = .ok target) ↔
      ∃ hd n, s.handles.find? h = some hd ∧ hd.graph.lifecycle n = .alive ∧
        hd.graph.id? n = id := by
  constructor
  · rintro ⟨target, ha⟩
    obtain ⟨hf, hn⟩ := hs.address_eq_ok ha
    have hl := ((hs.wellFormed_of_find hf).nodeOf?_eq_some_iff.1 hn).1
    exact ⟨_, _, hf, hl, hs.id?_of_address ha⟩
  · rintro ⟨hd, n, hf, hl, hid⟩
    cases ha : s.address h id with
    | ok target => exact ⟨target, rfl⟩
    | error e =>
        rcases hs.address_eq_error_iff.1 ha with ⟨hnone, -⟩ | ⟨hd', hf', hnone, -⟩
        · rw [hnone] at hf
          cases hf
        · obtain rfl : hd = hd' := Option.some.inj (hf.symm.trans hf')
          exact absurd hid (hnone n hl)

/-- In a fitted stage, rendering what is found fails only if the buffer is busy. -/
theorem Fitted.render_eq (hfit : s.Fitted) (hs : s.Consistent)
    (ha : s.address h none = .ok target) :
    (s.render h).1 =
      if target.handle.buffer.busy then .error (.fault "buffer busy") else .ok () := by
  have hf := (hs.address_eq_ok ha).1
  have hrest := hfit.atRest h _ (buffer?_of_find hf)
  simp only [render, ha, hrest.acquire_eq]
  cases target.handle.buffer.busy with
  | true => rfl
  | false => simp [Toolkit.paint, hrest.pixels]

/-- So it succeeds if and only if the handle is loaded, its root is alive and its buffer is not
busy. -/
theorem Fitted.render_iff (hfit : s.Fitted) (hs : s.Consistent) :
    (s.render h).1 = .ok () ↔ ∃ hd n, s.handles.find? h = some hd ∧
      hd.graph.lifecycle n = .alive ∧ hd.graph.id? n = none ∧ hd.buffer.busy = false := by
  constructor
  · intro hr
    cases ha : s.address h none with
    | error e => simp [render, ha] at hr
    | ok target =>
        obtain ⟨hd, n, hf, hl, hid⟩ := hs.exists_address_iff.1 ⟨target, ha⟩
        obtain rfl : target.handle = hd := Option.some.inj ((hs.address_eq_ok ha).1.symm.trans hf)
        rw [hfit.render_eq hs ha] at hr
        refine ⟨_, n, hf, hl, hid, ?_⟩
        cases hbusy : target.handle.buffer.busy with
        | false => rfl
        | true => simp [hbusy] at hr
  · rintro ⟨hd, n, hf, hl, hid, hbusy⟩
    obtain ⟨target, ha⟩ := hs.exists_address_iff.2 ⟨hd, n, hf, hl, hid⟩
    obtain rfl : target.handle = hd := Option.some.inj ((hs.address_eq_ok ha).1.symm.trans hf)
    rw [hfit.render_eq hs ha, hbusy]
    rfl

/-- If rendering fails, there is nothing to render, or the buffer is busy. -/
theorem Fitted.render_error (hfit : s.Fitted) (hs : s.Consistent) {e : StageError}
    (he : (s.render h).1 = .error e) :
    e = .handleNotFound h ∨ e = .nodeNotFound none ∨ e = .fault "buffer busy" := by
  cases ha : s.address h none with
  | error e' =>
      obtain rfl : e' = e := by simpa [render, ha] using he
      rcases hs.address_eq_error_iff.1 ha with ⟨-, rfl⟩ | ⟨-, -, -, rfl⟩
      · exact Or.inl rfl
      · exact Or.inr (Or.inl rfl)
  | ok target =>
      rw [hfit.render_eq hs ha] at he
      split at he
      · cases he
        exact Or.inr (Or.inr rfl)
      · cases he

/-! ### Throughout a play -/

/-- Nothing is loaded in an empty stage. -/
theorem fitted_start (order : DestroyOrder) (config : Config) (castsShadows : Bool) :
    (start (.start order) config castsShadows).Fitted where
  atRest h b hb := by cases hb
  fits h b o z hb := by cases hb

/-- A play from an empty stage keeps it fitted. -/
theorem fitted_play (order : DestroyOrder) (config : Config) (castsShadows : Bool)
    (turns : List Turn) : ((start (.start order) config castsShadows).play turns).Fitted := by
  induction turns using List.reverseRecOn with
  | nil => exact fitted_start order config castsShadows
  | append_singleton turns t ih =>
      have hs := consistent_play order config castsShadows turns
      have hsep := separate_play order config castsShadows turns
      have hlast := ih.turn hs hsep t
      rwa [play, List.foldl_append]

/-- After every play, every buffer holds four bytes for each pixel of its size, nobody holds the
buffer, and it has been released as often as it was acquired. If the root of a handle is alive, and
its object exists, then the object has the size of the buffer, or it has none and there are no
pixels. So rendering succeeds if and only if the handle is loaded, its root is alive and its buffer
is not busy, and fails for no other reason than these; whatever comes of it, all buffers are
released afterwards. -/
theorem buffers_fit (order : DestroyOrder) (config : Config) (castsShadows : Bool)
    (turns : List Turn) :
    let s := (start (.start order) config castsShadows).play turns
    (∀ h hd, s.handles.find? h = some hd → hd.buffer.AtRest) ∧
    (∀ h hd n o r, s.handles.find? h = some hd → hd.graph.lifecycle n = .alive →
      hd.graph.id? n = none → hd.graph.object? n = some o → s.toolkit.object? o = some r →
      hd.buffer.Fits r.size) ∧
    (∀ w h,
      ((s.run w (.render h)).1 = .ok .nothing ↔ ∃ hd n, s.handles.find? h = some hd ∧
        hd.graph.lifecycle n = .alive ∧ hd.graph.id? n = none ∧ hd.buffer.busy = false) ∧
      (∀ f, (s.run w (.render h)).1 = .error f → f = .refused (.handleNotFound h) ∨
        f = .refused (.nodeNotFound none) ∨ f = .refused (.fault "buffer busy")) ∧
      ∀ k hd, (s.run w (.render h)).2.handles.find? k = some hd → hd.buffer.AtRest) := by
  intro s
  have hs : s.Consistent := consistent_play order config castsShadows turns
  have hsep : s.Separate := separate_play order config castsShadows turns
  have hfit : s.Fitted := fitted_play order config castsShadows turns
  refine ⟨fun h hd hf => hfit.atRest h _ (buffer?_of_find hf),
    fun h hd n o r hf hl hid ho hr => ?_, fun w h => ⟨?_, fun f hr => ?_, fun k hd hf => ?_⟩⟩
  · have hg := hs.wellFormed_of_find hf
    have hroot : s.RootOf h o := ⟨_, graph?_of_find hf, n, hg.nodeOf?_eq_some_iff.2 ⟨hl, ho⟩, hid⟩
    refine hfit.fits h _ o _ (buffer?_of_find hf) hroot ?_
    rw [Toolkit.size?, hr, Option.map_some]
  · rw [← hfit.render_iff hs, run]
    obtain ⟨e | ⟨⟩, s'⟩ := s.render h <;> simp [answering]
  · obtain ⟨e, rfl, he⟩ := eq_error_of_answering hr
    simpa using hfit.render_error hs he
  · have hturn := hfit.turn hs hsep (.command w (.render h))
    exact hturn.atRest k _ (buffer?_of_find hf)

/-- A row has a size of its own, and the buffer follows the root. -/
example :
    let w : Surroundings := ⟨Files.empty.write "rows.edj" (.text ""), fun _ => .ofMicros 0⟩
    let s := (start (.start .parentFirst) .standard false).play
      [.command w (.create "rows.edj" "main" ⟨0, 5⟩),
        .command w (.script 1 none none "slot" "rows.edj" "row"),
        .command w (.size 1 (some "slot") ⟨2, 2⟩), .command w (.render 1),
        .command w (.size 1 none ⟨3, 1⟩)]
    (s.toolkit.size? 2, s.toolkit.size? 1, (s.buffer? 1).map PixelBuffer.size) =
      (some (some ⟨2, 2⟩), some (some ⟨3, 1⟩), some ⟨3, 1⟩) := by
  decide

end Stage

end WidgetStage
