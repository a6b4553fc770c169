import WidgetStage.Proofs.Scene.Renaming
import WidgetStage.Proofs.Stage.Turns
import WidgetStage.Proofs.Toolkit.Order

/-!
# Stages and the order of destruction

A stage passes on what its toolkit reports in the order in which it is reported, and so the scene
graphs of two stages may come to name their nodes differently once their toolkits report in
different orders. Nothing else comes of it: every command is answered alike, and the stages differ
only in these names and in the order in which deleted objects stand in the logs of the toolkits.

## Main results

* `Reordered`: stages that differ in the order of destruction only.
* `Reordered.address`: commands find the same objects in both.
* `Reordered.clearPart`, `Reordered.loadInto`: where the names of nodes come to differ.
* `Reordered.run`: every command is answered alike, and leaves such stages.
* `play_reordered`: so are all the turns of a play, whatever the order of destruction.
-/

namespace WidgetStage

/-- Two handles that differ in the names of nodes only. -/
structure Handle.Reordered (hd hd' : Handle) : Prop where
  file : hd'.file = hd.file
  group : hd'.group = hd.group
  category : hd'.category = hd.category
  buffer : hd'.buffer = hd.buffer
  input : hd'.input = hd.input
  graph : ∃ ρ, SceneGraph.Renamed ρ hd.graph hd'.graph

/-- A handle differs from itself in nothing. -/
theorem Handle.reordered_self (hd : Handle) : hd.Reordered hd :=
  ⟨rfl, rfl, rfl, rfl, rfl, _, SceneGraph.renamed_refl hd.graph⟩

/-- Both handles stand for the same root. -/
theorem Handle.Reordered.rootObject? {hd hd' : Handle} (h : hd.Reordered hd') :
    hd'.rootObject? = hd.rootObject? := by
  obtain ⟨ρ, hρ⟩ := h.graph
  rw [Handle.rootObject?, Handle.rootObject?, root?, root?, hρ.find, Option.bind_map]
  exact congrArg (hd.graph.find none).bind (funext fun _ => hρ.object?)

namespace Stage

/-- Two stages that differ in the order in which their toolkits destroy objects, and in what comes
of it. -/
structure Reordered (s s' : Stage) : Prop where
  toolkit : s.toolkit.Reordered s'.toolkit
  config : s'.config = s.config
  nextHandle : s'.nextHandle = s.nextHandle
  ids : s'.ids = s.ids
  shadows : s'.shadows = s.shadows
  handles : ∀ h, Option.Rel Handle.Reordered (s.handles.find? h) (s'.handles.find? h)

/-- The same answer, and stages that differ in the order of destruction only. -/
def SameAnswer {α : Type} (r r' : α × Stage) : Prop :=
  r'.1 = r.1 ∧ Reordered r.2 r'.2

variable {s s' : Stage} {h : Nat} {id : Option String} {target target' : Target} {part : String}

/-! ### Changing both stages -/

namespace Reordered

/-- Toolkits that differ in their order make stages that do. -/
theorem withToolkit (hs : Reordered s s') {t t' : Toolkit} (ht : t.Reordered t') :
    Reordered (s.withToolkit t) (s'.withToolkit t') :=
  ⟨ht, hs.config, hs.nextHandle, hs.ids, hs.shadows, hs.handles⟩

/-- Both stages may go on with the same next id. -/
theorem withIds (hs : Reordered s s') (ids : SyntheticIds) :
    Reordered { s with ids := ids } { s' with ids := ids } :=
  ⟨hs.toolkit, hs.config, hs.nextHandle, rfl, hs.shadows, hs.handles⟩

/-- The loaded handles are the same but for the names of nodes. -/
theorem handle (hs : Reordered s s') {hd hd' : Handle} (hf : s.handles.find? h = some hd)
    (hf' : s'.handles.find? h = some hd') : hd.Reordered hd' := by
  have hrel := hs.handles h
  rw [hf, hf'] at hrel
  cases hrel with
  | some hhd => exact hhd

/-- The same handles are loaded. -/
theorem find? (hs : Reordered s s') (h : Nat) :
    (s.handles.find? h = none ∧ s'.handles.find? h = none) ∨
      ∃ hd hd', s.handles.find? h = some hd ∧ s'.handles.find? h = some hd' := by
  have hrel := hs.handles h
  rcases hf : s.handles.find? h with _ | hd <;> rcases hf' : s'.handles.find? h with _ | hd'
  · exact Or.inl ⟨rfl, rfl⟩
  · rw [hf, hf'] at hrel
    cases hrel
  · rw [hf, hf'] at hrel
    cases hrel
  · exact Or.inr ⟨hd, hd', rfl, rfl⟩

/-- The handle with a number is changed in both stages. -/
theorem modifyHandle (hs : Reordered s s') {f f' : Handle → Handle}
    (hf : ∀ hd hd', s.handles.find? h = some hd → s'.handles.find? h = some hd' →
      hd.Reordered hd' → (f hd).Reordered (f' hd')) :
    Reordered (s.modifyHandle h f) (s'.modifyHandle h f') where
  toolkit := hs.toolkit
  config := hs.config
  nextHandle := hs.nextHandle
  ids := hs.ids
  shadows := hs.shadows
  handles k := by
    simp only [Stage.modifyHandle, Table.find?_modify]
    by_cases hk : k = h
    · subst hk
      rw [if_pos rfl, if_pos rfl]
      rcases hs.find? k with ⟨hnone, hnone'⟩ | ⟨hd, hd', hfind, hfind'⟩
      · rw [hnone, hnone']
        exact .none
      · rw [hfind, hfind']
        exact .some (hf hd hd' hfind hfind' (hs.handle hfind hfind'))
    · rw [if_neg hk, if_neg hk]
      exact hs.handles k

/-- Both stages find the handle with a number, or none of them does. -/
theorem lookup (hs : Reordered s s') (h : Nat) :
    (∃ e, s.lookup h = .error e ∧ s'.lookup h = .error e) ∨
      ∃ hd hd', s.lookup h = .ok hd ∧ s'.lookup h = .ok hd' ∧ hd.Reordered hd' := by
  unfold Stage.lookup
  rcases hs.find? h with ⟨hnone, hnone'⟩ | ⟨hd, hd', hf, hf'⟩
  · rw [hnone, hnone']
    exact Or.inl ⟨_, rfl, rfl⟩
  · rw [hf, hf']
    exact Or.inr ⟨hd, hd', rfl, rfl, hs.handle hf hf'⟩

/-- A command for a handle that is not loaded fails alike in both stages. -/
theorem lookingUp {α : Type} {f f' : Handle → Except StageError α × Stage} (hs : Reordered s s')
    (hf : ∀ hd hd', hd.Reordered hd' → SameAnswer (f hd) (f' hd')) :
    SameAnswer
      (match s.lookup h with
      | .error e => (.error e, s)
      | .ok hd => f hd)
      (match s'.lookup h with
      | .error e => (.error e, s')
      | .ok hd => f' hd) := by
  rcases hs.lookup h with ⟨e, he, he'⟩ | ⟨hd, hd', hfind, hfind', hhd⟩
  · rw [he, he']
    exact ⟨rfl, hs⟩
  · rw [hfind, hfind']
    exact hf hd hd' hhd

/-- Both stages find the same object, or none of them does. -/
theorem address (hs : Reordered s s') (h : Nat) (id : Option String) :
    (∃ e, s.address h id = .error e ∧ s'.address h id = .error e) ∨
      ∃ target target', s.address h id = .ok target ∧ s'.address h id = .ok target' ∧
        target'.object = target.object ∧ target.handle.Reordered target'.handle := by
  unfold Stage.address
  rcases hs.lookup h with ⟨e, he, he'⟩ | ⟨hd, hd', hf, hf', hhd⟩
  · rw [he, he']
    exact Or.inl ⟨e, rfl, rfl⟩
  · rw [hf, hf']
    obtain ⟨ρ, hρ⟩ := hhd.graph
    unfold resolve
    dsimp only
    rw [hρ.find]
    rcases hd.graph.find id with _ | n
    · exact Or.inl ⟨_, rfl, rfl⟩
    · simp only [Option.map_some, hρ.object?]
      rcases ho : hd.graph.object? n with _ | o
      · exact Or.inl ⟨_, rfl, rfl⟩
      · exact Or.inr ⟨_, _, rfl, rfl, rfl, hhd⟩

/-- A command that finds nothing fails alike in both stages, and else goes on with what it has
found. -/
theorem addressing {α : Type} {f f' : Target → Except StageError α × Stage}
    (hs : Reordered s s')
    (hf : ∀ target target', s.address h id = .ok target → s'.address h id = .ok target' →
      target'.object = target.object → target.handle.Reordered target'.handle →
      SameAnswer (f target) (f' target')) :
    SameAnswer
      (match s.address h id with
      | .error e => (.error e, s)
      | .ok target => f target)
      (match s'.address h id with
      | .error e => (.error e, s')
      | .ok target => f' target) := by
  rcases hs.address h id with ⟨e, ha, ha'⟩ | ⟨target, target', ha, ha', ho, hhd⟩
  · rw [ha, ha']
    exact ⟨rfl, hs⟩
  · rw [ha, ha']
    exact hf target target' ha ha' ho hhd

/-- A call of the toolkit that neither looks at the order of destruction nor deletes anything. -/
theorem call {α : Type} (hs : Reordered s s') (a : α) {f : Toolkit → Toolkit}
    (hdeleted : ∀ t, (f t).deleted = t.deleted)
    (hf : ∀ t order deleted, f { t with destroyOrder := order, deleted := deleted } =
      { f t with destroyOrder := order, deleted := deleted }) :
    SameAnswer (a, s.withToolkit (f s.toolkit)) (a, s'.withToolkit (f s'.toolkit)) :=
  ⟨rfl, hs.withToolkit (hs.toolkit.map hdeleted hf)⟩

/-! ### Commands that change the toolkit or a handle -/

/-- Setting a text is answered alike. -/
theorem updateText (hs : Reordered s s') (h : Nat) (id : Option String) (part text : String) :
    SameAnswer (s.updateText h id part text) (s'.updateText h id part text) := by
  refine hs.addressing fun target target' _ _ ho _ => ?_
  rw [ho]
  exact hs.call _ (f := fun t => (t.setText target.object part text).setDescription target.object
    part (if text = "" then none else some text)) (fun _ => rfl) fun _ _ _ => rfl

/-- Sending a signal is answered alike. -/
theorem updateSignal (hs : Reordered s s') (h : Nat) (id : Option String) (part signal : String) :
    SameAnswer (s.updateSignal h id part signal) (s'.updateSignal h id part signal) := by
  refine hs.addressing fun target target' _ _ ho _ => ?_
  rw [ho]
  exact hs.call _ (f := fun t => t.emitSignal target.object signal part) (fun _ => rfl)
    fun _ _ _ => rfl

/-- Dragging a part is answered alike. -/
theorem updateDrag (hs : Reordered s s') (h : Nat) (id : Option String) (part : String)
    (x y : Float) : SameAnswer (s.updateDrag h id part x y) (s'.updateDrag h id part x y) := by
  refine hs.addressing fun target target' _ _ ho _ => ?_
  rw [ho]
  exact hs.call _ (f := fun t => t.setDrag target.object part x y) (fun _ => rfl) fun _ _ _ => rfl

/-- Colours are read alike, and set alike. -/
theorem updateColor (hs : Reordered s s') (h : Nat) (id : Option String) (name value : String) :
    SameAnswer (s.updateColor h id name value) (s'.updateColor h id name value) := by
  refine hs.addressing fun target target' _ _ ho _ => ?_
  rw [ho]
  split
  · exact ⟨rfl, hs⟩
  · next colors _ =>
    exact hs.call _ (f := fun t => t.setColors target.object name colors) (fun _ => rfl)
      fun _ _ _ => rfl

/-- Changing the buffer of a handle, in the same way in both stages. -/
theorem modifyBuffer (hs : Reordered s s') (h : Nat) (f : PixelBuffer → PixelBuffer) :
    Reordered (s.modifyHandle h fun hd => { hd with buffer := f hd.buffer })
      (s'.modifyHandle h fun hd => { hd with buffer := f hd.buffer }) := by
  refine hs.modifyHandle fun hd hd' _ _ hhd => ?_
  exact ⟨hhd.file, hhd.group, hhd.category, congrArg f hhd.buffer, hhd.input, hhd.graph⟩

/-- Setting a size is answered alike, and buffers are resized alike. -/
theorem updateSize (hs : Reordered s s') (h : Nat) (id : Option String) (size : Size) :
    SameAnswer (s.updateSize h id size) (s'.updateSize h id size) := by
  refine hs.addressing fun target target' _ _ ho _ => ?_
  rw [ho]
  have hresized := (hs.call () (f := fun t => t.resize target.object size) (fun _ => rfl)
    fun _ _ _ => rfl).2
  rcases id with _ | id
  · exact ⟨rfl, hresized.modifyBuffer h fun buffer => buffer.resize size⟩
  · exact ⟨rfl, hresized⟩

/-- Setting a category is answered alike. -/
theorem updateCategory (hs : Reordered s s') (h : Nat) (category : Option String) :
    SameAnswer (s.updateCategory h category) (s'.updateCategory h category) := by
  refine hs.lookingUp fun _ _ _ => ⟨rfl, hs.modifyHandle fun hd hd' _ _ hhd => ?_⟩
  exact ⟨hhd.file, hhd.group, rfl, hhd.buffer, hhd.input, hhd.graph⟩

/-- A pointer event is judged by what the handle remembers of earlier ones, which is the same. -/
theorem deliver (hs : Reordered s s') (now : Duration) (h : Nat)
    (ho : target'.object = target.object)
    (hinput : target'.handle.input = target.handle.input) (info : EventInfo) (event : InputEvent) :
    SameAnswer (s.deliver now h target info event) (s'.deliver now h target' info event) := by
  cases event with
  | access action =>
      have hhandled := hs.toolkit.same (f := fun t => (t.performAccess target.object action).1)
        fun _ _ _ => rfl
      simp only [Stage.deliver, ho, hhandled]
      exact hs.call _ (f := fun t => (t.performAccess target.object action).2) (fun _ => rfl)
        fun _ _ _ => rfl
  | key action =>
      have hhandled := hs.toolkit.same (f := fun t =>
        (t.feedKey target.object action info.keyCode).1) fun _ _ _ => rfl
      simp only [Stage.deliver, ho, hhandled]
      exact hs.call _ (f := fun t => (t.feedKey target.object action info.keyCode).2)
        (fun _ => rfl) fun _ _ _ => rfl
  | mouse action =>
      simp only [Stage.deliver, ho, hinput]
      generalize target.handle.input.accept action info.timestamp now = accepted
      obtain ⟨fresh, input⟩ := accepted
      have hnoted : Reordered (s.modifyHandle h fun hd => { hd with input := input })
          (s'.modifyHandle h fun hd => { hd with input := input }) :=
        hs.modifyHandle fun hd hd' _ _ hhd =>
          ⟨hhd.file, hhd.group, hhd.category, hhd.buffer, rfl, hhd.graph⟩
      cases fresh with
      | true =>
          exact hnoted.call _ (f := fun t =>
            t.feedMouse target.object action info.x info.y info.timestamp) (fun _ => rfl)
            fun _ _ _ => rfl
      | false => exact ⟨rfl, hnoted⟩

/-- Events are withheld from both stages or from none. -/
theorem feedEvent (hs : Reordered s s') (now : Duration) (h : Nat) (raw : UInt32)
    (info : EventInfo) :
    SameAnswer (s.feedEvent now h raw info) (s'.feedEvent now h raw info) := by
  refine hs.addressing fun target target' _ _ ho hhd => ?_
  cases InputEvent.decode raw info.actionType with
  | error e => exact ⟨rfl, hs⟩
  | ok event =>
      obtain ⟨hstatus, hstage⟩ := hs.deliver now h ho hhd.input info event
      exact ⟨congrArg Except.ok hstatus, hstage⟩

/-- Both stages render the same pixels, as both address the same root. -/
theorem render (hs : Reordered s s') (h : Nat) : SameAnswer (s.render h) (s'.render h) := by
  refine hs.addressing fun target target' _ _ ho hhd => ?_
  rw [ho, hhd.buffer]
  cases target.handle.buffer.acquire with
  | error e => exact ⟨rfl, hs⟩
  | ok buffer =>
      have hpainted : ∀ painted : PixelBuffer,
          Reordered (s.modifyHandle h fun hd => { hd with buffer := painted })
            (s'.modifyHandle h fun hd => { hd with buffer := painted }) := fun painted =>
        hs.modifyBuffer h fun _ => painted
      dsimp only
      unfold Toolkit.paint
      by_cases hlength : buffer.pixels.size ≠ buffer.size.area * 4
      · simp only [if_pos hlength]
        exact ⟨rfl, hpainted buffer.release⟩
      · simp only [if_neg hlength]
        exact (hpainted _).call _ (f := fun t => t.note (.paint target.object buffer.size))
          (fun _ => rfl) fun _ _ _ => rfl

/-! ### Loading and unloading -/

/-- A new handle is the same in both stages, with its scene graph. -/
theorem create (hs : Reordered s s') (files : Files) (path group : String) (size : Size) :
    SameAnswer (s.create files path group size) (s'.create files path group size) := by
  have hloaded := hs.toolkit.map
    (f := fun t => fitToBuffer (t.allocate (.layout path group) none).2 s.toolkit.nextObject size)
    (fun t => by unfold fitToBuffer; split <;> rfl)
    fun t _ _ => by unfold fitToBuffer; split <;> rfl
  unfold Stage.create
  rw [hs.nextHandle, hs.config]
  by_cases hbound : handleBound ≤ s.nextHandle
  · simp only [if_pos hbound]
    exact ⟨rfl, hs⟩
  by_cases hread : (!files.isReadable path) = true
  · simp only [if_neg hbound, if_pos hread]
    exact ⟨rfl, hs⟩
  simp only [if_neg hbound, if_neg hread, Toolkit.loadLayout, hs.toolkit.loadFailure]
  cases s.toolkit.loadFailure with
  | some e => exact ⟨rfl, hs⟩
  | none =>
      obtain ⟨n, g, hattach⟩ : ∃ n g, SceneGraph.empty.attach s.toolkit.nextObject none none =
          .ok (n, g) := ⟨_, _, rfl⟩
      simp only [Toolkit.fst_allocate, hs.toolkit.nextObject, hattach]
      refine ⟨rfl, hloaded, hs.config, rfl, hs.ids, hs.shadows, fun k => ?_⟩
      rw [Table.find?_insert, Table.find?_insert]
      by_cases hk : k = s.nextHandle
      · rw [if_pos hk, if_pos hk]
        exact .some (Handle.reordered_self _)
      · rw [if_neg hk, if_neg hk]
        exact hs.handles k

/-- What is deleted with a root does not matter, since the scene graph is dropped with the
handle. -/
theorem destroy (hs : Reordered s s') (h : Nat) : SameAnswer (s.destroy h) (s'.destroy h) := by
  refine hs.lookingUp fun hd hd' hhd => ?_
  have htoolkit : (tearDown hd s.toolkit).2.Reordered (tearDown hd' s'.toolkit).2 := by
    unfold tearDown
    rw [hhd.rootObject?]
    rcases hd.rootObject? with _ | o
    · exact hs.toolkit
    · exact hs.toolkit.delete o
  refine ⟨rfl, htoolkit, hs.config, hs.nextHandle, hs.ids, hs.shadows, fun k => ?_⟩
  rw [Table.find?_erase, Table.find?_erase]
  by_cases hk : k = h
  · rw [if_pos hk, if_pos hk]
    exact .none
  · rw [if_neg hk, if_neg hk]
    exact hs.handles k

/-! ### Reports -/

/-- The scene graphs of a handle are told about the same objects. -/
theorem reportAll (hs : Reordered s s') (h : Nat) {xs ys : List ObjectId}
    (hg : ∀ hd, s.handles.find? h = some hd → hd.graph.WellFormed)
    (hg' : ∀ hd, s'.handles.find? h = some hd → hd.graph.WellFormed)
    (hxs : ∀ o, o ∈ xs ↔ o ∈ ys) :
    Reordered (s.modifyHandle h fun hd => hd.reportAll xs)
      (s'.modifyHandle h fun hd => hd.reportAll ys) := by
  refine hs.modifyHandle fun hd hd' hf hf' hhd => ?_
  obtain ⟨ρ, hρ⟩ := hhd.graph
  exact ⟨hhd.file, hhd.group, hhd.category, hhd.buffer, hhd.input, ρ,
    hρ.destroyAll (hg hd hf) (hg' hd' hf') hxs⟩

/-- Deleting an object reports the same objects in both stages, though in different orders. -/
theorem deleteReporting (hs : Reordered s s') (h : Nat) (o : ObjectId)
    (hg : ∀ hd, s.handles.find? h = some hd → hd.graph.WellFormed)
    (hg' : ∀ hd, s'.handles.find? h = some hd → hd.graph.WellFormed) :
    Reordered (s.deleteReporting h o) (s'.deleteReporting h o) :=
  (hs.withToolkit (hs.toolkit.delete o)).reportAll h hg hg' fun _ =>
    (hs.toolkit.delete_perm o).mem_iff.symm

/-- A report is answered alike, though it is about nodes with different names. -/
theorem objectDestroyed (hs : Reordered s s') (hc : s.Consistent) (hc' : s'.Consistent) (h : Nat)
    (o : ObjectId) : SameAnswer (s.objectDestroyed h o) (s'.objectDestroyed h o) := by
  have hreported : ∀ x, x ∈ [o] ↔ x ∈ [o] := fun _ => Iff.rfl
  refine hs.lookingUp fun _ _ _ => ⟨rfl, ?_⟩
  exact hs.reportAll h (fun _ hf => hc.wellFormed_of_find hf)
    (fun _ hf => hc'.wellFormed_of_find hf) hreported

/-- Emptying a part reports what was in it, in different orders. -/
theorem clearPart (hs : Reordered s s') (hc : s.Consistent) (hc' : s'.Consistent) (h : Nat)
    (o : ObjectId) (part : String) :
    Reordered (s.clearPart h o part) (s'.clearPart h o part) := by
  have hold : s'.toolkit.swallowed? o part = s.toolkit.swallowed? o part :=
    hs.toolkit.same (f := fun t => t.swallowed? o part) fun _ _ _ => rfl
  have htaken := hs.toolkit.map (f := fun t => (t.unswallow o part).2) (fun _ => rfl)
    fun _ _ _ => rfl
  unfold Stage.clearPart
  simp only [Toolkit.unswallow, hold]
  rcases s.toolkit.swallowed? o part with _ | old
  · exact hs
  · exact (hs.withToolkit htaken).deleteReporting h old (fun _ hf => hc.wellFormed_of_find hf)
      fun _ hf => hc'.wellFormed_of_find hf

/-! ### Images -/

/-- What is to be shown depends on the file, the settings and the size of the part. -/
theorem prepareImage (hs : Reordered s s') (files : Files) (o : ObjectId) (part path : String)
    (options : ImageOptions) :
    s'.prepareImage files o part path options = s.prepareImage files o part path options := by
  have hsize : ∀ explicit, s'.partSize? o part options explicit =
      s.partSize? o part options explicit := by
    intro explicit
    unfold partSize?
    rw [hs.toolkit.same (f := fun t => t.partGeometry? o part) fun _ _ _ => rfl]
  unfold Stage.prepareImage
  simp only [hs.config, hsize]

/-- The same shadows are cast. -/
theorem castShadow (hs : Reordered s s') (c : ObjectId) (shadow : ShadowOptions) :
    Reordered (s.castShadow c shadow) (s'.castShadow c shadow) := by
  unfold Stage.castShadow
  rw [hs.config, hs.shadows]
  split
  · exact ⟨hs.toolkit, rfl, hs.nextHandle, hs.ids, rfl, hs.handles⟩
  · exact hs

/-- Showing an image fails on both stages or on none, and makes the same object. -/
theorem showImage (hs : Reordered s s') (o : ObjectId) (part : String) (options : ImageOptions)
    (content : ImageContent) :
    SameAnswer (s.showImage o part options content) (s'.showImage o part options content) := by
  have hfailure : s'.toolkit.imageFailure = s.toolkit.imageFailure :=
    hs.toolkit.same fun _ _ _ => rfl
  have hcreated := hs.withToolkit (hs.toolkit.map
    (f := fun t => (t.allocate content.kind (some content.size)).2) (fun _ => rfl)
    fun _ _ _ => rfl)
  unfold Stage.showImage Toolkit.createImage
  rw [hfailure]
  cases s.toolkit.imageFailure with
  | some e => exact ⟨rfl, hs⟩
  | none =>
      simp only [Toolkit.fst_allocate, hs.toolkit.nextObject]
      have hcast := hcreated.castShadow s.toolkit.nextObject options.shadow
      rcases hcast.toolkit.swallow o part s.toolkit.nextObject with
        ⟨e, hswallow, hswallow'⟩ | ⟨t, t', hswallow, hswallow', ht⟩
      · rw [hswallow, hswallow']
        exact ⟨rfl, hcast.withToolkit (hcast.toolkit.delete _)⟩
      · rw [hswallow, hswallow']
        exact ⟨rfl, hcast.withToolkit ht⟩

/-- What was in the part is deleted in different orders, and the image is shown alike. -/
theorem updateImage (hs : Reordered s s') (hc : s.Consistent) (hc' : s'.Consistent)
    (files : Files) (h : Nat) (id : Option String) (part path : String)
    (option : Option String) :
    SameAnswer (s.updateImage files h id part path option)
      (s'.updateImage files h id part path option) := by
  refine hs.addressing fun target target' _ _ ho _ => ?_
  have hclear := hs.clearPart hc hc' h target.object part
  rw [ho]
  dsimp only
  generalize s.clearPart h target.object part = s₁ at hclear ⊢
  generalize s'.clearPart h target.object part = s₁' at hclear ⊢
  by_cases hpath : path = "" ∨ files.isReadable path = false
  · rw [if_pos hpath, if_pos hpath]
    exact ⟨rfl, hclear⟩
  · rw [if_neg hpath, if_neg hpath, hclear.prepareImage]
    cases s₁.prepareImage files target.object part path (.parse option) with
    | error e => exact ⟨rfl, hclear⟩
    | ok content => exact hclear.showImage target.object part (.parse option) content

/-! ### Layouts -/

/-- The id of a new layout depends on the ids that are in use. -/
theorem chooseId? (hs : Reordered s s') {ρ : Equiv.Perm NodeId} {g g' : SceneGraph}
    (hg : SceneGraph.Renamed ρ g g') (clock : Nat → Duration) (wanted : Option String)
    (part : String) : s'.chooseId? clock g' wanted part = s.chooseId? clock g wanted part := by
  have htaken : takenIds g' = takenIds g := by
    rw [takenIds, takenIds, hg.registry, List.filterMap_map]
    rfl
  have hcontains : g'.registry.containsId part = g.registry.containsId part := by
    have hfind : g'.registry.find (some part) = (g.registry.find (some part)).map ρ :=
      hg.find (some part)
    rw [Registry.containsId, Registry.containsId, hfind, Option.isSome_map]
  unfold Stage.chooseId?
  rw [hs.ids, htaken, hcontains]

/-- A layout that is tracked in both stages may get a node of another name in either of them. -/
theorem placeLayout {hd hd' : Handle} {ρ : Equiv.Perm NodeId} {c : ObjectId} {name : String}
    {n n' : NodeId} {g g' : SceneGraph} (hs : Reordered s s')
    (hf : s.handles.find? h = some hd) (hf' : s'.handles.find? h = some hd')
    (hg : hd.graph.WellFormed) (hg' : hd'.graph.WellFormed)
    (hρ : SceneGraph.Renamed ρ hd.graph hd'.graph) (ho : target'.object = target.object)
    (hnode : target'.node = ρ target.node)
    (hattach : hd.graph.attach c (some name) (some (target.node, part)) = .ok (n, g))
    (hattach' : hd'.graph.attach c (some name) (some (target'.node, part)) = .ok (n', g')) :
    SameAnswer (s.placeLayout h target hd.graph part name c)
      (s'.placeLayout h target' hd'.graph part name c) := by
  have hnew := SceneGraph.attached_of_attach hg.toFreeListed hattach
  have hnew' := SceneGraph.attached_of_attach hg'.toFreeListed hattach'
  have hparent : some (target'.node, part) = renameParent ρ (some (target.node, part)) := by
    rw [hnode]
    rfl
  rw [hparent] at hnew'
  have htracked := hρ.exists_attached hg hnew hnew' (SceneGraph.reclaimedTotal_attach hattach)
    (SceneGraph.reclaimedTotal_attach hattach')
  have hset : Reordered (s.modifyHandle h fun hd => { hd with graph := g })
      (s'.modifyHandle h fun hd => { hd with graph := g' }) :=
    hs.modifyHandle fun hd hd' _ _ hhd =>
      ⟨hhd.file, hhd.group, hhd.category, hhd.buffer, hhd.input, htracked⟩
  have hwell : ∀ {s : Stage} {hd : Handle} {g : SceneGraph}, s.handles.find? h = some hd →
      g.WellFormed → ∀ hd', (s.modifyHandle h fun hd => { hd with graph := g }).handles.find? h =
        some hd' → hd'.graph.WellFormed := by
    intro s hd g hf hg hd' hfind
    rw [Stage.modifyHandle, Table.find?_modify, if_pos rfl, hf, Option.map_some,
      Option.some.injEq] at hfind
    exact hfind ▸ hg
  unfold Stage.placeLayout
  rw [hattach, hattach', ho]
  dsimp only
  rcases hset.toolkit.swallow target.object part c with
    ⟨e, hswallow, hswallow'⟩ | ⟨t, t', hswallow, hswallow', ht⟩
  · rw [hswallow, hswallow']
    exact ⟨rfl, hset.deleteReporting h c (hwell hf (hnew.wellFormed hg))
      (hwell hf' (hnew'.wellFormed hg'))⟩
  · rw [hswallow, hswallow']
    exact ⟨rfl, hset.withToolkit ht⟩

/-- A layout is loaded into the same part in both stages. -/
theorem loadInto {hd hd' : Handle} (hs : Reordered s s') (hc : s.Consistent) (hc' : s'.Consistent)
    (hf : s.handles.find? h = some hd) (hf' : s'.handles.find? h = some hd')
    (ho : target'.object = target.object)
    (hn : hd.graph.nodeOf? target.object = some target.node)
    (hn' : hd'.graph.nodeOf? target'.object = some target'.node)
    (w : Surroundings) (wanted : Option String) (part path group : String) :
    SameAnswer (s.loadInto w h target hd.graph wanted part path group)
      (s'.loadInto w h target' hd'.graph wanted part path group) := by
  obtain ⟨ρ, hρ⟩ := (hs.handle hf hf').graph
  have hnode : target'.node = ρ target.node := by
    have hnames := hρ.nodeOf? target.object
    rwa [← ho, hn', ho, hn, Option.map_some, Option.some.injEq] at hnames
  have hloaded := hs.withToolkit (hs.toolkit.map
    (f := fun t => (t.allocate (.layout path group) none).2) (fun _ => rfl) fun _ _ _ => rfl)
  unfold Stage.loadInto
  by_cases hpath : path = ""
  · rw [if_pos hpath, if_pos hpath]
    exact ⟨rfl, hs⟩
  by_cases hread : (!w.files.isReadable path) = true
  · rw [if_neg hpath, if_neg hpath, if_pos hread, if_pos hread]
    exact ⟨rfl, hs⟩
  rw [if_neg hpath, if_neg hpath, if_neg hread, if_neg hread, hs.toolkit.loadFailure]
  cases s.toolkit.loadFailure with
  | some e => exact ⟨rfl, hs⟩
  | none =>
      dsimp only
      rw [hloaded.chooseId? hρ]
      cases (s.withToolkit (s.toolkit.allocate (.layout path group) none).2).chooseId? w.clock
        hd.graph wanted part with
      | none => exact ⟨rfl, hloaded⟩
      | some chosen =>
          obtain ⟨name, ids⟩ := chosen
          obtain ⟨n, g, hattach⟩ := hc.exists_attach hf hn (Nat.le_refl _) name part
          obtain ⟨n', g', hattach'⟩ :=
            hc'.exists_attach hf' hn' (Nat.le_of_eq hs.toolkit.nextObject) name part
          obtain ⟨hanswer, hstage⟩ := (hloaded.withIds ids).placeLayout hf hf'
            (hc.wellFormed_of_find hf) (hc'.wellFormed_of_find hf') hρ ho hnode hattach hattach'
          dsimp only
          rw [hs.toolkit.nextObject]
          exact ⟨congrArg (Except.mapError Failure.refused) hanswer, hstage⟩

/-- What was in the part is deleted in different orders, and the layout is loaded alike. -/
theorem updateScript (hs : Reordered s s') (hc : s.Consistent) (hc' : s'.Consistent)
    (w : Surroundings) (h : Nat) (source wanted : Option String) (part path group : String) :
    SameAnswer (s.updateScript w h source wanted part path group)
      (s'.updateScript w h source wanted part path group) := by
  rcases hs.address h source with ⟨e, ha, ha'⟩ | ⟨target, target', ha, ha', ho, -⟩
  · simp only [Stage.updateScript, ha, ha']
    exact ⟨rfl, hs⟩
  · obtain ⟨hd, hf, hn, heq⟩ := hc.updateScript_eq ha w wanted part path group
    obtain ⟨hd', hf', hn', heq'⟩ := hc'.updateScript_eq ha' w wanted part path group
    have hclear := hs.clearPart hc hc' h target.object part
    have hc₁ := hc.moves (hc.moves_clearPart ha part).1
    have hc₁' := hc'.moves (hc'.moves_clearPart ha' part).1
    rw [heq, heq']
    rw [ho] at hf' hc₁' ⊢
    exact hclear.loadInto hc₁ hc₁' hf hf' ho hn hn' w wanted part path group

end Reordered

/-! ### All commands, and plays -/

/-- What is answered to the host is the same, too. -/
theorem SameAnswer.answering {α : Type} {r r' : Except StageError α × Stage}
    (h : SameAnswer r r') (answer : α → Answer) :
    SameAnswer (answering answer r) (answering answer r') := by
  obtain ⟨e | v, d⟩ := r
  · obtain ⟨r', d'⟩ := r'
    obtain rfl : r' = .error e := h.1
    exact ⟨rfl, h.2⟩
  · obtain ⟨r', d'⟩ := r'
    obtain rfl : r' = .ok v := h.1
    exact ⟨rfl, h.2⟩

namespace Reordered

/-- Every command is answered alike. -/
theorem run (hs : Reordered s s') (hc : s.Consistent) (hc' : s'.Consistent) (w : Surroundings)
    (c : Command) : SameAnswer (s.run w c) (s'.run w c) := by
  cases c with
  | create path group size => exact (hs.create w.files path group size).answering _
  | destroy h => exact (hs.destroy h).answering _
  | objectDestroyed h o => exact (hs.objectDestroyed hc hc' h o).answering _
  | text h id part text => exact (hs.updateText h id part text).answering _
  | image h id part path option =>
      exact (hs.updateImage hc hc' w.files h id part path option).answering _
  | script h source wanted part path group =>
      obtain ⟨hanswer, hstage⟩ := hs.updateScript hc hc' w h source wanted part path group
      exact ⟨congrArg (Except.map fun _ => Answer.nothing) hanswer, hstage⟩
  | signal h id part signal => exact (hs.updateSignal h id part signal).answering _
  | drag h id part x y => exact (hs.updateDrag h id part x y).answering _
  | size h id size => exact (hs.updateSize h id size).answering _
  | category h id category => exact (hs.updateCategory h category).answering _
  | color h id name value => exact (hs.updateColor h id name value).answering _
  | event h raw info => exact (hs.feedEvent (w.clock 0) h raw info).answering _
  | render h => exact (hs.render h).answering _

/-- So is every turn. -/
theorem turn (hs : Reordered s s') (hc : s.Consistent) (hc' : s'.Consistent) (t : Turn) :
    SameAnswer (s.turn t) (s'.turn t) := by
  cases t with
  | command w c =>
      obtain ⟨hanswer, hstage⟩ := hs.run hc hc' w c
      exact ⟨congrArg some hanswer, hstage⟩
  | behave b => exact hs.call _ (f := fun t => t.behave b) (fun _ => rfl) fun _ _ _ => rfl
  | busy h busy => exact ⟨rfl, hs.modifyBuffer h fun buffer => buffer.setBusy busy⟩
  | delete o => exact ⟨rfl, hs.withToolkit (hs.toolkit.delete o)⟩

end Reordered

/-- What is answered to the turns of a play, in order. -/
def answers : Stage → List Turn → List (Option (Except Failure Answer))
  | _, [] => []
  | s, t :: turns => (s.turn t).1 :: (s.turn t).2.answers turns

/-- The turns of a play are answered alike. -/
theorem Reordered.play (hs : Reordered s s') (hc : s.Consistent) (hc' : s'.Consistent)
    (turns : List Turn) :
    s'.answers turns = s.answers turns ∧ Reordered (s.play turns) (s'.play turns) := by
  induction turns generalizing s s' with
  | nil => exact ⟨rfl, hs⟩
  | cons t turns ih =>
      obtain ⟨hanswer, hstage⟩ := hs.turn hc hc' t
      obtain ⟨hlater, hplayed⟩ := ih hstage (hc.turn t) (hc'.turn t)
      exact ⟨by rw [answers, answers, hanswer, hlater], hplayed⟩

/-- Two empty stages differ in nothing else. -/
theorem reordered_start (order order' : DestroyOrder) (config : Config) (castsShadows : Bool) :
    Reordered (start (.start order) config castsShadows)
      (start (.start order') config castsShadows) :=
  ⟨Toolkit.reordered_start order order', rfl, rfl, rfl, rfl, fun _ => .none⟩

/-- The order in which the toolkit reports destroyed objects makes no difference. Whatever is played
on two empty stages that differ in this order, they answer every command alike, with the same
errors. At the end their toolkits have the same objects with the same contents, have taken the same
calls and have deleted the same objects, in whatever order. They have the same handles, with the
same scene graphs under other names of nodes, and so with the same counts. -/
theorem play_reordered (order order' : DestroyOrder) (config : Config) (castsShadows : Bool)
    (turns : List Turn) :
    let s := start (.start order) config castsShadows
    let s' := start (.start order') config castsShadows
    s'.answers turns = s.answers turns ∧
      (s'.play turns).toolkit.objects = (s.play turns).toolkit.objects ∧
      (s'.play turns).toolkit.calls = (s.play turns).toolkit.calls ∧
      (s'.play turns).toolkit.deleted.Perm (s.play turns).toolkit.deleted ∧
      Reordered (s.play turns) (s'.play turns) ∧
      ∀ h g g', (s.play turns).graph? h = some g → (s'.play turns).graph? h = some g' →
        g'.stats = g.stats ∧ g'.liveCount = g.liveCount := by
  intro s s'
  have hc : s.Consistent := (owned_start order config castsShadows).toConsistent
  have hc' : s'.Consistent := (owned_start order' config castsShadows).toConsistent
  obtain ⟨hanswers, hplayed⟩ :=
    (reordered_start order order' config castsShadows).play hc hc' turns
  refine ⟨hanswers, hplayed.toolkit.objects, hplayed.toolkit.same fun _ _ _ => rfl, ?_, hplayed,
    fun h g g' hg hg' => ?_⟩
  · obtain ⟨_, deleted, hperm, htoolkit⟩ := hplayed.toolkit
    rw [htoolkit]
    exact hperm
  · obtain ⟨hd, hf, rfl⟩ := Option.map_eq_some_iff.1 hg
    obtain ⟨hd', hf', rfl⟩ := Option.map_eq_some_iff.1 hg'
    obtain ⟨ρ, hρ⟩ := (hplayed.handle hf hf').graph
    exact ⟨hρ.stats_eq, hρ.liveCount_eq⟩

end Stage

end WidgetStage
