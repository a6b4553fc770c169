import WidgetStage.Proofs.Stage.Replacing

/-!
# Images that are shown again

An image command empties its part and puts a new image there. If the same command comes once more,
then all that it finds in the part is the image that it has put there itself. This image holds
nothing and is in no scene graph, so without it everything is as it was when the first command had
emptied the part, but for a number that is used up. Hence the same is made of the second command as
of the first one: another image of the same kind and size, under the next number.

The size of the part is asked for only if the image is to be fitted into it. Nobody else looks at
it, so it makes no difference if it is always asked for.

## Main results

* `Toolkit.shown`: what becomes of a toolkit in which an image is shown.
* `Toolkit.Forest.clear_shown`: emptying the part again takes back everything but a number.
* `DisplayPlan.make_partSize?`: the size of the part may as well be asked for always.
* `repeated_image_renews`: a repeated command exchanges the image for another one of its kind.
-/

namespace WidgetStage

namespace Toolkit

variable {t : Toolkit} {p x : ObjectId} {part : String} {content : ImageContent}

/-- A toolkit in which a new image is shown in a part. -/
def shown (t : Toolkit) (p : ObjectId) (part : String) (content : ImageContent) : Toolkit :=
  (t.allocate content.kind (some content.size)).2.modifyObject p fun r =>
    { r with parts := r.parts.insert part t.nextObject }

/-- Showing an image adds a fresh object, and puts it into one part. -/
theorem object?_shown (hp : p < t.nextObject) :
    (t.shown p part content).object? x =
      if x = t.nextObject then some (.fresh content.kind (some content.size))
      else if x = p then
        (t.object? x).map fun r => { r with parts := r.parts.insert part t.nextObject }
      else t.object? x := by
  rw [shown, object?_modifyObject, live_allocate]
  by_cases hx : x = t.nextObject
  · rw [if_pos hx, if_pos hx, if_neg (hx ▸ Nat.ne_of_gt hp)]
  · rw [if_neg hx, if_neg hx]

/-- The new image is what the part holds. -/
theorem swallowed?_shown_self (part : String) (content : ImageContent) (hp : p < t.nextObject)
    (hlive : t.Live p) :
    (t.shown p part content).swallowed? p part = some t.nextObject := by
  obtain ⟨r, hr⟩ := live_iff.1 hlive
  rw [swallowed?, object?_shown hp, if_neg (Nat.ne_of_lt hp), if_pos rfl, hr, Option.map_some,
    Option.bind_some, Table.find?_insert, if_pos rfl]

/-- An image that is shown is one object more. -/
theorem liveCount_shown (hnew : t.object? t.nextObject = none) :
    (t.shown p part content).liveCount = t.liveCount + 1 := by
  rw [liveCount, shown, modifyObject, Table.size_modify]
  exact Table.size_insert_of_new hnew _

/-- Taking an image out of the part in which it is shown leaves it as a new object. -/
theorem unswallow_shown (hd : t.objects.Distinct) (hp : p < t.nextObject)
    (hempty : t.swallowed? p part = none) :
    ((t.shown p part content).unswallow p part).2 =
      (t.allocate content.kind (some content.size)).2 := by
  have hdistinct : (t.allocate content.kind (some content.size)).2.objects.Distinct :=
    hd.insert _ _
  have hself : ((t.shown p part content).unswallow p part).2.objects =
      (t.allocate content.kind (some content.size)).2.objects := by
    rw [unswallow, modifyObject, shown, modifyObject, Table.modify_modify]
    refine Table.modify_eq_self fun r hr => ?_
    have hobject : (t.allocate content.kind (some content.size)).2.object? p = some r :=
      hdistinct.mem_entries_iff.1 hr
    rw [live_allocate, if_neg (Nat.ne_of_lt hp)] at hobject
    rw [swallowed?_of_object hobject] at hempty
    rw [Function.comp, Table.erase_insert hempty]
  rw [unswallow, modifyObject] at hself ⊢
  exact congrArg (fun objects => { t with nextObject := t.nextObject + 1, objects }) hself

namespace Forest

/-- Emptying the part again takes back everything but a number. -/
theorem clear_shown (ht : t.Forest) (content : ImageContent) (hd : t.objects.Distinct)
    (hp : p < t.nextObject) (hempty : t.swallowed? p part = none) :
    ((t.shown p part content).unswallow p part).2.delete t.nextObject =
      ([t.nextObject],
        { t with nextObject := t.nextObject + 1, deleted := t.deleted ++ [t.nextObject] }) := by
  rw [unswallow_shown hd hp hempty]
  exact Prod.ext (ht.cascade_allocate content.kind (some content.size))
    (ht.delete_allocate hd content.kind (some content.size))

end Forest

/-- Nothing prevents the toolkit from showing an image in a part of an object. -/
structure Permits (t : Toolkit) (p : ObjectId) : Prop where
  image : t.imageFailure = none
  swallow : t.swallowFailure = none
  live : t.Live p

/-- Where nothing prevents it, making an image and putting it into the part shows it. -/
theorem Permits.swallow_allocate (h : t.Permits p) (part : String) (content : ImageContent) :
    (t.allocate content.kind (some content.size)).2.swallow p part t.nextObject =
      .ok (t.shown p part content) := by
  have hfree : (t.allocate content.kind (some content.size)).2.swallowFailure = none := h.swallow
  obtain ⟨r, hr⟩ : ∃ r, (t.allocate content.kind (some content.size)).2.object? p = some r := by
    rw [live_allocate]
    split
    · exact ⟨_, rfl⟩
    · exact live_iff.1 h.live
  simp only [Toolkit.swallow, hfree, hr]
  rfl

/-- In a part, an image has been exchanged for another one of its kind and size. -/
structure Renewed (p : ObjectId) (part : String) (content : ImageContent) (old new : ObjectId)
    (t t' : Toolkit) : Prop where
  old_held : t.swallowed? p part = some old
  old_object : t.object? old = some (.fresh content.kind (some content.size))
  old_gone : t'.object? old = none
  new_held : t'.swallowed? p part = some new
  new_object : t'.object? new = some (.fresh content.kind (some content.size))
  new_unknown : t.object? new = none
  container : t'.object? p = (t.object? p).map fun r => { r with parts := r.parts.insert part new }
  others : ∀ x, x ≠ old → x ≠ new → x ≠ p → t'.object? x = t.object? x
  liveCount : t'.liveCount = t.liveCount

/-- The image that is shown first, and the one that is shown after the part has been emptied. -/
theorem Forest.renewed_shown (ht : t.Forest) (hlive : t.Live p)
    (hempty : t.swallowed? p part = none) (deleted : List ObjectId) :
    Renewed p part content t.nextObject (t.nextObject + 1) (t.shown p part content)
      ({ t with nextObject := t.nextObject + 1, deleted := deleted }.shown p part content) := by
  have hp := ht.fresh p hlive
  generalize ht' : ({ t with nextObject := t.nextObject + 1, deleted := deleted } : Toolkit) = t'
  have hnext : t'.nextObject = t.nextObject + 1 := ht' ▸ rfl
  have hobjects : ∀ x, t'.object? x = t.object? x := fun x => ht' ▸ rfl
  have hp' : p < t'.nextObject := hnext ▸ Nat.lt_succ_of_lt hp
  have hold : t.object? t.nextObject = none := not_live_iff.1 (ht.not_live_next rfl)
  have hnew : t.object? (t.nextObject + 1) = none :=
    not_live_iff.1 fun hlive => Nat.not_succ_lt_self (ht.fresh _ hlive)
  have hlive' : t'.Live p := by rwa [Live, hobjects]
  refine ⟨swallowed?_shown_self part content hp hlive, ?_, ?_,
    hnext ▸ swallowed?_shown_self part content hp' hlive', ?_, ?_, ?_,
    fun x hxold hxnew hxp => ?_, ?_⟩
  · rw [object?_shown hp, if_pos rfl]
  · rw [object?_shown hp', hnext, if_neg (Nat.ne_of_lt (Nat.lt_succ_self _)),
      if_neg (Nat.ne_of_gt hp), hobjects, hold]
  · rw [object?_shown hp', hnext, if_pos rfl]
  · rw [object?_shown hp, if_neg (Nat.succ_ne_self _), if_neg (Nat.ne_of_gt (hnext ▸ hp')), hnew]
  · rw [object?_shown hp', if_neg (Nat.ne_of_lt hp'), if_pos rfl, object?_shown hp,
      if_neg (Nat.ne_of_lt hp), if_pos rfl, hobjects, Option.map_map, hnext]
    refine Option.map_congr fun r hr => ?_
    rw [swallowed?_of_object hr] at hempty
    rw [Function.comp, Table.insert_insert hempty]
  · rw [object?_shown hp', hnext, if_neg hxnew, if_neg hxp, object?_shown hp, if_neg hxold,
      if_neg hxp, hobjects]
  · rw [liveCount_shown hold, liveCount_shown (by rw [hobjects, hnext, hnew]), ← ht']
    rfl

end Toolkit

section Geometry

variable {natural : Size} {explicit : Option Size} {options : ImageOptions}

/-- The size of the part may as well be asked for always. -/
theorem DisplayPlan.make_partSize? (s : Stage) (o : ObjectId) (part : String) (natural : Size)
    (explicit : Option Size) (options : ImageOptions) :
    DisplayPlan.make Float natural explicit (s.partSize? o part options explicit) options =
      DisplayPlan.make Float natural explicit (s.toolkit.partGeometry? o part) options := by
  rw [Stage.partSize?]
  split
  · rfl
  next hskip =>
  cases hexplicit : explicit with
  | some size => rfl
  | none =>
      cases haspect : options.aspect with
      | false => simp only [make, haspect]; rfl
      | true =>
          have hfill : options.fill = .disable := by
            by_contra hfill
            exact hskip ⟨hexplicit ▸ rfl, haspect, hfill⟩
          simp only [make, haspect, hfill, FillMode.factor]

end Geometry

namespace Stage

variable {s : Stage} {h : Nat} {id : Option String} {target : Target} {p : ObjectId}
  {part path : String} {options : ImageOptions} {content : ImageContent} {files : Files}

/-! ### Showing an image -/

/-- An image is shown if nothing prevents it. -/
theorem showImage_of_permits (hpermits : s.toolkit.Permits p) (part : String)
    (options : ImageOptions) (content : ImageContent) : ∃ shadows,
      s.showImage p part options content =
        (.ok (), { s with toolkit := s.toolkit.shown p part content, shadows := shadows }) := by
  obtain ⟨shadows, hcast⟩ := castShadow_eq
    (s.withToolkit (s.toolkit.allocate content.kind (some content.size)).2)
    s.toolkit.nextObject options.shadow
  refine ⟨shadows, ?_⟩
  simp only [showImage, Toolkit.createImage, hpermits.image, Toolkit.fst_allocate, hcast]
  dsimp only [withToolkit]
  rw [hpermits.swallow_allocate]

/-- Nothing prevented an image that is shown. -/
theorem permits_of_showImage (hp : p < s.toolkit.nextObject)
    (hr : (s.showImage p part options content).1 = .ok ()) : s.toolkit.Permits p := by
  rw [showImage, Toolkit.createImage] at hr
  cases himage : s.toolkit.imageFailure with
  | some e =>
      rw [himage] at hr
      cases hr
  | none =>
      obtain ⟨shadows, hcast⟩ := castShadow_eq
        (s.withToolkit (s.toolkit.allocate content.kind (some content.size)).2)
        s.toolkit.nextObject options.shadow
      simp only [himage, Toolkit.fst_allocate, hcast] at hr
      dsimp only [withToolkit] at hr
      split at hr
      · cases hr
      next t hswallow =>
      obtain ⟨hlive, -⟩ := Toolkit.swallow_eq_ok hswallow
      refine ⟨himage, ?_, ?_⟩
      · rw [Toolkit.swallow] at hswallow
        split at hswallow
        · cases hswallow
        · next hnone => exact hnone
      · rw [Toolkit.Live, Toolkit.live_allocate, if_neg (Nat.ne_of_lt hp)] at hlive
        exact hlive

/-! ### Emptying the part again -/

/-- What is addressed is still found after a part of it has been emptied. -/
theorem Consistent.address_clearPart (hs : s.Consistent) (ha : s.address h id = .ok target)
    (part : String) : ∃ hd, (s.clearPart h target.object part).address h id =
      .ok ⟨hd, target.node, target.object⟩ := by
  obtain ⟨hf, hfind, ho⟩ := address_eq_ok_iff.1 ha
  obtain ⟨-, hn⟩ := hs.address_eq_ok ha
  have hwf := hs.wellFormed_of_find hf
  obtain ⟨ds, hds, hgraphs⟩ := hs.exists_graph?_clearPart ha part
  have hg := (hgraphs h).trans (if_pos rfl)
  obtain ⟨hd, hf', hgraph⟩ := Option.map_eq_some_iff.1 hg
  have hkept : target.object ∉ ds := by
    rw [hds]
    rintro ⟨c, hc, hbelow⟩
    exact Nat.not_le_of_lt (hs.forest.older _ _ _ hc) (hs.forest.le_of_below hbelow)
  have hfound := hwf.find_destroyAll hfind hn hkept
  have hnode : (target.handle.graph.destroyAll ds).nodeOf? target.object = some target.node := by
    rw [hwf.nodeOf?_destroyAll, if_neg hkept, hn]
  refine ⟨hd, address_eq_ok_iff.2 ⟨hf', ?_, ?_⟩⟩
  · rw [hgraph]
    exact hfound
  · rw [hgraph]
    exact (hwf.destroyAll ds).object?_of_nodeOf? hnode

/-- Emptying the part of an image that has just been shown leaves what there was before it. -/
theorem Consistent.clearPart_shown (hs : s.Consistent) (content : ImageContent)
    (hdistinct : s.toolkit.objects.Distinct) (hlive : s.toolkit.Live p)
    (hempty : s.toolkit.swallowed? p part = none) (h : Nat)
    (shadows : Option (List (ObjectId × ShadowOptions))) :
    ∃ s', { s with
        toolkit := s.toolkit.shown p part content
        shadows := shadows }.clearPart h p part = s' ∧
      s'.toolkit = { s.toolkit with
        nextObject := s.toolkit.nextObject + 1
        deleted := s.toolkit.deleted ++ [s.toolkit.nextObject] } ∧
      s'.config = s.config ∧ ∀ k, s'.handles.find? k = s.handles.find? k := by
  have hp := hs.forest.fresh p hlive
  have hheld := Toolkit.swallowed?_shown_self part content hp hlive
  have hclear := hs.forest.clear_shown content hdistinct hp hempty
  have heq : { s with toolkit := s.toolkit.shown p part content, shadows := shadows }.clearPart
      h p part = ({ s with
        toolkit := { s.toolkit with
          nextObject := s.toolkit.nextObject + 1
          deleted := s.toolkit.deleted ++ [s.toolkit.nextObject] }
        shadows := shadows } : Stage).modifyHandle h fun hd =>
          hd.reportAll [s.toolkit.nextObject] := by
    rw [clearPart_of_held hheld]
    exact congrArg (fun r : List ObjectId × Toolkit =>
      ({ s with toolkit := r.2, shadows := shadows } : Stage).modifyHandle h fun hd =>
        hd.reportAll r.1) hclear
  refine ⟨_, heq, rfl, rfl, fun k => ?_⟩
  rw [modifyHandle, Table.find?_modify]
  split
  · cases hf : s.handles.find? k with
    | none => rfl
    | some hd =>
        -- no scene graph knows of the image
        have hnew := hs.nodeOf?_of_le (graph?_of_find hf) (Nat.le_refl _)
        rw [Option.map_some, Handle.reportAll, SceneGraph.destroyAll, List.foldl_cons,
          List.foldl_nil, SceneGraph.destroy_of_untracked hnew]
  · rfl

/-! ### The command -/

/-- What a command addresses depends on the handle only. -/
theorem address_congr {s' : Stage} (hf : s'.handles.find? h = s.handles.find? h) :
    s'.address h id = s.address h id := by
  rw [address, address, lookup, lookup, hf]

/-- An image is prepared alike in toolkits that differ in numbers and in what they have deleted. -/
theorem prepareImage_congr {s' : Stage} {nextObject : ObjectId} {deleted : List ObjectId}
    (toolkit : s'.toolkit = { s.toolkit with nextObject := nextObject, deleted := deleted })
    (config : s'.config = s.config) :
    s'.prepareImage files p part path options = s.prepareImage files p part path options := by
  simp only [prepareImage, partSize?, toolkit, config]
  rfl

/-- An image that is prepared has been decoded and planned, as if the size of the part were always
asked for. -/
theorem prepareImage_eq_ok (hr : s.prepareImage files p part path options = .ok content) :
    ∃ picture plan, files.decode path options.orient = .ok picture ∧
      DisplayPlan.make Float picture.size (options.scaledSize s.config.uiScale)
        (s.toolkit.partGeometry? p part) options = .ok plan ∧
      contentOf picture plan = .ok content := by
  rw [prepareImage] at hr
  split at hr
  · cases hr
  next picture hdecode =>
  dsimp only at hr
  rw [DisplayPlan.make_partSize?] at hr
  split at hr
  · cases hr
  next plan hplan =>
  split at hr
  · cases hr
  next content' hcontent =>
  cases hr
  exact ⟨picture, plan, hdecode, hplan, hcontent⟩

/-- With a file to be read, the part is emptied, and the image prepared and shown. -/
theorem updateImage_of_path {option : Option String} (ha : s.address h id = .ok target)
    (hpath : ¬ (path = "" ∨ files.isReadable path = false)) :
    s.updateImage files h id part path option =
      let s := s.clearPart h target.object part
      match s.prepareImage files target.object part path (.parse option) with
      | .error e => (.error e, s)
      | .ok content => s.showImage target.object part (.parse option) content := by
  rw [updateImage, ha]
  exact if_neg hpath

/-- Where an image has just been shown in an empty part, the command exchanges it. -/
theorem Consistent.updateImage_of_shown {option : Option String} (hs : s.Consistent)
    (hdistinct : s.toolkit.objects.Distinct) (ha : s.address h id = .ok target)
    (hempty : s.toolkit.swallowed? target.object part = none)
    (hpath : ¬ (path = "" ∨ files.isReadable path = false))
    (hprepare : s.prepareImage files target.object part path (.parse option) = .ok content)
    {s₁ : Stage} (hshow : s.showImage target.object part (.parse option) content = (.ok (), s₁)) :
    ∃ s₂, s₁.updateImage files h id part path option = (.ok (), s₂) ∧
      (∀ k, s₂.handles.find? k = s₁.handles.find? k) ∧
      s₁.toolkit.Renewed target.object part content s.toolkit.nextObject
        (s.toolkit.nextObject + 1) s₂.toolkit := by
  obtain ⟨hf, hn⟩ := hs.address_eq_ok ha
  have hp := hs.tracked_lt h _ _ _ (graph?_of_find hf) hn
  have hpermits := permits_of_showImage hp (congrArg Prod.fst hshow)
  obtain ⟨shadows, hshown⟩ := showImage_of_permits hpermits part (.parse option) content
  rw [hshown, Prod.mk.injEq] at hshow
  obtain ⟨-, rfl⟩ := hshow
  obtain ⟨s', hclear, htoolkit, hconfig, hhandles⟩ :=
    hs.clearPart_shown content hdistinct hpermits.live hempty h shadows
  have hpermits' : s'.toolkit.Permits target.object := by
    rw [htoolkit]
    exact ⟨hpermits.image, hpermits.swallow, hpermits.live⟩
  obtain ⟨shadows', hshown'⟩ := showImage_of_permits hpermits' part (.parse option) content
  refine ⟨{ s' with toolkit := s'.toolkit.shown target.object part content, shadows := shadows' },
    ?_, hhandles, ?_⟩
  · have ha₁ : { s with
        toolkit := s.toolkit.shown target.object part content
        shadows := shadows }.address h id = .ok target := (address_congr rfl).trans ha
    rw [updateImage_of_path ha₁ hpath]
    dsimp only
    rw [hclear, prepareImage_congr htoolkit hconfig, hprepare]
    exact hshown'
  · dsimp only
    rw [htoolkit]
    exact hs.forest.renewed_shown hpermits.live hempty _

/-- A part is left empty once, and stays empty. -/
theorem Consistent.updateImage_of_cleared {option : Option String} (hs : s.Consistent)
    (ha : s.address h id = .ok target) (hpath : path = "" ∨ files.isReadable path = false) :
    let s₁ := s.clearPart h target.object part
    s.updateImage files h id part path option = (.ok (), s₁) ∧
      s₁.updateImage files h id part path option = (.ok (), s₁) ∧
      s₁.toolkit.swallowed? target.object part = none := by
  intro s₁
  obtain ⟨hd, ha₁⟩ := hs.address_clearPart ha part
  have hempty := (hs.moves_clearPart ha part).2.1
  have hcleared : ∀ {s : Stage} {target}, s.address h id = .ok target →
      s.updateImage files h id part path option = (.ok (), s.clearPart h target.object part) := by
    intro s target ha
    rw [updateImage, ha]
    dsimp only
    rw [if_pos hpath]
  refine ⟨hcleared ha, (hcleared ha₁).trans ?_, hempty⟩
  rw [clearPart_of_empty hempty]

/-- Emptying a part leaves the configuration. -/
theorem config_clearPart : (s.clearPart h p part).config = s.config := by
  rw [clearPart]
  split <;> rfl

/-- Emptying a part does not concern its size. -/
theorem Consistent.partGeometry?_clearPart (hs : s.Consistent) (h : Nat) (p : ObjectId)
    (part : String) : (s.clearPart h p part).toolkit.partGeometry? p part =
      s.toolkit.partGeometry? p part := by
  rcases hc : s.toolkit.swallowed? p part with _ | c
  · rw [clearPart_of_empty hc]
  · have hkept : ¬ s.toolkit.Below c p := fun hbelow =>
      Nat.not_le_of_lt (hs.forest.older _ _ _ hc) (hs.forest.le_of_below hbelow)
    obtain ⟨r, hr⟩ := Toolkit.live_iff.1 (Toolkit.live_of_swallowed? hc)
    have hlive := (Toolkit.shrunk_clear hs.forest hc).live_iff.2 ⟨Toolkit.live_iff.2 ⟨r, hr⟩, hkept⟩
    obtain ⟨r', hr'⟩ := Toolkit.live_iff.1 hlive
    have hobject : (s.clearPart h p part).toolkit.object? p = some r' := by
      rw [clearPart_of_held hc]
      exact hr'
    have hgeometry : (s.clearPart h p part).toolkit.partGeometry = s.toolkit.partGeometry := by
      rw [clearPart_of_held hc]
      rfl
    simp only [Toolkit.partGeometry?, hobject, hr, hgeometry]

/-- A command that is answered with nothing has succeeded. -/
theorem updateImage_of_run {w : Surroundings} {option : Option String}
    (hr : (s.run w (.image h id part path option)).1 = .ok .nothing) :
    s.updateImage w.files h id part path option =
      (.ok (), (s.run w (.image h id part path option)).2) := by
  rw [run] at hr ⊢
  generalize s.updateImage w.files h id part path option = r at hr ⊢
  obtain ⟨e | ⟨⟩, s'⟩ := r
  · cases hr
  · rfl

/-- An image that is shown is answered with nothing. -/
theorem run_of_updateImage {w : Surroundings} {option : Option String} {s' : Stage}
    (hr : s.updateImage w.files h id part path option = (.ok (), s')) :
    s.run w (.image h id part path option) = (.ok .nothing, s') := by
  rw [run, hr]
  rfl

section Play

variable (order : DestroyOrder) (config : Config) (castsShadows : Bool) (turns : List Turn)

/-- After every play, an image command that succeeds succeeds again with the same files, whatever
the time. All handles are left exactly as they are after the first command, with their scene graphs,
and there are as many objects. If there is no path, or it cannot be read, then nothing has changed
at all, and the part is empty. Else the image in the part has been exchanged for another one of its
kind and size, and no other object is concerned, except that the container has the new image in this
part. Both images are what is planned if the size of the part is always asked for, which never makes
a difference, not even to a plan that fails. -/
theorem repeated_image_renews (files : Files) (clock clock' : Nat → Duration) (h : Nat)
    (id : Option String) (part path : String) (option : Option String) :
    let s := (start (.start order) config castsShadows).play turns
    let command := Command.image h id part path option
    let s₁ := (s.run ⟨files, clock⟩ command).2
    let s₂ := (s₁.run ⟨files, clock'⟩ command).2
    let options := ImageOptions.parse option
    (∀ natural explicit o options,
      DisplayPlan.make Float natural explicit (s.partSize? o part options explicit) options =
        DisplayPlan.make Float natural explicit (s.toolkit.partGeometry? o part) options) ∧
    ((s.run ⟨files, clock⟩ command).1 = .ok .nothing →
      (s₁.run ⟨files, clock'⟩ command).1 = .ok .nothing ∧
      (∀ k, s₂.handles.find? k = s₁.handles.find? k) ∧
      s₂.toolkit.liveCount = s₁.toolkit.liveCount ∧
      ∃ target, s.address h id = .ok target ∧
        (path = "" ∨ files.isReadable path = false →
          s₂ = s₁ ∧ s₁.toolkit.swallowed? target.object part = none) ∧
        (¬ (path = "" ∨ files.isReadable path = false) → ∃ picture plan content old new,
          files.decode path options.orient = .ok picture ∧
          DisplayPlan.make Float picture.size (options.scaledSize s.config.uiScale)
            (s.toolkit.partGeometry? target.object part) options = .ok plan ∧
          contentOf picture plan = .ok content ∧
          s₁.toolkit.Renewed target.object part content old new s₂.toolkit)) := by
  intro s command s₁ s₂ options
  refine ⟨fun natural explicit o options => DisplayPlan.make_partSize? s o part natural explicit
    options, fun hr => ?_⟩
  have hs : s.Consistent := consistent_play order config castsShadows turns
  have hdistinct : s.toolkit.objects.Distinct := distinct_play order config castsShadows turns
  have hfirst : s.updateImage files h id part path option = (.ok (), s₁) := updateImage_of_run hr
  cases ha : s.address h id with
  | error e =>
      rw [updateImage, ha] at hfirst
      cases hfirst
  | ok target =>
  by_cases hpath : path = "" ∨ files.isReadable path = false
  · obtain ⟨hcleared, hsecond, hempty⟩ := hs.updateImage_of_cleared ha hpath
    rw [hfirst, Prod.mk.injEq] at hcleared
    rw [← hcleared.2] at hsecond hempty
    have hrun : s₁.run ⟨files, clock'⟩ command = (.ok .nothing, s₁) := run_of_updateImage hsecond
    have hsame : s₂ = s₁ := (Prod.ext_iff.1 hrun).2
    refine ⟨congrArg Prod.fst hrun, fun k => by rw [hsame], by rw [hsame], target, rfl,
      fun _ => ⟨hsame, hempty⟩, fun hne => absurd hpath hne⟩
  · obtain ⟨hmoves, hempty, -⟩ := hs.moves_clearPart ha part
    obtain ⟨hd, ha'⟩ := hs.address_clearPart ha part
    have hdistinct' := Toolkit.distinct_of_edits (edits_clearPart h target.object part) hdistinct
    have hshow := (updateImage_of_path ha hpath).symm.trans hfirst
    dsimp only at hshow
    split at hshow
    · cases hshow
    next content hprepare =>
    obtain ⟨s', hagain, hhandles, hrenewed⟩ := (hs.moves hmoves).updateImage_of_shown hdistinct' ha'
      hempty hpath hprepare hshow
    have hrun : s₁.run ⟨files, clock'⟩ command = (.ok .nothing, s') := run_of_updateImage hagain
    have hsecond : s₂ = s' := (Prod.ext_iff.1 hrun).2
    obtain ⟨picture, plan, hdecode, hplan, hcontent⟩ := prepareImage_eq_ok hprepare
    rw [hs.partGeometry?_clearPart, config_clearPart] at hplan
    rw [hsecond]
    exact ⟨congrArg Prod.fst hrun, hhandles, hrenewed.liveCount, target, rfl,
      fun he => absurd he hpath,
      fun _ => ⟨picture, plan, content, _, _, hdecode, hplan, hcontent, hrenewed⟩⟩

/-- The file of the rows, and a picture of one pixel. -/
def dotFiles : Files :=
  (Files.empty.write "rows.edj" (.text "")).write "dot.png" (.picture (.testCard ⟨1, 1⟩))

/-- A layout with a row in its slot. -/
def filledSlot : Stage :=
  (start (.start .parentFirst) .standard false).play
    [.command ⟨dotFiles, fun _ => .ofMicros 0⟩ (.create "rows.edj" "main" ⟨0, 0⟩),
      .command ⟨dotFiles, fun _ => .ofMicros 0⟩ (.script 1 none none "slot" "rows.edj" "row")]

/-- An image takes the place of the row, and is exchanged for another one a second later. -/
theorem repeated_image_renews_dot :
    ∃ s₁ s₂, filledSlot.run ⟨dotFiles, fun _ => .ofMicros 0⟩
        (.image 1 none "slot" "dot.png" none) = (.ok .nothing, s₁) ∧
      s₁.run ⟨dotFiles, fun _ => .ofMicros 1000000⟩ (.image 1 none "slot" "dot.png" none) =
        (.ok .nothing, s₂) ∧
      ∃ content, content.kind = .image ⟨1, 1⟩ false false ∧
        s₁.toolkit.Renewed 1 "slot" content 3 4 s₂.toolkit := by
  have hfirst : (filledSlot.run ⟨dotFiles, fun _ => .ofMicros 0⟩
      (.image 1 none "slot" "dot.png" none)).1 = .ok .nothing := by decide
  have haddress : (filledSlot.address 1 none).map Target.object = .ok 1 := by decide
  have hpath : ¬ ("dot.png" = "" ∨ dotFiles.isReadable "dot.png" = false) := by decide
  obtain ⟨-, hagain⟩ := repeated_image_renews .parentFirst .standard false
    [.command ⟨dotFiles, fun _ => .ofMicros 0⟩ (.create "rows.edj" "main" ⟨0, 0⟩),
      .command ⟨dotFiles, fun _ => .ofMicros 0⟩ (.script 1 none none "slot" "rows.edj" "row")]
    dotFiles (fun _ => .ofMicros 0) (fun _ => .ofMicros 1000000) 1 none "slot" "dot.png" none
  obtain ⟨hsecond, -, -, target, ha, -, hshown⟩ := hagain hfirst
  obtain ⟨_, _, content, old, new, -, -, -, hrenewed⟩ := hshown hpath
  have hobject : target.object = 1 := by
    have ha' : filledSlot.address 1 none = .ok target := ha
    rw [ha'] at haddress
    exact Except.ok.inj haddress
  rw [hobject] at hrenewed
  have hold : some 3 = some old := by
    rw [← hrenewed.old_held]
    decide
  have hnew : some 4 = some new := by
    rw [← hrenewed.new_held]
    decide
  cases hold
  cases hnew
  have hkind := congrArg (Option.map ToolkitObject.kind) hrenewed.old_object
  exact ⟨_, _, Prod.ext hfirst rfl, Prod.ext hsecond rfl, content,
    Option.some.inj (hkind.symm.trans (by decide)), hrenewed⟩

end Play

end Stage

end WidgetStage
