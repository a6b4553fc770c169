import WidgetStage.Proofs.Stage.Turns

/-!
# Content that cannot be made

A command that is to show an image or a layout in a part empties the part first. If the content
cannot be made, whatever the reason and however far it had got, the part is left empty and all else
is as it was: what was allocated is deleted, and what was attached is taken back. What remains of
the attempt are numbers that are used up, and a few records that nothing refers to.

## Main results

* `SameContent`: two stages that show the same.
* `Consistent.showImage_of_error`, `Consistent.loadInto_of_error`: an attempt that fails leaves what
  is shown as it was.
* `failed_update_eq_clear`: a failed command leaves what the same command leaves without a path.
-/

namespace WidgetStage

/-- Two handles that show the same, but for slots of their scene graphs that are free. -/
structure Handle.SameContent (hd hd' : Handle) : Prop where
  file : hd'.file = hd.file
  group : hd'.group = hd.group
  category : hd'.category = hd.category
  buffer : hd'.buffer = hd.buffer
  input : hd'.input = hd.input
  graph : hd.graph.SameNodes hd'.graph

namespace Stage

open Relation (ReflTransGen)

/-- Two stages that show the same: the toolkits have the same objects with the same contents, have
taken the same calls and are told to behave alike, and the same handles are loaded. -/
structure SameContent (s s' : Stage) : Prop where
  toolkit : ∃ nextObject deleted,
    s'.toolkit = { s.toolkit with nextObject := nextObject, deleted := deleted }
  config : s'.config = s.config
  nextHandle : s'.nextHandle = s.nextHandle
  loaded : s'.handles.keys = s.handles.keys
  handles : ∀ h, Option.Rel Handle.SameContent (s.handles.find? h) (s'.handles.find? h)

variable {s s' : Stage} {h : Nat} {id : Option String} {target : Target} {part : String}
  {e : StageError}

/-- A handle has the content that it has. -/
theorem Handle.sameContent_self (hd : Handle) : hd.SameContent hd :=
  ⟨rfl, rfl, rfl, rfl, rfl, fun _ => rfl, rfl, fun _ => rfl⟩

/-- Where handles are not concerned. -/
theorem sameContent_of_handles_eq
    (toolkit : ∃ nextObject deleted,
      s'.toolkit = { s.toolkit with nextObject := nextObject, deleted := deleted })
    (config : s'.config = s.config) (nextHandle : s'.nextHandle = s.nextHandle)
    (handles : s'.handles = s.handles) : SameContent s s' where
  toolkit := toolkit
  config := config
  nextHandle := nextHandle
  loaded := by rw [handles]
  handles h := by
    rw [handles]
    rcases s.handles.find? h with _ | hd
    · exact .none
    · exact .some (Handle.sameContent_self hd)

/-- A stage has the content that it has. -/
theorem sameContent_self (s : Stage) : SameContent s s :=
  sameContent_of_handles_eq ⟨_, _, rfl⟩ rfl rfl rfl

/-! ### Attempts that fail -/

/-- What is not found does not exist. -/
theorem status_of_address (ha : s.address h id = .error e) : e.status = .notExist := by
  unfold address lookup at ha
  cases hf : s.handles.find? h with
  | none =>
      simp only [hf, Except.error.injEq] at ha
      rw [← ha]
      rfl
  | some hd =>
      simp only [hf] at ha
      unfold resolve at ha
      cases hfind : hd.graph.find id with
      | none =>
          simp only [hfind, Except.error.injEq] at ha
          rw [← ha]
          rfl
      | some n =>
          cases ho : hd.graph.object? n with
          | none =>
              simp only [hfind, ho, Except.error.injEq] at ha
              rw [← ha]
              rfl
          | some o => simp [hfind, ho] at ha

/-- Casting a shadow concerns shadows only. -/
theorem castShadow_eq (s : Stage) (c : ObjectId) (shadow : ShadowOptions) :
    ∃ shadows, s.castShadow c shadow = { s with shadows := shadows } := by
  unfold castShadow
  split
  · exact ⟨_, rfl⟩
  · exact ⟨s.shadows, rfl⟩

/-- An image that cannot be shown is deleted again. -/
theorem Consistent.showImage_of_error (hs : s.Consistent) (hd : s.toolkit.objects.Distinct)
    {p : ObjectId} {options : ImageOptions} {content : ImageContent}
    (he : (s.showImage p part options content).1 = .error e) :
    SameContent s (s.showImage p part options content).2 := by
  unfold showImage Toolkit.createImage at he ⊢
  cases hfail : s.toolkit.imageFailure with
  | some failure =>
      exact sameContent_self s
  | none =>
      obtain ⟨shadows, hcast⟩ := castShadow_eq
        (s.withToolkit (s.toolkit.allocate content.kind (some content.size)).2)
        s.toolkit.nextObject options.shadow
      simp only [hfail, Toolkit.fst_allocate, hcast] at he ⊢
      split
      · exact sameContent_of_handles_eq
          ⟨_, _, hs.forest.delete_allocate hd content.kind (some content.size)⟩ rfl rfl rfl
      · next hswallow =>
        rw [hswallow] at he
        cases he

/-- A layout that cannot be placed is deleted again, and the scene graph forgets it. -/
theorem Consistent.placeLayout_of_error {hd : Handle} {ids : SyntheticIds}
    {path group name : String} (hs : s.Consistent) (hdistinct : s.toolkit.objects.Distinct)
    (hf : s.handles.find? h = some hd) (hn : hd.graph.nodeOf? target.object = some target.node)
    {s' : Stage}
    (hs' : s' = { s with
      toolkit := (s.toolkit.allocate (.layout path group) none).2
      ids := ids })
    (he : (placeLayout s' h target hd.graph part name s.toolkit.nextObject).1 = .error e) :
    SameContent s (placeLayout s' h target hd.graph part name s.toolkit.nextObject).2 := by
  obtain ⟨n, g', hattach⟩ := hs.exists_attach hf hn (Nat.le_refl _) name part
  have hdelete := hs.forest.delete_allocate hdistinct (.layout path group) none
  have hcascade := hs.forest.cascade_allocate (.layout path group) none
  have hg := hs.wellFormed_of_find hf
  have hsame : hd.graph.SameNodes (g'.destroyAll [s.toolkit.nextObject]) :=
    (SceneGraph.attached_of_attach hg.toFreeListed hattach).sameNodes_takeBack hg
      fun _ => List.mem_singleton
  subst hs'
  unfold placeLayout at he ⊢
  simp only [hattach] at he ⊢
  split
  · refine ⟨⟨_, _, hdelete⟩, rfl, rfl, ?_, fun k => ?_⟩
    · simp only [deleteReporting, modifyHandle, withToolkit, Table.keys_modify]
    · have hreported : ((s.toolkit.allocate (.layout path group) none).2.delete
          s.toolkit.nextObject).1 = [s.toolkit.nextObject] := hcascade
      simp only [deleteReporting, modifyHandle, withToolkit, Table.find?_modify, hreported]
      by_cases hk : k = h
      · simp only [hk, if_true, hf, Option.map_some]
        exact .some ⟨rfl, rfl, rfl, rfl, rfl, hsame⟩
      · simp only [if_neg hk]
        rcases s.handles.find? k with _ | other
        · exact .none
        · exact .some (Handle.sameContent_self other)
  · next hswallow =>
    rw [hswallow] at he
    cases he

/-- What was refused is the error of the operation. -/
theorem eq_error_of_refused {r : Except StageError Unit}
    (hr : r.mapError Failure.refused = .error (.refused e)) : r = .error e := by
  cases r with
  | error e' =>
      cases hr
      rfl
  | ok v => cases hr

/-- A layout that cannot be loaded or placed leaves what is shown as it was. -/
theorem Consistent.loadInto_of_error {hd : Handle} {w : Surroundings} {wanted : Option String}
    {path group : String} (hs : s.Consistent) (hdistinct : s.toolkit.objects.Distinct)
    (hf : s.handles.find? h = some hd) (hn : hd.graph.nodeOf? target.object = some target.node)
    (he : (s.loadInto w h target hd.graph wanted part path group).1 = .error (.refused e)) :
    SameContent s (s.loadInto w h target hd.graph wanted part path group).2 := by
  unfold loadInto at he ⊢
  split
  · exact sameContent_self s
  next hpath =>
  rw [if_neg hpath] at he
  split
  · exact sameContent_self s
  next hread =>
  rw [if_neg hread] at he
  cases hload : s.toolkit.loadFailure with
  | some failure => exact sameContent_self s
  | none =>
      simp only [hload] at he ⊢
      split at he
      · cases he
      next name ids hchoose =>
      exact hs.placeLayout_of_error hdistinct hf hn rfl (eq_error_of_refused he)

/-! ### Commands that fail -/

/-- Without a path an image command empties the part. -/
theorem updateImage_of_no_path (ha : s.address h id = .ok target) (files : Files) (part : String)
    (option : Option String) :
    s.updateImage files h id part "" option = (.ok (), s.clearPart h target.object part) := by
  simp [updateImage, ha]

/-- Without a path a layout command empties the part. -/
theorem updateScript_of_no_path (ha : s.address h id = .ok target) (w : Surroundings)
    (wanted : Option String) (part group : String) :
    s.updateScript w h id wanted part "" group = (.ok (), s.clearPart h target.object part) := by
  simp [updateScript, ha]

/-- A refused command is answered with its error. -/
theorem eq_error_of_answering {α : Type} {answer : α → Answer} {r : Except StageError α × Stage}
    {failure : Failure} (hr : (answering answer r).1 = .error failure) :
    ∃ e, failure = .refused e ∧ r.1 = .error e := by
  obtain ⟨e | v, d⟩ := r
  · cases hr
    exact ⟨e, rfl, rfl⟩
  · cases hr

/-- An answer that is a failure was one before it was put into words. -/
theorem eq_error_of_map {f : Unit → Answer} {r : Except Failure Unit} {failure : Failure}
    (hr : r.map f = .error failure) : r = .error failure := by
  cases r with
  | error e' =>
      cases hr
      rfl
  | ok v => cases hr

/-- An image that cannot be made leaves the part empty. -/
theorem Consistent.updateImage_of_error (hs : s.Consistent) (hd : s.toolkit.objects.Distinct)
    {files : Files} {path : String} {option : Option String}
    (ha : s.address h id = .ok target)
    (he : (s.updateImage files h id part path option).1 = .error e) :
    SameContent (s.clearPart h target.object part)
      (s.updateImage files h id part path option).2 := by
  have hs₁ := hs.moves (hs.moves_clearPart ha part).1
  have hd₁ := Toolkit.distinct_of_edits (edits_clearPart (s := s) h target.object part) hd
  simp only [updateImage, ha] at he ⊢
  generalize s.clearPart h target.object part = s₁ at hs₁ hd₁ he ⊢
  split at he
  · cases he
  next hpath =>
  rw [if_neg hpath]
  cases hprepare : s₁.prepareImage files target.object part path (.parse option) with
  | error e' => exact sameContent_self s₁
  | ok content =>
      rw [hprepare] at he
      exact hs₁.showImage_of_error hd₁ he

/-- A layout that cannot be made leaves the part empty. -/
theorem Consistent.updateScript_of_error (hs : s.Consistent) (hd : s.toolkit.objects.Distinct)
    {w : Surroundings} {wanted : Option String} {path group : String}
    (ha : s.address h id = .ok target)
    (he : (s.updateScript w h id wanted part path group).1 = .error (.refused e)) :
    SameContent (s.clearPart h target.object part)
      (s.updateScript w h id wanted part path group).2 := by
  obtain ⟨hdl, hf, hn, heq⟩ := hs.updateScript_eq ha w wanted part path group
  have hs₁ := hs.moves (hs.moves_clearPart ha part).1
  have hd₁ := Toolkit.distinct_of_edits (edits_clearPart (s := s) h target.object part) hd
  rw [heq] at he ⊢
  exact hs₁.loadInto_of_error hd₁ hf hn he

/-- An image command that fails though it finds its node leaves what it leaves without a path. -/
theorem Consistent.run_image_of_error (hs : s.Consistent) (hd : s.toolkit.objects.Distinct)
    {w : Surroundings} {path : String} {option : Option String}
    (he : (s.run w (.image h id part path option)).1 = .error (.refused e))
    (hstatus : e.status ≠ .notExist) :
    (s.run w (.image h id part "" option)).1 = .ok .nothing ∧
      SameContent (s.run w (.image h id part "" option)).2
        (s.run w (.image h id part path option)).2 := by
  obtain ⟨_, hrefused, he'⟩ := eq_error_of_answering he
  cases hrefused
  cases ha : s.address h id with
  | error e' =>
      simp only [Stage.updateImage, ha, Except.error.injEq] at he'
      exact absurd (status_of_address ha) (he' ▸ hstatus)
  | ok target =>
      simp only [Stage.run, answering_snd, updateImage_of_no_path ha]
      exact ⟨rfl, hs.updateImage_of_error hd ha he'⟩

/-- So does a layout command. -/
theorem Consistent.run_script_of_error (hs : s.Consistent) (hd : s.toolkit.objects.Distinct)
    {w : Surroundings} {wanted : Option String} {path group : String}
    (he : (s.run w (.script h id wanted part path group)).1 = .error (.refused e))
    (hstatus : e.status ≠ .notExist) :
    (s.run w (.script h id wanted part "" group)).1 = .ok .nothing ∧
      SameContent (s.run w (.script h id wanted part "" group)).2
        (s.run w (.script h id wanted part path group)).2 := by
  have he' : (s.updateScript w h id wanted part path group).1 = .error (.refused e) :=
    eq_error_of_map he
  cases ha : s.address h id with
  | error e' =>
      simp only [Stage.updateScript, ha, Except.error.injEq, Failure.refused.injEq] at he'
      exact absurd (status_of_address ha) (he' ▸ hstatus)
  | ok target =>
      simp only [Stage.run, updateScript_of_no_path ha]
      exact ⟨rfl, hs.updateScript_of_error hd ha he'⟩

/-- After every play, an image or layout command without a path succeeds if it finds its handle
and its node. With a path, if such a command fails although it finds them, then it leaves what the
same command would have left without the path: the same objects with the same contents, the same
calls, and the same handles with the same nodes. -/
theorem failed_update_eq_clear (order : DestroyOrder) (config : Config) (castsShadows : Bool)
    (turns : List Turn) (w : Surroundings) (h : Nat) (id : Option String) (part : String) :
    let s := (start (.start order) config castsShadows).play turns
    (∀ target, s.address h id = .ok target → ∀ option wanted group,
      (s.run w (.image h id part "" option)).1 = .ok .nothing ∧
      (s.run w (.script h id wanted part "" group)).1 = .ok .nothing) ∧
    (∀ path option e, (s.run w (.image h id part path option)).1 = .error (.refused e) →
      e.status ≠ .notExist →
      (s.run w (.image h id part "" option)).1 = .ok .nothing ∧
      SameContent (s.run w (.image h id part "" option)).2
        (s.run w (.image h id part path option)).2) ∧
    (∀ wanted path group e, (s.run w (.script h id wanted part path group)).1 =
        .error (.refused e) →
      e.status ≠ .notExist →
      (s.run w (.script h id wanted part "" group)).1 = .ok .nothing ∧
      SameContent (s.run w (.script h id wanted part "" group)).2
        (s.run w (.script h id wanted part path group)).2) := by
  intro s
  have hs : s.Consistent := consistent_play order config castsShadows turns
  have hd : s.toolkit.objects.Distinct := distinct_play order config castsShadows turns
  refine ⟨fun target ha option wanted group => ?_, fun path option e he hstatus => ?_,
    fun wanted path group e he hstatus => ?_⟩
  · simp only [run, updateImage_of_no_path ha, updateScript_of_no_path ha]
    exact ⟨rfl, rfl⟩
  · exact hs.run_image_of_error hd he hstatus
  · exact hs.run_script_of_error hd he hstatus

/-- A file that holds no image, and a layout that is loaded and attached but cannot be swallowed. -/
theorem failed_update_eq_clear_unswallowed :
    let w : Surroundings := ⟨Files.empty.write "rows.edj" (.text ""), fun _ => .ofMicros 0⟩
    let turns : List Turn := [.command w (.create "rows.edj" "main" ⟨0, 0⟩),
      .behave ⟨.empty, [], true, none, none, some (.fault "busy")⟩]
    let s := (start (.start .parentFirst) .standard false).play turns
    ((s.run w (.image 1 none "slot" "rows.edj" none)).1 =
        .error (.refused (.io "rows.edj" "cannot decode rows.edj")) ∧
      SameContent (s.run w (.image 1 none "slot" "" none)).2
        (s.run w (.image 1 none "slot" "rows.edj" none)).2) ∧
    (s.run w (.script 1 none none "slot" "rows.edj" "row")).1 =
        .error (.refused (.fault "busy")) ∧
      (s.run w (.script 1 none none "slot" "" "row")).1 = .ok .nothing ∧
      SameContent (s.run w (.script 1 none none "slot" "" "row")).2
        (s.run w (.script 1 none none "slot" "rows.edj" "row")).2 := by
  intro w turns s
  have himage : (s.run w (.image 1 none "slot" "rows.edj" none)).1 =
      .error (.refused (.io "rows.edj" "cannot decode rows.edj")) := by decide
  have hlayout : (s.run w (.script 1 none none "slot" "rows.edj" "row")).1 =
      .error (.refused (.fault "busy")) := by decide
  obtain ⟨-, himages, hlayouts⟩ :=
    failed_update_eq_clear .parentFirst .standard false turns w 1 none "slot"
  obtain ⟨-, hsame⟩ := himages _ _ _ himage (by decide)
  exact ⟨⟨himage, hsame⟩, hlayout, hlayouts _ _ _ _ hlayout (by decide)⟩

end Stage

end WidgetStage
