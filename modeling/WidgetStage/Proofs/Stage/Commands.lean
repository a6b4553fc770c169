import WidgetStage.Proofs.Stage.Moves
import WidgetStage.Proofs.Stage.Touches

/-!
# Commands as moves

Every command but the report of a destroyed object is a series of moves: at most one that empties
a part, and at most one after it. The report is no move, since what it does depends on whether it
is true.

## Main results

* `address_eq_ok`: what is addressed is tracked by the scene graph of the handle.
* `moves_clearPart`: emptying a part is a move, after which the part is empty and its container
  still tracked.
* `run_moves`: what a command makes of a consistent stage is reached by moves.
* `graph?_objectDestroyed`: what a report makes of the scene graphs.
-/

namespace WidgetStage.Stage

open Toolkit (Shrunk Alike Allocated Placed)
open Relation (ReflTransGen)

variable {s s' : Stage} {h k : Nat} {id : Option String} {target : Target} {part : String}

/-! ### Scene graphs of a stage -/

theorem graph?_of_find {hd : Handle} (hf : s.handles.find? h = some hd) :
    s.graph? h = some hd.graph := by
  rw [graph?, hf, Option.map_some]

/-- The scene graph of a loaded handle is well-formed. -/
theorem Consistent.wellFormed_of_find {hd : Handle} (hs : s.Consistent)
    (hf : s.handles.find? h = some hd) : hd.graph.WellFormed :=
  hs.wellFormed h _ (graph?_of_find hf)

/-- Changing a handle concerns its own scene graph only. -/
theorem graph?_modifyHandle (f : Handle → Handle) :
    (s.modifyHandle h f).graph? k =
      if k = h then (s.handles.find? k).map fun hd => (f hd).graph else s.graph? k := by
  rw [graph?, modifyHandle, Table.find?_modify]
  split
  · rw [Option.map_map]
    rfl
  · rfl

/-- Changing a loaded handle changes its scene graph only. -/
theorem graph?_modifyHandle_of_find {hd : Handle} (hf : s.handles.find? h = some hd)
    (f : Handle → Handle) :
    (s.modifyHandle h f).graph? k = if k = h then some (f hd).graph else s.graph? k := by
  rw [graph?_modifyHandle]
  by_cases hk : k = h
  · rw [if_pos hk, if_pos hk, hk, hf, Option.map_some]
  · rw [if_neg hk, if_neg hk]

/-- Changing anything else about a handle changes no scene graph. -/
theorem graph?_modifyHandle_of_graph_eq {f : Handle → Handle}
    (hgraph : ∀ hd, (f hd).graph = hd.graph) : (s.modifyHandle h f).graph? k = s.graph? k := by
  rw [graph?_modifyHandle]
  split
  · simp only [hgraph]
    rfl
  · rfl

/-- An address leads to the node that is found by the id, and to its object. -/
theorem address_eq_ok_iff :
    s.address h id = .ok target ↔ s.handles.find? h = some target.handle ∧
      target.handle.graph.find id = some target.node ∧
      target.handle.graph.object? target.node = some target.object := by
  obtain ⟨handle, node, object⟩ := target
  rw [address, lookup]
  rcases hf : s.handles.find? h with _ | hd
  · simp
  · rcases hfind : hd.graph.find id with _ | n
    · simp only [resolve, hfind, reduceCtorEq, Option.some.injEq, false_iff, not_and]
      rintro rfl hn
      simp [hfind] at hn
    · rcases ho : hd.graph.object? n with _ | o
      · simp only [resolve, hfind, ho, reduceCtorEq, Option.some.injEq, false_iff, not_and]
        rintro rfl hn
        obtain rfl : n = node := Option.some.inj (hfind.symm.trans hn)
        simp [ho]
      · simp only [resolve, hfind, ho, Except.ok.injEq, Target.mk.injEq, Option.some.injEq]
        constructor
        · rintro ⟨rfl, rfl, rfl⟩
          exact ⟨rfl, hfind, ho⟩
        · rintro ⟨rfl, hn, hobject⟩
          obtain rfl : n = node := Option.some.inj (hfind.symm.trans hn)
          exact ⟨rfl, rfl, Option.some.inj (ho.symm.trans hobject)⟩

/-- What is addressed is tracked by the scene graph of the handle. -/
theorem Consistent.address_eq_ok (hs : s.Consistent) (ha : s.address h id = .ok target) :
    s.handles.find? h = some target.handle ∧
      target.handle.graph.nodeOf? target.object = some target.node := by
  obtain ⟨hf, hfind, ho⟩ := address_eq_ok_iff.1 ha
  exact ⟨hf, ((hs.wellFormed_of_find hf).nodeOf?_of_find hfind ho).1⟩

/-- The addressed node has the id. -/
theorem Consistent.id?_of_address (hs : s.Consistent) (ha : s.address h id = .ok target) :
    target.handle.graph.id? target.node = id := by
  obtain ⟨hf, hfind, ho⟩ := address_eq_ok_iff.1 ha
  exact ((hs.wellFormed_of_find hf).nodeOf?_of_find hfind ho).2

/-! ### Moves that concern no object -/

/-- A change of the toolkit that concerns no object. -/
theorem Move.of_alike {t : Toolkit} (ht : Alike s.toolkit t) : Move s (s.withToolkit t) :=
  .idle ht.shrunk rfl fun _ => rfl

/-- A change of a handle that does not concern its scene graph. -/
theorem Move.of_modifyHandle {f : Handle → Handle} (hgraph : ∀ hd, (f hd).graph = hd.graph) :
    Move s (s.modifyHandle h f) :=
  .idle Alike.rfl.shrunk rfl fun _ => graph?_modifyHandle_of_graph_eq hgraph

/-- Where a command only touches, no object is concerned. -/
theorem Move.of_touch {mine : ObjectId → Prop} (ht : Touch mine h s s') : Move s s' := by
  cases ht with
  | object _ kind parts => exact .of_alike (Toolkit.alike_modifyObject kind parts)
  | call nextObject objects => exact .of_alike (Toolkit.alike_of_objects_eq nextObject objects)
  | handle graph => exact .of_modifyHandle graph

/-! ### Emptying a part -/

/-- Emptying a part in which there is nothing changes nothing. -/
theorem clearPart_of_empty {p : ObjectId} (hc : s.toolkit.swallowed? p part = none) :
    s.clearPart h p part = s := by
  simp only [clearPart, Toolkit.unswallow, hc]

/-- Emptying a part takes out what is in it, and deletes it. -/
theorem clearPart_of_held {p c : ObjectId} (hc : s.toolkit.swallowed? p part = some c) :
    s.clearPart h p part = (s.withToolkit (s.toolkit.unswallow p part).2).deleteReporting h c := by
  simp only [clearPart, Toolkit.unswallow, hc]

/-- What is destroyed with the content of a part is reported to the scene graph. -/
theorem graph?_clearPart_of_held {p c : ObjectId} {hd : Handle} (hf : s.handles.find? h = some hd)
    (hc : s.toolkit.swallowed? p part = some c) :
    (s.clearPart h p part).graph? k =
      if k = h then some (hd.graph.destroyAll ((s.toolkit.unswallow p part).2.delete c).1)
      else s.graph? k := by
  rw [clearPart_of_held hc]
  exact graph?_modifyHandle_of_find hf _

/-- Emptying a part is a move. After it the part is empty, and its container is still tracked. -/
theorem Consistent.moves_clearPart (hs : s.Consistent) (ha : s.address h id = .ok target)
    (part : String) :
    ReflTransGen Move s (s.clearPart h target.object part) ∧
      (s.clearPart h target.object part).toolkit.swallowed? target.object part = none ∧
      ∃ g, (s.clearPart h target.object part).graph? h = some g ∧
        g.nodeOf? target.object = some target.node := by
  obtain ⟨hf, hn⟩ := hs.address_eq_ok ha
  have hg := graph?_of_find hf
  rcases hc : s.toolkit.swallowed? target.object part with _ | c
  · rw [clearPart_of_empty hc]
    exact ⟨.refl, hc, _, hg, hn⟩
  · have hgraphs := fun k => graph?_clearPart_of_held (k := k) hf hc
    have hmem := fun x => Toolkit.mem_clear_iff (x := x) hs.forest hc
    have hshrunk := Toolkit.shrunk_clear hs.forest hc
    rw [clearPart_of_held hc] at hgraphs ⊢
    refine ⟨.single (.clear hg hn hc hmem hshrunk rfl hgraphs), ?_, _,
      (hgraphs h).trans (if_pos rfl), ?_⟩
    · refine Option.eq_none_iff_forall_ne_some.2 fun x hx => ?_
      obtain ⟨hx, hgone⟩ := (hshrunk.swallowed? _ _ x).1 hx
      rw [hc, Option.some.injEq] at hx
      exact hgone (hx ▸ .refl)
    · rw [(hs.wellFormed h _ hg).nodeOf?_destroyAll, if_neg, hn]
      -- the container is older than all that is below its content
      rw [hmem]
      intro hbelow
      exact Nat.not_le_of_lt (hs.forest.older _ _ _ hc) (hs.forest.le_of_below hbelow)

/-! ### Filling a part -/

/-- An image is put into an empty part, or nothing is changed. -/
theorem Consistent.move_showImage {g : SceneGraph} {p : ObjectId} {n : NodeId}
    (hs : s.Consistent) (hg : s.graph? h = some g) (hn : g.nodeOf? p = some n)
    (hempty : s.toolkit.swallowed? p part = none) (options : ImageOptions)
    (content : ImageContent) : Move s (s.showImage p part options content).2 := by
  unfold showImage Toolkit.createImage
  rcases hfail : s.toolkit.imageFailure with _ | e
  · have halloc := Toolkit.allocated_allocate hs.forest content.kind (some content.size)
    generalize hcast : castShadow
      (s.withToolkit (s.toolkit.allocate content.kind (some content.size)).2)
      (s.toolkit.allocate content.kind (some content.size)).1 options.shadow = s₁
    have htoolkit : s₁.toolkit = (s.toolkit.allocate content.kind (some content.size)).2 := by
      rw [← hcast]
      unfold castShadow
      split <;> rfl
    have hgraphs : ∀ k, s₁.graph? k = s.graph? k := fun k => by
      rw [← hcast]
      unfold castShadow
      split <;> rfl
    have hnext : s₁.nextHandle = s.nextHandle := by
      rw [← hcast]
      unfold castShadow
      split <;> rfl
    have himage : content.kind.isLayout = false := by cases content <;> rfl
    dsimp only
    rw [hcast, htoolkit]
    rcases hswallow : Toolkit.swallow (s.toolkit.allocate content.kind (some content.size)).2 p part
      (s.toolkit.allocate content.kind (some content.size)).1 with e | t
    · exact .idle (halloc.discard hs.forest) hnext hgraphs
    · exact .display hg hn himage
        (halloc.placed hswallow (hs.tracked_lt h g p n hg hn) hempty) hnext hgraphs
  · exact .idle Alike.rfl.shrunk rfl fun _ => rfl

/-- A layout is put into an empty part and tracked, or given up. -/
theorem Consistent.move_placeLayout {hd : Handle} {c : ObjectId} {path group name : String}
    {t : Toolkit} {ids : SyntheticIds} (hs : s.Consistent) (hf : s.handles.find? h = some hd)
    (hn : hd.graph.nodeOf? target.object = some target.node)
    (hempty : s.toolkit.swallowed? target.object part = none)
    (halloc : Allocated c (.layout path group) s.toolkit t) :
    Move s (placeLayout { s.withToolkit t with ids := ids } h target hd.graph part name c).2 := by
  have hg := graph?_of_find hf
  unfold placeLayout
  rcases hattach : hd.graph.attach c (some name) (some (target.node, part)) with e | ⟨m, g'⟩
  · exact .idle (halloc.discard hs.forest) rfl fun _ => rfl
  · have hattached := SceneGraph.attached_of_attach
      (hs.wellFormed h _ hg).toFreeListed hattach
    dsimp only
    generalize hset : modifyHandle { s.withToolkit t with ids := ids } h
      (fun hd => { hd with graph := g' }) = s₁
    have htoolkit : s₁.toolkit = t := by
      rw [← hset]
      rfl
    have hnext : s₁.nextHandle = s.nextHandle := by
      rw [← hset]
      rfl
    have hhandle : s₁.handles.find? h = some { hd with graph := g' } := by
      rw [← hset, modifyHandle, Table.find?_modify, if_pos rfl]
      exact congrArg (Option.map fun hd : Handle => { hd with graph := g' }) hf
    have hgraphs : ∀ k, s₁.graph? k = if k = h then some g' else s.graph? k := by
      intro k
      rw [← hset]
      exact graph?_modifyHandle_of_find hf _
    rw [htoolkit]
    rcases hswallow : t.swallow target.object part c with e | t'
    · have hshrunk : Shrunk (fun _ => False) s.toolkit (s₁.deleteReporting h c).toolkit := by
        rw [deleteReporting, htoolkit]
        exact halloc.discard hs.forest
      refine .giveUp hg hattached (fun x => halloc.mem_delete_iff (x := x) hs.forest) hshrunk
        hnext fun k => ?_
      dsimp only
      rw [deleteReporting, htoolkit]
      refine (graph?_modifyHandle_of_find hhandle _).trans ?_
      split
      · rfl
      · next hk => exact (hgraphs k).trans (if_neg hk)
    · exact .nest hg hn
        (halloc.placed hswallow (hs.tracked_lt h _ _ _ hg hn) hempty) hattached hnext hgraphs

/-! ### Commands that concern objects -/

/-- A layout is loaded into a new handle, or nothing is changed. -/
theorem Consistent.move_create (hs : s.Consistent) (files : Files) (path group : String)
    (size : Size) : Move s (s.create files path group size).2 := by
  have hself : Move s s := .idle Alike.rfl.shrunk rfl fun _ => rfl
  unfold create
  split
  · exact hself
  split
  · exact hself
  unfold Toolkit.loadLayout
  rcases s.toolkit.loadFailure with _ | e
  · have halloc := Toolkit.allocated_allocate hs.forest (.layout path group) none
    obtain ⟨n, g, hattach⟩ : ∃ n g, SceneGraph.empty.attach s.toolkit.nextObject none none =
        .ok (n, g) := ⟨_, _, rfl⟩
    have hattached := SceneGraph.attached_of_attach SceneGraph.wellFormed_empty.toFreeListed hattach
    have hfit : ∀ t o, Alike t (fitToBuffer t o size) := by
      intro t o
      unfold fitToBuffer
      split
      · exact Alike.rfl
      · exact Toolkit.alike_modifyObject (fun _ => rfl) fun _ => rfl
    dsimp only
    rw [Toolkit.fst_allocate, hattach]
    refine .load (halloc.trans_alike (hfit _ _)) hattached rfl fun k => ?_
    rw [graph?, Table.find?_insert]
    split
    · rfl
    · rfl
  · exact hself

/-- A handle is unloaded with its root, or nothing is changed. -/
theorem Consistent.move_destroy (hs : s.Consistent) (h : Nat) : Move s (s.destroy h).2 := by
  unfold destroy lookup
  rcases hf : s.handles.find? h with _ | hd
  · exact .idle Alike.rfl.shrunk rfl fun _ => rfl
  · have hg := graph?_of_find hf
    have hroot : ∀ o, hd.rootObject? = some o ↔ hd.graph.IsRoot o := fun o =>
      (hs.wellFormed h _ hg).rootObject?_eq_some_iff
    refine .unload hg ?_ rfl fun k => ?_
    · change Shrunk _ s.toolkit (tearDown hd s.toolkit).2
      unfold tearDown
      rcases ho : hd.rootObject? with _ | o
      · have hnone : (fun x => ∃ o, hd.graph.IsRoot o ∧ s.toolkit.Below o x) = fun _ => False := by
          funext x
          refine eq_false ?_
          rintro ⟨o, hroot', -⟩
          rw [(hroot o).2 hroot'] at ho
          cases ho
        rw [hnone]
        exact Alike.rfl.shrunk
      · have hone : (fun x => ∃ o, hd.graph.IsRoot o ∧ s.toolkit.Below o x) =
            s.toolkit.Below o := by
          funext x
          refine propext ⟨fun ⟨o', hroot', hx⟩ => ?_, fun hx => ⟨o, (hroot o).1 ho, hx⟩⟩
          rw [(hroot o').2 hroot', Option.some.injEq] at ho
          exact ho ▸ hx
        rw [hone]
        exact Toolkit.shrunk_delete hs.forest
    · change (Table.find? (s.handles.erase h) k).map Handle.graph = _
      rw [Table.find?_erase]
      split <;> rfl

/-- A part is emptied, and an image is put into it if there is one. -/
theorem Consistent.moves_updateImage (hs : s.Consistent) (files : Files) (h : Nat)
    (id : Option String) (part path : String) (option : Option String) :
    ReflTransGen Move s (s.updateImage files h id part path option).2 := by
  unfold updateImage
  rcases ha : s.address h id with e | target
  · exact .refl
  · obtain ⟨hmoves, hempty, g, hg, hn⟩ := hs.moves_clearPart ha part
    dsimp only
    generalize s.clearPart h target.object part = s₁ at hmoves hempty hg
    split
    · exact hmoves
    · rcases s₁.prepareImage files target.object part path (.parse option) with e | content
      · exact hmoves
      · exact hmoves.tail ((hs.moves hmoves).move_showImage hg hn hempty _ _)

/-- A part is emptied, and a layout is put into it if there is one. -/
theorem Consistent.moves_updateScript (hs : s.Consistent) (w : Surroundings) (h : Nat)
    (source wanted : Option String) (part path group : String)
    (hr : (s.updateScript w h source wanted part path group).1 ≠ .error .overflow) :
    ReflTransGen Move s (s.updateScript w h source wanted part path group).2 := by
  unfold updateScript at hr ⊢
  rcases ha : s.address h source with e | target
  · exact .refl
  · obtain ⟨hmoves, hempty, g, hg, hn⟩ := hs.moves_clearPart ha part
    rw [ha] at hr
    dsimp only at hr ⊢
    generalize s.clearPart h target.object part = s₁ at hmoves hempty hg hr
    split
    · exact hmoves
    next hpath =>
    rw [if_neg hpath] at hr
    split
    · exact hmoves
    next hread =>
    rw [if_neg hread] at hr
    unfold Toolkit.loadLayout at hr ⊢
    rcases hfail : s₁.toolkit.loadFailure with _ | e
    · have hs₁ := hs.moves hmoves
      have halloc := Toolkit.allocated_allocate hs₁.forest (.layout path group) none
      obtain ⟨hd, hf, rfl⟩ := Option.map_eq_some_iff.1 hg
      have hlookup : s₁.lookup h = .ok hd := by rw [lookup, hf]
      rw [hlookup, hfail] at hr
      rw [hlookup]
      dsimp only at hr ⊢
      generalize hchoose : (s₁.withToolkit
        (s₁.toolkit.allocate (.layout path group) none).2).chooseId? w.clock hd.graph wanted part =
          chosen at hr
      rcases chosen with _ | ⟨name, ids⟩
      · exact absurd rfl hr
      · exact hmoves.tail (hs₁.move_placeLayout hf hn hempty halloc)
    · exact hmoves

/-! ### All commands -/

/-- What a command makes of a consistent stage is reached by moves, unless the command is a report
or ends the run. -/
theorem Consistent.run_moves (hs : s.Consistent) (w : Surroundings) (c : Command)
    (hc : ∀ h o, c ≠ .objectDestroyed h o) (hr : (s.run w c).1 ≠ .error .overflow) :
    ReflTransGen Move s (s.run w c).2 := by
  cases c with
  | create path group size =>
      rw [run, answering_snd]
      exact .single (hs.move_create w.files path group size)
  | destroy h =>
      rw [run, answering_snd]
      exact .single (hs.move_destroy h)
  | objectDestroyed h o => exact absurd rfl (hc h o)
  | image h id part path option =>
      rw [run, answering_snd]
      exact hs.moves_updateImage w.files h id part path option
  | script h source wanted part path group =>
      rw [run] at hr ⊢
      refine hs.moves_updateScript w h source wanted part path group fun hover => hr ?_
      dsimp only
      rw [hover]
      rfl
  | _ => exact ReflTransGen.mono (fun _ _ => Move.of_touch) _ _ (run_touches rfl)

/-! ### Reports -/

/-- A report is passed to the scene graph of its handle, if there is one. -/
theorem graph?_objectDestroyed (s : Stage) (h k : Nat) (o : ObjectId) :
    (s.objectDestroyed h o).2.graph? k =
      if k = h then (s.graph? k).map fun g => g.destroy o else s.graph? k := by
  unfold objectDestroyed lookup
  rcases hf : s.handles.find? h with _ | hd
  · dsimp only
    split
    · next hk => rw [hk, graph?, hf, Option.map_none, Option.map_none]
    · rfl
  · dsimp only
    rw [graph?_modifyHandle]
    split
    · rw [graph?, Option.map_map]
      rfl
    · rfl

/-- A report changes nothing else. -/
theorem toolkit_objectDestroyed (s : Stage) (h : Nat) (o : ObjectId) :
    (s.objectDestroyed h o).2.toolkit = s.toolkit ∧
      (s.objectDestroyed h o).2.nextHandle = s.nextHandle := by
  unfold objectDestroyed
  split
  · exact ⟨rfl, rfl⟩
  · exact ⟨rfl, rfl⟩

end WidgetStage.Stage
