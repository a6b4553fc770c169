import WidgetStage.Proofs.Stage.Ids
import WidgetStage.Proofs.Stage.Isolation

/-!
# Calls that attach nodes

Two commands attach a node: the one that loads a handle, and the one that puts a layout into a
part. Both are prepared for a refusal, the second one by giving up the layout again. Between finding
the parent and attaching the child, the second one moreover destroys what is in the part and reports
all of it to the very graph that is to hold the child.

To see what becomes of the calls a command is stopped at its call. What is left of it is a function
of the answer, which is the only way in which an error of a scene graph can get into the outcome of
the command. On the stages that a play leads to the answer is never an error: reports leave the
parent alone, because they concern only what is below it, and the numbers of new objects are not
bound to any node, whatever was reported before.

## Main results

* `Progress`, `progress`: how far a command gets by itself; going on with the answer of the call is
  the command (`finish_progress`), on every stage.
* `Consistent.alive_clearPart`: a node that is addressed is alive after a part of it is emptied, and
  a new layout can be attached under it (`Consistent.exists_attach_clearPart`).
* `Granted`: nothing stands against a call; then it succeeds (`Granted.exists_answer`).
* `Consistent.granted_progress`: nothing stands against the call of a command.
* `every_attach_succeeds`: what this means for the commands of a play.
-/

namespace WidgetStage

/-- A call that is to attach a node. -/
structure AttachCall where
  graph : SceneGraph
  object : ObjectId
  id : Option String
  parent : Option (NodeId × String)

/-- What the scene graph answers to the call. -/
def AttachCall.answer (call : AttachCall) : Except SceneError (NodeId × SceneGraph) :=
  call.graph.attach call.object call.id call.parent

/-- How far a command gets without attaching a node: to its end, or to a call, with what it makes of
the answer. -/
inductive Progress where
  | over (outcome : Except Failure Answer × Stage)
  | attaching (call : AttachCall)
      (resume : Except SceneError (NodeId × SceneGraph) → Except Failure Answer × Stage)

/-- Goes on with the answer of the call. -/
def Progress.finish : Progress → Except Failure Answer × Stage
  | .over outcome => outcome
  | .attaching call resume => resume call.answer

namespace Stage

/-! ### Stopping at the call -/

/-- Loads a layout for a new handle and stops before it is attached. -/
def progressCreate (s : Stage) (files : Files) (path group : String) (size : Size) : Progress :=
  if handleBound ≤ s.nextHandle then .over (.error (.refused (.fault "handle ids exhausted")), s)
  else if !files.isReadable path then .over (.error (.refused (.io path unreadableLayout)), s)
  else
    match s.toolkit.loadLayout path group with
    | .error e => .over (.error (.refused (loadError path e)), s)
    | .ok (root, t) =>
      let s' := s.withToolkit (fitToBuffer t root size)
      .attaching ⟨.empty, root, none, none⟩ fun
        | .error e => (.error (.refused e.toStageError), s')
        | .ok (_, graph) =>
          let hd : Handle :=
            { file := path
              group := group
              category := none
              graph := graph
              buffer := .start size
              input := .start s.config.staleWindow }
          (.ok (.handle s.nextHandle),
            { s' with
              handles := s'.handles.insert s.nextHandle hd
              nextHandle := s.nextHandle + 1 })

/-- Swallows a layout if it has been attached, and gives it up if it has not. -/
def placeAnswered (s : Stage) (h : Nat) (target : Target) (part : String) (child : ObjectId) :
    Except SceneError (NodeId × SceneGraph) → Except Failure Answer × Stage
  | .error e => (.error (.refused e.toStageError), s.withToolkit (s.toolkit.delete child).2)
  | .ok (_, graph) =>
    let s := s.modifyHandle h fun hd => { hd with graph := graph }
    match s.toolkit.swallow target.object part child with
    | .error e => (.error (.refused e.toStageError), s.deleteReporting h child)
    | .ok t => (.ok .nothing, s.withToolkit t)

/-- Loads a layout for a part that has been emptied, and stops before it is attached. -/
def progressScript (s : Stage) (w : Surroundings) (h : Nat) (source wanted : Option String)
    (part path group : String) : Progress :=
  match s.address h source with
  | .error e => .over (.error (.refused e), s)
  | .ok target =>
    let s := s.clearPart h target.object part
    if path = "" then .over (.ok .nothing, s)
    else if !w.files.isReadable path then .over (.error (.refused (.io path unreadableLayout)), s)
    else
      match s.toolkit.loadLayout path group, s.lookup h with
      | .error e, _ => .over (.error (.refused (loadError path e)), s)
      | .ok _, .error e => .over (.error (.refused e), s)
      | .ok (child, t), .ok hd =>
        let s := s.withToolkit t
        match s.chooseId? w.clock hd.graph wanted part with
        | none => .over (.error .overflow, s)
        | some (id, ids) =>
          .attaching ⟨hd.graph, child, some id, some (target.node, part)⟩
            (placeAnswered { s with ids := ids } h target part child)

/-- How far a command gets without attaching a node. Commands other than these two do not attach
any. -/
def progress (s : Stage) (w : Surroundings) : Command → Progress
  | .create path group size => s.progressCreate w.files path group size
  | .script h source wanted part path group =>
    s.progressScript w h source wanted part path group
  | c => .over (s.run w c)

variable {s : Stage} {w : Surroundings} {h : Nat} {source wanted : Option String}
  {part path group : String} {size : Size} {target : Target} {call : AttachCall}
  {resume : Except SceneError (NodeId × SceneGraph) → Except Failure Answer × Stage}

/-- Creating a handle is what progress makes of it. -/
theorem finish_progressCreate (s : Stage) (files : Files) (path group : String) (size : Size) :
    (s.progressCreate files path group size).finish =
      answering .handle (s.create files path group size) := by
  rw [progressCreate, create]
  split
  · rfl
  split
  · rfl
  rcases s.toolkit.loadLayout path group with e | ⟨root, t⟩
  · rfl
  · simp only [Progress.finish, AttachCall.answer]
    rcases SceneGraph.empty.attach root none none with e | ⟨n, g⟩
    · rfl
    · rfl

/-- Placing a layout is waiting for the answer that the scene graph gives. -/
theorem placeAnswered_answer (s : Stage) (h : Nat) (target : Target) (g : SceneGraph)
    (part id : String) (child : ObjectId) :
    s.placeAnswered h target part child (g.attach child (some id) (some (target.node, part))) =
      answering (fun _ => .nothing) (s.placeLayout h target g part id child) := by
  rw [placeLayout]
  rcases g.attach child (some id) (some (target.node, part)) with e | ⟨n, g'⟩
  · rfl
  · simp only [placeAnswered]
    rcases Toolkit.swallow _ target.object part child with e | t
    · rfl
    · rfl

/-- The answer without a value, said in two steps. -/
theorem answering_eq_map (r : Except StageError Unit × Stage) :
    answering (fun _ => .nothing) r = ((r.1.mapError .refused).map fun _ => .nothing, r.2) := by
  obtain ⟨e | v, s⟩ := r
  · rfl
  · rfl

/-- Showing a layout in a part is what progress makes of it. -/
theorem finish_progressScript (s : Stage) (w : Surroundings) (h : Nat)
    (source wanted : Option String) (part path group : String) :
    (s.progressScript w h source wanted part path group).finish =
      s.run w (.script h source wanted part path group) := by
  rw [run, progressScript, updateScript]
  rcases s.address h source with e | target
  · rfl
  dsimp only
  generalize s.clearPart h target.object part = s₁
  split
  · rfl
  split
  · rfl
  rcases s₁.toolkit.loadLayout path group with e | ⟨child, t⟩
  · rfl
  rcases s₁.lookup h with e | hd
  · rfl
  dsimp only
  rcases (s₁.withToolkit t).chooseId? w.clock hd.graph wanted part with _ | ⟨id, ids⟩
  · rfl
  · exact (placeAnswered_answer ..).trans (answering_eq_map _)

/-- A command goes on with the answer of its call. -/
theorem finish_progress (s : Stage) (w : Surroundings) (c : Command) :
    (s.progress w c).finish = s.run w c := by
  cases c with
  | create path group size => exact finish_progressCreate s w.files path group size
  | script h source wanted part path group =>
      exact finish_progressScript s w h source wanted part path group
  | _ => rfl

/-! ### Arguments of the calls -/

/-- The call for a new handle asks an empty graph for a root. -/
theorem call_of_progressCreate {files : Files}
    (hp : s.progressCreate files path group size = .attaching call resume) :
    call = ⟨.empty, s.toolkit.nextObject, none, none⟩ := by
  rw [progressCreate] at hp
  split at hp
  · cases hp
  split at hp
  · cases hp
  split at hp
  · cases hp
  · next root t hload =>
    cases hp
    obtain ⟨-, hnew⟩ := Toolkit.loadLayout_eq_ok_iff.1 hload
    obtain rfl : root = s.toolkit.nextObject := congrArg Prod.fst hnew
    rfl

/-- The call for a part that has been emptied asks for a child with an id under the node that was
addressed. -/
theorem call_of_progressScript
    (hp : s.progressScript w h source wanted part path group = .attaching call resume) :
    ∃ target hd id, s.address h source = .ok target ∧
      (s.clearPart h target.object part).handles.find? h = some hd ∧
      call = ⟨hd.graph, s.toolkit.nextObject, some id, some (target.node, part)⟩ := by
  rw [progressScript] at hp
  rcases ha : s.address h source with e | target
  · rw [ha] at hp
    cases hp
  have hnext := nextObject_clearPart (s := s) h target.object part
  simp only [ha] at hp
  generalize hclear : s.clearPart h target.object part = s₁ at hp hnext
  split at hp
  · cases hp
  split at hp
  · cases hp
  split at hp
  · cases hp
  · cases hp
  next child t hd hload hlookup =>
  split at hp
  · cases hp
  next id ids _ =>
  cases hp
  refine ⟨target, hd, id, rfl, ?_, ?_⟩
  · rw [hclear, find_of_lookup hlookup]
  · obtain ⟨-, hnew⟩ := Toolkit.loadLayout_eq_ok_iff.1 hload
    obtain rfl : child = s₁.toolkit.nextObject := congrArg Prod.fst hnew
    rw [hnext]

/-! ### What stands against a call -/

/-- Nothing stands against a call on a stage: no scene graph has a node for the object, the parent
is alive, and a root is not asked for where there is one. -/
structure Granted (s : Stage) (call : AttachCall) : Prop where
  unheard : ∀ h g, s.graph? h = some g → g.nodeOf? call.object = none
  untracked : call.graph.nodeOf? call.object = none
  parent_alive : ∀ p slot, call.parent = some (p, slot) → call.graph.lifecycle p = .alive
  no_root : call.id = none → call.graph.find none = none

/-- A call that nothing stands against succeeds. -/
theorem Granted.exists_answer (hcall : s.Granted call) : ∃ n g, call.answer = .ok (n, g) :=
  SceneGraph.exists_attach hcall.untracked hcall.parent_alive hcall.no_root

namespace Consistent

/-- A node that is addressed is alive after a part of it is emptied. -/
theorem alive_clearPart (hs : s.Consistent) (ha : s.address h source = .ok target)
    (part : String) :
    ∃ hd, (s.clearPart h target.object part).handles.find? h = some hd ∧
      hd.graph.nodeOf? target.object = some target.node ∧
      hd.graph.lifecycle target.node = .alive := by
  obtain ⟨hmoves, -, g, hg, hn⟩ := hs.moves_clearPart ha part
  obtain ⟨hd, hf, rfl⟩ := Option.map_eq_some_iff.1 hg
  have hwf := (hs.moves hmoves).wellFormed h _ hg
  exact ⟨hd, hf, hn, hwf.alive_iff.2 ⟨target.object, hn⟩⟩

/-- A layout that is loaded after a part is emptied has no node yet, and can be attached under the
node that was addressed. -/
theorem exists_attach_clearPart (hs : s.Consistent) (ha : s.address h source = .ok target)
    {hd : Handle} (hf : (s.clearPart h target.object part).handles.find? h = some hd)
    {child : ObjectId} {t : Toolkit}
    (hload : (s.clearPart h target.object part).toolkit.loadLayout path group = .ok (child, t)) :
    hd.graph.nodeOf? child = none ∧
      ∀ id, ∃ n g, hd.graph.attach child (some id) (some (target.node, part)) = .ok (n, g) := by
  have hcleared := hs.moves (hs.moves_clearPart ha part).1
  obtain ⟨hd', hf', hn, -⟩ := hs.alive_clearPart ha part
  obtain rfl : hd = hd' := Option.some.inj (hf.symm.trans hf')
  obtain ⟨-, hnew⟩ := Toolkit.loadLayout_eq_ok_iff.1 hload
  have hle := Nat.le_of_eq (congrArg Prod.fst hnew).symm
  exact ⟨hcleared.nodeOf?_of_le (graph?_of_find hf) hle,
    fun id => hcleared.exists_attach hf hn hle id part⟩

/-- Nothing stands against the call of a command that loads a handle. -/
theorem granted_progressCreate (hs : s.Consistent) {files : Files}
    (hp : s.progressCreate files path group size = .attaching call resume) :
    s.Granted call := by
  obtain rfl := call_of_progressCreate hp
  exact ⟨fun h g hg => hs.nodeOf?_of_le hg (Nat.le_refl _), rfl, nofun, fun _ => rfl⟩

/-- Nothing stands against the call of a command that puts a layout into a part. -/
theorem granted_progressScript (hs : s.Consistent)
    (hp : s.progressScript w h source wanted part path group = .attaching call resume) :
    s.Granted call := by
  obtain ⟨target, hd, id, ha, hf, rfl⟩ := call_of_progressScript hp
  obtain ⟨hd', hf', -, halive⟩ := hs.alive_clearPart ha part
  obtain rfl : hd = hd' := Option.some.inj (hf.symm.trans hf')
  have hcleared := hs.moves (hs.moves_clearPart ha part).1
  refine ⟨fun h g hg => hs.nodeOf?_of_le hg (Nat.le_refl _), ?_, ?_, nofun⟩
  · refine hcleared.nodeOf?_of_le (graph?_of_find hf) ?_
    rw [nextObject_clearPart]
  · rintro p slot ⟨⟩
    exact halive

/-- Nothing stands against the call of any command. -/
theorem granted_progress (hs : s.Consistent) {c : Command}
    (hp : s.progress w c = .attaching call resume) : s.Granted call := by
  cases c with
  | create path group size => exact hs.granted_progressCreate hp
  | script h source wanted part path group => exact hs.granted_progressScript hp
  | _ => cases hp

end Consistent

/-- On a stage that a play leads to, a command gets to its end without attaching a node, or to a
call that nothing stands against; this succeeds, and the command goes on with what it yields. So
what a command does about an error of a scene graph is never done, and none is ever answered. For a
node that is addressed this means that it outlives the content of its parts: after a part is emptied
it stands for the same object and is alive, and a layout that is loaded then has no node yet and can
be attached under it. -/
theorem every_attach_succeeds (order : DestroyOrder) (config : Config) (castsShadows : Bool)
    (turns : List Turn) :
    let s := (start (.start order) config castsShadows).play turns
    (∀ w c, match s.progress w c with
      | .over outcome => s.run w c = outcome
      | .attaching call resume => s.Granted call ∧
          ∃ n g, call.answer = .ok (n, g) ∧ s.run w c = resume (.ok (n, g))) ∧
    ∀ h source part target, s.address h source = .ok target →
      ∃ hd, (s.clearPart h target.object part).handles.find? h = some hd ∧
        hd.graph.nodeOf? target.object = some target.node ∧
        hd.graph.lifecycle target.node = .alive ∧
        ∀ path group child t,
          (s.clearPart h target.object part).toolkit.loadLayout path group = .ok (child, t) →
          hd.graph.nodeOf? child = none ∧
            ∀ id, ∃ n g,
              hd.graph.attach child (some id) (some (target.node, part)) = .ok (n, g) := by
  intro s
  have hs : s.Consistent := consistent_play order config castsShadows turns
  refine ⟨fun w c => ?_, fun h source part target ha => ?_⟩
  · have hfinish := finish_progress s w c
    rcases hp : s.progress w c with outcome | ⟨call, resume⟩
    · rw [hp] at hfinish
      exact hfinish.symm
    · rw [hp] at hfinish
      have hcall := hs.granted_progress hp
      obtain ⟨n, g, hanswer⟩ := hcall.exists_answer
      refine ⟨hcall, n, g, hanswer, ?_⟩
      rw [← hfinish, Progress.finish, hanswer]
  · obtain ⟨hd, hf, hn, halive⟩ := hs.alive_clearPart ha part
    exact ⟨hd, hf, hn, halive, fun _ _ _ _ hload => hs.exists_attach_clearPart ha hf hload⟩

/-- A row in place of a row within a row is the fourth object. It is attached under the root, which
is all that is left by then. -/
theorem every_attach_succeeds_rows :
    ∃ call resume,
      nestedRows.progress rowFiles (.script 1 none none "slot" "rows.edj" "row") =
        .attaching call resume ∧
      call.object = 4 ∧ call.parent = some (⟨0, 0⟩, "slot") ∧ call.graph.liveCount = 1 ∧
      ∃ n g, call.answer = .ok (n, g) ∧
        nestedRows.run rowFiles (.script 1 none none "slot" "rows.edj" "row") =
          resume (.ok (n, g)) := by
  have hrows := (every_attach_succeeds .parentFirst .standard false
    [.command rowFiles (.create "rows.edj" "main" ⟨0, 0⟩),
      .command rowFiles (.script 1 none none "slot" "rows.edj" "row"),
      .command rowFiles (.script 1 (some "slot") none "slot" "rows.edj" "row")]).1 rowFiles
    (.script 1 none none "slot" "rows.edj" "row")
  exact ⟨_, _, rfl, by decide, by decide, by decide, hrows.2⟩

end Stage

end WidgetStage
