import WidgetStage.Proofs.Scene.Subtrees
import WidgetStage.Proofs.Stage.Ids
import WidgetStage.Proofs.Stage.Notices

/-!
# Layouts that are replaced

A layout command puts a layout in the place of another one. The toolkit deletes the old layout with
everything in it, in one of two orders; the scene graph hears of all of that, gives up the nodes,
and gets a node for the new layout, perhaps in a slot that has just become free. If no notice is on
its way for the handle, then the nodes that are given up are exactly those at and below the node of
the old layout, and everything else is as it was.

## Main results

* `Agrees.notified_iff_under`: what the toolkit deletes with the content of a part are the objects
  of the nodes at and below its node.
* `InStep.exists_replaced_clearPart`: emptying a part removes one subtree.
* `loadInto_eq_ok`: a layout that is loaded into an empty part is attached and swallowed.
* `picks_of_chooseId?`: which id it gets.
* `Traffic.script_replaces_subtree`: what a layout command does that succeeds.
-/

namespace WidgetStage

namespace Stage

open Relation (ReflTransGen)

/-- The node of the layout in a part of an object. A part that is empty or shows an image has
none. -/
def nodeIn? (s : Stage) (g : SceneGraph) (p : ObjectId) (part : String) : Option NodeId :=
  ((s.toolkit.swallowed? p part).filter s.toolkit.isLayout).bind g.nodeOf?

/-- The id of a layout that comes into a part, while other nodes carry the ids `used`. -/
inductive Picks (wanted : Option String) (part : String) (ids : SyntheticIds)
    (used : String → Prop) : String → Prop
  /-- The host asks for an id that is not empty, whether it is in use or not. -/
  | asked {id : String} (hasked : wanted = some id) (hne : id ≠ "") : Picks wanted part ids used id
  | named (hunasked : ∀ id, wanted = some id → id = "") (hfree : ¬ used part) :
      Picks wanted part ids used part
  /-- Where the name of the part is in use, a stamp that is later than all others is taken. -/
  | stamped {stamp : Duration} (hunasked : ∀ id, wanted = some id → id = "") (hused : used part)
      (hlater : ids.Later stamp) (hfree : ¬ used (SyntheticIds.text stamp)) :
      Picks wanted part ids used (SyntheticIds.text stamp)

variable {s : Stage} {h k : Nat} {hd : Handle} {g : SceneGraph} {target : Target}
  {source wanted : Option String} {part path group name : String} {n m : NodeId}
  {p c : ObjectId} {ds : List ObjectId} {late : Nat → ObjectId → Prop}

/-! ### What is deleted with the content of a part -/

namespace Agrees

variable (ha : s.Agrees late) (hg : s.graph? h = some g) (hquiet : ∀ o, ¬ late h o)
include ha hg hquiet

/-- If nothing is late, the tracked objects are just the layouts of the handle. -/
theorem tracked_iff : (∃ n, g.nodeOf? c = some n) ↔ s.LayoutOf h c :=
  ((ha.mirrors h g hg).tracked c).trans (or_iff_left (hquiet c))

/-- A layout that is held by a tracked object has a node, which is a child of that of its
container. -/
theorem exists_child_of_held (hn : g.nodeOf? p = some n)
    (hc : s.toolkit.swallowed? p part = some c) (hl : s.toolkit.isLayout c = true) :
    ∃ m, g.nodeOf? c = some m ∧ ⟨m, part⟩ ∈ g.children n := by
  obtain ⟨hin, -⟩ := (ha.tracked_iff hg hquiet).1 ⟨n, hn⟩
  have hlayout : s.LayoutOf h c := ⟨hin.below (.single ⟨part, hc⟩), hl⟩
  obtain ⟨m, hm⟩ := (ha.tracked_iff hg hquiet).2 hlayout
  exact ⟨m, hm, ((ha.mirrors h g hg).nested c m hlayout hm n part).2 ⟨p, hn, hc⟩⟩

/-- The object of a child is held by that of its parent. -/
theorem exists_held_of_parent (hwf : g.WellFormed) (hp : g.parent? m = some n) :
    ∃ p c, g.nodeOf? p = some n ∧ g.nodeOf? c = some m ∧ s.toolkit.Holds p c := by
  obtain ⟨⟨_, slot⟩, he, rfl⟩ := (hwf.linked n m).2 hp
  obtain ⟨c, hc⟩ := hwf.alive_iff.1 (hwf.parent_stored _ n hp).1
  have hlayout := (ha.tracked_iff hg hquiet).1 ⟨_, hc⟩
  obtain ⟨p, hp, hheld⟩ := ((ha.mirrors h g hg).nested c _ hlayout hc n slot).1 he
  exact ⟨p, c, hp, hc, slot, hheld⟩

/-- The nodes at and below that of a layout are those of the objects at and below it. -/
theorem under_iff (hwf : g.WellFormed) (hc : g.nodeOf? c = some n) :
    g.Under (some n) m ↔ ∃ x, s.toolkit.Below c x ∧ g.nodeOf? x = some m := by
  constructor
  · rintro ⟨_, hk, hup⟩
    cases hk
    induction hup using ReflTransGen.head_induction_on with
    | refl => exact ⟨c, .refl, hc⟩
    | head hp _ ih =>
        obtain ⟨y, hy, hynode⟩ := ih
        obtain ⟨q, x, hq, hx, hheld⟩ := ha.exists_held_of_parent hg hquiet hwf hp
        obtain rfl := hwf.nodeOf?_inj hynode hq
        exact ⟨x, hy.tail hheld, hx⟩
  · rintro ⟨x, hx, hm⟩
    induction hx generalizing m with
    | refl =>
        rw [hc, Option.some.injEq] at hm
        exact ⟨n, rfl, hm ▸ .refl⟩
    | @tail q x hq hheld ih =>
        -- what is above a tracked object, down from the layout, is tracked too
        obtain ⟨hin, -⟩ := (ha.tracked_iff hg hquiet).1 ⟨n, hc⟩
        have hlayout : s.LayoutOf h q := ⟨hin.below hq, ha.held_by_layout q x hheld⟩
        obtain ⟨j, hj⟩ := (ha.tracked_iff hg hquiet).2 hlayout
        obtain ⟨part, hheld⟩ := hheld
        obtain ⟨-, hl⟩ := (ha.tracked_iff hg hquiet).1 ⟨m, hm⟩
        obtain ⟨i, hi, he⟩ := ha.exists_child_of_held hg hquiet hj hheld hl
        obtain rfl : i = m := Option.some.inj (hi.symm.trans hm)
        exact SceneGraph.under_of_parent (ih hj) ((hwf.linked j i).1 ⟨_, he, rfl⟩)

/-- What is deleted with the content of a part are the objects of the nodes at and below the node
of that content. -/
theorem notified_iff_under (hwf : g.WellFormed) (hn : g.nodeOf? p = some n)
    (hds : ∀ x, x ∈ ds ↔ ∃ c, s.toolkit.swallowed? p part = some c ∧ s.toolkit.Below c x) :
    g.notified ds m = true ↔ g.Under (s.nodeIn? g p part) m := by
  rw [SceneGraph.notified_eq_true_iff, nodeIn?]
  simp only [hds]
  rcases hc : s.toolkit.swallowed? p part with _ | c
  · simp [SceneGraph.Under]
  · rcases hl : s.toolkit.isLayout c with _ | _
    · -- an image holds nothing, and has no node
      rw [Option.filter_some, if_neg (by simp [hl]), Option.bind_none]
      refine iff_of_false ?_ (by simp [SceneGraph.Under])
      rintro ⟨x, ⟨c', hc', hx⟩, hm⟩
      cases hc'
      have hlayout := ((ha.tracked_iff hg hquiet).1 ⟨m, hm⟩).2
      rcases ReflTransGen.cases_head_iff.1 hx with rfl | ⟨y, hy, -⟩
      · simp [hl] at hlayout
      · simp [ha.held_by_layout c y hy] at hl
    · obtain ⟨j, hj, -⟩ := ha.exists_child_of_held hg hquiet hn hc hl
      rw [Option.filter_some, if_pos hl, Option.bind_some, hj, ha.under_iff hg hquiet hwf hj]
      simp

end Agrees

/-! ### Emptying a part -/

/-- What is deleted with the content of a part is reported to the scene graph of the handle, and to
no other. -/
theorem Consistent.exists_graph?_clearPart (hs : s.Consistent)
    (ha : s.address h source = .ok target) (part : String) :
    ∃ ds, (∀ x, x ∈ ds ↔ ∃ c, s.toolkit.swallowed? target.object part = some c ∧
        s.toolkit.Below c x) ∧
      ∀ k, (s.clearPart h target.object part).graph? k =
        if k = h then some (target.handle.graph.destroyAll ds) else s.graph? k := by
  obtain ⟨hf, -⟩ := hs.address_eq_ok ha
  rcases hc : s.toolkit.swallowed? target.object part with _ | c
  · refine ⟨[], fun x => by simp, fun k => ?_⟩
    rw [clearPart_of_empty hc]
    split
    · next hk => rw [hk, graph?_of_find hf]; rfl
    · rfl
  · refine ⟨_, fun x => ?_, fun k => graph?_clearPart_of_held hf hc⟩
    rw [Toolkit.mem_clear_iff hs.forest hc]
    simp

/-- Emptying a part uses up no id. -/
theorem ids_clearPart : (s.clearPart h p part).ids = s.ids := by
  rw [clearPart]
  split <;> rfl

/-- If no notice is on its way for the handle, then emptying a part removes the subtree of its
content from the scene graph. -/
theorem InStep.exists_replaced_clearPart {undelivered delivered : List Notice}
    (hin : s.InStep undelivered delivered) (hquiet : ∀ m ∈ undelivered, m.handle ≠ h)
    (ha : s.address h source = .ok target) (part : String) :
    ∃ g', (∀ k, (s.clearPart h target.object part).graph? k =
        if k = h then some g' else s.graph? k) ∧
      target.handle.graph.Replaced target.node part
        (s.nodeIn? target.handle.graph target.object part) none g' ∧
      SceneGraph.Aged target.handle.graph g' := by
  have hs := hin.owned
  obtain ⟨hf, hn⟩ := hs.address_eq_ok ha
  have hg := graph?_of_find hf
  have hwf := hs.wellFormed h _ hg
  have hnone : ∀ o, ¬ lateIn undelivered h o := fun o ho => hquiet _ ho rfl
  obtain ⟨ds, hds, hgraphs⟩ := hs.exists_graph?_clearPart ha part
  refine ⟨_, hgraphs, ?_, SceneGraph.aged_destroyAll ds⟩
  refine hwf.replaced_of_pruned (hwf.pruned_destroyAll ds)
    ((hin.agrees.mirrors h _ hg).settled hwf hnone (fun o => hs.mem_layoutsOf_iff)
      (hs.nodup_layoutsOf h)).1 (fun j hj => ?_)
    fun m => hin.agrees.notified_iff_under hg hnone hwf hn hds
  obtain ⟨c, hc, hnode⟩ := Option.bind_eq_some_iff.1 hj
  obtain ⟨hc, hl⟩ := Option.filter_eq_some_iff.1 hc
  obtain ⟨i, hi, he⟩ := hin.agrees.exists_child_of_held hg hnone hn hc hl
  obtain rfl : i = j := Option.some.inj (hi.symm.trans hnode)
  exact he

/-! ### Filling it -/

/-- The id that is picked for a layout. -/
theorem picks_of_chooseId? {clock : Nat → Duration} {ids : SyntheticIds} (hwf : g.WellFormed)
    (hchoose : s.chooseId? clock g wanted part = some (name, ids)) :
    Picks wanted part s.ids (fun id => ∃ m, g.lifecycle m = .alive ∧ g.id? m = some id) name := by
  rw [chooseId?] at hchoose
  split at hchoose
  · next hasked =>
    cases hchoose
    obtain ⟨hasked, hne⟩ := Option.filter_eq_some_iff.1 hasked
    exact .asked hasked (by simpa using hne)
  next hnone =>
  have hunasked : ∀ id, wanted = some id → id = "" := by
    simpa [Option.filter_eq_none_iff] using hnone
  split at hchoose
  · next hused =>
    obtain ⟨stamp, rfl, hlater⟩ := SyntheticIds.later_of_uniqueWithin? hchoose
    have hfree := find_eq_none_of_not_mem_takenIds (SyntheticIds.not_mem_of_unique? hchoose)
    refine .stamped hunasked (hwf.containsId_iff.1 hused) hlater ?_
    rintro ⟨m, hm, hid⟩
    exact hwf.find_eq_none_iff.1 hfree m hm hid
  · next hfree =>
    cases hchoose
    exact .named hunasked fun hused => hfree (hwf.containsId_iff.2 hused)

/-- A layout that is placed is attached and swallowed. -/
theorem placeLayout_eq_ok (hf : s.handles.find? h = some hd)
    (hr : (s.placeLayout h target g part name c).1 = .ok ()) :
    ∃ n g', g.attach c (some name) (some (target.node, part)) = .ok (n, g') ∧
      (∀ k, (s.placeLayout h target g part name c).2.graph? k =
        if k = h then some g' else s.graph? k) ∧
      (s.placeLayout h target g part name c).2.toolkit.swallowed? target.object part = some c := by
  rw [placeLayout] at hr ⊢
  rcases hattach : g.attach c (some name) (some (target.node, part)) with e | ⟨n, g'⟩
  · rw [hattach] at hr
    cases hr
  · simp only [hattach] at hr ⊢
    split at hr
    · cases hr
    next t hswallow =>
    obtain ⟨-, -, -, hheld, -⟩ := Toolkit.swallow_eq_ok hswallow
    refine ⟨n, g', rfl, fun k => ?_, ?_⟩
    · exact graph?_modifyHandle_of_find hf fun hd => { hd with graph := g' }
    · exact (hheld target.object part).trans (if_pos ⟨rfl, rfl⟩)

/-- What is not refused has succeeded. -/
theorem eq_ok_of_mapError {r : Except StageError Unit}
    (hr : r.mapError Failure.refused = .ok ()) : r = .ok () := by
  cases r with
  | error e => cases hr
  | ok v => rfl

/-- What is answered with nothing has succeeded. -/
theorem eq_ok_of_map {r : Except Failure Unit}
    (hr : (r.map fun _ => Answer.nothing) = .ok .nothing) : r = .ok () := by
  cases r with
  | error e => cases hr
  | ok v => rfl

/-- A layout that is loaded into a part is attached under the id that is picked for it, and
swallowed. -/
theorem loadInto_eq_ok {w : Surroundings} (hf : s.handles.find? h = some hd) (hpath : path ≠ "")
    (hr : (s.loadInto w h target g wanted part path group).1 = .ok ()) :
    ∃ name ids c n g', s.chooseId? w.clock g wanted part = some (name, ids) ∧
      g.attach c (some name) (some (target.node, part)) = .ok (n, g') ∧
      (∀ k, (s.loadInto w h target g wanted part path group).2.graph? k =
        if k = h then some g' else s.graph? k) ∧
      (s.loadInto w h target g wanted part path group).2.toolkit.swallowed? target.object part =
        some c := by
  rw [loadInto, if_neg hpath] at hr ⊢
  split at hr
  · cases hr
  next hread =>
  rw [if_neg hread]
  split at hr
  · cases hr
  dsimp only at hr ⊢
  split at hr
  · cases hr
  next name ids hchoose =>
  have hplaced := eq_ok_of_mapError hr
  obtain ⟨n, g', hattach, hgraphs, hheld⟩ := placeLayout_eq_ok (by exact hf) hplaced
  exact ⟨name, ids, _, n, g', hchoose, hattach, hgraphs, hheld⟩

/-! ### The command -/

namespace InStep

variable {undelivered delivered : List Notice}

/-- Without a path, a layout command removes the subtree of the content of the part. -/
theorem run_script_of_no_path (hin : s.InStep undelivered delivered)
    (hquiet : ∀ m ∈ undelivered, m.handle ≠ h) (ha : s.address h source = .ok target)
    (w : Surroundings) (wanted : Option String) (part group : String) :
    (s.run w (.script h source wanted part "" group)).1 = .ok .nothing ∧ ∃ g',
      (∀ k, (s.run w (.script h source wanted part "" group)).2.graph? k =
        if k = h then some g' else s.graph? k) ∧
      target.handle.graph.Replaced target.node part
        (s.nodeIn? target.handle.graph target.object part) none g' ∧
      (s.run w (.script h source wanted part "" group)).2.toolkit.swallowed? target.object part =
        none := by
  obtain ⟨g', hgraphs, hreplaced, -⟩ := hin.exists_replaced_clearPart hquiet ha part
  rw [run, updateScript_of_no_path ha]
  exact ⟨rfl, g', hgraphs, hreplaced, (hin.owned.moves_clearPart ha part).2.1⟩

/-- With a path, a layout command that succeeds moreover puts one new node in the place of the
subtree. -/
theorem run_script_of_ok (hin : s.InStep undelivered delivered)
    (hquiet : ∀ m ∈ undelivered, m.handle ≠ h) (ha : s.address h source = .ok target)
    {w : Surroundings} (hpath : path ≠ "")
    (hok : (s.run w (.script h source wanted part path group)).1 = .ok .nothing) :
    ∃ new g', (∀ k, (s.run w (.script h source wanted part path group)).2.graph? k =
        if k = h then some g' else s.graph? k) ∧
      target.handle.graph.Replaced target.node part
        (s.nodeIn? target.handle.graph target.object part) (some new) g' ∧
      (s.run w (.script h source wanted part path group)).2.toolkit.swallowed? target.object part =
        some new.object ∧
      Picks wanted part s.ids (fun id => ∃ m, target.handle.graph.lifecycle m = .alive ∧
        ¬ target.handle.graph.Under (s.nodeIn? target.handle.graph target.object part) m ∧
          target.handle.graph.id? m = some id) new.id := by
  have hs := hin.owned.toConsistent
  obtain ⟨hf, hn⟩ := hs.address_eq_ok ha
  have hwf := hs.wellFormed_of_find hf
  obtain ⟨g₁, hgraphs, hreplaced, haged⟩ := hin.exists_replaced_clearPart hquiet ha part
  obtain ⟨hd, hf₁, -, heq⟩ := hs.updateScript_eq ha w wanted part path group
  have hg₁ := graph?_of_find hf₁
  obtain rfl : g₁ = hd.graph := by
    rw [hgraphs, if_pos rfl] at hg₁
    exact Option.some.inj hg₁
  have hwf₁ := (hs.moves (hs.moves_clearPart ha part).1).wellFormed h _ hg₁
  rw [run, heq] at hok ⊢
  obtain ⟨name, ids, c, n, g', hchoose, hattach, hgraphs', hheld⟩ :=
    loadInto_eq_ok hf₁ hpath (eq_ok_of_map hok)
  -- the slot of the new node may have just become free, but then under another name
  have hunused : target.handle.graph.lifecycle n = .reclaimed := by
    rw [SceneGraph.lifecycle, haged.record?_of_attach hwf₁.toFreeListed hattach]
  have hjoined := (SceneGraph.attached_of_attach hwf₁.toFreeListed hattach).joined
  have hpicks := picks_of_chooseId? hwf₁ hchoose
  simp only [ids_clearPart, hreplaced.carries_iff] at hpicks
  refine ⟨⟨n, c, name⟩, g', fun k => ?_,
    hreplaced.joined hwf (hwf.alive_iff.2 ⟨_, hn⟩) hunused hjoined, hheld, hpicks⟩
  refine (hgraphs' k).trans ?_
  rw [hgraphs]
  split <;> rfl

end InStep

end Stage

namespace Traffic

open Stage (Picks)

/-- What a layout command does that succeeds, if no notice is on its way for its handle. Without a
path, the nodes at and below that of the layout in the part are reclaimed, and all that is left of
the scene graph is as it was, except that the source has lost the edge. With a path there is
moreover one new node, the last of the registry and of the children of the source. It stands for
the object that is now in the part, and its id is picked among those that no other alive node
carries, unless it is asked for. No other scene graph is concerned. -/
theorem script_replaces_subtree {tr : Traffic} {h : Nat} {source : Option String}
    {target : Stage.Target} (htr : Reachable tr) (hquiet : ∀ m ∈ tr.undelivered, m.handle ≠ h)
    (ha : tr.session.stage.address h source = .ok target) (w : Surroundings)
    (wanted : Option String) (part group : String) :
    let s := tr.session.stage
    let g := target.handle.graph
    let old := s.nodeIn? g target.object part
    let r := fun path => s.run w (.script h source wanted part path group)
    (∀ c, s.toolkit.swallowed? target.object part = some c → s.toolkit.isLayout c = true →
      ∃ k, old = some k ∧ g.object? k = some c) ∧
    ((r "").1 = .ok .nothing ∧ ∃ g',
      (∀ k, (r "").2.graph? k = if k = h then some g' else s.graph? k) ∧
      g.Replaced target.node part old none g' ∧
      (r "").2.toolkit.swallowed? target.object part = none) ∧
    ∀ path, path ≠ "" → (r path).1 = .ok .nothing → ∃ new g',
      (∀ k, (r path).2.graph? k = if k = h then some g' else s.graph? k) ∧
      g.Replaced target.node part old (some new) g' ∧
      (r path).2.toolkit.swallowed? target.object part = some new.object ∧
      Picks wanted part s.ids
        (fun id => ∃ m, g.lifecycle m = .alive ∧ ¬ g.Under old m ∧ g.id? m = some id) new.id := by
  have hin := htr.inStep
  have hs := hin.owned
  obtain ⟨hf, hn⟩ := hs.address_eq_ok ha
  have hg := Stage.graph?_of_find hf
  refine ⟨fun c hc hl => ?_, hin.run_script_of_no_path hquiet ha w wanted part group,
    fun path hpath hok => hin.run_script_of_ok hquiet ha hpath hok⟩
  obtain ⟨k, hk, -⟩ := hin.agrees.exists_child_of_held hg (fun o ho => hquiet _ ho rfl) hn hc hl
  refine ⟨k, ?_, (hs.wellFormed h _ hg).object?_of_nodeOf? hk⟩
  rw [Stage.nodeIn?, hc, Option.filter_some, if_pos hl, Option.bind_some, hk]

/-- A row within a row. -/
def rowsRun : Traffic :=
  let tr : Traffic :=
    ⟨Session.start (.start (.start .parentFirst) .standard false) .empty (.ofMicros 0), [], []⟩
  let tr := tr.act (.writeFile "rows.edj" (.text ""))
  let tr := tr.act (.command (.create "rows.edj" "main" ⟨0, 0⟩))
  let tr := tr.act (.command (.script 1 none none "slot" "rows.edj" "row"))
  tr.act (.command (.script 1 (some "slot") none "slot" "rows.edj" "row"))

/-- Another row in the place of both rows has the slot of the outer one under its next generation,
and gets the name of the part, which the outer one has had. -/
theorem script_replaces_subtree_rows :
    Reachable rowsRun ∧ ∃ g',
      (rowsRun.session.stage.run Stage.rowFiles
        (.script 1 none none "slot" "rows.edj" "row")).2.graph? 1 = some g' ∧
      g'.lifecycle ⟨1, 0⟩ = .reclaimed ∧ g'.lifecycle ⟨2, 0⟩ = .reclaimed ∧
      g'.registry.entries = [(⟨0, 0⟩, none), (⟨1, 1⟩, some "slot")] := by
  have hstart := Reachable.start .parentFirst .standard false .empty (.ofMicros 0)
  have hfile := hstart.act (.writeFile "rows.edj" (.text "")) trivial nofun
  have hcreate := hfile.act (.command (.create "rows.edj" "main" ⟨0, 0⟩)) trivial nofun
  have houter := hcreate.act (.command (.script 1 none none "slot" "rows.edj" "row")) trivial nofun
  have hrows : Reachable rowsRun :=
    houter.act (.command (.script 1 (some "slot") none "slot" "rows.edj" "row")) trivial nofun
  obtain ⟨target, ha⟩ : ∃ target, rowsRun.session.stage.address 1 none = .ok target := ⟨_, rfl⟩
  have hrow : (rowsRun.session.stage.address 1 none).map (fun target =>
      (rowsRun.session.stage.nodeIn? target.handle.graph target.object "slot",
        target.handle.graph.parent? ⟨2, 0⟩)) = .ok (some ⟨1, 0⟩, some ⟨1, 0⟩) := by decide
  rw [ha, Except.map, Except.ok.injEq, Prod.mk.injEq] at hrow
  obtain ⟨hold, hinner⟩ := hrow
  have hok : (rowsRun.session.stage.run Stage.rowFiles
      (.script 1 none none "slot" "rows.edj" "row")).1 = .ok .nothing := by decide
  have hentries : ((rowsRun.session.stage.run Stage.rowFiles
      (.script 1 none none "slot" "rows.edj" "row")).2.graph? 1).map
        (fun g => g.registry.entries) = some [(⟨0, 0⟩, none), (⟨1, 1⟩, some "slot")] := by decide
  obtain ⟨new, g', hgraphs, hreplaced, -⟩ :=
    (script_replaces_subtree hrows nofun ha Stage.rowFiles none "slot" "row").2.2 "rows.edj"
      (by decide) hok
  have hg' := (hgraphs 1).trans (if_pos rfl)
  have htop : target.handle.graph.Under (rowsRun.session.stage.nodeIn? target.handle.graph
      target.object "slot") ⟨1, 0⟩ := ⟨_, hold, .refl⟩
  refine ⟨hrows, g', hg', (hreplaced.gone _ htop).2,
    (hreplaced.gone _ (SceneGraph.under_of_parent htop hinner)).2, ?_⟩
  rw [hg'] at hentries
  exact Option.some.inj hentries

end Traffic

end WidgetStage
