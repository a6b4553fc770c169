import WidgetStage.Proofs.Stage.Agreement
import WidgetStage.Proofs.Stage.Sessions

/-!
# Notices on their way

The toolkit may delete objects by itself, and what it says about them reaches the stage late, in
any order and perhaps more than once. In between the host goes on with its commands: on layouts
that are gone, on handles that are unloaded, while loading or swallowing fails.

`Traffic` is a session with the notices that are on their way and those that have been delivered
and may be delivered again. A notice goes to the handle that owned its object when the object was
deleted.

## Main results

* `Traffic.Reachable.inStep`: graphs and toolkit agree up to the notices on their way.
* `Traffic.graphs_follow_toolkit`: what this means for a scene graph, and for one of which no
  notice is on its way.
-/

namespace WidgetStage

/-- The message that an object of a handle was destroyed, and whether it was a layout. -/
structure Notice where
  handle : Nat
  object : ObjectId
  layout : Bool
  deriving DecidableEq, Repr

/-- A session with the notices on their way, and those delivered so far. -/
structure Traffic where
  session : Session
  undelivered : List Notice
  delivered : List Notice

namespace Stage

open Relation (ReflTransGen)

/-- The notice that an object is destroyed, for the handle to which it belongs. -/
def noticeOf? (s : Stage) (o : ObjectId) : Option Notice :=
  (s.owner? o).map fun h => ⟨h, o, s.toolkit.isLayout o⟩

/-- The notices that the toolkit sends when it deletes an object. -/
def noticesOf (s : Stage) (o : ObjectId) : List Notice :=
  (s.toolkit.delete o).1.filterMap s.noticeOf?

/-- The handle of the notice is or was loaded, and its object was live but is not. -/
def IsPast (s : Stage) (m : Notice) : Prop :=
  m.handle < s.nextHandle ∧ m.object < s.toolkit.nextObject ∧ ¬ s.toolkit.Live m.object

/-- The layouts on which notices are on their way. -/
def lateIn (undelivered : List Notice) (h : Nat) (o : ObjectId) : Prop :=
  ⟨h, o, true⟩ ∈ undelivered

/-- The stage agrees with its toolkit up to the notices on their way, no two of which are about
one object. -/
structure InStep (s : Stage) (undelivered delivered : List Notice) : Prop where
  owned : s.Owned
  agrees : s.Agrees (lateIn undelivered)
  past : ∀ m, m ∈ undelivered ∨ m ∈ delivered → s.IsPast m
  once : (undelivered.map Notice.object).Nodup
  apart : ∀ m ∈ delivered, m.object ∉ undelivered.map Notice.object

variable {s s' : Stage} {undelivered delivered : List Notice} {m : Notice} {o : ObjectId}

/-- No move brings back an object or a handle. -/
theorem IsPast.move (hp : s.IsPast m) (hm : Move s s') : s'.IsPast m := by
  obtain ⟨hh, ho, hdead⟩ := hp
  obtain ⟨hhandle, hobject, hlive⟩ := hm.forward
  exact ⟨Nat.lt_of_lt_of_le hh hhandle, Nat.lt_of_lt_of_le ho hobject,
    fun hl => hdead (hlive _ ho hl)⟩

/-- Nor does the toolkit when it deletes something. -/
theorem IsPast.delete (hs : s.Owned) (hp : s.IsPast m) (o : ObjectId) :
    (s.withToolkit (s.toolkit.delete o).2).IsPast m := by
  obtain ⟨hh, ho, hdead⟩ := hp
  exact ⟨hh, ho, fun hl => hdead ((Toolkit.shrunk_delete hs.forest).live_iff.1 hl).1⟩

/-- A notice is sent for everything at and below a deleted object. -/
theorem Owned.mem_noticesOf_iff (hs : s.Owned) :
    m ∈ s.noticesOf o ↔ s.toolkit.Below o m.object ∧ s.toolkit.Live m.object ∧
      s.InTree m.handle m.object ∧ s.toolkit.isLayout m.object = m.layout := by
  obtain ⟨h, x, layout⟩ := m
  rw [noticesOf, List.mem_filterMap]
  constructor
  · rintro ⟨y, hy, hn⟩
    obtain ⟨k, hk, he⟩ := Option.map_eq_some_iff.1 hn
    cases he
    obtain ⟨hlive, hb⟩ := hs.forest.mem_cascade_iff.1 hy
    have hx := hs.forest.live_of_below hlive hb
    exact ⟨hb, hx, (hs.owner?_eq_some_iff hx).1 hk, rfl⟩
  · rintro ⟨hb, hx, hin, hl⟩
    dsimp only at hb hx hin hl
    subst hl
    refine ⟨x, (hs.forest.mem_cascade_iff_of_live hx).2 hb, ?_⟩
    rw [noticeOf?, (hs.owner?_eq_some_iff hx).2 hin]
    rfl

/-- Every destroyed object is in a notice, since every live object has an owner. -/
theorem Owned.map_object_noticesOf (hs : s.Owned) (o : ObjectId) :
    (s.noticesOf o).map Notice.object = (s.toolkit.delete o).1 := by
  have hall : ∀ l : List ObjectId, (∀ x ∈ l, s.toolkit.Live x) →
      (l.filterMap s.noticeOf?).map Notice.object = l := by
    intro l hl
    induction l with
    | nil => rfl
    | cons x l ih =>
        obtain ⟨h, hx⟩ := Option.isSome_iff_exists.1 (hs.owner?_isSome (hl x List.mem_cons_self))
        have hnotice : s.noticeOf? x = some ⟨h, x, s.toolkit.isLayout x⟩ := by
          rw [noticeOf?, hx]
          rfl
        have hrest := ih fun y hy => hl y (List.mem_cons_of_mem _ hy)
        rw [List.filterMap_cons, hnotice, List.map_cons, hrest]
  refine hall _ fun x hx => ?_
  obtain ⟨hlive, hb⟩ := hs.forest.mem_cascade_iff.1 hx
  exact hs.forest.live_of_below hlive hb

namespace InStep

/-- A layout with a notice under way is gone. -/
theorem isPast_of_late (h : s.InStep undelivered delivered) : s.Past (lateIn undelivered) :=
  fun _ _ hl => h.past _ (Or.inl hl)

/-- Moves of the stage keep it in step. -/
theorem moves (h : s.InStep undelivered delivered) (hm : ReflTransGen Move s s') :
    s'.InStep undelivered delivered := by
  induction hm with
  | refl => exact h
  | tail _ hm ih =>
      exact {
        owned := ih.owned.move hm
        agrees := ih.agrees.move ih.owned ih.isPast_of_late hm
        past m hmem := (ih.past m hmem).move hm
        once := ih.once
        apart := ih.apart }

/-- So does the toolkit when it deletes an object and sends notices. -/
theorem delete (h : s.InStep undelivered delivered) (o : ObjectId) :
    (s.withToolkit (s.toolkit.delete o).2).InStep (undelivered ++ s.noticesOf o) delivered := by
  have hs := h.owned
  -- what is deleted now was live until now
  have hnew : ∀ m ∈ s.noticesOf o, ∀ m', m' ∈ undelivered ∨ m' ∈ delivered →
      m.object ≠ m'.object := by
    intro m hm m' hm' hobj
    exact (h.past m' hm').2.2 (hobj ▸ (hs.mem_noticesOf_iff.1 hm).2.1)
  have hpast : ∀ m ∈ s.noticesOf o, (s.withToolkit (s.toolkit.delete o).2).IsPast m := by
    intro m hm
    obtain ⟨hb, hlive, ⟨r, ⟨g, hg, -⟩, -⟩, -⟩ := hs.mem_noticesOf_iff.1 hm
    exact ⟨hs.numbered _ g hg, hs.forest.fresh _ hlive,
      fun hl => ((Toolkit.shrunk_delete hs.forest).live_iff.1 hl).2 hb⟩
  refine ⟨hs.delete o, h.agrees.delete hs fun k x => ?_, fun m hm => ?_, ?_, fun m hm hmem => ?_⟩
  · rw [lateIn, List.mem_append, hs.mem_noticesOf_iff, LayoutOf]
    refine or_congr_right ⟨?_, ?_⟩
    · rintro ⟨hb, -, hin, hl⟩
      exact ⟨⟨hin, hl⟩, hb⟩
    · rintro ⟨⟨hin, hl⟩, hb⟩
      exact ⟨hb, Toolkit.live_of_isLayout hl, hin, hl⟩
  · rcases hm with hm | hm
    · rcases List.mem_append.1 hm with hm | hm
      · exact (h.past m (Or.inl hm)).delete hs o
      · exact hpast m hm
    · exact (h.past m (Or.inr hm)).delete hs o
  · rw [List.map_append, List.nodup_append]
    refine ⟨h.once, ?_, fun x hx y hy hxy => ?_⟩
    · rw [hs.map_object_noticesOf]
      exact hs.forest.nodup_cascade o
    · obtain ⟨m', hm', rfl⟩ := List.mem_map.1 hx
      obtain ⟨m, hm, rfl⟩ := List.mem_map.1 hy
      exact hnew m hm m' (Or.inl hm') hxy.symm
  · rw [List.map_append, List.mem_append] at hmem
    rcases hmem with hmem | hmem
    · exact h.apart m hm hmem
    · obtain ⟨m', hm', hobj⟩ := List.mem_map.1 hmem
      exact hnew m' hm' m (Or.inr hm) hobj

/-- The object of a delivered notice is in no notice on its way. -/
theorem object_not_mem_erase (h : s.InStep undelivered delivered)
    (hm : m ∈ undelivered ∨ m ∈ delivered) :
    m.object ∉ (undelivered.erase m).map Notice.object := by
  rcases hm with hm | hm
  · have hperm := (List.perm_cons_erase hm).map Notice.object
    have hnodup := hperm.nodup_iff.1 h.once
    rw [List.map_cons, List.nodup_cons] at hnodup
    exact hnodup.1
  · intro hmem
    exact h.apart m hm ((List.erase_sublist.map Notice.object).subset hmem)

/-- What is late after a notice has been delivered. -/
theorem lateIn_erase_iff (h : s.InStep undelivered delivered)
    (hm : m ∈ undelivered ∨ m ∈ delivered) (k : Nat) (x : ObjectId) :
    lateIn (undelivered.erase m) k x ↔
      lateIn undelivered k x ∧ (k = m.handle → x ≠ m.object) := by
  constructor
  · intro hl
    refine ⟨List.mem_of_mem_erase hl, fun _ hx => h.object_not_mem_erase hm ?_⟩
    exact List.mem_map.2 ⟨_, hl, hx⟩
  · rintro ⟨hl, hx⟩
    refine (List.mem_erase_of_ne ?_).2 hl
    rintro rfl
    exact hx rfl rfl

/-- A notice that arrives keeps the stage in step, for the first time or again. -/
theorem deliver (h : s.InStep undelivered delivered) (hm : m ∈ undelivered ∨ m ∈ delivered) :
    (s.objectDestroyed m.handle m.object).2.InStep (undelivered.erase m) (m :: delivered) := by
  have hdead := (h.past m hm).2.2
  obtain ⟨htoolkit, hnext⟩ := toolkit_objectDestroyed s m.handle m.object
  refine ⟨h.owned.report fun _ => hdead, h.agrees.report h.owned hdead (h.lateIn_erase_iff hm),
    fun m' hm' => ?_, ?_, fun m' hm' hmem => ?_⟩
  · have hold : m' ∈ undelivered ∨ m' ∈ delivered := by
      rcases hm' with hm' | hm'
      · exact Or.inl (List.mem_of_mem_erase hm')
      · rcases List.mem_cons.1 hm' with rfl | hm'
        · exact hm
        · exact Or.inr hm'
    have hpast := h.past m' hold
    rwa [IsPast, htoolkit, hnext]
  · exact h.once.sublist (List.erase_sublist.map _)
  · rcases List.mem_cons.1 hm' with rfl | hm'
    · exact h.object_not_mem_erase hm hmem
    · exact h.apart m' hm' ((List.erase_sublist.map Notice.object).subset hmem)

end InStep

end Stage

namespace Traffic

open Stage (InStep)

/-- A step of the session in which no notice is involved. -/
def act (tr : Traffic) (st : Step) : Traffic :=
  { tr with session := (tr.session.step st).2 }

/-- The toolkit deletes an object by itself, and sends notices. -/
def delete (tr : Traffic) (o : ObjectId) : Traffic :=
  { tr with
    session := (tr.session.step (.deleteObject o)).2
    undelivered := tr.undelivered ++ tr.session.stage.noticesOf o }

/-- A notice arrives. -/
def deliver (tr : Traffic) (m : Notice) : Traffic :=
  { session := (tr.session.step (.command (.objectDestroyed m.handle m.object))).2
    undelivered := tr.undelivered.erase m
    delivered := m :: tr.delivered }

/-- What runs lead to, from an empty stage without notices. -/
inductive Reachable : Traffic → Prop where
  | start (order : DestroyOrder) (config : Config) (castsShadows : Bool) (files : Files)
      (now : Duration) :
      Reachable ⟨Session.start (.start (.start order) config castsShadows) files now, [], []⟩
  | act {tr : Traffic} (st : Step) (htr : Reachable tr) (hst : st.IsOrdinary)
      (hrun : (tr.session.step st).1 ≠ .replied (.error .overflow)) : Reachable (tr.act st)
  | delete {tr : Traffic} (o : ObjectId) (htr : Reachable tr) : Reachable (tr.delete o)
  | deliver {tr : Traffic} (m : Notice) (htr : Reachable tr)
      (hm : m ∈ tr.undelivered ∨ m ∈ tr.delivered) : Reachable (tr.deliver m)

variable {tr : Traffic}

/-- Graphs and toolkit agree up to the notices on their way, throughout every run. -/
theorem Reachable.inStep (h : Reachable tr) :
    tr.session.stage.InStep tr.undelivered tr.delivered := by
  induction h with
  | start order config castsShadows files now =>
      have howned := Stage.owned_start order config castsShadows
      refine ⟨howned, ⟨fun p c hc => ?_, fun k g hk => by cases hk⟩, ?_, List.nodup_nil,
        fun m hm => absurd hm List.not_mem_nil⟩
      · obtain ⟨part, hc⟩ := hc
        exact absurd (Toolkit.live_of_swallowed? hc)
          (howned.not_live_of_unloaded (fun _ => rfl) p)
      · rintro m (hm | hm)
        · exact absurd hm List.not_mem_nil
        · exact absurd hm List.not_mem_nil
  | act st _ hst hrun ih =>
      exact ih.moves (Session.moves_of_ordinary ih.owned.toConsistent hst hrun)
  | delete o _ ih => exact ih.delete o
  | deliver m _ hm ih =>
      rw [Traffic.deliver, Session.stage_objectDestroyed]
      exact ih.deliver hm

/-- After every run, the alive nodes of the scene graph of a loaded handle stand for the live
layouts of the handle and for those on which a notice is on its way. For live layouts, what is
listed as a child is what is held. Where no notice is on its way no node is pending, and there
are as many nodes as live layouts. -/
theorem graphs_follow_toolkit {h : Nat} {g : SceneGraph} (htr : Reachable tr)
    (hg : tr.session.stage.graph? h = some g) :
    (∀ o, (∃ n, g.lifecycle n = .alive ∧ g.object? n = some o) ↔
      o ∈ tr.session.stage.layoutsOf h ∨ ⟨h, o, true⟩ ∈ tr.undelivered) ∧
    (∀ p ∈ tr.session.stage.layoutsOf h, ∀ c ∈ tr.session.stage.layoutsOf h,
      ∃ n m, g.nodeOf? p = some n ∧ g.nodeOf? c = some m ∧ ∀ part,
        tr.session.stage.toolkit.swallowed? p part = some c ↔ ⟨m, part⟩ ∈ g.children n) ∧
    ((∀ m ∈ tr.undelivered, m.handle ≠ h) →
      (∀ n, g.lifecycle n ≠ .pendingDelete) ∧ g.stats.pending = 0 ∧
        g.liveCount = (tr.session.stage.layoutsOf h).length) := by
  have hin := htr.inStep
  have hs := hin.owned
  have hwf := hs.wellFormed h g hg
  have hmirrors := hin.agrees.mirrors h g hg
  refine ⟨fun o => ?_, fun p hp c hc => ?_, fun hnone => ?_⟩
  · rw [hs.mem_layoutsOf_iff]
    refine Iff.trans ?_ (hmirrors.tracked o)
    constructor
    · rintro ⟨n, hl, ho⟩
      obtain ⟨r, hr, hrl⟩ := SceneGraph.lifecycle_eq_alive_iff.1 hl
      rw [SceneGraph.object?_of_record hr, Option.some.injEq] at ho
      exact ⟨n, (hwf.bound o n).2 ⟨r, hr, hrl, ho⟩⟩
    · rintro ⟨n, hn⟩
      obtain ⟨r, hr, hrl, -⟩ := (hwf.bound o n).1 hn
      exact ⟨n, (SceneGraph.lifecycle_of_record hr).trans hrl, hwf.object?_of_nodeOf? hn⟩
  · rw [hs.mem_layoutsOf_iff] at hp hc
    obtain ⟨n, hn⟩ := (hmirrors.tracked p).2 (Or.inl hp)
    obtain ⟨m, hm⟩ := (hmirrors.tracked c).2 (Or.inl hc)
    refine ⟨n, m, hn, hm, fun part => ?_⟩
    rw [hmirrors.nested c m hc hm]
    refine ⟨fun hheld => ⟨p, hn, hheld⟩, fun ⟨q, hq, hheld⟩ => ?_⟩
    rwa [hwf.nodeOf?_inj hn hq]
  · exact hmirrors.settled hwf (fun o ho => hnone _ ho rfl) (fun o => hs.mem_layoutsOf_iff)
      (hs.nodup_layoutsOf h)

/-- A layout within a layout that the toolkit has deleted. -/
def lateRun : Traffic :=
  let tr : Traffic :=
    ⟨Session.start (.start (.start .parentFirst) .standard false) .empty (.ofMicros 0), [], []⟩
  let tr := tr.act (.writeFile "rows.edj" (.text ""))
  let tr := tr.act (.command (.create "rows.edj" "main" ⟨0, 0⟩))
  let tr := tr.act (.command (.script 1 none none "slot" "rows.edj" "row"))
  tr.delete 2

/-- The deleted layout still has its node, until the notice arrives. Then only the root is left. -/
theorem graphs_follow_toolkit_late :
    (∃ g, Reachable lateRun ∧ lateRun.session.stage.graph? 1 = some g ∧
      ∃ n, g.lifecycle n = .alive ∧ g.object? n = some 2) ∧
    ∃ g, Reachable (lateRun.deliver ⟨1, 2, true⟩) ∧
      (lateRun.deliver ⟨1, 2, true⟩).session.stage.graph? 1 = some g ∧ g.liveCount = 1 := by
  have hstart := Reachable.start .parentFirst .standard false .empty (.ofMicros 0)
  have hfile := hstart.act (.writeFile "rows.edj" (.text "")) trivial nofun
  have hcreate := hfile.act (.command (.create "rows.edj" "main" ⟨0, 0⟩)) trivial nofun
  have hnest := hcreate.act (.command (.script 1 none none "slot" "rows.edj" "row")) trivial nofun
  have hlate : Reachable lateRun := hnest.delete 2
  have hdone := hlate.deliver ⟨1, 2, true⟩ (Or.inl (by decide))
  have hloaded : (lateRun.session.stage.graph? 1).isSome := by decide
  have hloaded' : ((lateRun.deliver ⟨1, 2, true⟩).session.stage.graph? 1).isSome := by decide
  obtain ⟨g, hg⟩ := Option.isSome_iff_exists.1 hloaded
  obtain ⟨g', hg'⟩ := Option.isSome_iff_exists.1 hloaded'
  refine ⟨⟨g, hlate, hg, ?_⟩, ⟨g', hdone, hg', ?_⟩⟩
  · exact ((graphs_follow_toolkit hlate hg).1 2).2 (Or.inr (by decide))
  · exact ((graphs_follow_toolkit hdone hg').2.2 (by decide)).2.2

end Traffic

end WidgetStage
