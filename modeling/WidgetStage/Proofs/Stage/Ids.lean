import WidgetStage.Proofs.Stage.Failures
import WidgetStage.Proofs.SyntheticId.Search

/-!
# Ids of nodes

A node is addressed by its id, and where ids are shared only the node that was registered first is
found. A layout that is put into a part gets the id that the host asks for, else the name of the
part, else a time stamp. The last two are never in use already: the name is taken if it is free, and
stamps are drawn until one is. So ids are shared only if the host asks for an id that is in use.

What else happens to scene graphs takes nodes and their ids away. A part is emptied before the id
for its new content is picked, and an id that was given up in this way can be used again.

## Main results

* `SceneGraph.Identified`: no two alive nodes have the same id.
* `Stage.find_of_chooseId?`: the id that is picked for a layout is not in use.
* `Stage.Identified.turn`: no turn makes nodes share an id, unless a host asks for it.
* `Stage.Heedful.ids_distinct`: if no host ever does, every node is found by its id.
-/

namespace WidgetStage

namespace SceneGraph

/-- No two alive nodes have the same id. -/
structure Identified (g : SceneGraph) : Prop extends WellFormed g where
  distinct : ∀ m n, g.lifecycle m = .alive → g.lifecycle n = .alive → g.id? m = g.id? n → m = n

variable {g g' : SceneGraph} {o : ObjectId} {id : Option String} {n : NodeId}
  {parent : Option (NodeId × String)}

/-- The empty graph has no ids. -/
theorem identified_empty : empty.Identified where
  toWellFormed := wellFormed_empty
  distinct m n hm := by
    obtain ⟨r, hr, -⟩ := lifecycle_eq_alive_iff.1 hm
    simp [record?, empty] at hr

namespace Identified

/-- Without some of its nodes a graph has no more ids. -/
theorem of_within (hg : g.Identified) (hw : g'.Within g) : g'.Identified where
  toWellFormed := hw.wellFormed
  distinct m n hm hn hid := by
    obtain ⟨o, ho⟩ := hw.wellFormed.alive_iff.1 hm
    obtain ⟨p, hp⟩ := hw.wellFormed.alive_iff.1 hn
    rw [hw.id? o m ho, hw.id? p n hp] at hid
    exact hg.distinct m n (hg.alive_iff.2 ⟨o, hw.nodeOf? o m ho⟩)
      (hg.alive_iff.2 ⟨p, hw.nodeOf? p n hp⟩) hid

/-- A node is attached under an id that is not in use. -/
theorem attach (hg : g.Identified) (hfree : g.find id = none)
    (h : g.attach o id parent = .ok (n, g')) : g'.Identified := by
  have hnew := attached_of_attach hg.toFreeListed h
  have hunused := hg.find_eq_none_iff.1 hfree
  refine ⟨hnew.wellFormed hg.toWellFormed, fun j k hj hk hid => ?_⟩
  rw [hnew.lifecycle] at hj hk
  rw [hnew.id?, hnew.id?] at hid
  by_cases hjn : j = n
  · by_cases hkn : k = n
    · exact hjn.trans hkn.symm
    · rw [if_neg hkn] at hk
      rw [if_pos hjn, if_neg hkn] at hid
      exact absurd hid.symm (hunused k hk)
  · rw [if_neg hjn] at hj
    rw [if_neg hjn] at hid
    by_cases hkn : k = n
    · rw [if_pos hkn] at hid
      exact absurd hid (hunused j hj)
    · rw [if_neg hkn] at hk hid
      exact hg.distinct j k hj hk hid

/-- Every node is registered under an id of its own. -/
theorem nodup_ids (hg : g.Identified) : (g.registry.entries.map Prod.snd).Nodup := by
  refine List.Nodup.map_on ?_ hg.registered_once.of_map
  rintro ⟨m, i⟩ hm ⟨n, j⟩ hn (rfl : i = j)
  obtain ⟨hlm, rfl⟩ := hg.mem_registry_iff.1 hm
  obtain ⟨hln, hid⟩ := hg.mem_registry_iff.1 hn
  rw [hg.distinct m n hlm hln hid.symm]

/-- Every alive node is found by its id. -/
theorem find_id? (hg : g.Identified) (hn : g.lifecycle n = .alive) : g.find (g.id? n) = some n := by
  cases hfind : g.find (g.id? n) with
  | none => exact absurd rfl (hg.find_eq_none_iff.1 hfind n hn)
  | some m =>
      obtain ⟨o, ho⟩ := hg.exists_object_of_find hfind
      obtain ⟨hm, hid⟩ := hg.nodeOf?_of_find hfind ho
      rw [hg.distinct m n (hg.alive_iff.2 ⟨o, hm⟩) hn hid]

end Identified

end SceneGraph

namespace Stage

open Relation (ReflTransGen)

/-- In every scene graph no two alive nodes have the same id. -/
def Identified (s : Stage) : Prop :=
  ∀ h g, s.graph? h = some g → g.Identified

variable {s s' : Stage} {h : Nat} {hd : Handle} {part : String}

/-! ### The id of a layout -/

/-- An id that is not listed as taken is found nowhere. -/
theorem find_eq_none_of_not_mem_takenIds {g : SceneGraph} {id : String} (h : id ∉ takenIds g) :
    g.find (some id) = none := by
  simp only [SceneGraph.find, Registry.find, Option.map_eq_none_iff, List.find?_eq_none]
  intro e he hid
  exact h (List.mem_filterMap.2 ⟨e, he, by simpa using hid⟩)

/-- The id that is picked for a layout is not in use, unless it is asked for. -/
theorem find_of_chooseId? {clock : Nat → Duration} {g : SceneGraph} {wanted : Option String}
    {id : String} {ids : SyntheticIds}
    (hwanted : ∀ id, wanted = some id → id ≠ "" → g.find (some id) = none)
    (hchoose : s.chooseId? clock g wanted part = some (id, ids)) : g.find (some id) = none := by
  rw [chooseId?] at hchoose
  split at hchoose
  · next hasked =>
    cases hchoose
    obtain ⟨hasked, hne⟩ := Option.filter_eq_some_iff.1 hasked
    exact hwanted id hasked (by simpa using hne)
  split at hchoose
  · exact find_eq_none_of_not_mem_takenIds (SyntheticIds.not_mem_of_unique? hchoose)
  · next hfree =>
    cases hchoose
    simpa [Registry.containsId, SceneGraph.find] using hfree

/-! ### Turns -/

namespace Identified

/-- Ids are a matter of the scene graphs. -/
theorem of_graphs (hs : s.Identified) (graphs : ∀ k, s'.graph? k = s.graph? k) : s'.Identified :=
  fun k g hk => hs k g ((graphs k).symm.trans hk)

/-- Ids stay distinct if they are distinct in the scene graph that is put in. -/
theorem modifyHandle (hs : s.Identified) (h : Nat) {f : Handle → Handle}
    (hf : ∀ hd, s.handles.find? h = some hd → (f hd).graph.Identified) :
    (s.modifyHandle h f).Identified := by
  intro k g hk
  rw [graph?_modifyHandle] at hk
  split at hk
  · next hkh =>
    obtain ⟨hd, hfind, rfl⟩ := Option.map_eq_some_iff.1 hk
    exact hf hd (hkh ▸ hfind)
  · exact hs k g hk

/-- Reports leave no more nodes than there were. -/
theorem reportAll (hs : s.Identified) (h : Nat) (ds : List ObjectId) :
    (s.modifyHandle h fun hd => hd.reportAll ds).Identified := by
  refine hs.modifyHandle h fun hd hf => ?_
  have hg := hs h hd.graph (graph?_of_find hf)
  exact hg.of_within (hg.within_destroyAll ds)

/-- The toolkit knows nothing of ids. -/
theorem withToolkit (hs : s.Identified) (t : Toolkit) : (s.withToolkit t).Identified :=
  hs.of_graphs fun _ => rfl

/-- Deleting an object adds no id. -/
theorem deleteReporting (hs : s.Identified) (h : Nat) (o : ObjectId) :
    (s.deleteReporting h o).Identified :=
  (hs.withToolkit _).reportAll h _

/-- Emptying a part adds no id. -/
theorem clearPart (hs : s.Identified) (h : Nat) (o : ObjectId) (part : String) :
    (s.clearPart h o part).Identified := by
  rw [Stage.clearPart]
  split
  · exact hs
  · exact (hs.withToolkit _).deleteReporting h _

/-- The graph of a new handle has a root and no other node. -/
theorem create (hs : s.Identified) (files : Files) (path group : String) (size : Size) :
    (s.create files path group size).2.Identified := by
  rw [Stage.create]
  split
  · exact hs
  split
  · exact hs
  split
  · exact hs
  dsimp only
  split
  · exact hs.withToolkit _
  next n g hattach =>
  intro k g' hk
  rw [graph?, Table.find?_insert] at hk
  split at hk
  · cases hk
    exact SceneGraph.identified_empty.attach rfl hattach
  · exact hs k g' hk

/-- Images have no ids. -/
theorem showImage (hs : s.Identified) (o : ObjectId) (part : String) (options : ImageOptions)
    (content : ImageContent) : (s.showImage o part options content).2.Identified := by
  rw [Stage.showImage]
  split
  · exact hs
  next image t _ =>
  obtain ⟨shadows, hcast⟩ := castShadow_eq (s.withToolkit t) image options.shadow
  dsimp only
  rw [hcast]
  split
  · exact hs.of_graphs fun _ => rfl
  · exact hs.of_graphs fun _ => rfl

/-- Nodes may go with the old content, but an image adds none. -/
theorem updateImage (hs : s.Identified) (files : Files) (h : Nat) (id : Option String)
    (part path : String) (option : Option String) :
    (s.updateImage files h id part path option).2.Identified := by
  rw [Stage.updateImage]
  split
  · exact hs
  next target _ =>
  have hclear := hs.clearPart h target.object part
  dsimp only
  split
  · exact hclear
  split
  · exact hclear
  · exact hclear.showImage _ _ _ _

/-- A touch concerns no scene graph. -/
theorem touches {mine : ObjectId → Prop} (hs : s.Identified)
    (ht : ReflTransGen (Touch mine h) s s') : s'.Identified := by
  induction ht with
  | refl => exact hs
  | tail _ hlast ih =>
      cases hlast with
      | object _ _ _ => exact ih.withToolkit _
      | call _ _ => exact ih.withToolkit _
      | handle graph => exact ih.of_graphs fun _ => graph?_modifyHandle_of_graph_eq graph

/-- A layout is placed under an id that is not in use, or given up. -/
theorem placeLayout {target : Target} {id : String} {child : ObjectId} (hs : s.Identified)
    (hf : s.handles.find? h = some hd) (hfree : hd.graph.find (some id) = none) :
    (s.placeLayout h target hd.graph part id child).2.Identified := by
  rw [Stage.placeLayout]
  split
  · exact hs.withToolkit _
  next n g hattach =>
  have hg := (hs h hd.graph (graph?_of_find hf)).attach hfree hattach
  have hplaced : (s.modifyHandle h fun hd => { hd with graph := g }).Identified :=
    hs.modifyHandle h fun _ _ => hg
  dsimp only
  split
  · exact hplaced.deleteReporting h child
  · exact hplaced.withToolkit _

end Identified

/-- A handle that is looked up is loaded. -/
theorem find_of_lookup (hl : s.lookup h = .ok hd) : s.handles.find? h = some hd := by
  rw [lookup] at hl
  split at hl
  · next hf =>
    cases hl
    exact hf
  · cases hl

/-- A layout command that asks for an id asks for one that is not in use: if it gets as far as
attaching the layout, then no alive node of the scene graph has the id at that moment. -/
def Heeds (s : Stage) : Turn → Prop
  | .command w (.script h source wanted part path _) =>
    ∀ id target hd, wanted = some id → id ≠ "" → s.address h source = .ok target → path ≠ "" →
      w.files.isReadable path = true →
      let s := s.clearPart h target.object part
      s.toolkit.loadFailure = none → s.handles.find? h = some hd →
      ∀ n, hd.graph.lifecycle n = .alive → hd.graph.id? n ≠ some id
  | _ => True

/-- A command that asks for no id has nothing to heed. -/
theorem heeds_of_unasked {w : Surroundings} {source : Option String} {path group : String} :
    s.Heeds (.command w (.script h source none part path group)) := by
  intro id target hd hid
  cases hid

namespace Identified

/-- A layout command that heeds the ids in use leaves them distinct. -/
theorem updateScript {w : Surroundings} {source wanted : Option String} {path group : String}
    (hs : s.Identified) (hheeds : s.Heeds (.command w (.script h source wanted part path group))) :
    (s.updateScript w h source wanted part path group).2.Identified := by
  rw [Stage.updateScript]
  split
  · exact hs
  next target ha =>
  have hclear := hs.clearPart h target.object part
  have hunused := fun id hd hwanted hne => hheeds id target hd hwanted hne ha
  dsimp only at hunused ⊢
  generalize s.clearPart h target.object part = s₁ at hclear hunused
  split
  · exact hclear
  next hpath =>
  split
  · exact hclear
  next hread =>
  split
  · exact hclear
  · exact hclear
  next child t hd hload hlookup =>
  have hf := find_of_lookup hlookup
  have hg := hclear h hd.graph (graph?_of_find hf)
  split
  · exact hclear.withToolkit t
  next id ids hchoose =>
  -- the id is picked for the scene graph as it is after the part was emptied
  have hfree : hd.graph.find (some id) = none := by
    refine find_of_chooseId? (fun id hwanted hne => hg.find_eq_none_iff.2 ?_) hchoose
    exact hunused id hd hwanted hne hpath (by simpa using hread)
      (Toolkit.loadLayout_eq_ok_iff.1 hload).1 hf
  exact placeLayout (hclear.of_graphs fun _ => rfl) hf hfree

/-- No command makes nodes share an id, unless it asks for it. -/
theorem run {w : Surroundings} {c : Command} (hs : s.Identified)
    (hheeds : s.Heeds (.command w c)) : (s.run w c).2.Identified := by
  cases c with
  | create path group size =>
      rw [Stage.run, answering_snd]
      exact hs.create w.files path group size
  | destroy h =>
      rw [Stage.run, answering_snd, destroy]
      split
      · exact hs
      · intro k g hk
        change (Table.find? (s.handles.erase h) k).map Handle.graph = some g at hk
        rw [Table.find?_erase] at hk
        split at hk
        · cases hk
        · exact hs k g hk
  | objectDestroyed h o =>
      rw [Stage.run, answering_snd, objectDestroyed]
      split
      · exact hs
      · exact hs.reportAll h [o]
  | image h id part path option =>
      rw [Stage.run, answering_snd]
      exact hs.updateImage w.files h id part path option
  | script h source wanted part path group => exact hs.updateScript hheeds
  | _ => exact hs.touches (run_touches rfl)

/-- No turn makes nodes share an id, unless it asks for it. -/
theorem turn (hs : s.Identified) {t : Turn} (hheeds : s.Heeds t) : (s.turn t).2.Identified := by
  cases t with
  | command w c => exact hs.run hheeds
  | behave b => exact hs.withToolkit _
  | busy h busy => exact hs.of_graphs fun _ => graph?_modifyHandle_of_graph_eq fun _ => rfl
  | delete o => exact hs.withToolkit _

end Identified

/-! ### Runs in which no id in use is asked for -/

/-- The stages that plays from an empty one lead to, if no layout command ever asks for an id that
is in use. -/
inductive Heedful : Stage → Prop where
  | start (order : DestroyOrder) (config : Config) (castsShadows : Bool) :
      Heedful (start (.start order) config castsShadows)
  | turn {s : Stage} (t : Turn) (hs : Heedful s) (hheeds : s.Heeds t) : Heedful (s.turn t).2

/-- Every stage that is reached heedfully has distinct ids. -/
theorem Heedful.identified (hs : s.Heedful) : s.Identified := by
  induction hs with
  | start order config castsShadows =>
      intro h g hg
      cases hg
  | turn t _ hheeds ih => exact ih.turn hheeds

/-- If no layout command ever asks for an id that is in use when the layout is attached, then no two
nodes are registered under one id, and at most one without an id. So every alive node is found by
its id. This holds whatever the clock says, whatever is reported, whatever fails and whatever else
is asked for. -/
theorem Heedful.ids_distinct (hs : s.Heedful) (hf : s.handles.find? h = some hd) :
    (hd.graph.registry.entries.map Prod.snd).Nodup ∧
      ∀ n, hd.graph.lifecycle n = .alive → hd.graph.find (hd.graph.id? n) = some n := by
  have hg := hs.identified h hd.graph (graph?_of_find hf)
  exact ⟨hg.nodup_ids, fun n hn => hg.find_id? hn⟩

/-- The file of the rows. -/
def rowFiles : Surroundings :=
  ⟨Files.empty.write "rows.edj" (.text ""), fun _ => .ofMicros 0⟩

/-- A row within a row, in a part that has the name of the outer one. -/
def nestedRows : Stage :=
  (start (.start .parentFirst) .standard false).play
    [.command rowFiles (.create "rows.edj" "main" ⟨0, 0⟩),
      .command rowFiles (.script 1 none none "slot" "rows.edj" "row"),
      .command rowFiles (.script 1 (some "slot") none "slot" "rows.edj" "row")]

/-- The stage with a row in a row is reached heedfully. -/
theorem heedful_nestedRows : nestedRows.Heedful := by
  have hstart := Heedful.start .parentFirst .standard false
  have hcreate := hstart.turn (.command rowFiles (.create "rows.edj" "main" ⟨0, 0⟩)) trivial
  have houter := hcreate.turn (.command rowFiles (.script 1 none none "slot" "rows.edj" "row"))
    heeds_of_unasked
  exact houter.turn (.command rowFiles (.script 1 (some "slot") none "slot" "rows.edj" "row"))
    heeds_of_unasked

/-- Another row in place of the outer one may ask for its id, which is given up by then. -/
theorem heeds_nestedRows :
    nestedRows.Heeds
      (.command rowFiles (.script 1 none (some "slot") "slot" "rows.edj" "row")) := by
  intro id target hd hid _ ha _ _ cleared _ hf
  cases hid
  have hobject : (nestedRows.address 1 none).map Target.object = .ok 1 := by decide
  have hgraph : ((nestedRows.clearPart 1 1 "slot").handles.find? 1).map
      (fun hd => hd.graph.find (some "slot")) = some none := by decide
  obtain ⟨handle, node, object⟩ := target
  simp only [ha, Except.map, Except.ok.injEq] at hobject
  subst hobject
  have hloaded : (nestedRows.clearPart 1 1 "slot").handles.find? 1 = some hd := hf
  rw [hloaded, Option.map_some, Option.some.injEq] at hgraph
  have hcleared := heedful_nestedRows.identified.clearPart 1 1 "slot"
  exact (hcleared 1 hd.graph (graph?_of_find hf)).find_eq_none_iff.1 hgraph

/-- The inner row has a time stamp for its id. Another row in place of both rows has the id of the
outer one. -/
theorem ids_distinct_nestedRows :
    (∃ hd, nestedRows.handles.find? 1 = some hd ∧
      hd.graph.registry.entries.map Prod.snd = [none, some "slot", some "0.000000"] ∧
      ∀ n, hd.graph.lifecycle n = .alive → hd.graph.find (hd.graph.id? n) = some n) ∧
    ∃ hd, (nestedRows.run rowFiles
        (.script 1 none (some "slot") "slot" "rows.edj" "row")).2.handles.find? 1 = some hd ∧
      hd.graph.registry.entries.map Prod.snd = [none, some "slot"] ∧
      ∀ n, hd.graph.lifecycle n = .alive → hd.graph.find (hd.graph.id? n) = some n := by
  have hreplaced := heedful_nestedRows.turn _ heeds_nestedRows
  have hids : (nestedRows.handles.find? 1).map (fun hd => hd.graph.registry.entries.map Prod.snd) =
      some [none, some "slot", some "0.000000"] := by decide
  have hids' : ((nestedRows.run rowFiles
      (.script 1 none (some "slot") "slot" "rows.edj" "row")).2.handles.find? 1).map
        (fun hd => hd.graph.registry.entries.map Prod.snd) = some [none, some "slot"] := by decide
  obtain ⟨hd, hf, hids⟩ := Option.map_eq_some_iff.1 hids
  obtain ⟨hd', hf', hids'⟩ := Option.map_eq_some_iff.1 hids'
  exact ⟨⟨hd, hf, hids, (heedful_nestedRows.ids_distinct hf).2⟩,
    ⟨hd', hf', hids', (hreplaced.ids_distinct hf').2⟩⟩

end Stage

end WidgetStage
