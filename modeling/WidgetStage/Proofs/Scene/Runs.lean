import WidgetStage.Proofs.Scene.Destruction

/-!
# Runs of a scene graph

A run is a list of commands taken from the empty graph: attaching with any arguments, whether it
succeeds or not, reports about any objects, and dropping everything. What holds after every run
is what the users of a graph may rely on.

## Main results

* `reachable_wellFormed`: the five places in which a graph keeps its nodes agree after every run.
* `destroyAll_congr`: after every run, reports about the same objects lead to the same graph, in
  whatever order and however often they come. Where the graph differs at all is the order of the
  free list.
-/

namespace WidgetStage

/-- What can be done to a scene graph. -/
inductive SceneCommand where
  | attach (object : ObjectId) (id : Option String) (parent : Option (NodeId × String))
  | destroy (object : ObjectId)
  | clear
  deriving DecidableEq, Repr

namespace SceneGraph

variable {g g' : SceneGraph} {n : NodeId} {xs ys : List ObjectId}

/-- The graph after a command. A node that is refused leaves the graph as it is. -/
def apply (g : SceneGraph) : SceneCommand → SceneGraph
  | .attach object id parent =>
    match g.attach object id parent with
    | .ok (_, g') => g'
    | .error _ => g
  | .destroy object => g.destroy object
  | .clear => g.clear

/-- The graph after a list of commands. -/
def run (g : SceneGraph) (cmds : List SceneCommand) : SceneGraph :=
  cmds.foldl apply g

/-! ### Well-formedness -/

/-- Every command keeps a graph well-formed. -/
theorem WellFormed.apply (hg : g.WellFormed) (cmd : SceneCommand) : (g.apply cmd).WellFormed := by
  cases cmd with
  | attach object id parent =>
      rcases h : g.attach object id parent with e | ⟨n, g'⟩
      · simpa only [SceneGraph.apply, h] using hg
      · simpa only [SceneGraph.apply, h] using
          (attached_of_attach hg.toFreeListed h).wellFormed hg
  | destroy object => exact hg.destroy object
  | clear => exact hg.clear

/-- So does a list of commands. -/
theorem WellFormed.run (hg : g.WellFormed) (cmds : List SceneCommand) :
    (g.run cmds).WellFormed := by
  induction cmds generalizing g with
  | nil => exact hg
  | cons cmd cmds ih => exact ih (hg.apply cmd)

/-- Every graph that a run leads to is well-formed. -/
theorem reachable_wellFormed (cmds : List SceneCommand) : (empty.run cmds).WellFormed :=
  wellFormed_empty.run cmds

/-! ### Graphs that cannot be told apart -/

/-- Two graphs answer every question alike, and have the same slots to give away. -/
structure Alike (g g' : SceneGraph) : Prop where
  lifecycle : ∀ n, g.lifecycle n = g'.lifecycle n
  object? : ∀ n, g.object? n = g'.object? n
  id? : ∀ n, g.id? n = g'.id? n
  parent? : ∀ n, g.parent? n = g'.parent? n
  children : ∀ n, g.children n = g'.children n
  registry : g.registry.entries = g'.registry.entries
  nodeOf? : ∀ o, g.nodeOf? o = g'.nodeOf? o
  stats : g.stats = g'.stats
  liveCount : g.liveCount = g'.liveCount
  freeList : g.freeList.Perm g'.freeList

/-- Graphs with the same slots and the same record for every node store the same, slot by
slot. -/
theorem map_record_congr (hlen : g.slots.length = g'.slots.length)
    (h : ∀ n, g.record? n = g'.record? n) :
    g.slots.map Slot.record = g'.slots.map Slot.record := by
  refine List.ext_getElem (by simpa using hlen) fun i hi hi' => ?_
  rw [List.length_map] at hi hi'
  simp only [List.getElem_map]
  -- a record on one side names a node, and so the record on the other side
  have hread : ∀ {d d' : SceneGraph} {r : SceneNode} (hd : i < d.slots.length)
      (hd' : i < d'.slots.length), (∀ n, d.record? n = d'.record? n) →
      d.slots[i].record = some r → d'.slots[i].record = some r := by
    intro d d' r hd hd' hdd hr
    have hnode : d.record? ⟨i, d.slots[i].generation⟩ = some r := by
      rw [record?_eq_some_iff, List.getElem?_eq_getElem hd, ← hr]
    rw [hdd, record?_eq_some_iff, List.getElem?_eq_getElem hd', Option.some.injEq] at hnode
    rw [hnode]
  ext r
  exact ⟨hread hi hi' h, hread hi' hi fun n => (h n).symm⟩

/-- The records depend on what is in the slots, not on generations. -/
theorem records_congr (h : g.slots.map Slot.record = g'.slots.map Slot.record) :
    g.records = g'.records := by
  have hid : ∀ d : SceneGraph, d.records = (d.slots.map Slot.record).filterMap id := fun d => by
    rw [List.filterMap_map]
    rfl
  rw [hid, hid, h]

/-- Full slots are free in none, and empty ones in both. -/
theorem FreeListed.perm (hg : g.FreeListed) (hg' : g'.FreeListed)
    (h : g.slots.map Slot.record = g'.slots.map Slot.record) : g.freeList.Perm g'.freeList := by
  have hempty : ∀ (d : SceneGraph) (i : Nat),
      (∃ γ, d.slots[i]? = some ⟨γ, none⟩) ↔ (d.slots.map Slot.record)[i]? = some none := by
    intro d i
    rw [List.getElem?_map]
    rcases d.slots[i]? with _ | ⟨γ, _ | r⟩ <;> simp
  refine (List.perm_ext_iff_of_nodup hg.free_nodup hg'.free_nodup).2 fun i => ?_
  rw [hg.mem_free_iff, hg'.mem_free_iff, hempty, hempty, h]

/-! ### The order of reports -/

/-- An alive node whose object is among the reported ones. -/
def Reported (g : SceneGraph) (xs : List ObjectId) (n : NodeId) : Prop :=
  g.lifecycle n = .alive ∧ ∃ o ∈ xs, g.object? n = some o

/-- A node is notified if its own object is reported. -/
theorem WellFormed.notified_iff (hg : g.WellFormed) :
    g.notified xs n = true ↔ g.Reported xs n := by
  rw [notified_eq_true_iff]
  constructor
  · rintro ⟨o, ho, h⟩
    obtain ⟨r, hr, hl, -⟩ := (hg.bound o n).1 h
    exact ⟨(lifecycle_of_record hr).trans hl, o, ho, hg.object?_of_nodeOf? h⟩
  · rintro ⟨hl, o, ho, hobj⟩
    obtain ⟨r, hr, hrl⟩ := lifecycle_eq_alive_iff.1 hl
    rw [object?_of_record hr, Option.some.injEq] at hobj
    exact ⟨o, ho, (hg.bound o n).2 ⟨r, hr, hrl, hobj⟩⟩

/-- Neither order nor repetition matters to which nodes are notified. -/
theorem notified_congr (h : ∀ o, o ∈ xs ↔ o ∈ ys) : g.notified xs = g.notified ys := by
  funext n
  rw [Bool.eq_iff_iff, notified_eq_true_iff, notified_eq_true_iff]
  simp only [h]

/-- Reports about the same objects lead to graphs that cannot be told apart. -/
theorem WellFormed.alike_destroyAll (hg : g.WellFormed) (h : ∀ o, o ∈ xs ↔ o ∈ ys) :
    (g.destroyAll xs).Alike (g.destroyAll ys) := by
  have hx := hg.pruned_destroyAll xs
  have hy := hg.pruned_destroyAll ys
  rw [← notified_congr h] at hy
  have hrecord : ∀ n, (g.destroyAll xs).record? n = (g.destroyAll ys).record? n := fun n => by
    rw [hx.record?, hy.record?]
  have hslots := map_record_congr
    ((length_slots_destroyAll xs).trans (length_slots_destroyAll ys).symm) hrecord
  have hrecords := records_congr hslots
  have hcount : (g.destroyAll xs).liveCount = (g.destroyAll ys).liveCount := by
    rw [liveCount, liveCount, hrecords]
  have hreclaimed : (g.destroyAll xs).reclaimedTotal = (g.destroyAll ys).reclaimedTotal := by
    have hxs := reclaimed_add_liveCount_destroyAll (g := g) xs
    have hys := reclaimed_add_liveCount_destroyAll (g := g) ys
    omega
  exact {
    lifecycle n := by rw [SceneGraph.lifecycle, SceneGraph.lifecycle, hrecord]
    object? n := by rw [SceneGraph.object?, SceneGraph.object?, hrecord]
    id? n := by rw [SceneGraph.id?, SceneGraph.id?, hrecord]
    parent? n := by rw [SceneGraph.parent?, SceneGraph.parent?, hrecord]
    children n := by rw [SceneGraph.children, SceneGraph.children, hrecord]
    registry := by rw [hx.registry, hy.registry]
    nodeOf? o := by rw [hx.nodeOf?, hy.nodeOf?]
    stats := by rw [stats, stats, hrecords, hreclaimed]
    liveCount := hcount
    freeList := (hg.destroyAll xs).toFreeListed.perm (hg.destroyAll ys).toFreeListed hslots }

/-- A node that no report concerns stays alive. -/
theorem WellFormed.alive_destroyAll (hg : g.WellFormed) (hn : g.lifecycle n = .alive)
    (hout : ¬ g.Reported xs n) : (g.destroyAll xs).lifecycle n = .alive := by
  refine ((hg.pruned_destroyAll xs).lifecycle_alive_iff).2 ⟨hn, ?_⟩
  rw [← Bool.not_eq_true, hg.notified_iff]
  exact hout

open Classical in
/-- A reported or pending node is reclaimed if all its children are reported, and else waits. -/
theorem WellFormed.lifecycle_destroyAll (hg : g.WellFormed)
    (hn : g.Reported xs n ∨ g.lifecycle n = .pendingDelete) :
    (g.destroyAll xs).lifecycle n =
      if ∀ e ∈ g.children n, g.Reported xs e.node then .reclaimed else .pendingDelete := by
  have hdead : ¬ (g.lifecycle n = .alive ∧ g.notified xs n = false) := by
    rintro ⟨hl, hout⟩
    rw [← Bool.not_eq_true, hg.notified_iff] at hout
    rcases hn with hn | hn
    · exact hout hn
    · rw [hl] at hn
      cases hn
  rw [(hg.pruned_destroyAll xs).lifecycle, if_neg hdead]
  simp only [hg.notified_iff]

/-- Reports about all objects leave nothing behind. -/
theorem WellFormed.destroyAll_of_covered (hg : g.WellFormed)
    (hall : ∀ o n, g.nodeOf? o = some n → o ∈ xs) :
    (g.destroyAll xs).liveCount = 0 ∧ (g.destroyAll xs).registry.entries = [] ∧
      (g.destroyAll xs).reclaimedTotal = g.reclaimedTotal + g.liveCount := by
  have hx := hg.pruned_destroyAll xs
  have hgone : ∀ n, g.lifecycle n = .alive → g.notified xs n = true := by
    intro n hn
    obtain ⟨r, hr, hl⟩ := lifecycle_eq_alive_iff.1 hn
    have hnode := (hg.bound r.object n).2 ⟨r, hr, hl, rfl⟩
    exact notified_eq_true_iff.2 ⟨r.object, hall _ n hnode, hnode⟩
  -- children are alive, so no node keeps any
  have hrecord : ∀ n, (g.destroyAll xs).record? n = none := by
    intro n
    rw [hx.record?]
    rcases hr : g.record? n with _ | r
    · rfl
    · have hrest : (r.children.filter fun e => !g.notified xs e.node) = [] := by
        rw [List.filter_eq_nil_iff]
        intro e he
        rw [← children_of_record hr] at he
        obtain ⟨hl, -⟩ := hg.parent_stored e.node n ((hg.linked n e.node).1 ⟨e, he, rfl⟩)
        simp [hgone e.node hl]
      have hdead : ¬ (r.lifecycle = .alive ∧ g.notified xs n = false) := by
        rintro ⟨hl, hout⟩
        simp [hgone n ((lifecycle_of_record hr).trans hl)] at hout
      simp only [Option.bind_some, SceneNode.remaining, if_neg hdead, if_pos hrest]
  have hcount : (g.destroyAll xs).liveCount = 0 := by
    rw [liveCount, List.length_eq_zero_iff, List.eq_nil_iff_forall_not_mem]
    intro r hr
    obtain ⟨n, hn⟩ := mem_records_iff.1 hr
    simp [hrecord n] at hn
  refine ⟨hcount, ?_, ?_⟩
  · rw [hx.registry, List.filter_eq_nil_iff]
    rintro ⟨n, id⟩ he
    obtain ⟨r, hr, hl, -⟩ := (hg.registered n id).1 he
    simp [hgone n ((lifecycle_of_record hr).trans hl)]
  · have hkept := reclaimed_add_liveCount_destroyAll (g := g) xs
    omega

open Classical in
/-- After every run, what reports about destroyed objects lead to depends on the set of these
objects only: not on the order of the reports, not on repetitions. Afterwards a node that no
report concerns is as alive as before, and any other is reclaimed if all its children were
reported, and else waits for the rest of them. If all objects are reported, nothing is left, and
all of it is counted as reclaimed. -/
theorem destroyAll_congr (cmds : List SceneCommand) (xs ys : List ObjectId)
    (h : ∀ o, o ∈ xs ↔ o ∈ ys) :
    ((empty.run cmds).destroyAll xs).Alike ((empty.run cmds).destroyAll ys) ∧
    (∀ n, (empty.run cmds).lifecycle n = .alive → ¬ (empty.run cmds).Reported xs n →
      ((empty.run cmds).destroyAll xs).lifecycle n = .alive) ∧
    (∀ n, (empty.run cmds).Reported xs n ∨ (empty.run cmds).lifecycle n = .pendingDelete →
      ((empty.run cmds).destroyAll xs).lifecycle n =
        if ∀ e ∈ (empty.run cmds).children n, (empty.run cmds).Reported xs e.node
        then .reclaimed else .pendingDelete) ∧
    ((∀ o n, (empty.run cmds).nodeOf? o = some n → o ∈ xs) →
      ((empty.run cmds).destroyAll xs).liveCount = 0 ∧
      ((empty.run cmds).destroyAll xs).registry.entries = [] ∧
      ((empty.run cmds).destroyAll xs).reclaimedTotal =
        (empty.run cmds).reclaimedTotal + (empty.run cmds).liveCount) := by
  have hg : (empty.run cmds).WellFormed := wellFormed_empty.run cmds
  exact ⟨hg.alike_destroyAll h, fun n hn hout => hg.alive_destroyAll hn hout,
    fun n hn => hg.lifecycle_destroyAll hn, hg.destroyAll_of_covered⟩

/-- A root whose child is reported before or after it, and an object that nobody tracks. -/
theorem destroyAll_congr_root_and_child :
    (∀ o, o ∈ [1, 2, 7] ↔ o ∈ [7, 2, 1, 2]) ∧
      ((empty.run [.attach 1 none none, .attach 2 (some "item") (some (⟨0, 0⟩, "slot"))]).destroyAll
        [1, 2, 7]).Alike
      ((empty.run [.attach 1 none none, .attach 2 (some "item") (some (⟨0, 0⟩, "slot"))]).destroyAll
        [7, 2, 1, 2]) ∧
      ((empty.run [.attach 1 none none, .attach 2 (some "item") (some (⟨0, 0⟩, "slot"))]).destroyAll
        [1, 2, 7]).liveCount = 0 := by
  have hsame : ∀ o, o ∈ [1, 2, 7] ↔ o ∈ [7, 2, 1, 2] := by
    intro o
    simp only [List.mem_cons, List.not_mem_nil, or_false]
    omega
  obtain ⟨halike, -, -, hcovered⟩ := destroyAll_congr
    [.attach 1 none none, .attach 2 (some "item") (some (⟨0, 0⟩, "slot"))] _ _ hsame
  refine ⟨hsame, halike, (hcovered fun o n hn => ?_).1⟩
  have htable : (empty.run [.attach 1 none none,
      .attach 2 (some "item") (some (⟨0, 0⟩, "slot"))]).byObject = [(2, ⟨1, 0⟩), (1, ⟨0, 0⟩)] := by
    decide
  rw [nodeOf?, htable] at hn
  by_cases h2 : o = 2
  · simp [h2]
  · by_cases h1 : o = 1
    · simp [h1]
    · have hb2 : (o == 2) = false := by simpa using h2
      have hb1 : (o == 1) = false := by simpa using h1
      simp [List.lookup_cons, hb2, hb1] at hn

end SceneGraph

end WidgetStage
