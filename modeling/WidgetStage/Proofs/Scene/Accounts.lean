import Mathlib.Algebra.Ring.Nat
import WidgetStage.Proofs.Scene.History
import WidgetStage.Proofs.Scene.Renaming

/-!
# The accounts of a scene graph

A node leaves a graph in one of three ways: with the report about its object, with the last of the
children that it waited for, or when everything is dropped. The first two add to the number of
reclaimed nodes, the third one is answered by the command itself. Reports can come late, again, or
about objects that were never tracked; all the same no node is counted twice and none is forgotten.

## Main results

* `FreeListed.balance_apply`, `WellFormed.balance_run`: what is attached is stored, has been
  reclaimed, or has been dropped, after one command and after all.
* `FreeListed.length_slots`: every slot holds a record or is free.
* `WellFormed.registry_perm`, `WellFormed.tracked_perm`: the registry and the tracked objects stand
  for the alive nodes, each of them once.
* `every_node_accounted`: the counts of a graph after every run.
-/

namespace WidgetStage.SceneGraph

/-- What clearing answers; no other command drops nodes. -/
def discard? (g : SceneGraph) : SceneCommand → Option Nat
  | .attach _ _ _ => none
  | .destroy _ => none
  | .clear => some g.discard.1

/-- What those among the commands that clear the graph answer, in order. -/
def discards : SceneGraph → List SceneCommand → List Nat
  | _, [] => []
  | g, cmd :: later => (g.discard? cmd).toList ++ (g.apply cmd).discards later

/-- The objects that have a node, the one that was attached last first. -/
def tracked (g : SceneGraph) : List ObjectId :=
  g.byObject.map Prod.fst

/-- The nodes that are alive, in the order of their slots. -/
def aliveNodes (g : SceneGraph) : List NodeId :=
  (g.stored.filter fun e => e.2.lifecycle == .alive).map Prod.fst

variable {g g' : SceneGraph} {n : NodeId} {o : ObjectId} {id : Option String}
  {parent : Option (NodeId × String)}

/-! ### Coming and going -/

/-- A new node is one more. -/
theorem FreeListed.liveCount_attach (hg : g.FreeListed)
    (h : g.attach o id parent = .ok (n, g')) : g'.liveCount = g.liveCount + 1 := by
  obtain ⟨-, -, rfl, reg, -, rfl⟩ := attach_ok_cases h
  have hstore := hg.liveCount_store (.fresh o id (parent.map Prod.fst))
  rcases parent with _ | ⟨p, slot⟩
  · exact hstore
  · rw [listing, liveCount_modifyRecord]
    exact hstore

/-- Every command accounts for the nodes that it takes away. -/
theorem FreeListed.balance_apply (hg : g.FreeListed) (cmd : SceneCommand) :
    (g.apply cmd).reclaimedTotal + (g.apply cmd).liveCount + (g.discard? cmd).toList.sum =
      g.reclaimedTotal + g.liveCount + (g.attachment? cmd).toList.length := by
  cases cmd with
  | attach object id parent =>
      rcases h : g.attach object id parent with e | ⟨n, g'⟩
      · simp [SceneGraph.apply, attachment?, discard?, h]
      · have hlive := hg.liveCount_attach h
        have htotal := reclaimedTotal_attach h
        simp only [SceneGraph.apply, attachment?, discard?, h, Option.toList_none,
          Option.toList_some, List.sum_nil, List.length_singleton]
        omega
  | destroy object => exact reclaimed_add_liveCount_destroyAll [object]
  | clear =>
      have htotal : g.clear.reclaimedTotal = g.reclaimedTotal := rfl
      simp only [SceneGraph.apply, attachment?, discard?, discard, liveCount_clear, htotal,
        Option.toList_none, Option.toList_some, List.sum_singleton, List.length_nil]
      omega

/-- So does a list of commands. -/
theorem WellFormed.balance_run (hg : g.WellFormed) (cmds : List SceneCommand) :
    (g.run cmds).reclaimedTotal + (g.run cmds).liveCount + (g.discards cmds).sum =
      g.reclaimedTotal + g.liveCount + (g.attachments cmds).length := by
  induction cmds generalizing g with
  | nil => rfl
  | cons cmd cmds ih =>
      have hfirst := hg.toFreeListed.balance_apply cmd
      have hrest := ih (hg.apply cmd)
      have hrun : g.run (cmd :: cmds) = (g.apply cmd).run cmds := rfl
      rw [hrun, discards, attachments, List.sum_append, List.length_append]
      omega

/-! ### Slots -/

/-- The slots without a record, in order. -/
def vacancies (g : SceneGraph) : List Nat :=
  (g.slots.zipIdx.filter fun s => s.1.record.isNone).map Prod.snd

/-- No vacancy is listed twice. -/
theorem nodup_vacancies : g.vacancies.Nodup :=
  (List.nodup_zipIdx_map_snd g.slots).sublist (List.filter_sublist.map _)

/-- A vacancy is a slot that exists and holds no record. -/
theorem mem_vacancies_iff {i : Nat} : i ∈ g.vacancies ↔ ∃ γ, g.slots[i]? = some ⟨γ, none⟩ := by
  simp only [vacancies, List.mem_map, List.mem_filter, Prod.exists, exists_eq_right,
    List.mem_zipIdx_iff_getElem?, Option.isNone_iff_eq_none]
  constructor
  · rintro ⟨⟨γ, record⟩, hslot, rfl⟩
    exact ⟨γ, hslot⟩
  · rintro ⟨γ, hslot⟩
    exact ⟨⟨γ, none⟩, hslot, rfl⟩

/-- A slot holds one record or none. -/
theorem liveCount_add_length_vacancies : g.liveCount + g.vacancies.length = g.slots.length := by
  have hlive : g.liveCount = g.slots.countP fun slot => slot.record.isSome := by
    rw [liveCount, records, List.length_filterMap_eq_countP]
  have hvacant : g.vacancies.length = g.slots.countP fun slot => slot.record.isNone := by
    rw [vacancies, List.length_map, ← List.countP_eq_length_filter]
    conv_rhs => rw [← List.zipIdx_map_fst 0 g.slots, List.countP_map]
    rfl
  have hempty : (fun slot : Slot => slot.record.isNone) =
      fun slot => decide (¬ slot.record.isSome = true) := by
    funext slot
    cases slot.record <;> rfl
  rw [hlive, hvacant, hempty, ← List.length_eq_countP_add_countP]

/-- Every slot holds a record or is free. -/
theorem FreeListed.length_slots (hg : g.FreeListed) :
    g.slots.length = g.liveCount + g.freeList.length := by
  have hperm : g.freeList.Perm g.vacancies := by
    rw [List.perm_ext_iff_of_nodup hg.free_nodup nodup_vacancies]
    intro i
    rw [hg.mem_free_iff, mem_vacancies_iff]
  rw [hperm.length_eq, liveCount_add_length_vacancies]

/-! ### Alive nodes -/

/-- No alive node is listed twice. -/
theorem nodup_aliveNodes : g.aliveNodes.Nodup :=
  nodup_stored.sublist (List.filter_sublist.map _)

/-- The list of alive nodes is complete and lists nothing else. -/
theorem mem_aliveNodes_iff : n ∈ g.aliveNodes ↔ g.lifecycle n = .alive := by
  simp only [aliveNodes, List.mem_map, List.mem_filter, Prod.exists, exists_and_right,
    exists_eq_right, mem_stored_iff, lifecycle_eq_alive_iff, beq_iff_eq]

/-- There are as many alive nodes as the statistics say. -/
theorem length_aliveNodes : g.aliveNodes.length = g.stats.alive := by
  have halive : g.stats.alive = g.records.countP fun r => r.lifecycle == .alive := rfl
  rw [aliveNodes, List.length_map, ← List.countP_eq_length_filter, halive, ← map_snd_stored,
    List.countP_map]
  rfl

/-- Every stored node is alive or pending. -/
theorem WellFormed.liveCount_eq (hg : g.WellFormed) :
    g.liveCount = g.stats.alive + g.stats.pending := by
  rw [liveCount, List.length_eq_countP_add_countP (fun r : SceneNode => r.lifecycle == .alive)]
  congr 1
  refine List.countP_congr fun r hr => ?_
  obtain ⟨n, hn⟩ := mem_records_iff.1 hr
  rcases hg.alive_or_pending hn with hl | hl <;> simp [hl]

/-- The registry lists every alive node once. -/
theorem WellFormed.registry_perm (hg : g.WellFormed) :
    (g.registry.entries.map Prod.fst).Perm g.aliveNodes := by
  rw [List.perm_ext_iff_of_nodup hg.registered_once nodup_aliveNodes]
  intro n
  simp only [List.mem_map, Prod.exists, exists_and_right, exists_eq_right, mem_aliveNodes_iff,
    hg.mem_registry_iff]
  exact ⟨fun ⟨_, hl, _⟩ => hl, fun hl => ⟨_, hl, rfl⟩⟩

/-! ### Tracked objects -/

/-- The tracked objects are those with an entry in the table. -/
theorem mem_tracked_iff : o ∈ g.tracked ↔ (g.nodeOf? o).isSome := by
  rw [← not_iff_not, Option.not_isSome_iff_eq_none, nodeOf?, List.lookup_eq_none_iff, tracked]
  simp only [List.mem_map, not_exists, not_and, bne_iff_ne, ne_eq]
  exact ⟨fun h e he ho => h e he ho.symm, fun h e he ho => h e he ho.symm⟩

/-- No command makes an object stand in the table twice. -/
theorem nodup_tracked_apply (h : g.tracked.Nodup) (cmd : SceneCommand) :
    (g.apply cmd).tracked.Nodup := by
  cases cmd with
  | attach object id parent =>
      rcases hattach : g.attach object id parent with e | ⟨n, g'⟩
      · simpa only [SceneGraph.apply, hattach] using h
      · obtain ⟨huntracked, -, -, reg, -, rfl⟩ := attach_ok_cases hattach
        have hnew : object ∉ g.tracked := by
          rw [mem_tracked_iff, huntracked]
          decide
        simp only [SceneGraph.apply, hattach]
        rcases parent with _ | ⟨p, slot⟩ <;> exact List.nodup_cons.2 ⟨hnew, h⟩
  | destroy object =>
      rcases hnode : g.nodeOf? object with _ | n
      · rw [SceneGraph.apply, destroy_of_untracked hnode]
        exact h
      · rw [SceneGraph.apply, tracked, (destroy_tables hnode).2]
        exact h.sublist (List.filter_sublist.map _)
  | clear => exact List.nodup_nil

/-- Nor does a list of commands. -/
theorem nodup_tracked_run (h : g.tracked.Nodup) (cmds : List SceneCommand) :
    (g.run cmds).tracked.Nodup := by
  induction cmds generalizing g with
  | nil => exact h
  | cons cmd cmds ih => exact ih (nodup_tracked_apply h cmd)

/-- The tracked objects stand for the alive nodes, each for one of its own. -/
theorem WellFormed.tracked_perm (hg : g.WellFormed) (h : g.tracked.Nodup) :
    (g.tracked.map g.nodeOf?).Perm (g.aliveNodes.map some) := by
  have hnodes : (g.tracked.map g.nodeOf?).Nodup := by
    refine h.map_on fun o ho x _ hox => ?_
    obtain ⟨n, hn⟩ := Option.isSome_iff_exists.1 (mem_tracked_iff.1 ho)
    exact hg.nodeOf?_inj hn (hox ▸ hn)
  have halive : (g.aliveNodes.map some).Nodup := nodup_aliveNodes.map (Option.some_injective _)
  rw [List.perm_ext_iff_of_nodup hnodes halive]
  intro node?
  simp only [List.mem_map, mem_tracked_iff, mem_aliveNodes_iff, hg.alive_iff]
  constructor
  · rintro ⟨o, ho, rfl⟩
    obtain ⟨n, hn⟩ := Option.isSome_iff_exists.1 ho
    exact ⟨n, ⟨o, hn⟩, hn.symm⟩
  · rintro ⟨n, ⟨o, hn⟩, rfl⟩
    exact ⟨o, by rw [hn]; rfl, hn⟩

/-- After every run, each node that was ever attached has been reclaimed, is stored, or has been
answered as dropped. What is stored is alive or pending; the registry has as many entries, and the
table as many objects, as there are alive nodes; and every slot holds a record or is free. -/
theorem every_node_accounted (cmds : List SceneCommand) :
    let g := empty.run cmds
    (empty.attachments cmds).length =
        g.reclaimedTotal + g.liveCount + (empty.discards cmds).sum ∧
      g.liveCount = g.stats.alive + g.stats.pending ∧
      g.stats.alive = g.registry.size ∧
      g.stats.alive = g.tracked.length ∧ g.tracked.Nodup ∧
      (∀ o, o ∈ g.tracked ↔ (g.nodeOf? o).isSome) ∧
      g.slots.length = g.liveCount + g.freeList.length := by
  intro g
  have hg : g.WellFormed := reachable_wellFormed cmds
  have hempty : empty.tracked.Nodup := List.nodup_nil
  have hnodup : g.tracked.Nodup := nodup_tracked_run hempty cmds
  have hbalance := wellFormed_empty.balance_run cmds
  have hregistered := hg.registry_perm.length_eq
  have htracked := (hg.tracked_perm hnodup).length_eq
  rw [List.length_map, length_aliveNodes] at hregistered
  rw [List.length_map, List.length_map, length_aliveNodes] at htracked
  have hstart : empty.reclaimedTotal + empty.liveCount = 0 := rfl
  rw [hstart, Nat.zero_add] at hbalance
  exact ⟨hbalance.symm, hg.liveCount_eq, hregistered.symm, htracked.symm, hnodup,
    fun _ => mem_tracked_iff, hg.toFreeListed.length_slots⟩

/-- Reports that come twice count once, also while a node waits for its child. -/
example :
    let g := empty.run [.attach 1 none none, .attach 2 (some "a") (some (⟨0, 0⟩, "s")), .destroy 1,
      .destroy 1]
    (g.reclaimedTotal, g.liveCount) = (0, 2) ∧ (g.destroyAll [2, 2]).reclaimedTotal = 2 := by
  decide

end WidgetStage.SceneGraph
