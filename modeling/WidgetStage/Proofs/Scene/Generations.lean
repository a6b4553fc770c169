import WidgetStage.Proofs.Scene.History

/-!
# Generations of a slot

A slot that loses its record goes on with the next generation, whether the record was reclaimed or
dropped with all others. So the generation of a slot counts, modulo the size of a word, how often
the slot has been freed, and the name of a new node can be read off the history of its slot. A
name that has been given up comes back only when the count has gone all the way around.

## Main results

* `Aged`, `Filled`: what happens to generations; destroying and clearing age slots (`aged_destroy`,
  `aged_clear`), attaching fills one (`filled_attach`).
* `generationAt_run`: after every run, the generation of a slot has gone on as often as the slot
  was freed.
* `WellFormed.timesFreed_of_reissue`: when the name of a stored node can be issued again.
* `gone_of_timesFreed`: when it is certain that a node is gone.
* `generations_count_frees`: names of new nodes, when they come back, and what stale ones answer.
-/

namespace WidgetStage.SceneGraph

/-- Whether a slot holds a record. -/
def occupied (g : SceneGraph) (i : Nat) : Bool :=
  ((g.slots[i]?).bind Slot.record).isSome

/-- The generation of a slot, which is 0 for those that are still to come. -/
def generationAt (g : SceneGraph) (i : Nat) : UInt32 :=
  ((g.slots[i]?).map Slot.generation).getD 0

/-- Whether a slot holds a record in the first graph and none in the second. -/
def freed (i : Nat) (g g' : SceneGraph) : Bool :=
  g.occupied i && !g'.occupied i

/-- How often commands free a slot. No command frees a slot twice, or fills it again. -/
def timesFreed (i : Nat) : SceneGraph → List SceneCommand → Nat
  | _, [] => 0
  | g, cmd :: later => (freed i g (g.apply cmd)).toNat + (g.apply cmd).timesFreed i later

variable {g g' g'' : SceneGraph} {n m : NodeId} {o : ObjectId} {id : Option String}
  {parent : Option (NodeId × String)} {a : Attachment} {cmd : SceneCommand}
  {cmds later : List SceneCommand} {i : Nat}

/-! ### Records and slots -/

/-- A node is stored if its slot is occupied under its generation. -/
theorem isSome_record?_iff :
    (g.record? n).isSome ↔ g.occupied n.index ∧ g.generationAt n.index = n.generation := by
  unfold record? occupied generationAt
  rcases g.slots[n.index]? with _ | ⟨γ, record⟩
  · simp
  · by_cases hγ : γ = n.generation <;> simp [hγ]

/-- The next node is named by the generation that its slot has. -/
theorem generationAt_nextNode : g.generationAt g.nextNode.index = g.nextNode.generation := by
  unfold generationAt nextNode
  rcases g.freeList with _ | ⟨i, rest⟩
  · simp
  · rfl

/-! ### Freeing slots -/

/-- Slots lose records and gain none, and those that lose one go on with the next generation. -/
structure Aged (g g' : SceneGraph) : Prop where
  occupied : ∀ i, g'.occupied i = true → g.occupied i = true
  generation : ∀ i, g'.generationAt i = g.generationAt i + .ofNat (freed i g g').toNat

/-- Where no slot loses its record or changes its generation, none is freed. -/
theorem aged_of_eq (hocc : ∀ i, g'.occupied i = g.occupied i)
    (hgen : ∀ i, g'.generationAt i = g.generationAt i) : Aged g g' where
  occupied i hi := hocc i ▸ hi
  generation i := by simp [hgen, freed, hocc]

/-- Where the slots stay, none is freed. -/
theorem aged_of_slots_eq (h : g'.slots = g.slots) : Aged g g' :=
  aged_of_eq (fun i => by rw [occupied, occupied, h])
    fun i => by rw [generationAt, generationAt, h]

/-- Nothing fills a slot on the way, so no slot is freed twice. -/
theorem Aged.trans (h : Aged g g') (h' : Aged g' g'') : Aged g g'' where
  occupied i hi := h.occupied i (h'.occupied i hi)
  generation i := by
    have hfirst := h.occupied i
    have hsecond := h'.occupied i
    have hfreed : (freed i g g').toNat + (freed i g' g'').toNat = (freed i g g'').toNat := by
      unfold freed
      revert hfirst hsecond
      cases g.occupied i <;> cases g'.occupied i <;> cases g''.occupied i <;> decide
    rw [h'.generation, h.generation, UInt32.add_assoc, ← UInt32.ofNat_add, hfreed]

/-- A change of a record does not empty its slot. -/
theorem occupied_modifyRecord (f : SceneNode → SceneNode) (i : Nat) :
    (g.modifyRecord n f).occupied i = g.occupied i := by
  unfold occupied modifyRecord
  rw [List.getElem?_modify]
  rcases g.slots[i]? with _ | slot
  · rfl
  · by_cases hi : n.index = i <;> by_cases hγ : slot.generation = n.generation <;> simp [hi, hγ]

/-- A change of a record leaves the generation of its slot. -/
theorem generationAt_modifyRecord (f : SceneNode → SceneNode) (i : Nat) :
    (g.modifyRecord n f).generationAt i = g.generationAt i := by
  unfold generationAt modifyRecord
  rw [List.getElem?_modify]
  rcases g.slots[i]? with _ | slot
  · rfl
  · by_cases hi : n.index = i <;> by_cases hγ : slot.generation = n.generation <;> simp [hi, hγ]

/-- Giving up a node frees its slot. -/
theorem aged_reclaim : Aged g (g.reclaim n) := by
  rcases hr : g.record? n with _ | r
  · exact aged_of_slots_eq (by simp only [reclaim, hr])
  · have hslot := record?_eq_some_iff.1 hr
    have hat : (g.reclaim n).slots[n.index]? = some ⟨n.generation + 1, none⟩ := by
      simp [reclaim, hr, hslot]
    have helse : ∀ i, n.index ≠ i → (g.reclaim n).slots[i]? = g.slots[i]? := by
      intro i hi
      simp [reclaim, hr, hi]
    refine ⟨fun i hi => ?_, fun i => ?_⟩
    · by_cases hn : n.index = i
      · simp [occupied, ← hn, hat] at hi
      · simpa only [occupied, helse i hn] using hi
    · by_cases hn : n.index = i
      · simp [freed, generationAt, occupied, ← hn, hat, hslot]
      · simp only [freed, generationAt, occupied, helse i hn, Bool.and_not_self]
        exact (UInt32.add_zero _).symm

/-- Reports about objects free slots. -/
theorem aged_destroy (o : ObjectId) : Aged g (g.destroy o) := by
  rcases h : g.nodeOf? o with _ | n
  · exact aged_of_slots_eq (by rw [destroy_of_untracked h])
  · refine destroy_induction h (aged_of_slots_eq rfl) (fun d k f hd => ?_) fun d k hd => ?_
    · exact hd.trans (aged_of_eq (occupied_modifyRecord f) (generationAt_modifyRecord f))
    · exact hd.trans aged_reclaim

/-- Any number of reports free slots, and fill none. -/
theorem aged_destroyAll (xs : List ObjectId) : Aged g (g.destroyAll xs) := by
  induction xs generalizing g with
  | nil => exact aged_of_slots_eq rfl
  | cons x xs ih => exact (aged_destroy x).trans ih

/-- Dropping everything frees every slot that holds a record. -/
theorem aged_clear : Aged g g.clear := by
  refine ⟨fun i hi => ?_, fun i => ?_⟩
  · simp only [occupied, clear, List.getElem?_map] at hi
    rcases hs : g.slots[i]? with _ | ⟨γ, _ | r⟩ <;> simp [hs] at hi
  · simp only [freed, generationAt, occupied, clear, List.getElem?_map]
    rcases g.slots[i]? with _ | ⟨γ, _ | r⟩ <;> simp

/-! ### Filling slots -/

/-- Slots gain records and lose none, and all go on with the generation they have. -/
structure Filled (g g' : SceneGraph) : Prop where
  occupied : ∀ i, g.occupied i = true → g'.occupied i = true
  generation : ∀ i, g'.generationAt i = g.generationAt i

/-- A new slot starts with the generation that it was expected to have. -/
theorem filled_append (r : SceneNode) (h : g'.slots = g.slots ++ [⟨0, some r⟩]) :
    Filled g g' := by
  refine ⟨fun i hi => ?_, fun i => ?_⟩
  · unfold occupied at hi ⊢
    rcases hs : g.slots[i]? with _ | slot
    · simp [hs] at hi
    · have hlen := (List.getElem?_eq_some_iff.1 hs).1
      rwa [h, List.getElem?_append_left hlen]
  · unfold generationAt
    rw [h, List.getElem?_append]
    split
    · rfl
    · next hlen =>
      rw [List.getElem?_eq_none (Nat.le_of_not_lt hlen)]
      rcases i - g.slots.length with _ | k <;> rfl

/-- A slot that is filled keeps its generation. -/
theorem filled_modify (r : SceneNode) (k : Nat)
    (h : g'.slots = g.slots.modify k fun slot => { slot with record := some r }) :
    Filled g g' := by
  refine ⟨fun i hi => ?_, fun i => ?_⟩
  · unfold occupied at hi ⊢
    rw [h, List.getElem?_modify]
    rcases hs : g.slots[i]? with _ | slot
    · simp [hs] at hi
    · by_cases hk : k = i
      · simp [hk]
      · simpa [hk, hs] using hi
  · unfold generationAt
    rw [h, List.getElem?_modify]
    rcases g.slots[i]? with _ | slot
    · rfl
    · by_cases hk : k = i <;> simp [hk]

/-- A stored record fills a slot. -/
theorem filled_store (r : SceneNode) : Filled g (g.store n r) := by
  rcases hl : g.freeList with _ | ⟨k, rest⟩
  · exact filled_append r (by simp only [store, hl])
  · exact filled_modify r n.index (by simp only [store, hl])

/-- An attached node fills a slot. -/
theorem filled_attach (h : g.attach o id parent = .ok (n, g')) : Filled g g' := by
  obtain ⟨-, -, rfl, reg, -, rfl⟩ := attach_ok_cases h
  have hstore := filled_store (g := g) (n := g.nextNode) (.fresh o id (parent.map Prod.fst))
  have htracking : Filled g (g.tracking o (.fresh o id (parent.map Prod.fst)) reg) :=
    ⟨hstore.occupied, hstore.generation⟩
  rcases parent with _ | ⟨p, slot⟩
  · exact htracking
  · refine ⟨fun i hi => ?_, fun i => ?_⟩
    · rw [listing, occupied_modifyRecord]
      exact htracking.occupied i hi
    · rw [listing, generationAt_modifyRecord]
      exact htracking.generation i

/-! ### Runs -/

/-- A command frees a slot once or not at all, and its generation goes on accordingly. -/
theorem generationAt_apply (cmd : SceneCommand) (i : Nat) :
    (g.apply cmd).generationAt i =
      g.generationAt i + .ofNat (freed i g (g.apply cmd)).toNat := by
  cases cmd with
  | attach object id parent =>
      rcases h : g.attach object id parent with e | ⟨n, g'⟩
      · simp [SceneGraph.apply, h, freed]
      · have hfilled := filled_attach h
        have hfreed : freed i g g' = false := by
          unfold freed
          cases hi : g.occupied i
          · rfl
          · rw [hfilled.occupied i hi]
            rfl
        simp [SceneGraph.apply, h, hfreed, hfilled.generation]
  | destroy object => exact (aged_destroy object).generation i
  | clear => exact aged_clear.generation i

/-- After every run, the generation of a slot has gone on as often as the slot was freed. -/
theorem generationAt_run (cmds : List SceneCommand) (i : Nat) :
    (g.run cmds).generationAt i = g.generationAt i + .ofNat (g.timesFreed i cmds) := by
  induction cmds generalizing g with
  | nil => exact (UInt32.add_zero _).symm
  | cons cmd cmds ih =>
      have hrun : g.run (cmd :: cmds) = (g.apply cmd).run cmds := rfl
      rw [hrun, ih, generationAt_apply, UInt32.add_assoc, ← UInt32.ofNat_add]
      rfl

/-- A slot that is not freed stays occupied. -/
theorem occupied_run (h : g.timesFreed n.index cmds = 0) (hocc : g.occupied n.index = true) :
    (g.run cmds).occupied n.index = true := by
  induction cmds generalizing g with
  | nil => exact hocc
  | cons cmd cmds ih =>
      obtain ⟨hnow, hlater⟩ := Nat.add_eq_zero_iff.1 h
      refine ih hlater ?_
      simpa [freed, hocc] using hnow

/-- What is freed later counts on from what was freed before. -/
theorem timesFreed_append (i : Nat) (g : SceneGraph) (cmds later : List SceneCommand) :
    g.timesFreed i (cmds ++ later) = g.timesFreed i cmds + (g.run cmds).timesFreed i later := by
  induction cmds generalizing g with
  | nil => exact (Nat.zero_add _).symm
  | cons cmd cmds ih =>
      rw [List.cons_append, timesFreed, ih, timesFreed, Nat.add_assoc]
      rfl

/-! ### Names that are given up -/

/-- A slot comes back to a generation after a multiple of `2 ^ 32` generations. -/
theorem timesFreed_mod_of_generation (h : (g.run cmds).generationAt i = g.generationAt i) :
    g.timesFreed i cmds % UInt32.size = 0 := by
  rw [generationAt_run, UInt32.add_eq_left] at h
  have hzero := congrArg UInt32.toNat h
  rwa [UInt32.toNat_ofNat'] at hzero

/-- A stored node that is gone has had its slot freed. -/
theorem timesFreed_pos_of_gone (hn : (g.record? n).isSome) (hgone : (g.run cmds).record? n = none) :
    0 < g.timesFreed n.index cmds := by
  obtain ⟨hocc, hgen⟩ := isSome_record?_iff.1 hn
  refine Nat.pos_of_ne_zero fun hzero => ?_
  have hkept : (g.run cmds).generationAt n.index = n.generation := by
    rw [generationAt_run, hzero, hgen]
    exact UInt32.add_zero _
  have hsome := isSome_record?_iff.2 ⟨occupied_run hzero hocc, hkept⟩
  rw [hgone] at hsome
  cases hsome

/-- A stored node whose slot has been freed, but not often enough for its name to come back, is
gone. -/
theorem gone_of_timesFreed (hn : (g.record? n).isSome) (hpos : 0 < g.timesFreed n.index cmds)
    (hfew : g.timesFreed n.index cmds < UInt32.size) : (g.run cmds).record? n = none := by
  rw [← Option.not_isSome_iff_eq_none]
  intro hsome
  have hgen := (isSome_record?_iff.1 hsome).2.trans (isSome_record?_iff.1 hn).2.symm
  have hmod := timesFreed_mod_of_generation hgen
  rw [Nat.mod_eq_of_lt hfew] at hmod
  exact absurd hmod (Nat.ne_of_gt hpos)

/-- A new node is stored. -/
theorem isSome_record?_of_attach (hg : g.FreeListed) (h : g.attach o id parent = .ok (n, g')) :
    (g'.record? n).isSome := by
  rw [(attached_of_attach hg h).record?, if_pos rfl]
  rfl

/-- A new node has the generation that its slot had. -/
theorem generation_of_attach (h : g.attach o id parent = .ok (n, g')) :
    g.generationAt n.index = n.generation := by
  obtain ⟨-, -, rfl, -⟩ := attach_ok_cases h
  exact generationAt_nextNode

/-- A new node in a slot that has just been freed has not the name of the node that was stored
there. -/
theorem Aged.record?_of_attach (haged : Aged g g') (hg : g'.FreeListed)
    (h : g'.attach o id parent = .ok (n, g'')) : g.record? n = none := by
  have hgen' := generation_of_attach h
  have hfree : ¬ (g'.record? n).isSome := by simp [(attached_of_attach hg h).unstored]
  rw [← Option.not_isSome_iff_eq_none]
  intro hstored
  obtain ⟨hocc, hgen⟩ := isSome_record?_iff.1 hstored
  have hempty : g'.occupied n.index = false := by
    simpa [isSome_record?_iff, hgen'] using hfree
  have hnext := haged.generation n.index
  rw [freed, hocc, hempty, hgen', hgen] at hnext
  exact absurd (UInt32.add_eq_left.1 hnext.symm) (by decide)

/-- The name of a stored node is given to a new one only after its slot has been freed a positive
multiple of `2 ^ 32` times. -/
theorem WellFormed.timesFreed_of_reissue (hg : g.WellFormed) (hn : (g.record? n).isSome)
    (h : (g.run cmds).attach o id parent = .ok (n, g')) :
    ∃ k > 0, g.timesFreed n.index cmds = k * UInt32.size := by
  have hnone := (attached_of_attach (hg.run cmds).toFreeListed h).unstored
  have hpos := timesFreed_pos_of_gone hn hnone
  have hgen := (generation_of_attach h).trans (isSome_record?_iff.1 hn).2.symm
  obtain ⟨k, hk⟩ := Nat.dvd_of_mod_eq_zero (timesFreed_mod_of_generation hgen)
  refine ⟨k, Nat.pos_of_ne_zero fun hzero => ?_, by rw [hk, Nat.mul_comm]⟩
  rw [hk, hzero] at hpos
  exact absurd hpos (by decide)

/-! ### Issued names -/

/-- What commands attach is attached by one of them, after others and before others. -/
theorem exists_attach_of_mem (h : a ∈ g.attachments cmds) :
    ∃ past between, ∃ g', cmds = past ++ .attach a.object a.id a.parent :: between ∧
      (g.run past).attach a.object a.id a.parent = .ok (a.node, g') ∧
      g.run cmds = g'.run between := by
  induction cmds generalizing g with
  | nil => cases h
  | cons cmd cmds ih =>
      rcases List.mem_append.1 h with hnow | hlater
      · obtain ⟨rfl, hattach⟩ := attachment?_eq_some (Option.mem_toList.1 hnow)
        exact ⟨[], cmds, _, rfl, hattach, rfl⟩
      · obtain ⟨past, between, g', rfl, hattach, hrun⟩ := ih hlater
        exact ⟨cmd :: past, between, g', rfl, hattach, hrun⟩

/-- The name of a stored node is not issued again while its slot is freed fewer than `2 ^ 32`
times. -/
theorem WellFormed.not_mem_attachments (hg : g.WellFormed) (hn : (g.record? n).isSome)
    (hfew : g.timesFreed n.index cmds < UInt32.size) :
    n ∉ (g.attachments cmds).map Attachment.node := by
  intro hmem
  obtain ⟨a, ha, rfl⟩ := List.mem_map.1 hmem
  obtain ⟨past, between, g', rfl, hattach, -⟩ := exists_attach_of_mem ha
  obtain ⟨k, hk, hfreed⟩ := hg.timesFreed_of_reissue hn hattach
  have hle := Nat.le_mul_of_pos_left UInt32.size hk
  rw [timesFreed_append, hfreed] at hfew
  omega

/-- While every slot is freed fewer than `2 ^ 32` times, all issued names differ. -/
theorem WellFormed.nodup_attachments (hg : g.WellFormed)
    (hfew : ∀ i, g.timesFreed i cmds < UInt32.size) :
    ((g.attachments cmds).map Attachment.node).Nodup := by
  induction cmds generalizing g with
  | nil => exact List.nodup_nil
  | cons cmd cmds ih =>
      have hlater : ∀ i, (g.apply cmd).timesFreed i cmds < UInt32.size := fun i =>
        Nat.lt_of_le_of_lt (Nat.le_add_left _ _) (hfew i)
      have hrest := ih (hg.apply cmd) hlater
      rcases hnew : g.attachment? cmd with _ | a
      · simpa [attachments, hnew] using hrest
      · obtain ⟨rfl, hattach⟩ := attachment?_eq_some hnew
        have hstored := isSome_record?_of_attach hg.toFreeListed hattach
        have hfresh := (hg.apply _).not_mem_attachments hstored (hlater a.node.index)
        rw [attachments, hnew]
        exact List.nodup_cons.2 ⟨hfresh, hrest⟩

/-! ### Stale names -/

/-- A node that is not stored has no object, no id, no parent and no children, and nothing can be
attached under it. -/
structure Stale (g : SceneGraph) (n : NodeId) : Prop where
  lifecycle : g.lifecycle n = .reclaimed
  object? : g.object? n = none
  id? : g.id? n = none
  parent? : g.parent? n = none
  children : g.children n = []
  refused : ∀ o id slot, g.attach o id (some (n, slot)) =
    .error (if (g.nodeOf? o).isSome then .duplicateObject o else .parentUnavailable n)

/-- All that is known about a node is in its record. -/
theorem stale_of_record?_none (h : g.record? n = none) : g.Stale n where
  lifecycle := by simp [SceneGraph.lifecycle, h]
  object? := by simp [SceneGraph.object?, h]
  id? := by simp [SceneGraph.id?, h]
  parent? := parent?_of_record_none h
  children := children_of_record_none h
  refused o id slot := by
    have halive : g.parentAlive (some (n, slot)) = .error (.parentUnavailable n) := by
      simp [parentAlive, SceneGraph.lifecycle, h]
    unfold attach
    split
    · rfl
    · rw [halive]

/-- In a well-formed graph no stored node counts as given up. -/
theorem record?_of_reclaimed (hg : g.WellFormed) (h : g.lifecycle n = .reclaimed) :
    g.record? n = none := by
  rcases hr : g.record? n with _ | r
  · rfl
  · have hlive := hg.not_reclaimed n r hr
    rw [lifecycle_of_record hr] at h
    exact absurd h hlive

/-- An issued name that has been given up is stale as long as its slot is freed fewer than
`2 ^ 32` times. -/
theorem stale_of_issued (hn : n ∈ (empty.attachments cmds).map Attachment.node)
    (hgone : (empty.run cmds).record? n = none)
    (hfew : empty.timesFreed n.index (cmds ++ later) < UInt32.size) :
    ((empty.run cmds).run later).Stale n := by
  obtain ⟨a, ha, rfl⟩ := List.mem_map.1 hn
  obtain ⟨past, between, g', rfl, hattach, hrun⟩ := exists_attach_of_mem ha
  have hstored := isSome_record?_of_attach (reachable_wellFormed past).toFreeListed hattach
  rw [hrun] at hgone ⊢
  have happ : (g'.run between).run later = g'.run (between ++ later) :=
    List.foldl_append.symm
  have happly : (empty.run past).apply (.attach a.object a.id a.parent) = g' := by
    rw [apply, hattach]
  have hfreed : g'.timesFreed a.node.index (between ++ later) < UInt32.size := by
    rw [List.append_assoc, timesFreed_append, List.cons_append, timesFreed, happly] at hfew
    omega
  have hpos : 0 < g'.timesFreed a.node.index (between ++ later) := by
    have hbetween := timesFreed_pos_of_gone hstored hgone
    rw [timesFreed_append]
    omega
  rw [happ]
  exact stale_of_record?_none (gone_of_timesFreed hstored hpos hfreed)

/-- The name of a new node is its slot with the number of times that the slot has been freed,
counted modulo `2 ^ 32`, and no stored node has that name. A name is issued again only after its
slot has been freed a positive multiple of `2 ^ 32` times. So as long as no slot is freed that
often, all issued names differ, and those that have been given up stay stale. -/
theorem generations_count_frees (cmds : List SceneCommand) :
    (∀ o id parent n g', (empty.run cmds).attach o id parent = .ok (n, g') →
      n.generation.toNat = empty.timesFreed n.index cmds % UInt32.size ∧
      (empty.run cmds).record? n = none ∧
      ∀ later o' id' parent' g'', (g'.run later).attach o' id' parent' = .ok (n, g'') →
        ∃ k > 0, g'.timesFreed n.index later = k * UInt32.size) ∧
    ((∀ i, empty.timesFreed i cmds < UInt32.size) →
      ((empty.attachments cmds).map Attachment.node).Nodup) ∧
    ∀ n ∈ (empty.attachments cmds).map Attachment.node,
      (empty.run cmds).lifecycle n = .reclaimed →
      ∀ later, empty.timesFreed n.index (cmds ++ later) < UInt32.size →
        ((empty.run cmds).run later).Stale n := by
  have hg := reachable_wellFormed cmds
  refine ⟨fun o id parent n g' h => ⟨?_, ?_, fun later o' id' parent' g'' h' => ?_⟩,
    wellFormed_empty.nodup_attachments, fun n hn hgone later hfew => ?_⟩
  · rw [← generation_of_attach h, generationAt_run]
    exact (congrArg UInt32.toNat (UInt32.zero_add _)).trans UInt32.toNat_ofNat'
  · exact (attached_of_attach hg.toFreeListed h).unstored
  · have hg' := (attached_of_attach hg.toFreeListed h).wellFormed hg
    exact hg'.timesFreed_of_reissue (isSome_record?_of_attach hg.toFreeListed h) h'
  · exact stale_of_issued hn (record?_of_reclaimed hg hgone) hfew

/-- A slot is used again under the next generation, after a report as after a clear. -/
example : (empty.attachments [.attach 1 none none, .destroy 1, .attach 2 none none, .clear,
    .attach 3 none none]).map Attachment.node = [⟨0, 0⟩, ⟨0, 1⟩, ⟨0, 2⟩] := by
  decide

end WidgetStage.SceneGraph
