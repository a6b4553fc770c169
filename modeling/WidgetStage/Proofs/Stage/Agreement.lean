import WidgetStage.Proofs.Stage.Trees

/-!
# Scene graphs and the toolkit

The toolkit and the scene graphs are changed by different hands. What a scene graph may still
track besides the live layouts of its handle are layouts that are gone, but of which it has not
heard yet: the late ones. Up to these, graph and toolkit agree: the graph tracks the layouts, and
lists one as a child where the toolkit holds it.

## Main results

* `Mirrors`: a scene graph agrees with the toolkit, up to late layouts.
* `Mirrors.congr`, `Mirrors.shrunk`, `Mirrors.nest`: what keeps this for one scene graph.
* `Agrees.load`, `Agrees.unload`, `Agrees.clear`, `Agrees.nest`, `Agrees.move`: every move of a
  stage keeps it for all of them.
* `Agrees.report`, `Agrees.delete`: so do reports and deletions, which change what is late.
* `Mirrors.settled`: where nothing is late no node is pending, and there are as many nodes as
  layouts.
-/

namespace WidgetStage

open Toolkit (Shrunk Placed Allocated Alike)

/-- The scene graph `g` tracks the layouts and the late objects, and lists a layout among the
children of a node exactly where the object of the node holds it. -/
structure Mirrors (t : Toolkit) (layouts late : ObjectId → Prop) (g : SceneGraph) : Prop where
  tracked : ∀ o, (∃ n, g.nodeOf? o = some n) ↔ layouts o ∨ late o
  nested : ∀ c n, layouts c → g.nodeOf? c = some n → ∀ m part,
    ⟨n, part⟩ ∈ g.children m ↔ ∃ p, g.nodeOf? p = some m ∧ t.swallowed? p part = some c

namespace Mirrors

variable {t t' : Toolkit} {layouts layouts' late late' gone : ObjectId → Prop}
  {g g' : SceneGraph}

/-- A graph with the same tracked objects and children goes on to agree with a toolkit that holds
the same layouts in the same places. -/
theorem congr (h : Mirrors t layouts late g) (hlayouts : ∀ o, layouts' o ↔ layouts o)
    (hheld : ∀ p part c, layouts c →
      (t'.swallowed? p part = some c ↔ t.swallowed? p part = some c))
    (hnode : ∀ o, g'.nodeOf? o = g.nodeOf? o) (hchildren : ∀ n, g'.children n = g.children n) :
    Mirrors t' layouts' late g' where
  tracked o := by rw [hnode, hlayouts, h.tracked]
  nested c n hc hn m part := by
    rw [hlayouts] at hc
    rw [hnode] at hn
    rw [hchildren, h.nested c n hc hn]
    simp only [hnode, hheld _ _ c hc]

/-- Some objects are gone, and some are reported. Whichever layouts are gone are late until they
are reported. -/
theorem shrunk (h : Mirrors t layouts late g) (hg : g.WellFormed) (ds : List ObjectId)
    (toolkit : Shrunk gone t t') (hlayouts : ∀ o, layouts' o ↔ layouts o ∧ ¬ gone o)
    (hlate : ∀ o, late' o ↔ (late o ∨ (layouts o ∧ gone o)) ∧ o ∉ ds)
    (hds : ∀ o, layouts o → o ∈ ds → gone o)
    (hheld : ∀ p part c, t.swallowed? p part = some c → ¬ gone c → p ∉ ds) :
    Mirrors t' layouts' late' (g.destroyAll ds) where
  tracked o := by
    have hkept : (∃ n, (g.destroyAll ds).nodeOf? o = some n) ↔
        (layouts o ∨ late o) ∧ o ∉ ds := by
      rw [hg.nodeOf?_destroyAll, ← h.tracked]
      by_cases ho : o ∈ ds <;> simp [ho]
    rw [hkept, hlayouts, hlate]
    constructor
    · rintro ⟨ho | ho, hout⟩
      · by_cases hgone : gone o
        · exact Or.inr ⟨Or.inr ⟨ho, hgone⟩, hout⟩
        · exact Or.inl ⟨ho, hgone⟩
      · exact Or.inr ⟨Or.inl ho, hout⟩
    · rintro (⟨ho, hgone⟩ | ⟨ho | ⟨ho, -⟩, hout⟩)
      · exact ⟨Or.inl ho, fun hmem => hgone (hds o ho hmem)⟩
      · exact ⟨Or.inr ho, hout⟩
      · exact ⟨Or.inl ho, hout⟩
  nested c n hc hn m part := by
    obtain ⟨hc, hgone⟩ := (hlayouts c).1 hc
    have hout : c ∉ ds := fun hmem => hgone (hds c hc hmem)
    rw [hg.nodeOf?_destroyAll, if_neg hout] at hn
    have hnode : g.notified ds n = false := by
      rw [← Bool.not_eq_true, SceneGraph.notified_eq_true_iff]
      rintro ⟨o, ho, hno⟩
      exact hout (hg.nodeOf?_inj hn hno ▸ ho)
    rw [(hg.pruned_destroyAll ds).children, List.mem_filter, hnode, Bool.not_false,
      and_iff_left rfl, h.nested c n hc hn]
    refine exists_congr fun p => ?_
    rw [hg.nodeOf?_destroyAll, toolkit.swallowed?, and_iff_left hgone]
    refine and_congr_left fun hp => ?_
    rw [if_neg (hheld p part c hp hgone)]

/-- A new layout is tracked where the toolkit has put it. -/
theorem nest {p c : ObjectId} {n m : NodeId} {part : String} {id : Option String}
    {kind : ObjectKind} (h : Mirrors t layouts late g) (hg : g.WellFormed) (ht : t.Forest)
    (toolkit : Placed p part c kind t t') (attached : g.Attached c id (some (n, part)) m g')
    (hp : g.nodeOf? p = some n) (hlayouts : ∀ o, layouts' o ↔ layouts o ∨ o = c) :
    Mirrors t' layouts' late g' where
  tracked o := by
    rw [attached.nodeOf?, hlayouts]
    by_cases ho : o = c
    · simp [ho]
    · simp [ho, h.tracked]
  nested x k hx hk j s := by
    have hpc : p ≠ c := by
      rintro rfl
      rw [attached.untracked] at hp
      cases hp
    have hedge : ∀ e, e ∈ SceneGraph.edgesUnder (some (n, part)) m j ↔ n = j ∧ e = ⟨m, part⟩ := by
      intro e
      rw [SceneGraph.mem_edgesUnder]
      simp only [Option.some.injEq, Prod.mk.injEq]
      exact ⟨fun ⟨slot, ⟨hj, hslot⟩, he⟩ => ⟨hj, hslot ▸ he⟩, fun ⟨hj, he⟩ => ⟨part, ⟨hj, rfl⟩, he⟩⟩
    rw [attached.children, List.mem_append, hedge, ChildEdge.mk.injEq]
    by_cases hxc : x = c
    · subst hxc
      rw [attached.nodeOf?, if_pos rfl, Option.some.injEq] at hk
      subst hk
      have hold : (⟨m, s⟩ : ChildEdge) ∉ g.children j := fun he => attached.ne_of_edge hg he rfl
      rw [or_iff_right hold]
      constructor
      · rintro ⟨rfl, -, rfl⟩
        refine ⟨p, ?_, (toolkit.swallowed?_iff p s).2 (Or.inl ⟨rfl, rfl, rfl⟩)⟩
        rw [attached.nodeOf?, if_neg hpc, hp]
      · rintro ⟨q, hq, hheld⟩
        rcases (toolkit.swallowed?_iff q s).1 hheld with ⟨rfl, rfl, -⟩ | hheld
        · rw [attached.nodeOf?, if_neg hpc, hp, Option.some.injEq] at hq
          exact ⟨hq, rfl, rfl⟩
        · exact absurd (ht.content_live q s x hheld) (toolkit.not_live ht)
    · rw [attached.nodeOf?, if_neg hxc] at hk
      have hkm : k ≠ m := attached.ne_of_nodeOf? hg hk
      have hnew : ¬ (n = j ∧ k = m ∧ s = part) := fun hj => hkm hj.2.1
      rw [or_iff_left hnew, h.nested x k (((hlayouts x).1 hx).resolve_right hxc) hk]
      refine exists_congr fun q => ?_
      rw [toolkit.swallowed?_iff, or_iff_right fun hq => hxc hq.2.2]
      refine and_congr_left fun hq => ?_
      have hqc : q ≠ c := by
        rintro rfl
        exact toolkit.not_live ht (Toolkit.live_of_swallowed? hq)
      rw [attached.nodeOf?, if_neg hqc]

/-- A graph with a root only agrees with a toolkit that holds the root nowhere. -/
theorem root {c : ObjectId} {n : NodeId} (attached : SceneGraph.Attached .empty c none none n g)
    (hlayouts : ∀ o, layouts o ↔ o = c) (hlate : ∀ o, ¬ late o)
    (hunheld : ∀ p part, t.swallowed? p part ≠ some c) : Mirrors t layouts late g where
  tracked o := by
    have hold : SceneGraph.empty.nodeOf? o = none := rfl
    rw [attached.nodeOf?, hlayouts, or_iff_left (hlate o), hold]
    by_cases ho : o = c
    · simp [ho]
    · simp [ho]
  nested x k hx _ m part := by
    rw [hlayouts] at hx
    subst hx
    have hempty : g.children m = [] := by
      rw [attached.children]
      rfl
    rw [hempty]
    refine iff_of_false List.not_mem_nil ?_
    rintro ⟨p, -, hp⟩
    exact hunheld p part hp

/-- Where nothing is late no node is pending, and there are as many nodes as layouts. -/
theorem settled {l : List ObjectId} (h : Mirrors t layouts late g) (hg : g.WellFormed)
    (hlate : ∀ o, ¬ late o) (hl : ∀ o, o ∈ l ↔ layouts o) (hnodup : l.Nodup) :
    (∀ n, g.lifecycle n ≠ .pendingDelete) ∧ g.stats.pending = 0 ∧ g.liveCount = l.length := by
  have hnone : ∀ n, g.lifecycle n ≠ .pendingDelete := by
    intro n hn
    -- a child of a pending node would be held by the object of an alive one
    obtain ⟨-, hne⟩ := hg.pending_waits n hn
    obtain ⟨⟨k, part⟩, he⟩ := List.exists_mem_of_ne_nil _ hne
    have hpar := (hg.linked n k).1 ⟨_, he, rfl⟩
    obtain ⟨r, hr, hrl⟩ := SceneGraph.lifecycle_eq_alive_iff.1 (hg.parent_stored k n hpar).1
    have hnode := (hg.bound r.object k).2 ⟨r, hr, hrl, rfl⟩
    have hlayout := ((h.tracked r.object).1 ⟨k, hnode⟩).resolve_right (hlate _)
    obtain ⟨p, hp, -⟩ := (h.nested r.object k hlayout hnode n part).1 he
    obtain ⟨rp, hrp, hlp, -⟩ := (hg.bound p n).1 hp
    rw [SceneGraph.lifecycle_of_record hrp, hlp] at hn
    cases hn
  have halive : ∀ r ∈ g.records, r.lifecycle = .alive := by
    intro r hr
    obtain ⟨n, hn⟩ := SceneGraph.mem_records_iff.1 hr
    refine (hg.alive_or_pending hn).resolve_right fun hl => hnone n ?_
    rw [SceneGraph.lifecycle_of_record hn, hl]
  refine ⟨hnone, ?_, ?_⟩
  · change g.records.countP (fun r => r.lifecycle == .pendingDelete) = 0
    rw [List.countP_eq_zero]
    intro r hr
    simp [halive r hr]
  · have hobjects : (g.records.map SceneNode.object).Perm l := by
      refine (List.perm_ext_iff_of_nodup (hg.nodup_objects halive) hnodup).2 fun o => ?_
      rw [hl, List.mem_map]
      constructor
      · rintro ⟨r, hr, rfl⟩
        obtain ⟨n, hn⟩ := SceneGraph.mem_records_iff.1 hr
        have hnode := (hg.bound r.object n).2 ⟨r, hn, halive r hr, rfl⟩
        exact ((h.tracked _).1 ⟨n, hnode⟩).resolve_right (hlate _)
      · intro ho
        obtain ⟨n, hn⟩ := (h.tracked o).2 (Or.inl ho)
        obtain ⟨r, hr, -, hro⟩ := (hg.bound o n).1 hn
        exact ⟨r, SceneGraph.mem_records_iff.2 ⟨n, hr⟩, hro⟩
    rw [SceneGraph.liveCount, ← hobjects.length_eq, List.length_map]

end Mirrors

namespace Stage

variable {s s' : Stage} {late : Nat → ObjectId → Prop} {gone : ObjectId → Prop} {h k : Nat}
  {o : ObjectId}

/-- Every scene graph agrees with the toolkit, up to the late layouts of its handle. -/
structure Agrees (s : Stage) (late : Nat → ObjectId → Prop) : Prop where
  held_by_layout : ∀ p c, s.toolkit.Holds p c → s.toolkit.isLayout p = true
  mirrors : ∀ h g, s.graph? h = some g → Mirrors s.toolkit (s.LayoutOf h) (late h) g

/-- What is late was there, and is gone. -/
def Past (s : Stage) (late : Nat → ObjectId → Prop) : Prop :=
  ∀ h o, late h o → h < s.nextHandle ∧ o < s.toolkit.nextObject ∧ ¬ s.toolkit.Live o

namespace Agrees

/-- A live object that is tracked is a layout of the handle. -/
theorem layoutOf_of_tracked {g : SceneGraph} {n : NodeId} (ha : s.Agrees late)
    (hpast : s.Past late) (hg : s.graph? h = some g) (hn : g.nodeOf? o = some n)
    (ho : s.toolkit.Live o) : s.LayoutOf h o :=
  (((ha.mirrors h g hg).tracked o).1 ⟨n, hn⟩).resolve_right fun hl => (hpast h o hl).2.2 ho

/-- A container that stays goes on being a layout, since what it holds would be gone with it. -/
theorem held_by_layout_of_shrunk (ha : s.Agrees late)
    (toolkit : Shrunk gone s.toolkit s'.toolkit)
    (hclosed : ∀ p c, s.toolkit.Holds p c → gone p → gone c) (p c : ObjectId)
    (hc : s'.toolkit.Holds p c) : s'.toolkit.isLayout p = true := by
  obtain ⟨part, hc⟩ := hc
  obtain ⟨hc, hgone⟩ := (toolkit.swallowed? p part c).1 hc
  exact toolkit.isLayout_iff.2 ⟨ha.held_by_layout p c ⟨part, hc⟩,
    fun hp => hgone (hclosed p c ⟨part, hc⟩ hp)⟩

/-- A new object holds nothing, so that the containers are those from before. -/
theorem held_by_layout_of_allocated {c : ObjectId} {kind : ObjectKind} (hs : s.Owned)
    (ha : s.Agrees late) (toolkit : Allocated c kind s.toolkit s'.toolkit) (p x : ObjectId)
    (hx : s'.toolkit.Holds p x) : s'.toolkit.isLayout p = true := by
  obtain ⟨part, hx⟩ := hx
  rw [toolkit.swallowed?] at hx
  have hpc : p ≠ c := by
    rintro rfl
    exact toolkit.not_live hs.forest (Toolkit.live_of_swallowed? hx)
  rw [Toolkit.isLayout, toolkit.kind?, if_neg hpc]
  exact ha.held_by_layout p x ⟨part, hx⟩

/-- The one new container is the layout that the object was put into. -/
theorem held_by_layout_of_placed {p c : ObjectId} {part : String} {kind : ObjectKind}
    (hs : s.Owned) (ha : s.Agrees late) (toolkit : Placed p part c kind s.toolkit s'.toolkit)
    (hp : s.toolkit.isLayout p = true) (q x : ObjectId) (hx : s'.toolkit.Holds q x) :
    s'.toolkit.isLayout q = true := by
  have hold : ∀ y, s.toolkit.isLayout y = true → s'.toolkit.isLayout y = true := by
    intro y hy
    have hyc : y ≠ c := by
      rintro rfl
      exact toolkit.not_live hs.forest (Toolkit.live_of_isLayout hy)
    rwa [Toolkit.isLayout, toolkit.kind?, if_neg hyc]
  obtain ⟨part', hx⟩ := hx
  rcases (toolkit.swallowed?_iff q part').1 hx with ⟨rfl, -, -⟩ | hx
  · exact hold q hp
  · exact hold q (ha.held_by_layout q x ⟨part', hx⟩)

/-- The scene graph of a handle that is not concerned when objects are gone. -/
theorem mirrors_elsewhere {g : SceneGraph} (hs : s.Owned) (ha : s.Agrees late)
    (toolkit : Shrunk gone s.toolkit s'.toolkit)
    (hclosed : ∀ p c, s.toolkit.Holds p c → gone p → gone c)
    (hout : ∀ o, s.LayoutOf k o → ¬ gone o) (hg : s.graph? k = some g)
    (hg' : s'.graph? k = some g) : Mirrors s'.toolkit (s'.LayoutOf k) (late k) g := by
  refine (ha.mirrors k g hg).congr (fun o => ?_) (fun p part c hc => ?_) (fun _ => rfl)
    fun _ => rfl
  · rw [hs.layoutOf_shrunk_iff toolkit hclosed fun r _ _ => by simp only [RootOf, hg, hg']]
    exact and_iff_left_of_imp (hout o)
  · rw [toolkit.swallowed?]
    exact and_iff_left (hout c hc)

/-- The scene graph of a handle whose layouts are as before when an object is new. -/
theorem mirrors_beside {g : SceneGraph} {p c : ObjectId} {part : String} {kind : ObjectKind}
    (hs : s.Owned) (ha : s.Agrees late) (toolkit : Placed p part c kind s.toolkit s'.toolkit)
    (hlayouts : ∀ o, s'.LayoutOf k o ↔ s.LayoutOf k o) (hg : s.graph? k = some g) :
    Mirrors s'.toolkit (s'.LayoutOf k) (late k) g := by
  refine (ha.mirrors k g hg).congr hlayouts (fun q slot x hx => ?_) (fun _ => rfl) fun _ => rfl
  rw [toolkit.swallowed?_iff]
  refine or_iff_right fun hq => ?_
  exact Nat.ne_of_lt (hs.inTree_lt hx.1) (hq.2.2.trans toolkit.number)

/-- No object is concerned: whatever the scene graphs are now, they track the same objects. -/
theorem of_alike (hs : s.Owned) (ha : s.Agrees late)
    (toolkit : Shrunk (fun _ => False) s.toolkit s'.toolkit)
    (hroot : ∀ k r, s.toolkit.Live r → (s'.RootOf k r ↔ s.RootOf k r))
    (graphs : ∀ k g', s'.graph? k = some g' → ∃ g, s.graph? k = some g ∧
      (∀ o, g'.nodeOf? o = g.nodeOf? o) ∧ ∀ n, g'.children n = g.children n) :
    s'.Agrees late where
  held_by_layout := ha.held_by_layout_of_shrunk toolkit fun _ _ _ h => h
  mirrors k g' hk := by
    obtain ⟨g, hg, hnode, hchildren⟩ := graphs k g' hk
    refine (ha.mirrors k g hg).congr (fun o => ?_) (fun p part c _ => ?_) hnode hchildren
    · rw [hs.layoutOf_shrunk_iff toolkit (fun _ _ _ h => h) fun r hr _ => hroot k r hr]
      exact and_iff_left not_false
    · rw [toolkit.swallowed?]
      exact and_iff_left not_false

/-- A new handle agrees with the layout that is loaded for it, and the others as they did. -/
theorem load {c : ObjectId} {path group : String} {n : NodeId} {g : SceneGraph} (hs : s.Owned)
    (hpast : s.Past late) (ha : s.Agrees late)
    (toolkit : Allocated c (.layout path group) s.toolkit s'.toolkit)
    (attached : SceneGraph.Attached .empty c none none n g)
    (graphs : ∀ k, s'.graph? k = if k = s.nextHandle then some g else s.graph? k) :
    s'.Agrees late := by
  have hroot := fun k r => hs.rootOf_load_iff (k := k) (o := r) attached graphs
  refine ⟨ha.held_by_layout_of_allocated hs toolkit, fun k d hk => ?_⟩
  rw [graphs] at hk
  split at hk
  · next hks =>
    cases hk
    have hnone : ∀ r, ¬ s.RootOf k r := by
      rintro r ⟨d, hd, -⟩
      exact Nat.lt_irrefl k (hks ▸ hs.numbered k d hd)
    refine .root attached (fun o => ?_) (fun o hl => ?_) fun p part hp => ?_
    · refine hs.layoutOf_root_iff toolkit fun r => ?_
      rw [hroot, or_iff_left (hnone r), and_iff_right hks]
    · exact Nat.ne_of_lt (hpast k o hl).1 hks
    · rw [toolkit.swallowed?] at hp
      exact toolkit.not_live hs.forest (hs.forest.content_live p part c hp)
  · next hks =>
    refine (ha.mirrors k d hk).congr (fun o => ?_) (fun p part x _ => ?_) (fun _ => rfl)
      fun _ => rfl
    · refine hs.layoutOf_allocated_iff toolkit fun r => ?_
      rw [hroot]
      exact or_iff_right fun hr => hks hr.1
    · rw [toolkit.swallowed?]

/-- What is gone with the root of a handle belongs to no other handle. -/
theorem unload {g : SceneGraph} (hs : s.Owned) (ha : s.Agrees late) (loaded : s.graph? h = some g)
    (toolkit : Shrunk (fun x => ∃ o, g.IsRoot o ∧ s.toolkit.Below o x) s.toolkit s'.toolkit)
    (graphs : ∀ k, s'.graph? k = if k = h then none else s.graph? k) : s'.Agrees late := by
  have hclosed : ∀ p c, s.toolkit.Holds p c → (∃ o, g.IsRoot o ∧ s.toolkit.Below o p) →
      ∃ o, g.IsRoot o ∧ s.toolkit.Below o c := by
    rintro p c hc ⟨o, ho, hb⟩
    exact ⟨o, ho, hb.tail hc⟩
  refine ⟨ha.held_by_layout_of_shrunk toolkit hclosed, fun k d hk => ?_⟩
  have hdk := hk
  rw [graphs] at hk
  split at hk
  · cases hk
  · next hkh =>
    refine ha.mirrors_elsewhere hs toolkit hclosed (fun o ho => ?_) hk hdk
    rintro ⟨r, hr, hb⟩
    exact hkh (hs.handle_unique ho.1 ⟨r, ⟨g, loaded, hr⟩, hb⟩)

/-- What is deleted with the content of a part is reported to the handle that it belongs to. -/
theorem clear {g : SceneGraph} {p c : ObjectId} {n : NodeId} {part : String} {ds : List ObjectId}
    (hs : s.Owned) (hpast : s.Past late) (ha : s.Agrees late) (loaded : s.graph? h = some g)
    (tracked : g.nodeOf? p = some n) (held : s.toolkit.swallowed? p part = some c)
    (destroyed : ∀ x, x ∈ ds ↔ s.toolkit.Below c x)
    (toolkit : Shrunk (s.toolkit.Below c) s.toolkit s'.toolkit)
    (graphs : ∀ k, s'.graph? k = if k = h then some (g.destroyAll ds) else s.graph? k) :
    s'.Agrees late := by
  have hclosed : ∀ q x, s.toolkit.Holds q x → s.toolkit.Below c q → s.toolkit.Below c x :=
    fun q x hx hb => hb.tail hx
  have hp := ha.layoutOf_of_tracked hpast loaded tracked (Toolkit.live_of_swallowed? held)
  refine ⟨ha.held_by_layout_of_shrunk toolkit hclosed, fun k d hk => ?_⟩
  have hdk := hk
  rw [graphs] at hk
  split at hk
  · next hkh =>
    subst hkh
    cases hk
    have hg := hs.wellFormed k g loaded
    have hlive : ∀ x, s.toolkit.Below c x → s.toolkit.Live x := fun x hb =>
      hs.forest.live_of_below (hs.forest.content_live p part c held) hb
    refine (ha.mirrors k g loaded).shrunk hg ds toolkit (fun o => ?_) (fun o => ?_)
      (fun o _ hmem => (destroyed o).1 hmem) fun q slot x hx hgone hmem => ?_
    · refine hs.layoutOf_shrunk_iff toolkit hclosed fun r _ hr => ?_
      refine rootOf_set_iff loaded graphs ?_
      rw [hg.isRoot_destroyAll_iff, destroyed]
      exact and_iff_left hr
    · rw [destroyed]
      refine ⟨fun hl => ⟨Or.inl hl, fun hb => (hpast k o hl).2.2 (hlive o hb)⟩, ?_⟩
      rintro ⟨hl | ⟨-, hb⟩, hout⟩
      · exact hl
      · exact absurd hb hout
    · exact hgone (hclosed q x ⟨slot, hx⟩ ((destroyed q).1 hmem))
  · next hkh =>
    refine ha.mirrors_elsewhere hs toolkit hclosed (fun o ho hb => ?_) hk hdk
    exact hkh (hs.handle_unique ho.1 (hp.1.below (.head ⟨part, held⟩ hb)))

/-- A layout that is put into a part is a new child for its own handle only. -/
theorem nest {g g' : SceneGraph} {p c : ObjectId} {n m : NodeId} {part path group id : String}
    (hs : s.Owned) (hpast : s.Past late) (ha : s.Agrees late) (loaded : s.graph? h = some g)
    (tracked : g.nodeOf? p = some n)
    (toolkit : Placed p part c (.layout path group) s.toolkit s'.toolkit)
    (attached : SceneGraph.Attached g c (some id) (some (n, part)) m g')
    (graphs : ∀ k, s'.graph? k = if k = h then some g' else s.graph? k) : s'.Agrees late := by
  have hg := hs.wellFormed h g loaded
  have hp := ha.layoutOf_of_tracked hpast loaded tracked toolkit.live
  have hlayouts : ∀ k o, s'.LayoutOf k o ↔ s.LayoutOf k o ∨ (o = c ∧ s.InTree k p) := by
    intro k o
    rw [hs.layoutOf_placed_iff toolkit fun r =>
      rootOf_set_iff loaded graphs (attached.isRoot_iff hg)]
    refine or_congr_right (and_congr_right fun _ => and_iff_right rfl)
  refine ⟨ha.held_by_layout_of_placed hs toolkit hp.2, fun k d hk => ?_⟩
  rw [graphs] at hk
  split at hk
  · next hkh =>
    subst hkh
    cases hk
    refine (ha.mirrors k g loaded).nest hg hs.forest toolkit attached tracked fun o => ?_
    rw [hlayouts, and_iff_left hp.1]
  · next hkh =>
    refine ha.mirrors_beside hs toolkit (fun o => ?_) hk
    rw [hlayouts]
    exact or_iff_left fun ho => hkh (hs.handle_unique ho.2 hp.1)

/-- Every move keeps the agreement. -/
theorem move (hs : s.Owned) (hpast : s.Past late) (ha : s.Agrees late) (hm : Move s s') :
    s'.Agrees late := by
  cases hm with
  | idle toolkit nextHandle graphs =>
      refine ha.of_alike hs toolkit (fun k r _ => by simp only [RootOf, graphs]) fun k g hk => ?_
      exact ⟨g, (graphs k).symm.trans hk, fun _ => rfl, fun _ => rfl⟩
  | load toolkit attached nextHandle graphs => exact ha.load hs hpast toolkit attached graphs
  | unload loaded toolkit nextHandle graphs => exact ha.unload hs loaded toolkit graphs
  | clear loaded tracked held destroyed toolkit nextHandle graphs =>
      exact ha.clear hs hpast loaded tracked held destroyed toolkit graphs
  | @display h g p c n part kind loaded tracked image toolkit nextHandle graphs =>
      have hp := ha.layoutOf_of_tracked hpast loaded tracked toolkit.live
      refine ⟨ha.held_by_layout_of_placed hs toolkit hp.2, fun k d hk => ?_⟩
      rw [graphs] at hk
      refine ha.mirrors_beside hs toolkit (fun o => ?_) hk
      rw [hs.layoutOf_placed_iff toolkit fun r => by simp only [RootOf, graphs], image]
      simp
  | nest loaded tracked toolkit attached nextHandle graphs =>
      exact ha.nest hs hpast loaded tracked toolkit attached graphs
  | @giveUp h g g' c m id parent ds loaded attached destroyed toolkit nextHandle graphs =>
      have hg := hs.wellFormed h g loaded
      refine ha.of_alike hs toolkit (fun k r _ => ?_) fun k d hk => ?_
      · exact rootOf_set_iff loaded graphs (attached.isRoot_takeBack_iff hg destroyed)
      · rw [graphs] at hk
        split at hk
        · next hkh =>
          cases hk
          exact ⟨g, hkh ▸ loaded, attached.takeBack hg destroyed⟩
        · exact ⟨d, hk, fun _ => rfl, fun _ => rfl⟩

/-- So does the report of an object that is gone, which is not late any more. -/
theorem report {late' : Nat → ObjectId → Prop} (hs : s.Owned) (ha : s.Agrees late)
    (hdead : ¬ s.toolkit.Live o) (hlate : ∀ k x, late' k x ↔ late k x ∧ (k = h → x ≠ o)) :
    (s.objectDestroyed h o).2.Agrees late' := by
  have htoolkit := (toolkit_objectDestroyed s h o).1
  have hshrunk : Shrunk (fun _ => False) s.toolkit (s.objectDestroyed h o).2.toolkit :=
    htoolkit ▸ Alike.rfl.shrunk
  have hlayouts : ∀ k g, s.graph? k = some g → ∀ x,
      (s.objectDestroyed h o).2.LayoutOf k x ↔ s.LayoutOf k x ∧ ¬ False := by
    intro k g hk x
    refine hs.layoutOf_shrunk_iff hshrunk (fun _ _ _ hf => hf) fun r hr _ => ?_
    simp only [RootOf, graph?_objectDestroyed]
    split
    · simp only [hk, Option.map_some, Option.some.injEq, exists_eq_left']
      refine (hs.wellFormed k g hk).isRoot_destroyAll_iff [o] |>.trans ?_
      refine and_iff_left_of_imp fun _ hmem => hdead ?_
      exact List.mem_singleton.1 hmem ▸ hr
    · exact Iff.rfl
  refine ⟨ha.held_by_layout_of_shrunk hshrunk fun _ _ _ hf => hf, fun k d hk => ?_⟩
  rw [graph?_objectDestroyed] at hk
  split at hk
  · next hkh =>
    obtain ⟨g, hg, rfl⟩ := Option.map_eq_some_iff.1 hk
    refine (ha.mirrors k g hg).shrunk (hs.wellFormed k g hg) [o] hshrunk (hlayouts k g hg)
      (fun x => ?_) (fun x hx hmem => ?_) fun p part c hc _ hmem => ?_
    · rw [hlate, and_false, or_false, List.mem_singleton]
      exact and_congr_right fun _ => forall_prop_of_true hkh
    · rw [List.mem_singleton] at hmem
      exact hdead (hmem ▸ Toolkit.live_of_isLayout hx.2)
    · rw [List.mem_singleton] at hmem
      exact hdead (hmem ▸ Toolkit.live_of_swallowed? hc)
  · next hkh =>
    refine (ha.mirrors k d hk).shrunk (hs.wellFormed k d hk) [] hshrunk (hlayouts k d hk)
      (fun x => ?_) (fun x _ hx => absurd hx List.not_mem_nil) fun _ _ _ _ _ => List.not_mem_nil
    rw [hlate, and_false, or_false, and_iff_left List.not_mem_nil]
    exact and_iff_left fun hk' => absurd hk' hkh

/-- So does the toolkit when it deletes an object by itself: its layouts at and below the object
are late. -/
theorem delete {late' : Nat → ObjectId → Prop} (hs : s.Owned) (ha : s.Agrees late)
    (hlate : ∀ k x, late' k x ↔ late k x ∨ (s.LayoutOf k x ∧ s.toolkit.Below o x)) :
    (s.withToolkit (s.toolkit.delete o).2).Agrees late' := by
  have hshrunk := Toolkit.shrunk_delete (o := o) hs.forest
  have hclosed : ∀ p c, s.toolkit.Holds p c → s.toolkit.Below o p → s.toolkit.Below o c :=
    fun p c hc hb => hb.tail hc
  refine ⟨ha.held_by_layout_of_shrunk hshrunk hclosed, fun k g hk => ?_⟩
  refine (ha.mirrors k g hk).shrunk (hs.wellFormed k g hk) [] hshrunk (fun x => ?_) (fun x => ?_)
    (fun x _ hx => absurd hx List.not_mem_nil) fun _ _ _ _ _ => List.not_mem_nil
  · exact hs.layoutOf_shrunk_iff hshrunk hclosed fun _ _ _ => Iff.rfl
  · rw [and_iff_left List.not_mem_nil]
    exact hlate k x

end Agrees

end Stage

end WidgetStage
