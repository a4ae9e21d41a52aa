import MarkSweep.Proofs.Collector.Frame
import MarkSweep.Proofs.Marking.Reordering

/-!
Collections that go through roots, handles and hash containers in some other order. What they mark
and reclaim, what they count and what they answer is the same.
-/

namespace MarkSweep

theorem Registry.values_mapValues {α : Type} (g : Registry α) (f : α → α) :
    (g.mapValues f).values = g.values.map f := by
  simp [values, mapValues, List.filterMap_map, List.map_filterMap]

inductive Process.Reorders (p : Process) : Process → Prop where
  | intro {markers : Array Marker} :
    (∀ id, (p.marker id).Reorders (markers.getD id default)) → Reorders p { p with markers }

namespace Collector

/-- The same collector, but for the order in which its roots and its handles are listed. -/
inductive Rearranges (c : Collector) : Collector → Prop where
  | intro {keepAlive : Registry Ref} {weakRefs : Registry WeakEntry} {weakMaps : Registry NodeMap}
    {roots : Registry MarkerId} : c.keepAlive.values.Perm keepAlive.values →
    c.weakRefs.values.Perm weakRefs.values → c.weakMaps.values.Perm weakMaps.values →
    c.roots.values.Perm roots.values →
    Rearranges c { c with keepAlive, weakRefs, weakMaps, roots }

variable {c c' : Collector} {p p' : Process}

theorem Rearranges.roots (h : c.Rearranges c') : c.roots.values.Perm c'.roots.values := by
  obtain ⟨-, -, -, perm⟩ := h
  exact perm

theorem Rearranges.any_roots (h : c.Rearranges c') {f f' : MarkerId → Bool}
    (same : ∀ id, f id = f' id) : c.roots.values.any f = c'.roots.values.any f' := by
  rw [funext same, h.roots.any_eq]

theorem Rearranges.isBusy (h : c.Rearranges c') (hp : p.Reorders p') :
    (c.roots.values.any fun id => (p.marker id).isBusy) =
      c'.roots.values.any fun id => (p'.marker id).isBusy := by
  obtain ⟨markers⟩ := hp
  exact h.any_roots fun id => (markers id).isBusy

theorem Rearranges.isBlocked (h : c.Rearranges c') (hp : p.Reorders p') :
    c.isBlocked p.markers = c'.isBlocked p'.markers := by
  obtain ⟨markers⟩ := hp
  exact h.any_roots fun id => (markers id).blocks

theorem Rearranges.mem_rootNodes (h : c.Rearranges c') (hp : p.Reorders p') (pinned : Option Ref)
    (r : Ref) :
    r ∈ c.rootNodes p.markers pinned ↔ r ∈ c'.rootNodes p'.markers pinned := by
  obtain ⟨markers⟩ := hp
  have reported (id : MarkerId) := (markers id).mem_nodes r
  obtain ⟨keepAlive, -, -, roots⟩ := h
  simp only [Process.marker] at reported
  simp only [rootNodes, List.mem_append, List.mem_flatMap, roots.mem_iff, keepAlive.mem_iff,
    reported]

theorem Rearranges.isRoot (h : c.Rearranges c') (hp : p.Reorders p') (pinned : Option Ref) :
    c.IsRoot p pinned = c'.IsRoot p' pinned := by
  funext r
  have nodes := h.mem_rootNodes hp pinned r
  rwa [Collector.mem_rootNodes, Collector.mem_rootNodes, ← eq_iff_iff] at nodes

theorem Rearranges.markPhase (h : c.Rearranges c') (hp : p.Reorders p')
    (free : c.isBlocked p.markers = false) (pinned : Option Ref) :
    (c.markPhase p.markers pinned).tracer.heap = (c'.markPhase p'.markers pinned).tracer.heap ∧
    (c.markPhase p.markers pinned).rootsScanned =
      (c'.markPhase p'.markers pinned).rootsScanned := by
  have free' : c'.isBlocked p'.markers = false := by rw [← h.isBlocked hp, free]
  have heap : c'.heap = c.heap := by
    obtain ⟨⟩ := h
    rfl
  constructor
  · apply Heap.eq_of_clearMarks_eq
    · rw [clearMarks_markPhase, clearMarks_markPhase, heap]
    · intro r
      have marks : (c.markPhase p.markers pinned).tracer.isMarked r ↔
          (c'.markPhase p'.markers pinned).tracer.isMarked r := by
        rw [isMarked_markPhase free, isMarked_markPhase free', heap, h.isRoot hp]
      exact Bool.eq_iff_iff.mpr marks
  · rw [(markPhase_of_free free pinned).2, (markPhase_of_free free' pinned).2, heap]
    exact Tracer.marked_markAll_congr _ (h.mem_rootNodes hp pinned)

theorem Rearranges.sweepPhase (h : c.Rearranges c') {marked marked' : Marked}
    (heap : marked.tracer.heap = marked'.tracer.heap)
    (rootsScanned : marked.rootsScanned = marked'.rootsScanned) (trigger : Trigger) (now : Nat) :
    (c.sweepPhase marked trigger now).1 = (c'.sweepPhase marked' trigger now).1 ∧
      (c.sweepPhase marked trigger now).2.Rearranges (c'.sweepPhase marked' trigger now).2 := by
  obtain ⟨keepAlive, weakRefs, weakMaps, roots⟩ := h
  have cleared := weakRefs.countP_eq (WeakEntry.lapses marked.tracer.heap.sweep.2)
  have pruned := weakMaps.foldl_eq'
    (f := fun n m => n + (m.size - (m.prune marked.tracer.heap.sweep.2).size))
    (fun _ _ _ _ _ => Nat.add_right_comm ..) 0
  have settled := weakRefs.map (WeakEntry.settle marked.tracer.heap.sweep.2)
  have left := weakMaps.map (NodeMap.prune · marked.tracer.heap.sweep.2)
  simp only [← Registry.values_mapValues] at settled left
  simp only [Collector.sweepPhase, ← heap, ← rootsScanned, ← cleared, ← pruned, true_and]
  exact .intro keepAlive settled left roots

theorem reorders_markPhase (hp : p.Reorders p') (c c' : Collector)
    (pinned : Option Ref) (id : MarkerId) :
    ((c.markPhase p.markers pinned).markers.getD id default).Reorders
      ((c'.markPhase p'.markers pinned).markers.getD id default) := by
  obtain ⟨markers⟩ := hp
  rw [Collector.markers_markPhase, Collector.markers_markPhase]
  exact (markers id).of_unvisited (unvisited_markRoots ..) (unvisited_markRoots ..)

theorem Rearranges.markEvents (h : c.Rearranges c') (trigger : Trigger) (id : Nat) :
    c.markEvents trigger id = c'.markEvents trigger id := by
  obtain ⟨⟩ := h
  rfl

theorem Rearranges.sweepEvents {after after' : Collector} (h : c.Rearranges c')
    (ha : after.Rearranges after') (m : Metrics) :
    Collector.sweepEvents c after m = Collector.sweepEvents c' after' m := by
  obtain ⟨⟩ := h
  obtain ⟨⟩ := ha
  rfl

theorem Rearranges.collect (h : c.Rearranges c') (hp : p.Reorders p') (trigger : Trigger)
    (pinned : Option Ref) :
    (c.collect p trigger pinned).1 = (c'.collect p' trigger pinned).1 ∧
    (c.collect p trigger pinned).2.1.Rearranges (c'.collect p' trigger pinned).2.1 ∧
    (c.collect p trigger pinned).2.2.Reorders (c'.collect p' trigger pinned).2.2 := by
  have visited := reorders_markPhase hp c c' pinned
  have same : p' = { p with markers := p'.markers } := by
    obtain ⟨⟩ := hp
    rfl
  rw [Collector.collect, Collector.collect, ← h.isBusy hp]
  split
  case isTrue => exact ⟨rfl, h, hp⟩
  case isFalse =>
    simp only [busy_markPhase, ← h.isBlocked hp, clearMarks_markPhase]
    -- From here on the two differ in their markers alone, besides the order in the registries.
    rw [same]
    split
    case isTrue =>
      rw [← h.markEvents]
      refine ⟨rfl, ?_, .intro visited⟩
      obtain ⟨keepAlive, weakRefs, weakMaps, roots⟩ := h
      exact .intro keepAlive weakRefs weakMaps roots
    case isFalse free =>
      have free := Bool.eq_false_of_not_eq_true free
      obtain ⟨heap, rootsScanned⟩ := h.markPhase hp free pinned
      obtain ⟨metrics, after⟩ := h.sweepPhase heap rootsScanned trigger p.clock
      rw [← h.markEvents, ← metrics, ← h.sweepEvents after]
      exact ⟨rfl, after, .intro visited⟩

end Collector

namespace Aggregate

/-- Tracing a value marks the live nodes that it comes to, counts those that were not marked, and is
busy exactly if it comes to a cell that is mutably borrowed. Neither it nor a collection can tell
the order in which hash containers, roots and handles are gone through. -/
theorem tracing_reports_nodes (a : Aggregate) (t : Tracer) :
    (∀ (m : Marker) borrow, m.content? = some (borrow, a.traced) →
      (m.mark t).2 = (refCell borrow a).trace t) ∧
    (∀ r, (a.trace t).isMarked r ↔ t.isMarked r ∨ a.Holds r ∧ t.heap.isLive r) ∧
    (a.trace t).heap.clearMarks = t.heap.clearMarks ∧
    (a.trace t).marked =
      t.marked + {r | a.Holds r ∧ t.heap.isLive r ∧ ¬t.isMarked r}.ncard ∧
    ((a.trace t).busy ↔ t.busy ∨ a.IsObstructed) ∧
    (∀ b, a.Reorders b → (a.trace t).heap = (b.trace t).heap ∧
      (a.trace t).marked = (b.trace t).marked ∧ (a.trace t).busy = (b.trace t).busy) ∧
    ∀ (c c' : Collector) (p p' : Process) trigger pinned, c.Rearranges c' → p.Reorders p' →
      (c.collect p trigger pinned).1 = (c'.collect p' trigger pinned).1 ∧
      (c.collect p trigger pinned).2.1.Rearranges (c'.collect p' trigger pinned).2.1 ∧
      (c.collect p trigger pinned).2.2.Reorders (c'.collect p' trigger pinned).2.2 := by
  have marks (r : Ref) := t.isMarked_markAll a.traced.nodes r
  have counted := t.marked_markAll a.traced.nodes
  have fresh : {r | a.Holds r ∧ t.heap.isLive r ∧ ¬t.isMarked r} =
      a.traced.nodes.toFinset.filter fun r => t.heap.isLive r ∧ ¬t.isMarked r := by
    ext r
    simp [mem_nodes_traced]
  refine ⟨?_, ?_, ?_, ?_, ?_, fun b reorders => reorders.agrees.trace t,
    fun c c' p p' trigger pinned h hp => h.collect hp trigger pinned⟩
  · intro m borrow content
    rw [← trace_traced]
    exact Marker.mark_of_content? content t
  · intro r
    rw [trace_eq, ← mem_nodes_traced]
    exact marks r
  · rw [trace_eq]
    exact t.clearMarks_markAll a.traced.nodes
  · rw [fresh, Set.ncard_coe_finset, trace_eq]
    exact counted
  · rw [trace_eq, ← isBlocked_traced_iff, Bool.or_eq_true]

example :
    let heap := (List.replicate 3 (Object.zeros 3)).foldl
      (fun heap object => (heap.allocate (.ofKind .chunk) object).2) Heap.empty
    let t := trace { heap } (derived [(false, map .hashed [(node ⟨0, 0⟩, node ⟨1, 0⟩)]),
      (true, node ⟨2, 0⟩), (false, refCell .exclusive (node ⟨2, 0⟩))])
    t.isMarked ⟨0, 0⟩ ∧ t.isMarked ⟨1, 0⟩ ∧ ¬t.isMarked ⟨2, 0⟩ ∧ t.marked = 2 ∧ t.busy := by
  decide +kernel

end Aggregate

end MarkSweep
