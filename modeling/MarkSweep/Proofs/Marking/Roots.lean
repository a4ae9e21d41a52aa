import MarkSweep.Collector.Collect
import MarkSweep.Proofs.Marking.Closure

namespace MarkSweep

namespace Registry

variable {α : Type}

theorem mem_values {g : Registry α} {a : α} : a ∈ g.values ↔ ∃ k, g.get? k = some a := by
  rw [values, List.mem_filterMap]
  constructor
  · rintro ⟨row, hr, ha⟩
    obtain ⟨i, hi⟩ := List.mem_iff_getElem?.mp hr
    rw [Array.getElem?_toList] at hi
    exact ⟨⟨i, row.version⟩, by simp [get?, hi, ha]⟩
  · rintro ⟨k, hk⟩
    rw [get?] at hk
    split at hk
    case h_1 row hr =>
      split at hk
      case isTrue =>
        rw [← Array.getElem?_toList] at hr
        exact ⟨row, List.mem_of_getElem? hr, hk⟩
      case isFalse => cases hk
    case h_2 => cases hk

end Registry

namespace Marker

theorem nodes_mark (m : Marker) (t : Tracer) : (m.mark t).1.nodes = m.nodes := by
  cases m <;> rfl

theorem blocks_mark (m : Marker) (t : Tracer) : (m.mark t).1.blocks = m.blocks := by
  cases m <;> rfl

end Marker

theorem getD_setIfInBounds_mark {β : Type} (f : Marker → β) (markers : Array Marker) (id : MarkerId)
    (marker : Marker) (same : f marker = f (markers.getD id default)) (other : MarkerId) :
    f ((markers.setIfInBounds id marker).getD other default) = f (markers.getD other default) := by
  simp only [Array.getD_eq_getD_getElem?, Array.getElem?_setIfInBounds] at same ⊢
  by_cases hi : id = other
  · subst hi
    rw [if_pos rfl]
    split
    case isTrue => exact same
    case isFalse h => rw [Array.getElem?_eq_none (Nat.not_lt.mp h)]
  · rw [if_neg hi]

theorem markRoots_tracer (markers : Array Marker) (t : Tracer) (ids : List MarkerId) :
    (markRoots markers t ids).2 =
      { t.markAll (ids.flatMap fun id => (markers.getD id default).nodes) with
        busy := t.busy || ids.any fun id => (markers.getD id default).blocks } := by
  induction ids generalizing markers t with
  | nil => simp [markRoots, Tracer.markAll]
  | cons id ids ih =>
    have nodes := getD_setIfInBounds_mark Marker.nodes markers id _ (Marker.nodes_mark _ t)
    have blocks := getD_setIfInBounds_mark Marker.blocks markers id _ (Marker.blocks_mark _ t)
    rw [markRoots, ih]
    simp only [nodes, blocks, Marker.mark_tracer, Tracer.markAll_withBusy, Tracer.markAll_append,
      List.flatMap_cons, List.any_cons, Bool.or_assoc]

theorem Slot.node?_eq_some_iff {s : Slot} {r : Ref} : s.node? = some r ↔ s = .node r := by
  cases s <;> simp [node?]

theorem Trail.mem_priorNodes {t : Trail} {r : Ref} :
    r ∈ t.priorNodes ↔ ∃ e ∈ t.entries, e.prior = .node r := by
  simp only [priorNodes, List.mem_filterMap, List.mem_reverse, Slot.node?_eq_some_iff]

namespace Tracer

theorem withBusy_eq {t : Tracer} {b : Bool} (h : t.busy = b) : { t with busy := b } = t := by
  subst h
  rfl

theorem busy_drain (t : Tracer) : t.drain.busy = t.busy := by
  fun_induction drain t with
  | case1 t h => rfl
  | case2 t r rest h ih => rw [ih, busy_markAll]

end Tracer

namespace Collector

def rootNodes (c : Collector) (markers : Array Marker) (pinned : Option Ref) : List Ref :=
  (c.roots.values.flatMap fun id => (markers.getD id default).nodes) ++
    c.keepAlive.values ++ c.trail.priorNodes ++ pinned.toList

def IsRoot (c : Collector) (p : Process) (pinned : Option Ref) (r : Ref) : Prop :=
  (∃ key id, c.roots.get? key = some id ∧ r ∈ (p.marker id).nodes) ∨
    (∃ key, c.keepAlive.get? key = some r) ∨
    (∃ e ∈ c.trail.entries, e.prior = .node r) ∨ pinned = some r

theorem mem_rootNodes {c : Collector} {p : Process} {pinned : Option Ref} {r : Ref} :
    r ∈ c.rootNodes p.markers pinned ↔ c.IsRoot p pinned r := by
  simp only [rootNodes, IsRoot, List.mem_append, List.mem_flatMap, Registry.mem_values,
    Trail.mem_priorNodes, Option.mem_toList, Process.marker, or_assoc]
  constructor
  · rintro (⟨id, ⟨key, hk⟩, hr⟩ | others)
    · exact .inl ⟨key, id, hk, hr⟩
    · exact .inr others
  · rintro (⟨key, id, hk, hr⟩ | others)
    · exact .inl ⟨id, ⟨key, hk⟩, hr⟩
    · exact .inr others

def isBlocked (c : Collector) (markers : Array Marker) : Bool :=
  c.roots.values.any fun id => (markers.getD id default).blocks

theorem busy_markPhase (c : Collector) (markers : Array Marker) (pinned : Option Ref) :
    (c.markPhase markers pinned).tracer.busy = c.isBlocked markers := by
  have roots := congrArg Tracer.busy
    (markRoots_tracer markers { heap := c.heap.clearMarks } c.roots.values)
  simp only [Bool.false_or] at roots
  simp only [markPhase]
  split
  · exact roots
  · simp only [Tracer.busy_drain, Tracer.busy_markAll]
    exact roots

theorem markRoots_of_free {c : Collector} {markers : Array Marker}
    (free : c.isBlocked markers = false) :
    (markRoots markers { heap := c.heap.clearMarks } c.roots.values).2 =
      { heap := c.heap.clearMarks : Tracer }.markAll
        (c.roots.values.flatMap fun id => (markers.getD id default).nodes) := by
  have roots := markRoots_tracer markers { heap := c.heap.clearMarks } c.roots.values
  rw [← isBlocked, free] at roots
  simp only [Bool.or_false] at roots
  rw [roots]
  exact Tracer.withBusy_eq (Tracer.busy_markAll _ _)

theorem markPhase_of_free {c : Collector} {markers : Array Marker}
    (free : c.isBlocked markers = false) (pinned : Option Ref) :
    (c.markPhase markers pinned).tracer =
      ({ heap := c.heap.clearMarks : Tracer }.markAll (c.rootNodes markers pinned)).drain ∧
    (c.markPhase markers pinned).rootsScanned =
      ({ heap := c.heap.clearMarks : Tracer }.markAll (c.rootNodes markers pinned)).marked := by
  have idle := Tracer.busy_markAll { heap := c.heap.clearMarks }
    (c.roots.values.flatMap fun id => (markers.getD id default).nodes)
  simp only [markPhase, markRoots_of_free free, idle]
  simp only [Bool.false_eq_true, ↓reduceIte, rootNodes, Tracer.markAll_append, and_self]

theorem clearMarks_markPhase (c : Collector) (markers : Array Marker) (pinned : Option Ref) :
    (c.markPhase markers pinned).tracer.heap.clearMarks = c.heap.clearMarks := by
  have roots := congrArg (fun t => t.heap.clearMarks)
    (markRoots_tracer markers { heap := c.heap.clearMarks } c.roots.values)
  simp only [Tracer.clearMarks_markAll, Heap.clearMarks_clearMarks] at roots
  simp only [markPhase]
  split
  · exact roots
  · simp only [Tracer.clearMarks_drain, Tracer.clearMarks_markAll]
    exact roots

theorem isMarked_markPhase {c : Collector} {p : Process} {pinned : Option Ref}
    (free : c.isBlocked p.markers = false) (r : Ref) :
    (c.markPhase p.markers pinned).tracer.isMarked r ↔ c.heap.Reach (c.IsRoot p pinned) r := by
  have start : Tracer.Tricolour { heap := c.heap.clearMarks } := by
    refine ⟨fun s hs => ?_, fun s hs => ?_⟩
    · cases hs
    · simp [Tracer.isMarked, Heap.isMarked_clearMarks] at hs
  have same : c.heap.clearMarks.clearMarks = c.heap.clearMarks := c.heap.clearMarks_clearMarks
  rw [(markPhase_of_free free pinned).1, (start.markAll _).isMarked_drain_iff]
  constructor
  · intro hr
    refine (hr.congr ((Tracer.clearMarks_markAll _ _).trans same).symm).mono ?_
    intro s hs hl
    rcases (Tracer.isMarked_markAll _ _ s).mp hs with hs | ⟨hs, -⟩
    · simp [Tracer.isMarked, Heap.isMarked_clearMarks] at hs
    · exact .root (mem_rootNodes.mp hs) hl
  · intro hr
    refine (hr.congr ((Tracer.clearMarks_markAll _ _).trans same)).mono ?_
    intro s hs hl
    rw [Heap.isLive_congr (Tracer.clearMarks_markAll _ _)] at hl
    have marked := (Tracer.isMarked_markAll _ _ s).mpr (.inr ⟨mem_rootNodes.mpr hs, hl⟩)
    exact .root marked (Tracer.isLive_of_isMarked marked)

end Collector

end MarkSweep
