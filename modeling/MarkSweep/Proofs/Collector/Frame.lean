import MarkSweep.Proofs.Collector.Order

/-!
What allocations, interning and collections leave of a collector and of the markers around it:
every root, every table that a marker holds, and every interned text whose node is still live.
-/

namespace MarkSweep

theorem Traced.mem_nodesAll {vs : List Traced} {r : Ref} :
    r ∈ nodesAll vs ↔ ∃ v ∈ vs, r ∈ v.nodes := by
  induction vs with
  | nil => simp [nodesAll]
  | cons v vs ih => simp [nodesAll, ih]

namespace Marker

def table? : Marker → Option (Borrow × Std.TreeMap Ref Traced)
  | table borrow entries => some (borrow, entries)
  | _ => none

theorem table?_eq_some_iff {m : Marker} {borrow : Borrow} {entries : Std.TreeMap Ref Traced} :
    m.table? = some (borrow, entries) ↔ m = table borrow entries := by
  cases m <;> simp [table?]

theorem table?_mark (m : Marker) (t : Tracer) : (m.mark t).1.table? = m.table? := by
  cases m <;> rfl

theorem mem_nodes_table {readers : Nat} {entries : Std.TreeMap Ref Traced} {r : Ref} :
    r ∈ (table (.shared readers) entries).nodes ↔
      ∃ node value, entries[node]? = some value ∧ (r = node ∨ r ∈ value.nodes) := by
  simp only [nodes, Traced.nodes, tableContent, Traced.mem_nodesAll, List.mem_map, Prod.exists,
    Std.TreeMap.mem_toList_iff_getElem?_eq_some]
  constructor
  · rintro ⟨_, ⟨node, value, h, rfl⟩, hr⟩
    exact ⟨node, value, h, by simpa [Traced.nodes, Traced.nodesAll] using hr⟩
  · rintro ⟨node, value, h, hr⟩
    exact ⟨_, ⟨node, value, h, rfl⟩, by simpa [Traced.nodes, Traced.nodesAll] using hr⟩

end Marker

theorem table?_markRoots (markers : Array Marker) (t : Tracer) (ids : List MarkerId)
    (id : MarkerId) :
    ((markRoots markers t ids).1.getD id default).table? = (markers.getD id default).table? := by
  induction ids generalizing markers t with
  | nil => rfl
  | cons first ids ih =>
    rw [markRoots, ih]
    exact getD_setIfInBounds_mark Marker.table? markers first _ (Marker.table?_mark _ t) id

namespace Collector

variable {c : Collector} {p : Process} {trigger : Trigger} {pinned : Option Ref}
  {header : Header} {object : Object}

theorem markers_markPhase (c : Collector) (markers : Array Marker) (pinned : Option Ref) :
    (c.markPhase markers pinned).markers =
      (markRoots markers { heap := c.heap.clearMarks } c.roots.values).1 := by
  simp only [markPhase]
  split <;> rfl

theorem table?_collect (c : Collector) (p : Process) (trigger : Trigger) (pinned : Option Ref)
    (id : MarkerId) :
    ((c.collect p trigger pinned).2.2.marker id).table? = (p.marker id).table? := by
  have visited := table?_markRoots p.markers { heap := c.heap.clearMarks } c.roots.values id
  rw [← markers_markPhase c p.markers pinned] at visited
  rw [collect]
  split
  · rfl
  · dsimp only
    split
    · exact visited
    · exact visited

theorem table?_allocate (c : Collector) (p : Process) (header : Header) (object : Object)
    (id : MarkerId) :
    ((c.allocate p header object).2.2.marker id).table? = (p.marker id).table? := by
  have collected (trigger : Trigger) := table?_collect (c.place header object) p trigger
    (some (c.heap.allocate header object).1) id
  simp only [allocate]
  split
  · rfl
  · split
    · rfl
    · split
      case h_1 e | h_2 e =>
        have same := collected ‹_›
        simp only [place] at same
        rw [e] at same
        exact same

theorem table?_intern (c : Collector) (p : Process) (text : String) (id : MarkerId) :
    ((c.intern p text).2.2.marker id).table? = (p.marker id).table? := by
  rw [intern]
  split
  · rfl
  · exact table?_allocate c p _ _ id

theorem table?_tryTrigger (c : Collector) (p : Process) (id : MarkerId) :
    ((c.tryTrigger p).2.2.marker id).table? = (p.marker id).table? := by
  rw [tryTrigger]
  split
  · rfl
  · exact table?_collect c p .manual none id

theorem roots_collect (c : Collector) (p : Process) (trigger : Trigger) (pinned : Option Ref) :
    (c.collect p trigger pinned).2.1.roots = c.roots := by
  rcases collect_cases c p trigger pinned with ⟨_, e⟩ | ⟨_, e⟩ | ⟨_, _, e⟩
  · rw [e]
  · rw [e]
  · rw [e]
    rfl

theorem roots_allocate (c : Collector) (p : Process) (header : Header) (object : Object) :
    (c.allocate p header object).2.1.roots = c.roots := by
  rcases allocate_snd c p header object with e | ⟨trigger, e⟩
  · rw [e]
    rfl
  · rw [e]
    exact roots_collect (c.place header object) p trigger _

theorem roots_intern (c : Collector) (p : Process) (text : String) :
    (c.intern p text).2.1.roots = c.roots := by
  rw [intern]
  split
  · rfl
  · exact roots_allocate c p _ _

theorem roots_tryTrigger (c : Collector) (p : Process) : (c.tryTrigger p).2.1.roots = c.roots := by
  rw [tryTrigger]
  split
  · rfl
  · exact roots_collect c p .manual none

section

variable {text : String} {node : Ref}

theorem interned_collect (h : c.interned[text]? = some node)
    (live : (c.collect p trigger pinned).2.1.isLive node) :
    (c.collect p trigger pinned).2.1.interned[text]? = some node := by
  rcases collect_cases c p trigger pinned with ⟨_, e⟩ | ⟨_, e⟩ | ⟨_, _, e⟩
  · rwa [e]
  · rwa [e]
  · rw [e] at live ⊢
    exact getElem?_sweepPhase_interned.mpr ⟨h, live⟩

theorem interned_allocate (h : c.interned[text]? = some node)
    (live : (c.allocate p header object).2.1.isLive node) :
    (c.allocate p header object).2.1.interned[text]? = some node := by
  rcases allocate_snd c p header object with e | ⟨trigger, e⟩
  · rwa [e]
  · rw [e] at live ⊢
    exact interned_collect (c := c.place header object) h live

theorem interned_intern {other : String} (h : c.interned[text]? = some node)
    (live : (c.intern p other).2.1.isLive node) :
    (c.intern p other).2.1.interned[text]? = some node := by
  rw [intern] at live ⊢
  split at live
  case h_1 present => simpa only [present] using h
  case h_2 absent =>
    have ne : other ≠ text := by
      rintro rfl
      rw [h] at absent
      cases absent
    simp only
    rw [Std.TreeMap.getElem?_insert, if_neg (mt Std.compare_eq_iff_eq.mp ne)]
    exact interned_allocate h live

theorem interned_intern_self (c : Collector) (p : Process) (text : String) :
    (c.intern p text).2.1.interned[text]? = some (c.intern p text).1 := by
  rw [intern]
  split
  case h_1 present => exact present
  case h_2 => exact Std.TreeMap.getElem?_insert_self

theorem interned_tryTrigger (h : c.interned[text]? = some node)
    (live : (c.tryTrigger p).2.1.isLive node) :
    (c.tryTrigger p).2.1.interned[text]? = some node := by
  rw [tryTrigger] at live ⊢
  split at live
  case isTrue locked => rwa [if_pos locked]
  case isFalse unlocked =>
    rw [if_neg unlocked]
    exact interned_collect h live

end

section

variable {r : Ref}

theorem IsRoot.pinning (root : c.IsRoot p none r) (pinned : Option Ref) :
    c.IsRoot p pinned r := by
  rcases root with root | root | root | root
  · exact .inl root
  · exact .inr (.inl root)
  · exact .inr (.inr (.inl root))
  · cases root

theorem isLive_allocate_of_isRoot (hc : c.Orderly) (root : c.IsRoot p none r)
    (live : c.isLive r) : (c.allocate p header object).2.1.isLive r := by
  have placed : (c.place header object).isLive r :=
    (hc.heap.isLive_allocate header object r).mpr (.inr live)
  rcases allocate_snd c p header object with e | ⟨trigger, e⟩
  · rwa [e]
  · rw [e]
    exact isLive_collect_of_isRoot (c := c.place header object) (root.pinning _) placed

theorem isLive_intern_of_isRoot (hc : c.Orderly) (root : c.IsRoot p none r) (live : c.isLive r)
    (text : String) : (c.intern p text).2.1.isLive r := by
  rw [intern]
  split
  · exact live
  · exact isLive_allocate_of_isRoot hc root live

theorem isLive_tryTrigger_of_isRoot (root : c.IsRoot p none r) (live : c.isLive r) :
    (c.tryTrigger p).2.1.isLive r := by
  rw [tryTrigger]
  split
  · exact live
  · exact isLive_collect_of_isRoot root live

end

end Collector

end MarkSweep
