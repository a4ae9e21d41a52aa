import MarkSweep.Proofs.Collector.Metrics
import MarkSweep.Proofs.Marking.Aggregate

namespace MarkSweep

namespace Tracer

variable {rs ss : List Ref}

theorem heap_markAll_congr (t : Tracer) (same : ∀ r, r ∈ rs ↔ r ∈ ss) :
    (t.markAll rs).heap = (t.markAll ss).heap := by
  apply Heap.eq_of_clearMarks_eq
  · rw [clearMarks_markAll, clearMarks_markAll]
  · intro r
    have marks : (t.markAll rs).isMarked r ↔ (t.markAll ss).isMarked r := by
      rw [isMarked_markAll, isMarked_markAll, same]
    exact Bool.eq_iff_iff.mpr marks

theorem marked_markAll_congr (t : Tracer) (same : ∀ r, r ∈ rs ↔ r ∈ ss) :
    (t.markAll rs).marked = (t.markAll ss).marked := by
  have sets : rs.toFinset = ss.toFinset := by
    ext r
    rw [List.mem_toFinset, List.mem_toFinset, same]
  rw [marked_markAll, marked_markAll, sets]

end Tracer

namespace Aggregate

inductive Reorders : Aggregate → Aggregate → Prop where
  | refl (a : Aggregate) : Reorders a a
  | trans {a b c : Aggregate} : Reorders a b → Reorders b c → Reorders a c
  | hashSet {items items' : List Aggregate} :
    items.Perm items' → Reorders (sequence .hashSet items) (sequence .hashSet items')
  | hashMap {entries entries' : List (Aggregate × Aggregate)} :
    entries.Perm entries' → Reorders (map .hashed entries) (map .hashed entries')
  | wrapped (wrapper : Wrapper) {a b : Aggregate} :
    Reorders a b → Reorders (wrapped wrapper a) (wrapped wrapper b)
  | option {a b : Aggregate} : Reorders a b → Reorders (option (some a)) (option (some b))
  | ok {a b : Aggregate} : Reorders a b → Reorders (result (.ok a)) (result (.ok b))
  | error {a b : Aggregate} : Reorders a b → Reorders (result (.error a)) (result (.error b))
  | item (kind : Sequence) (before after : List Aggregate) {a b : Aggregate} : Reorders a b →
    Reorders (sequence kind (before ++ a :: after)) (sequence kind (before ++ b :: after))
  | key (kind : Mapping) (before after : List (Aggregate × Aggregate)) (value : Aggregate)
    {a b : Aggregate} : Reorders a b →
    Reorders (map kind (before ++ (a, value) :: after)) (map kind (before ++ (b, value) :: after))
  | value (kind : Mapping) (before after : List (Aggregate × Aggregate)) (key : Aggregate)
    {a b : Aggregate} : Reorders a b →
    Reorders (map kind (before ++ (key, a) :: after)) (map kind (before ++ (key, b) :: after))
  | refCell (borrow : Borrow) {a b : Aggregate} :
    Reorders a b → Reorders (refCell borrow a) (refCell borrow b)
  | field (before after : List (Bool × Aggregate)) (skipped : Bool) {a b : Aggregate} :
    Reorders a b →
    Reorders (derived (before ++ (skipped, a) :: after)) (derived (before ++ (skipped, b) :: after))

structure Agrees (a b : Aggregate) : Prop where
  holds : ∀ r, a.Holds r ↔ b.Holds r
  isObstructed : a.IsObstructed ↔ b.IsObstructed

namespace Agrees

variable {a b c : Aggregate}

theorem refl (a : Aggregate) : a.Agrees a := ⟨fun _ => Iff.rfl, Iff.rfl⟩

theorem trans (first : a.Agrees b) (second : b.Agrees c) : a.Agrees c where
  holds r := (first.holds r).trans (second.holds r)
  isObstructed := first.isObstructed.trans second.isObstructed

theorem of_children (before after : List Aggregate) {v w : Aggregate} (own : a.own? = b.own?)
    (isSealed : a.isSealed = b.isSealed)
    (left : ∀ x, x ∈ a.children ↔ x ∈ before ∨ x = v ∨ x ∈ after)
    (right : ∀ x, x ∈ b.children ↔ x ∈ before ∨ x = w ∨ x ∈ after) (agrees : v.Agrees w) :
    a.Agrees b where
  holds r := by
    rw [holds_iff, @holds_iff b, own]
    simp only [left, right, or_and_right, exists_or, exists_eq_left, agrees.holds]
  isObstructed := by
    rw [isObstructed_iff, @isObstructed_iff b, isSealed]
    simp only [left, right, or_and_right, exists_or, exists_eq_left, agrees.isObstructed]

theorem of_mem_children (own : a.own? = b.own?) (isSealed : a.isSealed = b.isSealed)
    (same : ∀ x, x ∈ a.children ↔ x ∈ b.children) : a.Agrees b where
  holds r := by simp only [holds_iff (a := a), holds_iff (a := b), own, same]
  isObstructed := by
    simp only [isObstructed_iff (a := a), isObstructed_iff (a := b), isSealed, same]

end Agrees

theorem Reorders.agrees {a b : Aggregate} (h : a.Reorders b) : a.Agrees b := by
  induction h with
  | refl a => exact .refl a
  | trans _ _ first second => exact first.trans second
  | hashSet perm =>
    refine .of_mem_children rfl rfl fun x => ?_
    exact perm.mem_iff
  | hashMap perm =>
    refine .of_mem_children rfl rfl fun x => ?_
    exact (perm.flatMap_right _).mem_iff
  | wrapped _ _ ih | option _ ih | ok _ ih | error _ ih =>
    refine .of_children [] [] rfl rfl ?_ ?_ ih <;> simp [children]
  | item kind before after _ ih =>
    refine .of_children before after rfl rfl ?_ ?_ ih <;> simp [children]
  -- An entry is two children, so the other one goes with the entries before or after.
  | key kind before after value _ ih =>
    refine .of_children (map kind before).children (value :: (map kind after).children)
      rfl rfl ?_ ?_ ih <;> simp [children]
  | value kind before after key _ ih =>
    refine .of_children ((map kind before).children ++ [key]) (map kind after).children
      rfl rfl ?_ ?_ ih <;> simp [children, or_assoc]
  | refCell borrow _ ih =>
    cases borrow with
    | exclusive => exact .of_mem_children rfl rfl fun _ => Iff.rfl
    | shared => refine .of_children [] [] rfl rfl ?_ ?_ ih <;> simp [children]
  | field before after skipped _ ih =>
    cases skipped with
    | true => exact .of_mem_children rfl rfl (by simp [children])
    | false =>
      refine .of_children (derived before).children (derived after).children rfl rfl ?_ ?_ ih <;>
        simp [children]

namespace Agrees

variable {a b : Aggregate}

theorem mem_nodes_traced (agrees : a.Agrees b) (r : Ref) :
    r ∈ a.traced.nodes ↔ r ∈ b.traced.nodes := by
  rw [Aggregate.mem_nodes_traced, Aggregate.mem_nodes_traced, agrees.holds]

theorem isBlocked_traced (agrees : a.Agrees b) : a.traced.isBlocked = b.traced.isBlocked := by
  rw [Bool.eq_iff_iff, isBlocked_traced_iff, isBlocked_traced_iff, agrees.isObstructed]

theorem trace (agrees : a.Agrees b) (t : Tracer) : (a.trace t).heap = (b.trace t).heap ∧
    (a.trace t).marked = (b.trace t).marked ∧ (a.trace t).busy = (b.trace t).busy := by
  have nodes := agrees.mem_nodes_traced
  have blocked := congrArg (t.busy || ·) agrees.isBlocked_traced
  rw [trace_eq, trace_eq]
  exact ⟨t.heap_markAll_congr nodes, t.marked_markAll_congr nodes, blocked⟩

end Agrees

end Aggregate

namespace Marker

def content? : Marker → Option (Borrow × Traced)
  | rooted borrow content => some (borrow, content)
  | table borrow entries => some (borrow, tableContent entries)
  | probe _ => none

inductive Reorders : Marker → Marker → Prop where
  | refl (m : Marker) : Reorders m m
  | content {m m' : Marker} {borrow : Borrow} {a b : Aggregate} :
    m.content? = some (borrow, a.traced) → m'.content? = some (borrow, b.traced) →
    a.Reorders b → Reorders m m'
  | probe {p p' : Probe} : p.slots.Perm p'.slots → p.busy = p'.busy →
    p.busyOnMark = p'.busyOnMark → Reorders (probe p) (probe p')

variable {m m' : Marker} {borrow : Borrow} {v : Traced}

theorem mark_of_content? (h : m.content? = some (borrow, v)) (t : Tracer) :
    (m.mark t).2 = (Traced.cell borrow v).trace t := by
  cases m <;> cases h <;> rfl

theorem isBusy_of_content? (h : m.content? = some (borrow, v)) :
    m.isBusy = (borrow == .exclusive) := by
  cases m <;> cases h <;> rfl

theorem nodes_of_content? (h : m.content? = some (borrow, v)) :
    m.nodes = (Traced.cell borrow v).nodes := by
  cases m <;> cases h <;> rfl

theorem blocks_of_content? (h : m.content? = some (borrow, v)) :
    m.blocks = (Traced.cell borrow v).isBlocked := by
  cases m <;> cases h <;> rfl

theorem Reorders.isBusy (h : m.Reorders m') : m.isBusy = m'.isBusy := by
  cases h with
  | refl => rfl
  | content value value' _ => rw [isBusy_of_content? value, isBusy_of_content? value']
  | probe _ busy _ => exact busy

theorem Reorders.mem_nodes (h : m.Reorders m') (r : Ref) : r ∈ m.nodes ↔ r ∈ m'.nodes := by
  cases h with
  | refl => rfl
  | @content _ _ borrow a b value value' reorders =>
    have cells := (Aggregate.Reorders.refCell borrow reorders).agrees.mem_nodes_traced r
    rwa [nodes_of_content? value, nodes_of_content? value']
  | probe perm _ _ => exact (perm.filterMap _).mem_iff

theorem Reorders.blocks (h : m.Reorders m') : m.blocks = m'.blocks := by
  cases h with
  | refl => rfl
  | @content _ _ borrow a b value value' reorders =>
    have cells := (Aggregate.Reorders.refCell borrow reorders).agrees.isBlocked_traced
    rwa [blocks_of_content? value, blocks_of_content? value']
  | probe _ _ busyOnMark => exact busyOnMark

def unvisited : Marker → Marker
  | probe p => .probe { p with visits := [] }
  | m => m

theorem unvisited_mark (m : Marker) (t : Tracer) : (m.mark t).1.unvisited = m.unvisited := by
  cases m <;> rfl

theorem content?_unvisited (m : Marker) : m.unvisited.content? = m.content? := by
  cases m <;> rfl

theorem reorders_of_unvisited_eq (e : m.unvisited = m'.unvisited) : m.Reorders m' := by
  rcases m with _ | _ | ⟨slots, busy, busyOnMark, visits⟩ <;>
    rcases m' with _ | _ | ⟨slots', busy', busyOnMark', visits'⟩ <;> cases e
  · exact .refl _
  · exact .refl _
  · exact .probe (.refl _) rfl rfl

theorem Reorders.of_unvisited {n n' : Marker} (h : m.Reorders m')
    (visited : n.unvisited = m.unvisited) (visited' : n'.unvisited = m'.unvisited) :
    n.Reorders n' := by
  cases h with
  | refl => exact reorders_of_unvisited_eq (visited.trans visited'.symm)
  | content value value' reorders =>
    rw [← content?_unvisited] at value value'
    rw [← visited, content?_unvisited] at value
    rw [← visited', content?_unvisited] at value'
    exact .content value value' reorders
  | probe perm busy busyOnMark =>
    rcases n with _ | _ | ⟨slots, busy, busyOnMark, visits⟩ <;> cases visited
    rcases n' with _ | _ | ⟨slots', busy', busyOnMark', visits'⟩ <;> cases visited'
    exact .probe perm busy busyOnMark

end Marker

theorem unvisited_markRoots (markers : Array Marker) (t : Tracer) (ids : List MarkerId)
    (id : MarkerId) : ((markRoots markers t ids).1.getD id default).unvisited =
      (markers.getD id default).unvisited := by
  induction ids generalizing markers t with
  | nil => rfl
  | cons first ids ih =>
    rw [markRoots, ih]
    exact getD_setIfInBounds_mark Marker.unvisited markers first _ (Marker.unvisited_mark _ t) id

end MarkSweep
