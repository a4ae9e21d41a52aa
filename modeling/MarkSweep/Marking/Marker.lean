import MarkSweep.Marking.Traced
import Std.Data.TreeMap

/-!
Root markers: what a collector asks for the nodes that have to survive. A marker is a rooted
aggregate, a rooted table from nodes to values, or a probe, which notes what it sees when visited.
-/

namespace MarkSweep

structure Visit where
  busy : Bool
  counts : List Nat
  before : List (Option Bool)
  after : List (Option Bool)
deriving Repr

structure Probe where
  slots : List Slot := []
  busy : Bool := false
  busyOnMark : Bool := false
  visits : List Visit := []

namespace Probe

def seen (t : Tracer) (s : Slot) : Option Bool := s.node?.map t.isMarked

def markSlots (t : Tracer) : List Slot → List (Option Bool) × List Nat × Tracer
  | [] => ([], [], t)
  | s :: ss =>
    let marked := t.markSlot s
    let (before, counts, done) := markSlots marked ss
    (seen t s :: before, marked.marked :: counts, done)

def visit (p : Probe) (t : Tracer) : Probe × Tracer :=
  let (before, counts, done) := markSlots t p.slots
  let visit : Visit :=
    { busy := t.busy, counts := t.marked :: counts, before, after := p.slots.map (seen done) }
  ({ p with visits := p.visits ++ [visit] }, if p.busyOnMark then done.setBusy else done)

theorem markSlots_tracer (t : Tracer) (ss : List Slot) :
    (markSlots t ss).2.2 = t.markAll (ss.filterMap Slot.node?) := by
  induction ss generalizing t with
  | nil => rfl
  | cons s ss ih =>
    rw [markSlots]
    simp only [ih]
    cases s <;> rfl

end Probe

inductive Marker where
  | rooted (borrow : Borrow) (content : Traced)
  | table (borrow : Borrow) (entries : Std.TreeMap Ref Traced)
  | probe (p : Probe)

instance : Inhabited Marker := ⟨.rooted .unused .inert⟩

namespace Marker

def tableContent (entries : Std.TreeMap Ref Traced) : Traced :=
  .group (entries.toList.map fun (key, value) => .group [.node key, value])

def isBusy : Marker → Bool
  | rooted borrow _ => borrow == .exclusive
  | table borrow _ => borrow == .exclusive
  | probe p => p.busy

def mark (m : Marker) (t : Tracer) : Marker × Tracer :=
  match m with
  | rooted borrow content => (m, (Traced.cell borrow content).trace t)
  | table borrow entries => (m, (Traced.cell borrow (tableContent entries)).trace t)
  | probe p =>
    let (p, t) := p.visit t
    (probe p, t)

def nodes : Marker → List Ref
  | rooted borrow content => (Traced.cell borrow content).nodes
  | table borrow entries => (Traced.cell borrow (tableContent entries)).nodes
  | probe p => p.slots.filterMap Slot.node?

def blocks : Marker → Bool
  | rooted borrow content => (Traced.cell borrow content).isBlocked
  | table borrow entries => (Traced.cell borrow (tableContent entries)).isBlocked
  | probe p => p.busyOnMark

theorem mark_tracer (m : Marker) (t : Tracer) :
    (m.mark t).2 = { t.markAll m.nodes with busy := t.busy || m.blocks } := by
  match m with
  | rooted borrow content => exact Traced.trace_eq t _
  | table borrow entries => exact Traced.trace_eq t _
  | probe p =>
    have hb := Tracer.busy_markAll t (p.slots.filterMap Slot.node?)
    simp only [mark, Probe.visit, nodes, blocks, Probe.markSlots_tracer]
    cases p.busyOnMark <;> simp [Tracer.setBusy, ← hb]

end Marker

abbrev MarkerId := Nat

/-- Marks the roots in order, all of them even once the tracer is busy. -/
def markRoots (markers : Array Marker) (t : Tracer) :
    List MarkerId → Array Marker × Tracer
  | [] => (markers, t)
  | id :: ids =>
    let (marker, t) := (markers.getD id default).mark t
    markRoots (markers.setIfInBounds id marker) t ids

end MarkSweep
