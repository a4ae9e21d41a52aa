import MarkSweep.Marking.Traced

/-!
Values as a program puts them together, with a constructor for each way in which a value can hold
others. Each kind is traced by a rule of its own. What is kept of a value once it is rooted is the
part of its make-up that tracing can tell.
-/

namespace MarkSweep

inductive Wrapper where
  | reference
  | box
  | counted
  | cell
deriving DecidableEq, Repr

inductive Sequence where
  | slice
  | array
  | vector
  | deque
  | hashSet
  | orderedSet
  | tuple
deriving DecidableEq, Repr

inductive Mapping where
  | hashed
  | ordered
deriving DecidableEq, Repr

inductive Aggregate where
  | plain
  | node (r : Ref)
  | slot (s : Slot)
  | wrapped (wrapper : Wrapper) (content : Aggregate)
  | option (content : Option Aggregate)
  | result (content : Except Aggregate Aggregate)
  | sequence (kind : Sequence) (items : List Aggregate)
  | map (kind : Mapping) (entries : List (Aggregate × Aggregate))
  | refCell (borrow : Borrow) (content : Aggregate)
  | derived (fields : List (Bool × Aggregate))

namespace Aggregate

mutual

def trace (t : Tracer) : Aggregate → Tracer
  | plain => t
  | node r => t.mark r
  | slot s => t.markSlot s
  | wrapped _ content => trace t content
  | option none => t
  | option (some content) => trace t content
  | result (.ok content) => trace t content
  | result (.error content) => trace t content
  | sequence _ items => traceItems t items
  | map _ entries => traceEntries t entries
  | refCell .exclusive _ => t.setBusy
  | refCell (.shared _) content => trace t content
  | derived fields => traceFields t fields

def traceItems (t : Tracer) : List Aggregate → Tracer
  | [] => t
  | item :: items => traceItems (trace t item) items

def traceEntries (t : Tracer) : List (Aggregate × Aggregate) → Tracer
  | [] => t
  | (key, value) :: entries => traceEntries (trace (trace t key) value) entries

def traceFields (t : Tracer) : List (Bool × Aggregate) → Tracer
  | [] => t
  | (true, _) :: fields => traceFields t fields
  | (false, content) :: fields => traceFields (trace t content) fields

end

mutual

/-- The value as it is kept once it is rooted. -/
def traced : Aggregate → Traced
  | plain => .inert
  | node r => .node r
  | slot s => .slot s
  | wrapped _ content => traced content
  | option none => .inert
  | option (some content) => traced content
  | result (.ok content) => traced content
  | result (.error content) => traced content
  | sequence _ items => .group (tracedItems items)
  | map _ entries => .group (tracedEntries entries)
  | refCell borrow content => .cell borrow (traced content)
  | derived fields => .group (tracedFields fields)

def tracedItems : List Aggregate → List Traced
  | [] => []
  | item :: items => traced item :: tracedItems items

def tracedEntries : List (Aggregate × Aggregate) → List Traced
  | [] => []
  | (key, value) :: entries => .group [traced key, traced value] :: tracedEntries entries

def tracedFields : List (Bool × Aggregate) → List Traced
  | [] => []
  | (true, content) :: fields => .skipped (traced content) :: tracedFields fields
  | (false, content) :: fields => traced content :: tracedFields fields

end

mutual

theorem trace_traced (t : Tracer) (a : Aggregate) : a.traced.trace t = a.trace t := by
  match a with
  | plain | node _ | slot _ | option none | refCell .exclusive _ => rfl
  | wrapped _ content | option (some content) | result (.ok content) | result (.error content)
    | refCell (.shared _) content => exact trace_traced t content
  | sequence _ items => exact trace_tracedItems t items
  | map _ entries => exact trace_tracedEntries t entries
  | derived fields => exact trace_tracedFields t fields

theorem trace_tracedItems (t : Tracer) (items : List Aggregate) :
    Traced.traceAll t (tracedItems items) = traceItems t items := by
  match items with
  | [] => rfl
  | item :: items =>
    rw [tracedItems, Traced.traceAll, trace_traced, trace_tracedItems, traceItems]

theorem trace_tracedEntries (t : Tracer) (entries : List (Aggregate × Aggregate)) :
    Traced.traceAll t (tracedEntries entries) = traceEntries t entries := by
  match entries with
  | [] => rfl
  | (key, value) :: entries =>
    rw [tracedEntries, Traced.traceAll, Traced.trace, Traced.traceAll, Traced.traceAll,
      Traced.traceAll, trace_traced, trace_traced, trace_tracedEntries, traceEntries]

theorem trace_tracedFields (t : Tracer) (fields : List (Bool × Aggregate)) :
    Traced.traceAll t (tracedFields fields) = traceFields t fields := by
  match fields with
  | [] => rfl
  | (true, _) :: fields =>
    rw [tracedFields, Traced.traceAll, Traced.trace, trace_tracedFields, traceFields]
  | (false, content) :: fields =>
    rw [tracedFields, Traced.traceAll, trace_traced, trace_tracedFields, traceFields]

end

end Aggregate

end MarkSweep
