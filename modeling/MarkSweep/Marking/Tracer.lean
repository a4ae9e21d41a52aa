import MarkSweep.Heap.Basic

/-!
Marking by worklist. Every object is put on the worklist when it is marked, and draining the
worklist marks all that it leads to: each step takes one node off, and each node put on it is one
fewer to mark.
-/

namespace MarkSweep

structure Tracer where
  heap : Heap
  worklist : List Ref := []
  marked : Nat := 0
  busy : Bool := false

namespace Tracer

def mark (t : Tracer) (r : Ref) : Tracer :=
  match t.heap.mark? r with
  | some heap => { t with heap, worklist := r :: t.worklist, marked := t.marked + 1 }
  | none => t

def markSlot (t : Tracer) (s : Slot) : Tracer :=
  match s with
  | .node r => t.mark r
  | _ => t

def setBusy (t : Tracer) : Tracer := { t with busy := true }

def isMarked (t : Tracer) (r : Ref) : Bool := t.heap.isMarked r

def markAll (t : Tracer) (rs : List Ref) : Tracer := rs.foldl mark t

theorem mark_withBusy (t : Tracer) (b : Bool) (r : Ref) :
    { t with busy := b }.mark r = { t.mark r with busy := b } := by
  simp only [mark]
  cases t.heap.mark? r <;> rfl

theorem busy_mark (t : Tracer) (r : Ref) : (t.mark r).busy = t.busy :=
  (congrArg busy (mark_withBusy t t.busy r) : _)

theorem markAll_withBusy (t : Tracer) (b : Bool) (rs : List Ref) :
    { t with busy := b }.markAll rs = { t.markAll rs with busy := b } := by
  induction rs generalizing t with
  | nil => rfl
  | cons r rs ih => simpa only [markAll, List.foldl_cons, mark_withBusy] using ih (t.mark r)

theorem busy_markAll (t : Tracer) (rs : List Ref) : (t.markAll rs).busy = t.busy :=
  (congrArg busy (markAll_withBusy t t.busy rs) : _)

theorem markAll_append (t : Tracer) (rs ss : List Ref) :
    t.markAll (rs ++ ss) = (t.markAll rs).markAll ss :=
  List.foldl_append

/-- What is left to do: the nodes to visit and the objects to mark. -/
def pending (t : Tracer) : Nat := t.worklist.length + t.heap.unmarked

theorem pending_mark (t : Tracer) (r : Ref) : (t.mark r).pending = t.pending := by
  rw [mark]
  split
  case h_1 heap hm =>
    have := Heap.unmarked_of_mark? hm
    simp only [pending, List.length_cons]
    omega
  case h_2 => rfl

theorem pending_markAll (t : Tracer) (rs : List Ref) : (t.markAll rs).pending = t.pending := by
  induction rs generalizing t with
  | nil => rfl
  | cons r rs ih => rw [markAll, List.foldl_cons, ← markAll, ih, pending_mark]

def drain (t : Tracer) : Tracer :=
  match _h : t.worklist with
  | [] => t
  | r :: rest => drain ({ t with worklist := rest }.markAll (t.heap.edges r))
termination_by t.pending
decreasing_by
  rw [pending_markAll]
  simp [pending, _h]

theorem worklist_drain (t : Tracer) : t.drain.worklist = [] := by
  fun_induction drain t with
  | case1 t h => exact h
  | case2 t r rest h ih => exact ih

end Tracer

end MarkSweep
