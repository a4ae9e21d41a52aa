import MarkSweep.Fault
import MarkSweep.Marking.Tracer

namespace MarkSweep

inductive Access where
  | shared
  | exclusive
deriving DecidableEq, Repr

inductive Borrow where
  | shared (readers : Nat)
  | exclusive
deriving DecidableEq, Repr

namespace Borrow

def unused : Borrow := shared 0

def acquire (b : Borrow) (a : Access) : Except Failure Borrow :=
  match b, a with
  | shared n, .shared => .ok (shared (n + 1))
  | shared 0, .exclusive => .ok exclusive
  | _, _ => .error .alreadyBorrowed

def release (b : Borrow) (a : Access) : Borrow :=
  match b, a with
  | shared n, .shared => shared (n - 1)
  | exclusive, .exclusive => unused
  | b, _ => b

end Borrow

inductive Traced where
  | inert
  | node (r : Ref)
  | slot (s : Slot)
  | skipped (content : Traced)
  | group (parts : List Traced)
  | cell (borrow : Borrow) (content : Traced)

namespace Traced

def ofNodes (rs : List Ref) : Traced := group (rs.map node)

mutual

/-- Marks every node that can be reached. A cell that is mutably borrowed is passed over and makes
the tracer busy. -/
def trace (t : Tracer) : Traced → Tracer
  | inert => t
  | node r => t.mark r
  | slot s => t.markSlot s
  | skipped _ => t
  | group parts => traceAll t parts
  | cell .exclusive _ => t.setBusy
  | cell (.shared _) content => trace t content

def traceAll (t : Tracer) : List Traced → Tracer
  | [] => t
  | v :: vs => traceAll (trace t v) vs

end

mutual

def nodes : Traced → List Ref
  | inert => []
  | node r => [r]
  | slot s => s.node?.toList
  | skipped _ => []
  | group parts => nodesAll parts
  | cell .exclusive _ => []
  | cell (.shared _) content => nodes content

def nodesAll : List Traced → List Ref
  | [] => []
  | v :: vs => nodes v ++ nodesAll vs

end

mutual

def isBlocked : Traced → Bool
  | inert => false
  | node _ => false
  | slot _ => false
  | skipped _ => false
  | group parts => isBlockedAny parts
  | cell .exclusive _ => true
  | cell (.shared _) content => isBlocked content

def isBlockedAny : List Traced → Bool
  | [] => false
  | v :: vs => isBlocked v || isBlockedAny vs

end

mutual

def describe : Traced → String
  | inert => "()"
  | node r => r.describe
  | slot _ => "_"
  | skipped content => describe content
  | group parts => "[" ++ ", ".intercalate (describeAll parts) ++ "]"
  | cell .exclusive _ => "RefCell \x7b value: <borrowed> \x7d"
  | cell (.shared _) content => "RefCell \x7b value: " ++ describe content ++ " \x7d"

def describeAll : List Traced → List String
  | [] => []
  | v :: vs => describe v :: describeAll vs

end

def push (v : Traced) (r : Ref) : Traced :=
  match v with
  | group parts => group (parts ++ [node r])
  | v => v

def parts : Traced → List Traced
  | group parts => parts
  | _ => []

def modifyCell (v : Traced) (i : Nat)
    (f : Borrow → Traced → Except Failure (Borrow × Traced)) : Except Failure Traced :=
  match v with
  | group parts =>
    match parts[i]? with
    | some (cell b content) => do
      let (b, content) ← f b content
      pure (group (parts.set i (cell b content)))
    | _ => .error (.breach (.cellOutOfBounds i parts.length))
  | _ => .error (.breach (.cellOutOfBounds i 0))

def readCell : Traced → Except Failure (List Ref)
  | cell .exclusive _ => .error .alreadyBorrowed
  | cell (.shared _) content => .ok content.nodes
  | v => .ok v.nodes

mutual

theorem trace_eq (t : Tracer) (v : Traced) :
    v.trace t = { t.markAll v.nodes with busy := t.busy || v.isBlocked } := by
  match v with
  | inert => simp [trace, nodes, isBlocked, Tracer.markAll]
  | node r =>
    have := Tracer.busy_mark t r
    simp [trace, nodes, isBlocked, Tracer.markAll, ← this]
  | slot .empty => simp [trace, nodes, isBlocked, Tracer.markAll, Tracer.markSlot, Slot.node?]
  | slot (.scalar _) =>
    simp [trace, nodes, isBlocked, Tracer.markAll, Tracer.markSlot, Slot.node?]
  | slot (.node r) =>
    have := Tracer.busy_mark t r
    simp [trace, nodes, isBlocked, Tracer.markAll, Tracer.markSlot, Slot.node?, ← this]
  | skipped _ => simp [trace, nodes, isBlocked, Tracer.markAll]
  | group parts => simpa only [trace, nodes, isBlocked] using traceAll_eq t parts
  | cell .exclusive _ => simp [trace, nodes, isBlocked, Tracer.markAll, Tracer.setBusy]
  | cell (.shared _) content => simpa only [trace, nodes, isBlocked] using trace_eq t content

theorem traceAll_eq (t : Tracer) (vs : List Traced) :
    traceAll t vs = { t.markAll (nodesAll vs) with busy := t.busy || isBlockedAny vs } := by
  match vs with
  | [] => simp [traceAll, nodesAll, isBlockedAny, Tracer.markAll]
  | v :: vs =>
    rw [traceAll, traceAll_eq, trace_eq, nodesAll, isBlockedAny, Tracer.markAll_append,
      Tracer.markAll_withBusy, Bool.or_assoc]

end

end Traced

end MarkSweep
