import MarkSweep.Marking.Aggregate
import Std.Data.TreeMap

namespace MarkSweep

inductive Shape where
  | nodes
  | cells
  | bag
  | celled
  | slots
  | slot
  | first (count : Nat)
  | map
  | model
  | pair
  | expr
  | inert
deriving DecidableEq, Repr

namespace Shape

def pairUp (m : Std.TreeMap Ref (Option Ref)) : List Ref → Std.TreeMap Ref (Option Ref)
  | key :: value :: rest => pairUp (m.insert key (some value)) rest
  | [key] => m.insert key none
  | [] => m

def skipAt (parts : List Aggregate) (i : Nat) : Aggregate :=
  .derived (parts.mapIdx fun j v => (j == i, v))

def aggregate (shape : Shape) (held : List Slot) : Aggregate :=
  let refs := held.filterMap Slot.node?
  let parts := refs.map Aggregate.node
  match shape with
  | nodes => .sequence .vector parts
  | cells =>
    .sequence .vector (parts.map fun v => .refCell .unused (.sequence .vector [v]))
  | bag => .sequence .vector parts
  | celled => .refCell .unused (.sequence .vector parts)
  | slots => .sequence .vector (held.map .slot)
  | slot => .slot (held.headD .empty)
  | first count => .sequence .tuple (parts.take count)
  | map =>
    .map .ordered ((pairUp ∅ refs).toList.map fun (key, value) =>
      (.node key, .option (value.map .node)))
  | model => skipAt parts 1
  | pair => skipAt (parts.take 2) 1
  | expr =>
    match parts.length with
    | 0 | 1 | 2 => .derived (parts.map fun v => (false, v))
    | 3 => skipAt parts 0
    | _ => skipAt parts 1
  | inert => .plain

def build (shape : Shape) (held : List Slot) : Traced := (shape.aggregate held).traced

end Shape

end MarkSweep
