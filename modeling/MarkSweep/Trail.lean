import MarkSweep.Fault
import MarkSweep.Node.Object

/-!
The trail: a log of overwritten slots, cut into stretches by checkpoints. Rolling back hands out
the latest stretch, newest entry first, and closes its checkpoint.
-/

namespace MarkSweep

structure Field where
  node : Ref
  index : Nat
deriving DecidableEq, Repr

structure Entry where
  field : Field
  prior : Slot
deriving DecidableEq, Repr

/-- Names one checkpoint, and no later one of the same depth. -/
structure TrailMark where
  depth : Nat
  serial : Nat
deriving DecidableEq, Repr

instance : Ord TrailMark where
  compare := compareLex (compareOn TrailMark.depth) (compareOn TrailMark.serial)

structure Checkpoint where
  start : Nat
  serial : Nat
deriving DecidableEq, Repr

structure Trail where
  entries : List Entry := []
  checkpoints : List Checkpoint := []
  nextSerial : Nat := 0
deriving DecidableEq, Repr

namespace Trail

def depth (t : Trail) : Nat := t.checkpoints.length

def length (t : Trail) : Nat := t.entries.length

def checkpoint (t : Trail) : TrailMark × Trail :=
  (⟨t.depth + 1, t.nextSerial⟩,
    { t with
      checkpoints := ⟨t.length, t.nextSerial⟩ :: t.checkpoints
      nextSerial := t.nextSerial + 1 })

/-- Without an open checkpoint there is nothing to roll back to, and nothing is recorded. -/
def record (t : Trail) (field : Field) (prior : Slot) : Trail :=
  if t.checkpoints.isEmpty then t else { t with entries := ⟨field, prior⟩ :: t.entries }

def paired {α : Type} : Except Fault α × Trail → Except Fault (α × Trail)
  | (.ok a, t) => .ok (a, t)
  | (.error e, _) => .error e

def retreat (t : Trail) : Except Fault (List Entry) × Trail :=
  match t.checkpoints with
  | [] => (.error .noCheckpoint, t)
  | c :: rest =>
    let count := t.length - c.start
    (.ok (t.entries.take count), { t with entries := t.entries.drop count, checkpoints := rest })

def rollback (t : Trail) : Except Fault (List Entry × Trail) := paired t.retreat

def unwind (t : Trail) : Nat → List Entry × Trail
  | 0 => ([], t)
  | n + 1 =>
    match t.rollback with
    | .error _ => ([], t)
    | .ok (entries, t) =>
      let (outer, t) := t.unwind n
      (entries ++ outer, t)

def checkpointAt? (t : Trail) (depth : Nat) : Option Checkpoint :=
  if depth = 0 then none else t.checkpoints.reverse[depth - 1]?

def isOpen (t : Trail) (m : TrailMark) : Bool :=
  (t.checkpointAt? m.depth).any (·.serial == m.serial)

/-- Rolls back every checkpoint down to the marked one, which is closed as well. -/
def retreatTo (t : Trail) (m : TrailMark) : Except Fault (List Entry) × Trail :=
  if t.isOpen m then
    let (entries, t) := t.unwind (t.depth + 1 - m.depth)
    (.ok entries, t)
  else (.error .noCheckpoint, t)

def rollbackTo (t : Trail) (m : TrailMark) : Except Fault (List Entry × Trail) :=
  paired (t.retreatTo m)

/-- Closes the innermost checkpoint. Its entries pass to the one around it, if there is one. -/
def merge (t : Trail) : Except Fault Unit × Trail :=
  match t.checkpoints with
  | [] => (.error .noCheckpoint, t)
  | [_] => (.ok (), { t with entries := [], checkpoints := [] })
  | _ :: rest => (.ok (), { t with checkpoints := rest })

def commit (t : Trail) : Except Fault Trail := (paired t.merge).map Prod.snd

def priorNodes (t : Trail) : List Ref := t.entries.reverse.filterMap (·.prior.node?)

end Trail

end MarkSweep
