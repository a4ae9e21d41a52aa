import MarkSweep.Collector.Basic
import MarkSweep.Heap.Field

namespace MarkSweep

namespace Collector

def isLive (c : Collector) (r : Ref) : Bool := c.heap.isLive r

def header? (c : Collector) (r : Ref) : Option Header := c.heap.header? r

def kind? (c : Collector) (r : Ref) : Option Kind := (c.header? r).map Header.kind

def length? (c : Collector) (r : Ref) : Option Nat := (c.heap.object? r).map Object.length

def isVector (c : Collector) (r : Ref) : Bool := (c.heap.object? r).any Object.isVector

def slots? (c : Collector) (r : Ref) : Option (Array Slot) := (c.heap.object? r).bind Object.slots?

def slot? (c : Collector) (f : Field) : Option Slot := (c.slots? f.node).bind (·[f.index]?)

def bytes? (c : Collector) (r : Ref) : Option ByteArray := (c.heap.object? r).bind Object.bytes?

def flag? (c : Collector) (r : Ref) (f : Flag) : Option Bool := (c.header? r).map (·.flag f)

def string? (c : Collector) (r : Ref) : Option String :=
  match c.heap.resident? r with
  | some x => if x.header.kind = .string then x.object.text? else none
  | none => none

def setSlot (c : Collector) (f : Field) (value : Slot) : Except Fault Slot × Collector :=
  match c.heap.slotAt f with
  | .error e => (.error e, c)
  | .ok prior => (.ok prior, { c with heap := c.heap.writeSlot f value })

def setSlotTrailed (c : Collector) (f : Field) (value : Slot) : Except Fault Slot × Collector :=
  match c.heap.slotAt f with
  | .error e => (.error e, c)
  | .ok prior => (.ok prior, { c with
      heap := c.heap.writeSlot f value
      trail := c.trail.record f prior })

def alterChunk {α : Type} (c : Collector) (r : Ref)
    (f : (bytes : ByteArray) → α × { altered : ByteArray // altered.size = bytes.size }) :
    Except Fault α × Collector :=
  match c.heap.object? r with
  | some (.chunk bytes) =>
    (.ok (f bytes).1, { c with heap := c.heap.setObject r (.chunk (f bytes).2) })
  | some (.vector _) => (.error (.notAChunk r), c)
  | none => (.error (.staleNode r), c)

def writeChunk (c : Collector) (r : Ref) (start : Nat) (patch : ByteArray) :
    Except Fault Nat × Collector :=
  c.alterChunk r fun bytes =>
    (overwritten bytes start patch, ⟨overwrite bytes start patch, size_overwrite bytes start patch⟩)

def modifyHeader (c : Collector) (r : Ref) (f : Header → Header) : Except Fault Unit × Collector :=
  if c.isLive r then (.ok (), { c with heap := c.heap.modifyHeader r f })
  else (.error (.staleNode r), c)

def setFlag (c : Collector) (r : Ref) (f : Flag) (value : Bool) : Except Fault Unit × Collector :=
  c.modifyHeader r (·.setFlag f value)

def setSecondary (c : Collector) (r : Ref) (sec : UInt8) : Except Fault Unit × Collector :=
  c.modifyHeader r (·.withSecondary sec)

def checkpoint (c : Collector) : TrailMark × Collector :=
  let (mark, trail) := c.trail.checkpoint
  (mark, { c with trail })

def record (c : Collector) (f : Field) (prior : Slot) : Collector :=
  { c with trail := c.trail.record f prior }

/-- Writes back the entries that a rollback hands out. Vectors that are gone are passed over. -/
def undo (c : Collector) (handed : Except Fault (List Entry) × Trail) :
    Except Fault Nat × Collector :=
  match handed with
  | (.error e, trail) => (.error e, { c with trail })
  | (.ok entries, trail) => (.ok entries.length, { c with heap := c.heap.restore entries, trail })

def rollback (c : Collector) : Except Fault Nat × Collector := c.undo c.trail.retreat

def rollbackTo (c : Collector) (m : TrailMark) : Except Fault Nat × Collector :=
  c.undo (c.trail.retreatTo m)

def commit (c : Collector) : Except Fault Unit × Collector :=
  let (outcome, trail) := c.trail.merge
  (outcome, { c with trail })

end Collector

end MarkSweep
