import MarkSweep.Node.Ref

namespace MarkSweep

def headerBytes : Nat := 16

def slotBytes : Nat := 8

def roundUp8 (n : Nat) : Nat := (n + 7) / 8 * 8

inductive Slot where
  | empty
  | node (target : Ref)
  | scalar (value : UInt64)
deriving DecidableEq, Repr, Inhabited

namespace Slot

def node? : Slot → Option Ref
  | node target => some target
  | _ => none

def scalar? : Slot → Option UInt64
  | scalar value => some value
  | _ => none

def ofNode? : Option Ref → Slot
  | some target => node target
  | none => empty

end Slot

inductive Object where
  | chunk (bytes : ByteArray)
  | vector (slots : Array Slot)
deriving Inhabited

namespace Object

def length : Object → Nat
  | chunk bytes => bytes.size
  | vector slots => slots.size

def footprint : Object → Nat
  | chunk bytes => roundUp8 (headerBytes + bytes.size)
  | vector slots => roundUp8 (headerBytes + slots.size * slotBytes)

def bytes? : Object → Option ByteArray
  | chunk bytes => some bytes
  | vector _ => none

def slots? : Object → Option (Array Slot)
  | chunk _ => none
  | vector slots => some slots

def isVector (o : Object) : Bool := o.slots?.isSome

def edges : Object → List Ref
  | chunk _ => []
  | vector slots => slots.toList.filterMap Slot.node?

def zeros (length : Nat) : Object := chunk ⟨Array.replicate length 0⟩

def emptySlots (length : Nat) : Object := vector (Array.replicate length .empty)

def text? : Object → Option String
  | chunk bytes => String.fromUTF8? bytes
  | vector _ => none

end Object

def overwrite (bytes : ByteArray) (start : Nat) (patch : ByteArray) : ByteArray :=
  ⟨bytes.data.mapIdx fun i b => if start ≤ i then patch.data.getD (i - start) b else b⟩

def overwritten (bytes : ByteArray) (start : Nat) (patch : ByteArray) : Nat :=
  min patch.size (bytes.size - start)

theorem size_overwrite (bytes : ByteArray) (start : Nat) (patch : ByteArray) :
    (overwrite bytes start patch).size = bytes.size :=
  Array.size_mapIdx

theorem le_roundUp8 (n : Nat) : n ≤ roundUp8 n := by
  simp only [roundUp8]
  omega

theorem roundUp8_le {n m : Nat} (h : n ≤ m) (hm : m % 8 = 0) : roundUp8 n ≤ m := by
  simp only [roundUp8]
  omega

end MarkSweep
