import MarkSweep.Heap.Basic
import MarkSweep.Trail

namespace MarkSweep

namespace Heap

def slotAt (h : Heap) (f : Field) : Except Fault Slot :=
  match h.object? f.node with
  | some (.vector slots) =>
    match slots[f.index]? with
    | some s => .ok s
    | none => .error (.slotOutOfBounds f.node f.index slots.size)
  | some (.chunk _) => .error (.notAVector f.node)
  | none => .error (.staleNode f.node)

def writeSlot (h : Heap) (f : Field) (value : Slot) : Heap :=
  h.modify f.node fun x =>
    match x.object with
    | .vector slots => { x with object := .vector (slots.setIfInBounds f.index value) }
    | .chunk _ => x

/-- Writes back what the entries recorded, from the first entry to the last. -/
def restore (h : Heap) (entries : List Entry) : Heap :=
  entries.foldl (fun h e => h.writeSlot e.field e.prior) h

theorem slotAt_eq_ok_iff {h : Heap} {f : Field} {s : Slot} :
    h.slotAt f = .ok s ↔
      ∃ slots, h.object? f.node = some (.vector slots) ∧ slots[f.index]? = some s := by
  rw [slotAt]
  split
  case h_1 slots ho => cases hs : slots[f.index]? <;> simp [ho, hs]
  case h_2 ho => simp [ho]
  case h_3 ho => simp [ho]

end Heap

end MarkSweep
