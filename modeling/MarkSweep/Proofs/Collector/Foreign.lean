import MarkSweep.Proofs.Collector.Order
import MarkSweep.Proofs.Collector.Writes
import MarkSweep.Proofs.Heap.Numbering

namespace MarkSweep

namespace Collector

def Edit.written? : Edit → Option Ref
  | setSlot f _ | setSlotTrailed f _ => some f.node
  | writeChunk r _ _ | setFlag r _ _ | setSecondary r _ => some r
  | _ => none

structure Disowns (c : Collector) (r : Ref) : Prop where
  isLive : c.isLive r = false
  header : c.header? r = none
  kind : c.kind? r = none
  length : c.length? r = none
  isVector : c.isVector r = false
  slots : c.slots? r = none
  slot : ∀ i, c.slot? ⟨r, i⟩ = none
  bytes : c.bytes? r = none
  flag : ∀ f, c.flag? r f = none
  string : c.string? r = none
  setSlot : ∀ i value, c.setSlot ⟨r, i⟩ value = (.error (.staleNode r), c)
  setSlotTrailed : ∀ i value, c.setSlotTrailed ⟨r, i⟩ value = (.error (.staleNode r), c)
  alterChunk : ∀ (α : Type)
    (f : (bytes : ByteArray) → α × { altered : ByteArray // altered.size = bytes.size }),
    c.alterChunk r f = (.error (.staleNode r), c)
  setFlag : ∀ f value, c.setFlag r f value = (.error (.staleNode r), c)
  setSecondary : ∀ sec, c.setSecondary r sec = (.error (.staleNode r), c)
  unchanged : ∀ e : Edit, e.written? = some r → e.apply c = c
  collected : ∀ {p p' : Process} {trigger : Trigger} {pinned : Option Ref} {m : Metrics}
    {c' : Collector}, c.collect p trigger pinned = (.ok m, c', p') →
    ∀ s, c'.isLive s ↔ c.heap.Reach (fun t => t ≠ r ∧ c.IsRoot p pinned t) s

variable {c : Collector} {r : Ref} {rs : List Ref}

theorem setSlot_of_dead (dead : c.isLive r = false) (i : Nat) (value : Slot) :
    c.setSlot ⟨r, i⟩ value = (.error (.staleNode r), c) :=
  ((c.isPrecise_setSlot ⟨r, i⟩ value).error _ _).mpr ⟨.stale dead, rfl⟩

theorem setSlotTrailed_of_dead (dead : c.isLive r = false) (i : Nat) (value : Slot) :
    c.setSlotTrailed ⟨r, i⟩ value = (.error (.staleNode r), c) :=
  ((c.isPrecise_setSlotTrailed ⟨r, i⟩ value).error _ _).mpr ⟨.stale dead, rfl⟩

theorem alterChunk_of_dead {α : Type} (dead : c.isLive r = false)
    (f : (bytes : ByteArray) → α × { altered : ByteArray // altered.size = bytes.size }) :
    c.alterChunk r f = (.error (.staleNode r), c) :=
  ((c.isPrecise_alterChunk r f).error _ _).mpr ⟨.inl ⟨dead, rfl⟩, rfl⟩

theorem modifyHeader_of_dead (dead : c.isLive r = false) (f : Header → Header) :
    c.modifyHeader r f = (.error (.staleNode r), c) := by
  rw [modifyHeader, dead]
  rfl

theorem edit_of_dead (dead : c.isLive r = false) {e : Edit} (written : e.written? = some r) :
    e.apply c = c := by
  cases e with
  | setSlot f value =>
    obtain ⟨_, i⟩ := f
    cases written
    rw [Edit.apply, setSlot_of_dead dead]
  | setSlotTrailed f value =>
    obtain ⟨_, i⟩ := f
    cases written
    rw [Edit.apply, setSlotTrailed_of_dead dead]
  | writeChunk =>
    cases written
    rw [Edit.apply, writeChunk, alterChunk_of_dead dead]
  | setFlag =>
    cases written
    rw [Edit.apply, setFlag, modifyHeader_of_dead dead]
  | setSecondary =>
    cases written
    rw [Edit.apply, setSecondary, modifyHeader_of_dead dead]
  | _ => cases written

theorem reach_of_dead (dead : c.isLive r = false) (roots : Ref → Prop) (s : Ref) :
    c.heap.Reach roots s ↔ c.heap.Reach (fun t => t ≠ r ∧ roots t) s := by
  constructor
  · apply Heap.Reach.mono
    intro t root live
    refine .root ⟨?_, root⟩ live
    rintro rfl
    rw [← isLive, dead] at live
    exact Bool.false_ne_true live
  · exact Heap.Reach.mono fun t root live => .root root.2 live

theorem disowns_of_dead (dead : c.isLive r = false) : c.Disowns r := by
  have gone : c.heap.resident? r = none := by
    rwa [isLive, Heap.isLive, Option.isSome_eq_false_iff, Option.isNone_iff_eq_none] at dead
  have object : c.heap.object? r = none := by rw [Heap.object?, gone, Option.map_none]
  have header : c.header? r = none := by rw [header?, Heap.header?, gone, Option.map_none]
  have slots : c.slots? r = none := by rw [slots?, object, Option.bind_none]
  exact {
    isLive := dead
    header
    kind := by rw [kind?, header, Option.map_none]
    length := by rw [length?, object, Option.map_none]
    isVector := by rw [isVector, object, Option.any_none]
    slots
    slot := fun i => by rw [slot?, slots, Option.bind_none]
    bytes := by rw [bytes?, object, Option.bind_none]
    flag := fun f => by rw [flag?, header, Option.map_none]
    string := by rw [string?, gone]
    setSlot := setSlot_of_dead dead
    setSlotTrailed := setSlotTrailed_of_dead dead
    alterChunk := fun _ => alterChunk_of_dead dead
    setFlag := fun _ _ => modifyHeader_of_dead dead _
    setSecondary := fun _ => modifyHeader_of_dead dead _
    unchanged := fun _ => edit_of_dead dead
    collected := fun done s => (isLive_collect done).trans (reach_of_dead dead _ s) }

theorem wanes_edit (c : Collector) (e : Edit) : c.heap.Wanes (e.apply c).heap := by
  rcases Edit.heap_cases c e with ⟨r, start, patch, rfl⟩ | ⟨-, ⟨entries, h⟩ | ⟨r, f, -, h⟩⟩
  · rcases Edit.writeChunk_cases c r start patch with h | ⟨bytes, -, h⟩
    · rw [h]
      exact .refl _
    · rw [h]
      exact c.heap.wanes_modify r _
  · rw [h]
    exact c.heap.wanes_restore entries
  · rw [h]
    exact c.heap.wanes_modify r _

theorem wanes_collect (hh : c.heap.Consistent) (p : Process) (trigger : Trigger)
    (pinned : Option Ref) : c.heap.Wanes (c.collect p trigger pinned).2.1.heap := by
  rcases collect_cases c p trigger pinned with ⟨_, e⟩ | ⟨_, e⟩ | ⟨_, _, e⟩
  · rw [e]
    exact .refl _
  · rw [e]
    exact .of_clearMarks c.heap.clearMarks_clearMarks
  · rw [e]
    have marks := clearMarks_markPhase c p.markers pinned
    exact (Heap.Wanes.of_clearMarks marks).trans (hh.of_clearMarks_eq marks).wanes_sweep

theorem wanes_tryTrigger (hh : c.heap.Consistent) (p : Process) :
    c.heap.Wanes (c.tryTrigger p).2.1.heap := by
  rw [tryTrigger]
  split
  · exact .refl _
  · exact wanes_collect hh p .manual none

theorem numbers_allocate (hh : c.heap.Consistent) (hn : c.heap.Numbers rs) (p : Process)
    (header : Header) (object : Object) :
    (c.allocate p header object).2.1.heap.Numbers (rs ++ [(c.allocate p header object).1]) := by
  have placed := hn.allocate hh header object
  rw [allocate_fst]
  rcases allocate_snd c p header object with e | ⟨trigger, e⟩
  · rw [e]
    exact placed
  · rw [e]
    exact placed.wanes (wanes_collect (c := c.place header object) (hh.allocate header object) p
      trigger _)

theorem disowns_place (hh : c.heap.Consistent) (p : Process) {header : Header} {object : Object}
    (other : (c.allocate p header object).1 ≠ r) (dead : c.isLive r = false) :
    (c.place header object).Disowns r := by
  apply disowns_of_dead
  rw [allocate_fst] at other
  rw [Bool.eq_false_iff, isLive, place, ne_eq, hh.isLive_allocate]
  rintro (rfl | live)
  · exact other rfl
  · rw [← isLive, dead] at live
    exact Bool.false_ne_true live

end Collector

end MarkSweep
