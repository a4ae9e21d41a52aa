import MarkSweep.Proofs.Collector.Constancy

namespace MarkSweep

namespace Trail

variable (t : Trail)

theorem record_eq (f : Field) (prior : Slot) : t.record f prior =
    if t.depth = 0 then t else { t with entries := ⟨f, prior⟩ :: t.entries } := by
  rw [record, depth]
  cases h : t.checkpoints <;> simp

theorem rollback_eq_error_iff (e : Fault) :
    t.rollback = .error e ↔ t.depth = 0 ∧ e = .noCheckpoint := by
  rw [rollback_eq, depth]
  cases t.checkpoints <;> simp [eq_comm]

theorem rollbackTo_eq_error_iff (m : TrailMark) (e : Fault) :
    t.rollbackTo m = .error e ↔ t.isOpen m = false ∧ e = .noCheckpoint := by
  rw [rollbackTo_eq]
  cases t.isOpen m <;> simp [eq_comm]

theorem commit_eq_error_iff (e : Fault) : t.commit = .error e ↔ t.depth = 0 ∧ e = .noCheckpoint := by
  rw [commit_eq, depth]
  rcases t.checkpoints with - | ⟨c, - | ⟨d, rest⟩⟩ <;> simp [eq_comm]

end Trail

namespace Heap

/-- Only the resident that the reference names is another one in the second heap. -/
structure Swaps (h : Heap) (r : Ref) (x x' : Resident) (h' : Heap) : Prop where
  before : h.resident? r = some x
  after : h'.resident? r = some x'
  others : ∀ s, s ≠ r → h'.resident? s = h.resident? s
  generation : ∀ i : Nat, h'.places[i]?.map Place.generation = h.places[i]?.map Place.generation
  reserved : ∀ i : Nat, h'.places[i]?.map Place.reserved = h.places[i]?.map Place.reserved
  rest : { h' with places := h.places } = h

theorem swaps_modify {h : Heap} {r : Ref} {x : Resident} (hx : h.resident? r = some x)
    (f : Resident → Resident) : h.Swaps r x (f x) (h.modify r f) where
  before := hx
  after := by rw [resident?_modify, if_pos rfl, hx, Option.map_some]
  others s ne := by rw [resident?_modify, if_neg ne.symm]
  generation i := by
    simp only [modify, Array.getElem?_modify]
    split
    · rw [Option.map_map]
      congr 1
      funext p
      simp only [Function.comp_apply]
      split <;> rfl
    · rfl
  reserved i := by
    simp only [modify, Array.getElem?_modify]
    split
    · rw [Option.map_map]
      congr 1
      funext p
      simp only [Function.comp_apply]
      split <;> rfl
    · rfl
  rest := rfl

end Heap

namespace Collector

inductive Denies (c : Collector) (f : Field) : Fault → Prop where
  | stale : c.isLive f.node = false → c.Denies f (.staleNode f.node)
  | chunk : c.isLive f.node → c.isVector f.node = false → c.Denies f (.notAVector f.node)
  | bounds {length : Nat} : c.isVector f.node → c.length? f.node = some length →
    length ≤ f.index → c.Denies f (.slotOutOfBounds f.node f.index length)

/-- A write that is refused for these reasons and then leaves the collector alone, and otherwise
makes this change to one resident, which keeps its length, and leaves this trail. -/
structure IsPrecise {α : Type} (c : Collector) (r : Ref) (outcome : Except Fault α × Collector)
    (denied : Fault → Prop) (change : Resident → α → Resident → Prop) (trail : α → Trail) :
    Prop where
  error : ∀ e c', outcome = (.error e, c') ↔ denied e ∧ c' = c
  ok : ∀ a c', outcome = (.ok a, c') → ∃ x x' heap, change x a x' ∧
    x'.object.length = x.object.length ∧ c.heap.Swaps r x x' heap ∧
    c' = { c with heap, trail := trail a }

theorem IsPrecise.mono {α : Type} {c : Collector} {r : Ref} {outcome : Except Fault α × Collector}
    {denied : Fault → Prop} {change change' : Resident → α → Resident → Prop} {trail : α → Trail}
    (precise : c.IsPrecise r outcome denied change trail)
    (weaker : ∀ x a x', change x a x' → change' x a x') :
    c.IsPrecise r outcome denied change' trail where
  error := precise.error
  ok a c' done := by
    obtain ⟨x, x', heap, made, rest⟩ := precise.ok a c' done
    exact ⟨x, x', heap, weaker x a x' made, rest⟩

def SlotChange (f : Field) (value : Slot) (x : Resident) (prior : Slot) (x' : Resident) : Prop :=
  ∃ slots, x.object = .vector slots ∧ slots[f.index]? = some prior ∧
    x' = { x with object := .vector (slots.setIfInBounds f.index value) }

section

variable (c : Collector)

theorem isLive_eq_false_iff (r : Ref) : c.isLive r = false ↔ c.heap.object? r = none := by
  rw [isLive, Heap.isLive_eq_isSome_object?, Option.isSome_eq_false_iff, Option.isNone_iff_eq_none]

theorem isVector_iff (r : Ref) :
    c.isVector r ↔ ∃ slots, c.heap.object? r = some (.vector slots) := by
  rw [isVector]
  rcases c.heap.object? r with - | bytes | slots
  · simp
  · simp [Object.isVector, Object.slots?]
  · simp [Object.isVector, Object.slots?]

theorem exists_chunk_iff (r : Ref) : c.isLive r ∧ c.isVector r = false ↔
    ∃ bytes, c.heap.object? r = some (.chunk bytes) := by
  rw [isLive, Heap.isLive_eq_isSome_object?, isVector]
  rcases c.heap.object? r with - | bytes | slots
  · simp
  · simp [Object.isVector, Object.slots?]
  · simp [Object.isVector, Object.slots?]

theorem slotAt_eq_error_iff (f : Field) (e : Fault) :
    c.heap.slotAt f = .error e ↔ c.Denies f e := by
  constructor
  · intro h
    rw [Heap.slotAt] at h
    split at h
    case h_1 slots object =>
      split at h
      case h_1 => cases h
      case h_2 outside =>
        cases h
        have length : c.length? f.node = some slots.size := by rw [length?, object]; rfl
        exact .bounds ((c.isVector_iff _).mpr ⟨slots, object⟩) length
          (Array.getElem?_eq_none_iff.mp outside)
    case h_2 bytes object =>
      cases h
      obtain ⟨live, plain⟩ := (c.exists_chunk_iff _).mpr ⟨bytes, object⟩
      exact .chunk live plain
    case h_3 gone =>
      cases h
      exact .stale ((c.isLive_eq_false_iff _).mpr gone)
  · intro denied
    cases denied with
    | stale dead => rw [Heap.slotAt, (c.isLive_eq_false_iff _).mp dead]
    | chunk live plain =>
      obtain ⟨bytes, object⟩ := (c.exists_chunk_iff _).mp ⟨live, plain⟩
      rw [Heap.slotAt, object]
    | bounds vector length past =>
      obtain ⟨slots, object⟩ := (c.isVector_iff _).mp vector
      rw [length?, object] at length
      cases length
      have outside : slots[f.index]? = none := Array.getElem?_eq_none_iff.mpr past
      simp only [Heap.slotAt, object, outside]
      rfl

theorem swaps_writeSlot {f : Field} {prior : Slot} (h : c.heap.slotAt f = .ok prior) (value : Slot) :
    ∃ x x', SlotChange f value x prior x' ∧ x'.object.length = x.object.length ∧
      c.heap.Swaps f.node x x' (c.heap.writeSlot f value) := by
  obtain ⟨slots, object, inside⟩ := Heap.slotAt_eq_ok_iff.mp h
  obtain ⟨x, hx, e⟩ := Option.map_eq_some_iff.mp object
  have swaps : c.heap.Swaps f.node x _ (c.heap.writeSlot f value) := Heap.swaps_modify hx _
  simp only [e] at swaps
  refine ⟨x, _, ⟨slots, e, inside, rfl⟩, ?_, swaps⟩
  rw [e]
  exact Array.size_setIfInBounds

theorem isPrecise_write (f : Field) (value : Slot) {trail : Slot → Trail}
    {outcome : Except Fault Slot × Collector}
    (refused : ∀ e, c.heap.slotAt f = .error e → outcome = (.error e, c))
    (written : ∀ prior, c.heap.slotAt f = .ok prior →
      outcome = (.ok prior, { c with heap := c.heap.writeSlot f value, trail := trail prior })) :
    c.IsPrecise f.node outcome (c.Denies f) (SlotChange f value) trail := by
  constructor
  · intro e c'
    rw [← slotAt_eq_error_iff]
    cases read : c.heap.slotAt f with
    | error e' =>
      rw [refused e' read]
      simp [eq_comm]
    | ok prior =>
      rw [written prior read]
      simp
  · intro prior c' done
    cases read : c.heap.slotAt f with
    | error e =>
      rw [refused e read] at done
      cases done
    | ok prior' =>
      rw [written prior' read] at done
      cases done
      obtain ⟨x, x', change, length, swaps⟩ := c.swaps_writeSlot read value
      exact ⟨x, x', _, change, length, swaps, rfl⟩

theorem isPrecise_setSlot (f : Field) (value : Slot) :
    c.IsPrecise f.node (c.setSlot f value) (c.Denies f) (SlotChange f value) fun _ => c.trail := by
  refine c.isPrecise_write f value (fun e read => ?_) fun prior read => ?_
  · rw [setSlot, read]
  · rw [setSlot, read]

theorem isPrecise_setSlotTrailed (f : Field) (value : Slot) :
    c.IsPrecise f.node (c.setSlotTrailed f value) (c.Denies f) (SlotChange f value)
      fun prior => if c.trail.depth = 0 then c.trail
        else { c.trail with entries := ⟨f, prior⟩ :: c.trail.entries } := by
  refine c.isPrecise_write f value (fun e read => ?_) fun prior read => ?_
  · rw [setSlotTrailed, read]
  · rw [setSlotTrailed, read, ← Trail.record_eq]

theorem isPrecise_alterChunk {α : Type} (r : Ref)
    (f : (bytes : ByteArray) → α × { altered : ByteArray // altered.size = bytes.size }) :
    c.IsPrecise r (c.alterChunk r f)
      (fun e => c.isLive r = false ∧ e = .staleNode r ∨ c.isVector r ∧ e = .notAChunk r)
      (fun x a x' => ∃ bytes, x.object = .chunk bytes ∧ a = (f bytes).1 ∧
        x' = { x with object := .chunk (f bytes).2 })
      fun _ => c.trail := by
  rw [isLive_eq_false_iff, isVector_iff, alterChunk]
  cases object : c.heap.object? r with
  | none =>
    constructor
    · intro e c'
      simp [eq_comm]
    · rintro _ _ ⟨⟩
  | some o =>
    cases o with
    | vector slots =>
      constructor
      · intro e c'
        simp [eq_comm]
      · rintro _ _ ⟨⟩
    | chunk bytes =>
      constructor
      · intro e c'
        simp
      · rintro _ _ ⟨⟩
        obtain ⟨x, hx, e⟩ := Option.map_eq_some_iff.mp object
        have swaps := Heap.swaps_modify hx fun x => { x with object := .chunk (f bytes).2 }
        refine ⟨x, _, _, ⟨bytes, e, rfl, rfl⟩, ?_, swaps, rfl⟩
        rw [e]
        exact (f bytes).2.property

theorem isPrecise_modifyHeader (r : Ref) (f : Header → Header) :
    c.IsPrecise r (c.modifyHeader r f)
      (fun e => c.isLive r = false ∧ e = .staleNode r)
      (fun x _ x' => x' = { x with header := f x.header }) fun _ => c.trail := by
  rw [modifyHeader]
  cases live : c.isLive r with
  | false =>
    constructor
    · intro e c'
      simp [eq_comm]
    · rintro _ _ ⟨⟩
  | true =>
    constructor
    · intro e c'
      simp
    · rintro _ _ ⟨⟩
      obtain ⟨x, hx⟩ := Option.isSome_iff_exists.mp live
      have swaps := Heap.swaps_modify hx fun x => { x with header := f x.header }
      exact ⟨x, _, _, rfl, rfl, swaps, rfl⟩

theorem undo_eq_error_iff {handed : Except Fault (List Entry) × Trail}
    (spared : ∀ e, Trail.paired handed = .error e → handed = (.error e, c.trail)) (e : Fault)
    (c' : Collector) : c.undo handed = (.error e, c') ↔ Trail.paired handed = .error e ∧ c' = c := by
  obtain ⟨e' | entries, trail⟩ := handed
  · cases spared e' rfl
    have same : c.undo (.error e', c.trail) = (.error e', c) := rfl
    rw [same]
    simp [Trail.paired, eq_comm]
  · simp [undo, Trail.paired]

theorem rollback_eq_error_iff (e : Fault) (c' : Collector) :
    c.rollback = (.error e, c') ↔ c.trail.depth = 0 ∧ e = .noCheckpoint ∧ c' = c := by
  rw [rollback, undo_eq_error_iff c fun _ => Trail.retreat_of_error, ← and_assoc]
  exact and_congr_left' (c.trail.rollback_eq_error_iff e)

theorem rollbackTo_eq_error_iff (m : TrailMark) (e : Fault) (c' : Collector) :
    c.rollbackTo m = (.error e, c') ↔ c.trail.isOpen m = false ∧ e = .noCheckpoint ∧ c' = c := by
  rw [rollbackTo, undo_eq_error_iff c fun _ => Trail.retreatTo_of_error, ← and_assoc]
  exact and_congr_left' (c.trail.rollbackTo_eq_error_iff m e)

theorem commit_eq_error_iff (e : Fault) (c' : Collector) :
    c.commit = (.error e, c') ↔ c.trail.depth = 0 ∧ e = .noCheckpoint ∧ c' = c := by
  rw [← and_assoc, ← c.trail.commit_eq_error_iff, commit]
  cases h : c.trail.commit with
  | error e' =>
    rw [Trail.merge_of_error h]
    show (Except.error e', c) = (Except.error e, c') ↔ _
    simp [eq_comm]
  | ok trail =>
    rw [Trail.merge_of_ok h]
    simp

end

end Collector

end MarkSweep
