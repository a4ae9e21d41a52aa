import MarkSweep.Proofs.Collector.Sparing
import MarkSweep.Proofs.Heap.Restore
import MarkSweep.Proofs.Trail.Stretch

namespace MarkSweep

theorem bind_eq_ok {ε α β : Type} {x : Except ε α} {f : α → Except ε β} {b : β} :
    x >>= f = .ok b ↔ ∃ a, x = .ok a ∧ f a = .ok b := by
  cases x with
  | error e =>
    constructor
    · intro h
      cases h
    · rintro ⟨a, h, -⟩
      cases h
  | ok a =>
    constructor
    · exact fun h => ⟨a, rfl, h⟩
    · rintro ⟨a', h, hb⟩
      cases h
      exact hb

namespace Collector

inductive Edit where
  | lock
  | unlock
  | setSlot (f : Field) (value : Slot)
  | setSlotTrailed (f : Field) (value : Slot)
  | writeChunk (r : Ref) (start : Nat) (patch : ByteArray)
  | setFlag (r : Ref) (f : Flag) (value : Bool)
  | setSecondary (r : Ref) (sec : UInt8)
  | checkpoint
  | record (f : Field) (prior : Slot)
  | rollback
  | rollbackTo (m : TrailMark)
  | commit

def Edit.apply (c : Collector) : Edit → Collector
  | lock => c.lock.2
  | unlock => c.unlock.2
  | setSlot f value => (c.setSlot f value).2
  | setSlotTrailed f value => (c.setSlotTrailed f value).2
  | writeChunk r start patch => (c.writeChunk r start patch).2
  | setFlag r f value => (c.setFlag r f value).2
  | setSecondary r sec => (c.setSecondary r sec).2
  | checkpoint => c.checkpoint.2
  | record f prior => c.record f prior
  | rollback => c.rollback.2
  | rollbackTo m => (c.rollbackTo m).2
  | commit => c.commit.2

namespace Edit

variable {c : Collector}

theorem lock_apply (c : Collector) :
    (lock.apply c).heap = c.heap ∧ (lock.apply c).trail = c.trail := by
  rw [apply, Collector.lock]
  split
  · exact ⟨rfl, rfl⟩
  · exact ⟨rfl, rfl⟩

theorem unlock_apply (c : Collector) :
    (unlock.apply c).heap = c.heap ∧ (unlock.apply c).trail = c.trail := by
  rw [apply, Collector.unlock]
  split
  · exact ⟨rfl, rfl⟩
  · exact ⟨rfl, rfl⟩

theorem setSlot_cases (c : Collector) (f : Field) (value : Slot) :
    (setSlot f value).apply c = c ∨
      (setSlot f value).apply c = { c with heap := c.heap.writeSlot f value } := by
  rw [apply, Collector.setSlot]
  cases c.heap.slotAt f with
  | error e => exact .inl rfl
  | ok prior => exact .inr rfl

theorem setSlotTrailed_cases (c : Collector) (f : Field) (value : Slot) :
    (setSlotTrailed f value).apply c = c ∨ ∃ prior, c.heap.slotAt f = .ok prior ∧
      (setSlotTrailed f value).apply c =
        { c with heap := c.heap.writeSlot f value, trail := c.trail.record f prior } := by
  rw [apply, Collector.setSlotTrailed]
  cases c.heap.slotAt f with
  | error e => exact .inl rfl
  | ok prior => exact .inr ⟨prior, rfl, rfl⟩

theorem writeChunk_cases (c : Collector) (r : Ref) (start : Nat) (patch : ByteArray) :
    (writeChunk r start patch).apply c = c ∨ ∃ bytes, c.heap.object? r = some (.chunk bytes) ∧
      (writeChunk r start patch).apply c =
        { c with heap := c.heap.setObject r (.chunk (overwrite bytes start patch)) } := by
  rw [apply, Collector.writeChunk, alterChunk]
  split
  case h_1 bytes ho => exact .inr ⟨bytes, ho, rfl⟩
  case h_2 => exact .inl rfl
  case h_3 => exact .inl rfl

theorem modifyHeader_cases (c : Collector) (r : Ref) (f : Header → Header) :
    (c.modifyHeader r f).2 = c ∨
      (c.modifyHeader r f).2 = { c with heap := c.heap.modifyHeader r f } := by
  rw [Collector.modifyHeader]
  split
  · exact .inr rfl
  · exact .inl rfl

theorem undo_cases (c : Collector) {handed : Except Fault (List Entry) × Trail}
    (spared : ∀ e, Trail.paired handed = .error e → handed = (.error e, c.trail)) :
    (c.undo handed).2 = c ∨ ∃ entries trail, Trail.paired handed = .ok (entries, trail) ∧
      (c.undo handed).2 = { c with heap := c.heap.restore entries, trail } := by
  obtain ⟨e | entries, trail⟩ := handed
  · cases spared e rfl
    exact .inl rfl
  · exact .inr ⟨entries, trail, rfl, rfl⟩

theorem rollback_cases (c : Collector) :
    rollback.apply c = c ∨ ∃ entries trail, c.trail.rollback = .ok (entries, trail) ∧
      rollback.apply c = { c with heap := c.heap.restore entries, trail } :=
  undo_cases c fun _ => Trail.retreat_of_error

theorem rollbackTo_cases (c : Collector) (m : TrailMark) :
    (rollbackTo m).apply c = c ∨ ∃ entries trail, c.trail.rollbackTo m = .ok (entries, trail) ∧
      (rollbackTo m).apply c = { c with heap := c.heap.restore entries, trail } :=
  undo_cases c fun _ => Trail.retreatTo_of_error

theorem commit_cases (c : Collector) :
    commit.apply c = c ∨
      ∃ trail, c.trail.commit = .ok trail ∧ commit.apply c = { c with trail } := by
  rw [apply, Collector.commit]
  cases h : c.trail.commit with
  | error e =>
    rw [Trail.merge_of_error h]
    exact .inl rfl
  | ok trail =>
    rw [Trail.merge_of_ok h]
    exact .inr ⟨trail, rfl, rfl⟩

theorem consistent_modifyHeader (hh : c.heap.Consistent) (r : Ref) (f : Header → Header) :
    (c.modifyHeader r f).2.heap.Consistent := by
  rcases modifyHeader_cases c r f with e | e
  · rwa [e]
  · rw [e]
    exact hh.modify r _

theorem consistent_apply (hh : c.heap.Consistent) (e : Edit) : (e.apply c).heap.Consistent := by
  cases e with
  | lock => rwa [(lock_apply c).1]
  | unlock => rwa [(unlock_apply c).1]
  | setSlot f value =>
    rcases setSlot_cases c f value with e | e
    · rwa [e]
    · rw [e]
      exact hh.writeSlot f value
  | setSlotTrailed f value =>
    rcases setSlotTrailed_cases c f value with e | ⟨prior, -, e⟩
    · rwa [e]
    · rw [e]
      exact hh.writeSlot f value
  | writeChunk r start patch =>
    rcases writeChunk_cases c r start patch with e | ⟨bytes, -, e⟩
    · rwa [e]
    · rw [e]
      exact hh.modify r _
  | setFlag r f value => exact consistent_modifyHeader hh r _
  | setSecondary r sec => exact consistent_modifyHeader hh r _
  | checkpoint => exact hh
  | record f prior => exact hh
  | rollback =>
    rcases rollback_cases c with e | ⟨entries, trail, -, e⟩
    · rwa [e]
    · rw [e]
      exact hh.restore entries
  | rollbackTo m =>
    rcases rollbackTo_cases c m with e | ⟨entries, trail, -, e⟩
    · rwa [e]
    · rw [e]
      exact hh.restore entries
  | commit =>
    rcases commit_cases c with e | ⟨trail, -, e⟩
    · rwa [e]
    · rwa [e]

theorem spares_writeChunk (c : Collector) (r : Ref) (start : Nat) (patch : ByteArray) :
    c.Spares ((writeChunk r start patch).apply c) := by
  rcases writeChunk_cases c r start patch with e | ⟨bytes, ho, e⟩
  · rw [e]
    exact .of_eq rfl rfl
  · rw [e]
    refine Spares.of_grows rfl ?_ ?_
    · intro s hl
      exact (Heap.isLive_modify c.heap r s _).trans hl
    · intro s slots hs
      have other : r ≠ s := by
        rintro rfl
        rw [ho] at hs
        cases hs
      exact (Heap.object?_modify_of_ne c.heap other _).trans hs

theorem spares_modifyHeader (c : Collector) (r : Ref) (f : Header → Header) :
    c.Spares (c.modifyHeader r f).2 := by
  rcases modifyHeader_cases c r f with e | e
  · rw [e]
    exact .of_eq rfl rfl
  · rw [e]
    refine Spares.of_grows rfl ?_ ?_
    · intro s hl
      exact (Heap.isLive_modify c.heap r s _).trans hl
    · intro s slots hs
      exact (c.heap.object?_modifyHeader r s f).trans hs

end Edit

end Collector

end MarkSweep
