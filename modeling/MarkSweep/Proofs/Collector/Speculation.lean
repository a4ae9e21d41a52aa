import MarkSweep.Proofs.Collector.Edit
import MarkSweep.Proofs.Trail.Stretch

/-!
What makes speculation safe. From a checkpoint on, restoring the entries recorded since gives every
vector that is still there the slots it had, and the nodes in those slots are still there too: each
is in the vector now or is the prior of an entry, and collections spare both.
-/

namespace MarkSweep

namespace Collector

/-- The state of `base` can be had back from `c`, at least for the nodes in `kept`. -/
structure Undoable (base c : Collector) (pending : List Entry) (kept : Ref → Prop) : Prop where
  since : base.trail.Since c.trail pending
  restored : ∀ v slots, base.heap.object? v = some (.vector slots) → kept v →
    (c.heap.restore pending).object? v = some (.vector slots)
  spared : ∀ v slots target, base.heap.object? v = some (.vector slots) → kept v →
    .node target ∈ slots → base.isLive target → c.isLive target

def Edit.IsTrailed : Edit → Prop
  | setSlot _ _ => False
  | record _ _ => False
  | _ => True

namespace Undoable

variable {base c c' : Collector} {pending : List Entry} {kept kept' : Ref → Prop}

theorem start (base : Collector) (kept : Ref → Prop) :
    base.Undoable base.checkpoint.2 [] kept where
  since := base.trail.since_checkpoint
  restored _ _ hv _ := hv
  spared _ _ _ _ _ _ hl := hl

theorem mono (h : base.Undoable c pending kept) (le : ∀ r, kept' r → kept r) :
    base.Undoable c pending kept' where
  since := h.since
  restored v slots hv hk := h.restored v slots hv (le v hk)
  spared v slots target hv hk := h.spared v slots target hv (le v hk)

theorem exists_current (h : base.Undoable c pending kept) {v : Ref} {slots : Array Slot}
    (hv : base.heap.object? v = some (.vector slots)) (hk : kept v) :
    ∃ current, c.heap.object? v = some (.vector current) ∧
      (Object.vector current).restore v pending = .vector slots := by
  have restored := h.restored v slots hv hk
  rw [Heap.object?_restore] at restored
  obtain ⟨o, ho, hr⟩ := Option.map_eq_some_iff.mp restored
  obtain ⟨current, rfl⟩ := Object.exists_of_restore_eq_vector hr
  exact ⟨current, ho, hr⟩

theorem spares (h : base.Undoable c pending kept) (step : c.Spares c')
    (live : ∀ r, kept r → c'.isLive r) : base.Undoable c' pending kept where
  since := by
    rw [step.trail]
    exact h.since
  restored v slots hv hk := by
    obtain ⟨current, ho, hr⟩ := h.exists_current hv hk
    rw [Heap.object?_restore, step.vectors v current ho (live v hk), Option.map_some, hr]
  spared v slots target hv hk ht hb := by
    have now := h.spared v slots target hv hk ht hb
    obtain ⟨current, ho, hr⟩ := h.exists_current hv hk
    rcases Object.mem_slots_restore hr ht with hm | ⟨e, he, hp⟩
    · exact step.edges v target (live v hk) ((Heap.mem_edges ho).mpr hm) now
    · refine step.priors e ?_ target hp now
      rw [h.since.entries_eq]
      exact List.mem_append_left _ he

theorem write (h : base.Undoable c pending kept) {f : Field} {prior : Slot}
    (hp : c.heap.slotAt f = .ok prior) (value : Slot) :
    base.Undoable
      { c with heap := c.heap.writeSlot f value, trail := c.trail.record f prior }
      (⟨f, prior⟩ :: pending) kept where
  since := h.since.record f prior
  restored v slots hv hk := by
    rw [Heap.object?_restore_writeSlot hp]
    exact h.restored v slots hv hk
  spared v slots target hv hk ht hb := by
    rw [isLive, Heap.isLive_writeSlot]
    exact h.spared v slots target hv hk ht hb

theorem undo {entries rest : List Entry} {trail : Trail}
    (h : base.Undoable c (entries ++ rest) kept) (since : base.trail.Since trail rest) :
    base.Undoable { c with heap := c.heap.restore entries, trail } rest kept where
  since := since
  restored v slots hv hk := by
    rw [← Heap.restore_append]
    exact h.restored v slots hv hk
  spared v slots target hv hk ht hb := by
    rw [isLive, Heap.isLive_restore]
    exact h.spared v slots target hv hk ht hb

theorem withTrail (h : base.Undoable c pending kept) {trail : Trail}
    (since : base.trail.Since trail pending) : base.Undoable { c with trail } pending kept where
  since := since
  restored := h.restored
  spared := h.spared

theorem edit (h : base.Undoable c pending kept) {e : Edit} (trailed : e.IsTrailed)
    (deep : base.trail.depth < (e.apply c).trail.depth)
    (live : ∀ r, kept r → (e.apply c).isLive r) :
    ∃ pending, base.Undoable (e.apply c) pending kept := by
  cases e with
  | lock =>
    obtain ⟨heap, trail⟩ := Edit.lock_apply c
    exact ⟨pending, h.spares (.of_eq heap trail) live⟩
  | unlock =>
    obtain ⟨heap, trail⟩ := Edit.unlock_apply c
    exact ⟨pending, h.spares (.of_eq heap trail) live⟩
  | setSlot f value => cases trailed
  | setSlotTrailed f value =>
    rcases Edit.setSlotTrailed_cases c f value with e | ⟨prior, hp, e⟩
    · rw [e]
      exact ⟨pending, h⟩
    · rw [e]
      exact ⟨_, h.write hp value⟩
  | writeChunk r start patch =>
    exact ⟨pending, h.spares (Edit.spares_writeChunk c r start patch) live⟩
  | setFlag r f value => exact ⟨pending, h.spares (Edit.spares_modifyHeader c r _) live⟩
  | setSecondary r sec => exact ⟨pending, h.spares (Edit.spares_modifyHeader c r _) live⟩
  | checkpoint => exact ⟨pending, h.withTrail h.since.checkpoint⟩
  | record f prior => cases trailed
  | rollback =>
    rcases Edit.rollback_cases c with e | ⟨entries, trail, rolled, e⟩
    · rw [e]
      exact ⟨pending, h⟩
    · rw [e] at deep ⊢
      obtain ⟨rest, rfl, since⟩ := h.since.rollback rolled deep
      exact ⟨rest, h.undo since⟩
  | rollbackTo m =>
    rcases Edit.rollbackTo_cases c m with e | ⟨entries, trail, rolled, e⟩
    · rw [e]
      exact ⟨pending, h⟩
    · rw [e] at deep ⊢
      obtain ⟨rest, rfl, since⟩ := h.since.rollbackTo rolled deep
      exact ⟨rest, h.undo since⟩
  | commit =>
    rcases Edit.commit_cases c with e | ⟨trail, committed, e⟩
    · rw [e]
      exact ⟨pending, h⟩
    · rw [e] at deep ⊢
      exact ⟨pending, h.withTrail (h.since.commit committed deep)⟩

theorem close (h : base.Undoable c pending kept) :
    ∃ n c', c.rollbackTo base.checkpoint.1 = (.ok n, c') ∧
      c'.trail.entries = base.trail.entries ∧ c'.trail.checkpoints = base.trail.checkpoints ∧
      c'.heap = c.heap.restore pending := by
  obtain ⟨trail, rolled, entries, checkpoints⟩ := h.since.close
  have mark : base.checkpoint.1 = base.trail.checkpoint.1 := rfl
  refine ⟨pending.length, { c with heap := c.heap.restore pending, trail }, ?_, entries,
    checkpoints, rfl⟩
  rw [rollbackTo, mark, Trail.paired_eq_ok_iff.mp rolled]
  rfl

end Undoable

end Collector

end MarkSweep
