import MarkSweep.Proofs.Collector.Constancy
import MarkSweep.Proofs.Collector.Order

/-!
When a collector collects of itself. The bytes counted since the last collection are the ones
outstanding beyond its survivors, an allocation that makes a collection due runs it or leaves it
due, and nothing but allocations and collections has a part in this.
-/

namespace MarkSweep

namespace Heap

theorem outstanding_allocate (h : Heap) (header : Header) (object : Object) :
    (h.allocate header object).2.outstanding = h.outstanding + blockSize object.footprint := by
  rw [allocate]
  split <;> rfl

theorem peak_allocate (h : Heap) (header : Header) (object : Object) :
    (h.allocate header object).2.peak =
      max h.peak (h.outstanding + blockSize object.footprint) := by
  rw [allocate]
  split <;> rfl

theorem Consistent.outstanding_sweep {h : Heap} (hh : h.Consistent) :
    h.sweep.2.outstanding = h.sweep.1.total.surviving.bytes := by
  rw [surviving_sweep, hh.sweep.volume]

theorem counters_restore (h : Heap) (entries : List Entry) :
    (h.restore entries).outstanding = h.outstanding ∧ (h.restore entries).peak = h.peak := by
  induction entries generalizing h with
  | nil => exact ⟨rfl, rfl⟩
  | cons e entries ih => exact ih (h.writeSlot e.field e.prior)

end Heap

namespace Collector

def survivors (c : Collector) : Nat :=
  (c.history.latest?.map fun m => m.tally.total.surviving.bytes).getD 0

/-- The bytes outstanding beyond the survivors have come up to the threshold. -/
def Overdue (c : Collector) : Prop := c.threshold ≤ c.heap.outstanding - c.survivors

instance (c : Collector) : Decidable c.Overdue := inferInstanceAs (Decidable (_ ≤ _))

def TimedOut (c : Collector) (now : Nat) : Prop :=
  ∃ period, c.config.timeout = some period ∧ period ≤ now - c.periodStart

theorem timedOut_iff (c : Collector) (now : Nat) :
    c.TimedOut now ↔ c.config.timeout.any (· ≤ now - c.periodStart) := by
  simp [TimedOut, Option.any_eq_true]

instance (c : Collector) (now : Nat) : Decidable (c.TimedOut now) :=
  decidable_of_iff _ (c.timedOut_iff now).symm

structure Counts (c : Collector) : Prop where
  bound : c.allocated ≤ maxWord
  exact : c.heap.peak ≤ maxWord → c.survivors + c.allocated = c.heap.outstanding

structure Idles (c c' : Collector) : Prop where
  outstanding : c'.heap.outstanding = c.heap.outstanding
  peak : c'.heap.peak = c.heap.peak
  config : c'.config = c.config
  threshold : c'.threshold = c.threshold
  allocated : c'.allocated = c.allocated
  collections : c'.collections = c.collections
  history : c'.history = c.history

structure Completes (c : Collector) (trigger : Trigger) (c' : Collector) : Prop where
  outstanding : c'.heap.outstanding = c'.survivors
  peak : c.heap.peak ≤ c'.heap.peak
  config : c'.config = c.config
  threshold : c'.threshold = c.config.nextThreshold c.threshold c'.survivors
  allocated : c'.allocated = 0
  collections : c'.collections = c.collections + 1
  latest : ∃ m, c'.history.latest? = some m ∧ m.trigger = trigger

structure IsManual (c : Collector) : Prop where
  threshold : c.threshold = maxWord
  timeout : c.config.timeout = none

/-- From the first collector to the second a collection completes, or the count goes on. -/
structure Accrues (c c' : Collector) : Prop where
  collections : c.collections ≤ c'.collections
  threshold : c'.collections = c.collections → c'.threshold = c.threshold
  allocated : c'.collections = c.collections → c.allocated ≤ c'.allocated

variable {c c' c'' : Collector} {p : Process} {trigger : Trigger}

theorem Idles.refl (c : Collector) : c.Idles c := ⟨rfl, rfl, rfl, rfl, rfl, rfl, rfl⟩

theorem Idles.trans (first : c.Idles c') (second : c'.Idles c'') : c.Idles c'' where
  outstanding := second.outstanding.trans first.outstanding
  peak := second.peak.trans first.peak
  config := second.config.trans first.config
  threshold := second.threshold.trans first.threshold
  allocated := second.allocated.trans first.allocated
  collections := second.collections.trans first.collections
  history := second.history.trans first.history

theorem Idles.survivors (idles : c.Idles c') : c'.survivors = c.survivors := by
  rw [Collector.survivors, idles.history, Collector.survivors]

theorem Idles.completes (idles : c'.Idles c'') (done : c.Completes trigger c') :
    c.Completes trigger c'' where
  outstanding := by rw [idles.outstanding, done.outstanding, idles.survivors]
  peak := by rw [idles.peak]; exact done.peak
  config := idles.config.trans done.config
  threshold := by rw [idles.threshold, done.threshold, idles.survivors]
  allocated := idles.allocated.trans done.allocated
  collections := idles.collections.trans done.collections
  latest := by rw [idles.history]; exact done.latest

theorem Idles.accrues (idles : c.Idles c') : c.Accrues c' where
  collections := idles.collections.ge
  threshold _ := idles.threshold
  allocated _ := idles.allocated.ge

theorem Completes.accrues (done : c.Completes trigger c') : c.Accrues c' := by
  have more := done.collections
  refine ⟨by omega, fun same => ?_, fun same => ?_⟩ <;> omega

theorem Accrues.trans (first : c.Accrues c') (second : c'.Accrues c'') : c.Accrues c'' := by
  have collections := first.collections
  have collections' := second.collections
  refine ⟨by omega, fun same => ?_, fun same => ?_⟩
  · rw [second.threshold (by omega), first.threshold (by omega)]
  · exact (first.allocated (by omega)).trans (second.allocated (by omega))

theorem Counts.idles (hc : c.Counts) (idles : c.Idles c') : c'.Counts where
  bound := by rw [idles.allocated]; exact hc.bound
  exact := by
    rw [idles.peak, idles.survivors, idles.allocated, idles.outstanding]
    exact hc.exact

theorem Completes.counts (done : c.Completes trigger c') : c'.Counts where
  bound := by rw [done.allocated]; exact Nat.zero_le _
  exact _ := by rw [done.allocated, done.outstanding, Nat.add_zero]

theorem IsManual.idles (manual : c.IsManual) (idles : c.Idles c') : c'.IsManual :=
  ⟨idles.threshold.trans manual.threshold, by rw [idles.config, manual.timeout]⟩

theorem IsManual.completes (manual : c.IsManual) (done : c.Completes trigger c') :
    c'.IsManual where
  threshold := by rw [done.threshold, manual.threshold, Config.nextThreshold_maxWord]
  timeout := by rw [done.config, manual.timeout]

theorem AfterFailure.idles (h : c.AfterFailure p c') : c.Idles c' := by
  rcases h with ⟨-, rfl⟩ | ⟨-, -, rfl⟩
  · exact .refl _
  · exact { Idles.refl c with }

theorem idles_edit (c : Collector) (e : Edit) : c.Idles (e.apply c) := by
  have counters : (e.apply c).heap.outstanding = c.heap.outstanding ∧
      (e.apply c).heap.peak = c.heap.peak := by
    rcases Edit.heap_cases c e with ⟨r, start, patch, rfl⟩ | ⟨-, ⟨entries, h⟩ | ⟨r, f, -, h⟩⟩
    · rcases Edit.writeChunk_cases c r start patch with e | ⟨bytes, -, e⟩ <;> rw [e] <;>
        exact ⟨rfl, rfl⟩
    · rw [h]
      exact c.heap.counters_restore entries
    · rw [h]
      exact ⟨rfl, rfl⟩
  obtain ⟨heap, trail, lockDepth, eq, -⟩ := Edit.apply_eq c e
  rw [eq] at counters ⊢
  exact { Idles.refl c with outstanding := counters.1, peak := counters.2 }

theorem allocated_place (c : Collector) (header : Header) (object : Object) :
    (c.place header object).allocated =
      min maxWord (c.allocated + blockSize object.footprint) := by
  rw [place, c.heap.outstanding_allocate, Nat.add_sub_cancel_left]

theorem Counts.place (hc : c.Counts) (header : Header) (object : Object) :
    (c.place header object).Counts where
  bound := by
    rw [allocated_place]
    exact Nat.min_le_left _ _
  exact room := by
    have peak : (c.place header object).heap.peak =
        max c.heap.peak (c.heap.outstanding + blockSize object.footprint) :=
      c.heap.peak_allocate header object
    have outstanding : (c.place header object).heap.outstanding =
        c.heap.outstanding + blockSize object.footprint := c.heap.outstanding_allocate header object
    have survivors : (c.place header object).survivors = c.survivors := rfl
    have exact := hc.exact (by omega)
    rw [survivors, allocated_place, outstanding]
    omega

theorem Counts.accrues_place (hc : c.Counts) (header : Header) (object : Object) :
    c.Accrues (c.place header object) := by
  refine ⟨Nat.le_refl _, fun _ => rfl, fun _ => ?_⟩
  have bound := hc.bound
  rw [allocated_place]
  omega

theorem collect_paces (hh : c.heap.Consistent) (p : Process) (trigger : Trigger)
    (pinned : Option Ref) :
    c.Idles (c.collect p trigger pinned).2.1 ∨
      c.Completes trigger (c.collect p trigger pinned).2.1 := by
  rcases collect_cases c p trigger pinned with ⟨_, e⟩ | ⟨_, e⟩ | ⟨-, _, e⟩
  · rw [e]
    exact .inl (.refl c)
  · rw [e]
    exact .inl { Idles.refl c with }
  · right
    rw [e]
    have same := clearMarks_markPhase c p.markers pinned
    have swept := (hh.of_clearMarks_eq same).outstanding_sweep
    have peak : (c.markPhase p.markers pinned).tracer.heap.peak = c.heap.peak :=
      (congrArg Heap.peak same :)
    have latest : (c.sweepPhase (c.markPhase p.markers pinned) trigger p.clock).2.history.latest? =
        some (c.sweepPhase (c.markPhase p.markers pinned) trigger p.clock).1 :=
      c.history.latest?_push _
    have survivors : (c.sweepPhase (c.markPhase p.markers pinned) trigger p.clock).2.survivors =
        (c.markPhase p.markers pinned).tracer.heap.sweep.1.total.surviving.bytes := by
      rw [Collector.survivors, latest]
      rfl
    refine ⟨?_, ?_, rfl, ?_, rfl, rfl, _, latest, rfl⟩
    · rw [survivors]
      exact swept
    · rw [← peak]
      exact Nat.le_max_left _ _
    · rw [survivors]
      rfl

section

variable {header : Header} {object : Object} {now : Nat}

theorem due_eq_threshold_iff : c.due now = some .threshold ↔ c.threshold ≤ c.allocated := by
  rw [due]
  split
  case isTrue h => simp [h]
  case isFalse h => split <;> simp [h]

theorem Counts.overdue_iff (hc : c.Counts) (room : c.heap.peak ≤ maxWord) :
    c.Overdue ↔ c.threshold ≤ c.allocated := by
  have exact := hc.exact room
  rw [Overdue]
  omega

theorem Counts.due_eq (hc : c.Counts) (room : c.heap.peak ≤ maxWord) (now : Nat) :
    c.due now = if c.Overdue then some .threshold
      else if c.TimedOut now then some .timeout else none := by
  simp only [due, hc.overdue_iff room, c.timedOut_iff now]

theorem allocate_paces (hh : c.heap.Consistent) (p : Process) (header : Header)
    (object : Object) :
    ((c.place header object).due p.clock = none ∨ c.isLocked ∨ c.IsBusy p ∨ c.IsObstructed p) ∧
        (c.place header object).Idles (c.allocate p header object).2.1 ∨
      ∃ trigger, (c.place header object).due p.clock = some trigger ∧
        ¬(c.isLocked ∨ c.IsBusy p ∨ c.IsObstructed p) ∧
        (c.place header object).Completes trigger (c.allocate p header object).2.1 := by
  cases due : (c.place header object).due p.clock with
  | none =>
    rw [allocate_of_due_eq_none due]
    exact .inl ⟨.inl rfl, .refl _⟩
  | some trigger =>
    rcases allocate_outcome due with ⟨held, -, after, -⟩ | ⟨clear, more⟩
    · exact .inl ⟨.inr held, after.idles⟩
    · obtain ⟨p', e, -⟩ := allocate_of_due due fun locked => clear (.inl locked)
      have placed : (c.place header object).heap.Consistent := hh.allocate header object
      rw [e] at more ⊢
      rcases collect_paces placed p trigger (some (c.heap.allocate header object).1) with
        idles | done
      · exact absurd (more.symm.trans idles.collections) (Nat.succ_ne_self _)
      · exact .inr ⟨trigger, rfl, clear, done⟩

theorem IsManual.allocate (manual : c.IsManual) (hh : c.heap.Consistent) (p : Process)
    (header : Header) (object : Object) : (c.allocate p header object).2.1.IsManual := by
  have placed : (c.place header object).IsManual := ⟨manual.threshold, manual.timeout⟩
  rcases allocate_paces hh p header object with ⟨-, left⟩ | ⟨_, -, -, done⟩
  · exact placed.idles left
  · exact placed.completes done

theorem IsManual.due_eq_none (manual : c.IsManual) (hc : c.Counts)
    (bound : c.heap.outstanding ≤ c.heap.peak) (room : c.heap.peak ≤ maxWord)
    (blocks : 8 ∣ c.heap.outstanding) : c.due now = none := by
  have exact := hc.exact room
  have short : ¬maxWord ≤ c.allocated := by
    rw [maxWord] at room ⊢
    omega
  rw [due, manual.threshold, manual.timeout, if_neg short]
  rfl

theorem tryTrigger_paces (hh : c.heap.Consistent) (p : Process) :
    c.Idles (c.tryTrigger p).2.1 ∨ c.Completes .manual (c.tryTrigger p).2.1 := by
  rw [tryTrigger]
  split
  · exact .inl (.refl c)
  · exact collect_paces hh p .manual none

end

end Collector

end MarkSweep
