import MarkSweep.Proofs.Collector.Sparing
import MarkSweep.Proofs.Marking.Obstruction

namespace MarkSweep

namespace Collector

/-- What a failed collection leaves of a collector. It only gets to the marks if nothing refuses it
beforehand. -/
def AfterFailure (c : Collector) (p : Process) (c' : Collector) : Prop :=
  (c.isLocked ∨ c.IsBusy p) ∧ c' = c ∨
    ¬c.isLocked ∧ ¬c.IsBusy p ∧ c' = { c with heap := c.heap.clearMarks }

def place (c : Collector) (header : Header) (object : Object) : Collector :=
  { c with
    heap := (c.heap.allocate header object).2
    allocated := min maxWord (c.allocated +
      ((c.heap.allocate header object).2.outstanding - c.heap.outstanding)) }

section

variable {c : Collector} {p : Process}

theorem isLocked_iff (c : Collector) : c.isLocked ↔ 0 < c.lockDepth := decide_eq_true_iff

theorem collect_of_isBusy (busy : c.IsBusy p) (trigger : Trigger) (pinned : Option Ref) :
    c.collect p trigger pinned = (.error .rootBusy, c, p) :=
  collect_of_busy ((isBusy_iff c p).mp busy) trigger pinned

theorem collect_of_isObstructed (idle : ¬c.IsBusy p) (obstructed : c.IsObstructed p)
    (trigger : Trigger) (pinned : Option Ref) :
    ∃ p', c.collect p trigger pinned =
      (.error .rootBusy, { c with heap := c.heap.clearMarks }, p') ∧ p'.totals = p.totals := by
  rw [isBusy_iff] at idle
  have blocked := (isBlocked_iff c p).mpr obstructed
  rw [collect, if_neg idle]
  simp only [busy_markPhase, clearMarks_markPhase, blocked, if_true]
  exact ⟨_, rfl, rfl⟩

theorem collect_of_clear (idle : ¬c.IsBusy p) (clear : ¬c.IsObstructed p)
    (trigger : Trigger) (pinned : Option Ref) :
    ∃ m c' p', c.collect p trigger pinned = (.ok m, c', p') := by
  rw [isBusy_iff] at idle
  have free : ¬c.isBlocked p.markers := fun blocked => clear ((isBlocked_iff c p).mp blocked)
  rw [collect, if_neg idle]
  simp only [busy_markPhase, free, Bool.false_eq_true, if_false]
  exact ⟨_, _, _, rfl⟩

theorem collections_collect {c' : Collector} {p' : Process} {trigger : Trigger}
    {pinned : Option Ref} {m : Metrics} (h : c.collect p trigger pinned = (.ok m, c', p')) :
    c'.collections = c.collections + 1 := by
  rw [(collect_eq_ok h).2]
  rfl

theorem collect_outcome (unlocked : ¬c.isLocked) (trigger : Trigger) (pinned : Option Ref) :
    ((c.IsBusy p ∨ c.IsObstructed p) ∧ (c.collect p trigger pinned).1 = .error .rootBusy ∧
      c.AfterFailure p (c.collect p trigger pinned).2.1 ∧
      (c.collect p trigger pinned).2.2.totals = p.totals) ∨
    ¬(c.IsBusy p ∨ c.IsObstructed p) ∧
      ∃ m c' p', c.collect p trigger pinned = (.ok m, c', p') := by
  by_cases busy : c.IsBusy p
  · refine .inl ⟨.inl busy, ?_⟩
    rw [collect_of_isBusy busy]
    exact ⟨rfl, .inl ⟨.inr busy, rfl⟩, rfl⟩
  · by_cases obstructed : c.IsObstructed p
    · obtain ⟨p', e, totals⟩ := collect_of_isObstructed busy obstructed trigger pinned
      rw [e]
      exact .inl ⟨.inr obstructed, rfl, .inr ⟨unlocked, busy, rfl⟩, totals⟩
    · exact .inr ⟨not_or.mpr ⟨busy, obstructed⟩, collect_of_clear busy obstructed trigger pinned⟩

section

variable {header : Header} {object : Object} {trigger : Trigger}

theorem allocate_of_due_eq_none (due : (c.place header object).due p.clock = none) :
    c.allocate p header object =
      ((c.heap.allocate header object).1, c.place header object, p) := by
  simp only [place] at due
  simp only [allocate, due]
  rfl

theorem allocate_of_isLocked (due : (c.place header object).due p.clock = some trigger)
    (locked : c.isLocked) :
    c.allocate p header object =
      ((c.heap.allocate header object).1, c.place header object, p.emit [.deferred .locked]) := by
  simp only [place] at due
  have locked' : (c.place header object).isLocked := locked
  simp only [place] at locked'
  simp only [allocate, due, locked', if_true]
  rfl

theorem allocate_of_due (due : (c.place header object).due p.clock = some trigger)
    (unlocked : ¬c.isLocked) :
    ∃ p', c.allocate p header object =
        ((c.heap.allocate header object).1, ((c.place header object).collect p trigger
          (some (c.heap.allocate header object).1)).2.1, p') ∧
      p'.totals = ((c.place header object).collect p trigger
        (some (c.heap.allocate header object).1)).2.2.totals := by
  simp only [place] at due
  have unlocked' : ¬(c.place header object).isLocked := unlocked
  simp only [place] at unlocked' ⊢
  simp only [allocate, due, unlocked', Bool.false_eq_true, if_false]
  split
  case h_1 e =>
    rw [e]
    exact ⟨_, rfl, rfl⟩
  case h_2 e =>
    rw [e]
    exact ⟨_, rfl, rfl⟩

theorem allocate_outcome (due : (c.place header object).due p.clock = some trigger) :
    ((c.isLocked ∨ c.IsBusy p ∨ c.IsObstructed p) ∧
      (c.allocate p header object).2.1.collections = c.collections ∧
      (c.place header object).AfterFailure p (c.allocate p header object).2.1 ∧
      (c.allocate p header object).2.2.totals = p.totals) ∨
    ¬(c.isLocked ∨ c.IsBusy p ∨ c.IsObstructed p) ∧
      (c.allocate p header object).2.1.collections = c.collections + 1 := by
  by_cases locked : c.isLocked
  · rw [allocate_of_isLocked due locked]
    exact .inl ⟨.inl locked, rfl, .inl ⟨.inl locked, rfl⟩, rfl⟩
  · obtain ⟨p', e, totals⟩ := allocate_of_due due locked
    rw [e]
    rcases collect_outcome (c := c.place header object) (p := p) locked trigger
      (some (c.heap.allocate header object).1) with
      ⟨stopped, -, after, same⟩ | ⟨clear, m, c', p'', e'⟩
    · refine .inl ⟨.inr stopped, ?_, after, totals.trans same⟩
      rcases after with ⟨-, e''⟩ | ⟨-, -, e''⟩ <;> rw [e''] <;> rfl
    · refine .inr ⟨not_or.mpr ⟨locked, clear⟩, ?_⟩
      have step := collections_collect e'
      simp only [e']
      exact step

theorem allocate_failure (due : (c.place header object).due p.clock ≠ none) :
    ((c.allocate p header object).2.1.collections = c.collections ↔
      0 < c.lockDepth ∨ c.IsBusy p ∨ c.IsObstructed p) ∧
    ((c.allocate p header object).2.1.collections = c.collections →
      (c.place header object).AfterFailure p (c.allocate p header object).2.1 ∧
        (c.allocate p header object).2.2.totals = p.totals) := by
  obtain ⟨trigger, due⟩ := Option.ne_none_iff_exists'.mp due
  rw [← isLocked_iff]
  rcases allocate_outcome due with ⟨stopped, same, after⟩ | ⟨clear, more⟩
  · exact ⟨iff_of_true same stopped, fun _ => after⟩
  · have ne : (c.allocate p header object).2.1.collections ≠ c.collections := by omega
    exact ⟨iff_of_false ne clear, fun same => absurd same ne⟩

end

/-- The lock, then a busy or obstructed root, and nothing else makes a collection fail; and one
that fails, by hand or of itself, leaves the collector as it was, at most without its marks. -/
theorem failed_collection_leaves_all (c : Collector) (p : Process) :
    (∀ depth, (c.tryTrigger p).1 = .error (.locked depth) ↔
      0 < c.lockDepth ∧ depth = c.lockDepth) ∧
    ((c.tryTrigger p).1 = .error .rootBusy ↔
      c.lockDepth = 0 ∧ (c.IsBusy p ∨ c.IsObstructed p)) ∧
    ((∃ m, (c.tryTrigger p).1 = .ok m) ↔
      c.lockDepth = 0 ∧ ¬(c.IsBusy p ∨ c.IsObstructed p)) ∧
    (∀ e, (c.tryTrigger p).1 = .error e →
      c.AfterFailure p (c.tryTrigger p).2.1 ∧ (c.tryTrigger p).2.2.totals = p.totals) ∧
    (∀ header object, (c.place header object).due p.clock ≠ none →
      ((c.allocate p header object).2.1.collections = c.collections ↔
        0 < c.lockDepth ∨ c.IsBusy p ∨ c.IsObstructed p) ∧
      ((c.allocate p header object).2.1.collections = c.collections →
        (c.place header object).AfterFailure p (c.allocate p header object).2.1 ∧
          (c.allocate p header object).2.2.totals = p.totals)) ∧
    ∀ r, Option.Rel (Resident.Remarked false) (c.heap.resident? r)
      (c.heap.clearMarks.resident? r) := by
  have automatic (header : Header) (object : Object)
      (due : (c.place header object).due p.clock ≠ none) := allocate_failure due
  have marks (r : Ref) : Option.Rel (Resident.Remarked false) (c.heap.resident? r)
      (c.heap.clearMarks.resident? r) := by
    rw [Heap.resident?_clearMarks]
    exact rel_map_clearMark _
  by_cases locked : c.isLocked
  · have depth := (isLocked_iff c).mp locked
    rw [tryTrigger_of_locked locked]
    refine ⟨?_, ?_, ?_, fun _ _ => ⟨.inl ⟨.inl locked, rfl⟩, rfl⟩, automatic, marks⟩
    · intro n
      simp [depth, eq_comm]
    · simp [Nat.ne_of_gt depth]
    · simp [Nat.ne_of_gt depth]
  · have depth : c.lockDepth = 0 := by
      rw [isLocked_iff] at locked
      omega
    rw [tryTrigger, if_neg locked]
    rcases collect_outcome (p := p) locked .manual none with
      ⟨stopped, error, after⟩ | ⟨clear, m, c', p', e⟩
    · refine ⟨?_, ?_, ?_, fun _ _ => after, automatic, marks⟩ <;> simp [error, depth, stopped]
    · rw [e]
      refine ⟨?_, ?_, ?_, ?_, automatic, marks⟩ <;> simp [depth, clear]

end

end Collector

end MarkSweep
