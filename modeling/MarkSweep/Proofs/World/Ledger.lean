import MarkSweep.Proofs.World.Attempt

namespace MarkSweep

namespace History

def Ends (h : History) (ms : List Metrics) : Prop := h.entries = ms.drop (ms.length - historySize)

theorem Ends.push {h : History} {ms : List Metrics} (ends : h.Ends ms) (m : Metrics) :
    (h.push m).Ends (ms ++ [m]) := by
  simp only [Ends, historySize] at ends
  simp only [Ends, History.push, ends, List.length_drop, List.length_append, List.length_singleton,
    historySize]
  by_cases full : 64 ≤ ms.length
  · rw [if_pos (by omega), List.tail_drop, List.drop_append_of_le_length (by omega)]
    congr 2
    omega
  · have room : ms.length - 64 = 0 ∧ ms.length + 1 - 64 = 0 := by omega
    rw [if_neg (by omega), room.1, room.2, List.drop_zero, List.drop_zero]

theorem Ends.latest? {h : History} {ms : List Metrics} (ends : h.Ends ms) :
    h.latest? = ms.getLast? := by
  rw [Ends, historySize] at ends
  rw [History.latest?, ends, List.getLast?_drop]
  split
  case isTrue short =>
    have empty : ms.length = 0 := by omega
    rw [List.length_eq_zero_iff.mp empty, List.getLast?_nil]
  case isFalse => rfl

end History

namespace Totals

def grown (t : Totals) (ms : List Metrics) : Totals where
  collections := t.collections + .ofNat ms.length
  manualCollections := t.manualCollections + .ofNat (ms.countP (·.trigger = .manual))
  bytesReclaimed := t.bytesReclaimed + .ofNat (ms.map (·.tally.total.reclaimed.bytes)).sum
  objectsReclaimed := t.objectsReclaimed + .ofNat (ms.map (·.tally.total.reclaimed.objects)).sum

theorem grown_nil (t : Totals) : t.grown [] = t := by
  simp [grown]

theorem grown_cons (t : Totals) (m : Metrics) (ms : List Metrics) :
    t.grown (m :: ms) = (t.record m).grown ms := by
  simp only [grown, record, List.length_cons, List.countP_cons, List.map_cons, List.sum_cons,
    UInt64.ofNat_add, decide_eq_true_eq, UInt64.add_assoc, UInt64.add_comm 1]
  split <;> simp [UInt64.add_assoc, UInt64.add_comm 1]

theorem grown_append (t : Totals) (ms ns : List Metrics) :
    t.grown (ms ++ ns) = (t.grown ms).grown ns := by
  induction ms generalizing t with
  | nil => rw [List.nil_append, grown_nil]
  | cons m ms ih => rw [List.cons_append, grown_cons, ih, grown_cons]

theorem grown_toList (t : Totals) (m : Metrics) : t.grown (some m).toList = t.record m := by
  rw [Option.toList_some, grown_cons, grown_nil]

end Totals

structure Collector.Tells (c : Collector) (done : List Metrics) : Prop where
  collections : c.collections = done.length
  ordinals : done.map (·.ordinal) = List.range' 1 done.length
  history : c.history.Ends done

theorem Collector.Tells.congr {c c' : Collector} {done : List Metrics} (h : c.Tells done)
    (same : c'.ledger = c.ledger) : c'.Tells done := by
  obtain ⟨collections, history⟩ := Prod.mk.inj same
  exact ⟨collections.trans h.collections, h.ordinals, history ▸ h.history⟩

theorem Collector.Tells.push {c c' : Collector} {done : List Metrics} {m : Metrics}
    (h : c.Tells done) (ordinal : m.ordinal = c.collections + 1)
    (same : c'.ledger = (c.collections + 1, c.history.push m)) : c'.Tells (done ++ [m]) := by
  obtain ⟨collections, history⟩ := Prod.mk.inj same
  refine ⟨?_, ?_, history ▸ h.history.push m⟩
  · rw [collections, h.collections, List.length_append, List.length_singleton]
  · rw [List.map_append, h.ordinals, List.map_singleton, ordinal, h.collections, List.length_append,
      List.length_singleton, List.range'_concat, Nat.one_mul, Nat.add_comm 1]

theorem Collector.ledger_sweepPhase {c after : Collector} {marked : Marked} {trigger : Trigger}
    {now : Nat} {m : Metrics} (swept : c.sweepPhase marked trigger now = (m, after)) :
    m.ordinal = c.collections + 1 ∧ after.ledger = (c.collections + 1, c.history.push m) := by
  cases swept
  exact ⟨rfl, rfl⟩

namespace Attempt

variable {t : Attempt}

theorem metrics?_eq_none_iff : t.metrics? = none ↔ t.collector.isLocked ∨
    t.collector.IsBusy t.process ∨ t.collector.IsObstructed t.process := by
  have ends := t.ends
  rw [metrics?]
  generalize t.run = r at ends ⊢
  cases ends with
  | locked locked => exact iff_of_true rfl (.inl locked)
  | busy _ busy => exact iff_of_true rfl (.inr (.inl busy))
  | abandoned _ _ _ obstructed => exact iff_of_true rfl (.inr (.inr obstructed))
  | completed _ unlocked idle free =>
    refine iff_of_false (Option.some_ne_none _) ?_
    rintro (locked | busy | obstructed)
    · exact unlocked locked
    · exact idle busy
    · exact free obstructed

theorem ledger_after (none : t.metrics? = none) : t.after.ledger = t.collector.ledger := by
  have ends := t.ends
  rw [metrics?] at none
  rw [after]
  generalize t.run = r at ends none ⊢
  cases ends with
  | locked | busy | abandoned => rfl
  | completed => cases none

theorem tells_after {done : List Metrics} (h : t.collector.Tells done) :
    t.after.Tells (done ++ t.metrics?.toList) := by
  cases completes : t.metrics? with
  | none =>
    rw [Option.toList_none, List.append_nil]
    exact h.congr (ledger_after completes)
  | some m =>
    have ends := t.ends
    rw [metrics?] at completes
    rw [after]
    generalize t.run = r at ends completes ⊢
    cases ends with
    | locked | busy | abandoned => cases completes
    | completed _ _ _ _ swept =>
      cases completes
      obtain ⟨ordinal, ledger⟩ := Collector.ledger_sweepPhase swept
      exact h.push ordinal ledger

theorem totals_settled (t : Attempt) :
    t.settled.totals = t.process.totals.grown t.metrics?.toList := by
  have ends := t.ends
  rw [settled, metrics?]
  generalize t.run = r at ends ⊢
  cases ends with
  | locked | busy | abandoned => exact (Totals.grown_nil _).symm
  | completed => exact (Totals.grown_toList _ _).symm

end Attempt

namespace World

def completed (acts : List Act) (id : CollectorId) : List Metrics :=
  ((attempts acts).filter (·.owner = some id)).filterMap Attempt.metrics?

theorem totals_apply (w : World) (a : Act) : (a.apply w).process.totals =
    w.process.totals.grown ((a.attempt? w).bind Attempt.metrics?).toList := by
  have totals := congrArg Prod.fst (a.rests w).process
  cases h : a.attempt? w with
  | none =>
    rw [h] at totals
    exact totals.trans (Totals.grown_nil _).symm
  | some t =>
    rw [h] at totals
    have settled := t.totals_settled
    rw [(Act.attempt_cases h).1] at settled
    exact totals.trans settled

theorem totals_foldl (w : World) (acts : List Act) : (acts.foldl Act.apply w).process.totals =
    w.process.totals.grown ((attemptsFrom w acts).filterMap Attempt.metrics?) := by
  induction acts generalizing w with
  | nil => exact (Totals.grown_nil _).symm
  | cons a acts ih =>
    rw [List.foldl_cons, ih, totals_apply, ← Totals.grown_append, attemptsFrom,
      List.filterMap_append, filterMap_toList]

theorem ledger_cases (w : World) (a : Act) (id : CollectorId) :
    (∃ t, a.attempt? w = some t ∧ t.owner = some id ∧
      t.collector.ledger = (w.collector id).ledger ∧
      ((a.apply w).collector id).ledger = t.after.ledger) ∨
    (∀ t, a.attempt? w = some t → t.owner ≠ some id) ∧
      ((a.apply w).collector id).ledger = (w.collector id).ledger := by
  have same := (a.rests w).collector id
  cases h : a.attempt? w with
  | none =>
    rw [h] at same
    refine .inr ⟨?_, same⟩
    rintro _ ⟨⟩
  | some t =>
    obtain ⟨-, other, owner, -⟩ := Act.attempt_cases h
    rw [h, collector_absorb owner] at same
    split at same
    case isTrue mine =>
      have before := Act.attempt_congr Collector.ledger (fun _ _ _ => rfl) h mine
      exact .inl ⟨t, rfl, mine, before, same⟩
    case isFalse others =>
      refine .inr ⟨?_, same⟩
      rintro _ ⟨⟩
      exact others

theorem completed_concat (acts : List Act) (a : Act) (id : CollectorId) :
    completed (acts ++ [a]) id = completed acts id ++
      (((a.attempt? (play acts)).filter (·.owner = some id)).bind Attempt.metrics?).toList := by
  rw [completed, attempts_concat, List.filter_append, List.filterMap_append, ← completed,
    ← Option.toList_filter, filterMap_toList]

theorem tells_play (acts : List Act) (id : CollectorId) :
    ((play acts).collector id).Tells (completed acts id) := by
  induction acts using List.reverseRecOn with
  | nil => exact ⟨rfl, rfl, rfl⟩
  | append_singleton acts a ih =>
    -- Only an attempt of this very collector adds to the list, and only if it completes.
    rw [play_concat, completed_concat]
    rcases ledger_cases (play acts) a id with ⟨t, h, mine, before, after⟩ | ⟨others, same⟩
    · rw [h, Option.filter_some, if_pos (decide_eq_true mine)]
      exact (t.tells_after (ih.congr before)).congr after
    · have none : (a.attempt? (play acts)).filter (·.owner = some id) = none := by
        rw [Option.filter_eq_none_iff]
        intro t h mine
        exact others t h (of_decide_eq_true mine)
      rw [none]
      simpa using ih.congr same

/-- The counter of every collector, its history, the figures it answered with and the totals of the
process all record the collections that completed, and no attempt that did not. -/
theorem records_agree (acts since : List Act) :
    (∀ id, ((play acts).collector id).collections = (completed acts id).length ∧
      (completed acts id).map (·.ordinal) = List.range' 1 (completed acts id).length ∧
      ((play acts).collector id).history.entries = (completed acts id).drop
        ((completed acts id).length - min (completed acts id).length historySize) ∧
      ((play acts).collector id).history.latest? = (completed acts id).getLast?) ∧
    (play (acts ++ since)).process.totals = (play acts).process.totals.grown
      ((attemptsFrom (play acts) since).filterMap Attempt.metrics?) ∧
    (∀ id, ((play acts).tryTrigger id).1.toOption =
      ((Op.tryTrigger id).attempt? (play acts)).bind Attempt.metrics?) ∧
    (∀ t : Attempt, t.metrics? = none ↔ t.collector.isLocked ∨ t.collector.IsBusy t.process ∨
      t.collector.IsObstructed t.process) ∧
    ∀ a : Act, (∀ t, a.attempt? (play acts) = some t → t.metrics? = none) →
      (a.apply (play acts)).process.totals = (play acts).process.totals ∧
      ∀ id, ((a.apply (play acts)).collector id).ledger = ((play acts).collector id).ledger := by
  refine ⟨fun id => ?_, ?_, fun _ => rfl, fun _ => Attempt.metrics?_eq_none_iff, fun a fails => ?_⟩
  · have tells := tells_play acts id
    have kept : (completed acts id).length - min (completed acts id).length historySize =
        (completed acts id).length - historySize := by omega
    rw [kept]
    exact ⟨tells.collections, tells.ordinals, tells.history, tells.history.latest?⟩
  · rw [play, List.foldl_append]
    exact totals_foldl (play acts) since
  · have none : (a.attempt? (play acts)).bind Attempt.metrics? = none :=
      Option.bind_eq_none_iff.mpr fails
    refine ⟨?_, fun id => ?_⟩
    · rw [totals_apply, none]
      exact Totals.grown_nil _
    · rcases ledger_cases (play acts) a id with ⟨t, h, -, before, after⟩ | ⟨-, same⟩
      · exact after.trans ((Attempt.ledger_after (fails t h)).trans before)
      · exact same

end World

end MarkSweep
