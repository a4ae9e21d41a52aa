import MarkSweep.Proofs.World.Ledger

/-!
What the log of a process says in the course of a run, whoever takes it and when. It is made of the
blocks of the collections that began and of notes about those that were put off, in the order of the
attempts.
-/

namespace MarkSweep

inductive Span where
  | collection
  | phase
deriving DecidableEq

def Event.pass : List Span → Event → Option (List Span)
  | spans, enterCollect _ _ => some (.collection :: spans)
  | spans, enterPhase _ => some (.phase :: spans)
  | .collection :: spans, exitCollect => some spans
  | .phase :: spans, exitPhase => some spans
  | _, exitCollect | _, exitPhase => none
  | spans, phaseStart _ _ | spans, phaseEnd _ _ | spans, deferred _ | spans, thresholdGrown _ _ =>
    some spans

def Nested (events : List Event) : Prop := events.foldlM Event.pass [] = some []

instance (events : List Event) : Decidable (Nested events) := inferInstanceAs (Decidable (_ = _))

theorem nested_nil : Nested [] := rfl

theorem Nested.append {events more : List Event} (first : Nested events) (second : Nested more) :
    Nested (events ++ more) := by
  rw [Nested, List.foldlM_append, first]
  exact second

structure SweepReport where
  reclaimed : Nat
  pruned : Nat
  old : Nat
  new : Nat
deriving DecidableEq

def SweepReport.events (s : SweepReport) : List Event :=
  [.enterPhase .sweep, .phaseEnd .sweep s.reclaimed, .enterPhase .weak, .phaseEnd .weak s.pruned,
    .exitPhase, .exitPhase] ++
  if s.new = s.old then [] else [.thresholdGrown s.old s.new]

structure Block where
  trigger : Trigger
  id : Nat
  outstanding : Nat
  sweep? : Option SweepReport
deriving DecidableEq

namespace Block

def events (b : Block) : List Event :=
  [.enterCollect b.trigger b.id, .enterPhase .clear, .exitPhase, .enterPhase .mark,
    .phaseStart .mark b.outstanding, .exitPhase] ++
  b.sweep?.elim [] SweepReport.events ++ [.exitCollect]

theorem nested_events (b : Block) : Nested b.events := by
  obtain ⟨trigger, id, outstanding, _ | s⟩ := b
  · rfl
  · simp only [events, Option.elim, SweepReport.events]
    split <;> rfl

theorem enterPhase_sweep_mem_events {b : Block} :
    .enterPhase .sweep ∈ b.events ↔ b.sweep?.isSome := by
  obtain ⟨trigger, id, outstanding, _ | s⟩ := b <;> simp [events, SweepReport.events]

end Block

theorem Process.toList_log_emit (p : Process) (events : List Event) :
    (p.emit events).log.toList = p.log.toList ++ events :=
  Array.toList_appendList

namespace Attempt

variable {t : Attempt}

def Begins (t : Attempt) : Prop := ¬(t.collector.isLocked ∨ t.collector.IsBusy t.process)

instance (t : Attempt) : Decidable t.Begins :=
  decidable_of_iff (¬(t.collector.isLocked ∨
    (t.collector.roots.values.any fun id => (t.process.marker id).isBusy) = true)) (by
      rw [← Collector.isBusy_iff, Begins])

def report? (t : Attempt) : Option SweepReport :=
  t.metrics?.map fun m =>
    { reclaimed := m.tally.total.reclaimed.bytes
      pruned := m.weakPruned
      old := t.collector.threshold
      new := t.after.threshold }

def block? (t : Attempt) : Option Block :=
  if t.Begins then
    some
      { trigger := t.trigger
        id := t.process.nextCollection
        outstanding := t.collector.heap.outstanding
        sweep? := t.report? }
  else none

def events (t : Attempt) : List Event :=
  t.block?.elim [] Block.events ++ t.deferral?.toList.map .deferred

theorem nested_events (t : Attempt) : Nested t.events := by
  refine Nested.append ?_ ?_
  · cases t.block? with
    | none => rfl
    | some b => exact b.nested_events
  · cases t.deferral? with
    | none => rfl
    | some => rfl

theorem block_run (t : Attempt) :
    t.run.2.2.log.toList = t.process.log.toList ++ t.block?.elim [] Block.events ∧
      t.run.2.2.nextCollection = t.process.nextCollection + t.block?.toList.length := by
  have ends := t.ends
  rw [block?, report?, metrics?, after]
  generalize t.run = r at ends ⊢
  cases ends with
  | locked locked =>
    have refused : ¬t.Begins := not_not_intro (.inl locked)
    rw [if_neg refused]
    exact ⟨(List.append_nil _).symm, rfl⟩
  | busy _ busy =>
    have refused : ¬t.Begins := not_not_intro (.inr busy)
    rw [if_neg refused]
    exact ⟨(List.append_nil _).symm, rfl⟩
  | abandoned _ unlocked idle =>
    have begins : t.Begins := not_or.mpr ⟨unlocked, idle⟩
    rw [if_pos begins]
    exact ⟨Process.toList_log_emit _ _, rfl⟩
  | completed _ unlocked idle =>
    have begins : t.Begins := not_or.mpr ⟨unlocked, idle⟩
    rw [if_pos begins]
    exact ⟨Process.toList_log_emit _ _, rfl⟩

theorem log_settled (t : Attempt) :
    t.settled.log.toList = t.process.log.toList ++ t.events := by
  rw [settled, Process.toList_log_emit, t.block_run.1, events, List.append_assoc]

theorem nextCollection_settled (t : Attempt) :
    t.settled.nextCollection = t.process.nextCollection + t.block?.toList.length :=
  t.block_run.2

theorem block?_eq_none_iff :
    t.block? = none ↔ t.collector.isLocked ∨ t.collector.IsBusy t.process := by
  rw [block?]
  split
  case isTrue begins => exact iff_of_false (Option.some_ne_none _) begins
  case isFalse refused => exact iff_of_true rfl (not_not.mp refused)

theorem report?_eq_none_iff (begins : t.Begins) :
    t.report? = none ↔ t.collector.IsObstructed t.process := by
  rw [report?, Option.map_eq_none_iff, metrics?_eq_none_iff, ← or_assoc, or_iff_right begins]

/-- What the block of an attempt says. -/
structure Describes (t : Attempt) (b : Block) : Prop where
  trigger : b.trigger = t.trigger
  id : b.id = t.process.nextCollection
  outstanding : b.outstanding = t.collector.heap.outstanding
  abandoned : b.sweep? = none ↔ t.collector.IsObstructed t.process
  sweep : ∀ s, b.sweep? = some s → ∃ m, t.metrics? = some m ∧
    s.reclaimed = m.tally.total.reclaimed.bytes ∧ s.pruned = m.weakPruned ∧
    s.old = t.collector.threshold ∧ s.new = t.after.threshold

theorem describes_of_block? {b : Block} (h : t.block? = some b) : t.Describes b := by
  rw [block?, Option.ite_none_right_eq_some] at h
  obtain ⟨begins, ⟨⟩⟩ := h
  refine ⟨rfl, rfl, rfl, report?_eq_none_iff begins, fun s h => ?_⟩
  obtain ⟨m, completes, rfl⟩ := Option.map_eq_some_iff.mp h
  exact ⟨m, completes, rfl, rfl, rfl, rfl⟩

theorem deferral?_eq_some_iff {reason : Deferral} : t.deferral? = some reason ↔
    t.trigger ≠ .manual ∧ t.metrics? = none ∧
      reason = if t.collector.isLocked then .locked else .rootBorrowed := by
  rw [deferral?, ← apply_ite some, Option.ite_none_left_eq_some, not_or,
    Option.not_isSome_iff_eq_none, Option.some_inj, and_assoc, eq_comm (a := reason)]

theorem sweep_mem_iff : (∃ b ∈ t.block?, .enterPhase .sweep ∈ b.events) ↔ t.metrics?.isSome := by
  simp only [Block.enterPhase_sweep_mem_events, Option.mem_def, block?]
  split
  case isTrue => simp [report?]
  case isFalse refused =>
    have none := metrics?_eq_none_iff.mpr (or_assoc.mp (.inl (not_not.mp refused)))
    simp [none]

end Attempt

namespace World

def blocks (ts : List Attempt) : List Block := ts.filterMap Attempt.block?

theorem countP_blocks (ts : List Attempt) :
    (blocks ts).countP (.enterPhase .sweep ∈ ·.events) =
      (ts.filterMap Attempt.metrics?).length := by
  rw [blocks, List.countP_filterMap, List.length_filterMap_eq_countP]
  refine List.countP_congr fun t _ => ?_
  rw [← Attempt.sweep_mem_iff]
  cases t.block? <;> simp

def Op.taken (w : World) : Op → List Event
  | takeLog => w.takeLog.1
  | _ => []

def Act.taken (w : World) (a : Act) : List Event := a.main?.elim [] (·.taken w)

def transcriptFrom (w : World) : List Act → List Event
  | [] => w.process.log.toList
  | a :: acts => a.taken w ++ transcriptFrom (a.apply w) acts

def transcript (acts : List Act) : List Event := transcriptFrom {} acts

variable {w : World}

theorem log_absorb {o : Op} : (w.absorb (o.attempt? w)).process.log.toList =
    w.process.log.toList ++ (o.attempt? w).elim [] Attempt.events := by
  cases h : o.attempt? w with
  | none => exact (List.append_nil _).symm
  | some t =>
    have start : t.process = w.process := (Act.attempt_cases (a := .op o) h).1
    exact t.log_settled.trans (by rw [start]; rfl)

theorem Op.log_apply (w : World) (o : Op) : o.taken w ++ (o.apply w).process.log.toList =
    w.process.log.toList ++ (o.attempt? w).elim [] Attempt.events := by
  by_cases may : o.MayCollect
  · have none : o.taken w = [] := by
      cases o with
      | tryTrigger | allocate | intern => rfl
      | _ => exact may.elim
    rw [none, (apply_of_mayCollect may w).1, log_absorb, List.nil_append]
  · rw [attempt?_of_not_mayCollect may, Option.elim_none, List.append_nil]
    cases o with
    | tryTrigger | allocate | intern => exact absurd trivial may
    | takeLog => exact List.append_nil _
    | _ => rfl

theorem log_of_areQuiet {ops : List Op} (quiet : ∀ o ∈ ops, o.IsQuiet) (w : World) :
    (ops.foldl Op.apply w).process.log = w.process.log := by
  refine List.foldlRecOn ops Op.apply (motive := fun w' => w'.process.log = w.process.log) rfl
    fun w' before o ho => ?_
  have last := quiet o ho
  cases o with
  | keep | keepSet | keepDrop | register | unregister | addMarker | setMarker | entrust =>
    exact before
  | _ => exact last.elim

theorem Act.log_apply (w : World) (a : Act) : a.taken w ++ (a.apply w).process.log.toList =
    w.process.log.toList ++ (a.attempt? w).elim [] Attempt.events := by
  obtain ⟨ops, quiet, e⟩ := a.apply_eq w
  rw [e, log_of_areQuiet quiet, taken, attempt?]
  cases a.main? with
  | none => exact (List.append_nil _).symm
  | some o => exact o.log_apply w

theorem transcriptFrom_eq (w : World) (acts : List Act) : transcriptFrom w acts =
    w.process.log.toList ++ (attemptsFrom w acts).flatMap Attempt.events := by
  induction acts generalizing w with
  | nil => exact (List.append_nil _).symm
  | cons a acts ih =>
    rw [transcriptFrom, ih, ← List.append_assoc, a.log_apply, attemptsFrom, List.flatMap_append,
      List.append_assoc]
    cases a.attempt? w <;> simp

theorem nextCollection_apply (w : World) (a : Act) : (a.apply w).process.nextCollection =
    w.process.nextCollection + ((a.attempt? w).bind Attempt.block?).toList.length := by
  have same := congrArg Prod.snd (a.rests w).process
  cases h : a.attempt? w with
  | none =>
    rw [h] at same
    exact same
  | some t =>
    rw [h] at same
    have settled := t.nextCollection_settled
    rw [(Act.attempt_cases h).1] at settled
    exact same.trans settled

theorem ids_blocks (w : World) (acts : List Act) :
    (blocks (attemptsFrom w acts)).map Block.id =
      List.range' w.process.nextCollection (blocks (attemptsFrom w acts)).length := by
  induction acts generalizing w with
  | nil => rfl
  | cons a acts ih =>
    -- An attempt without a block uses up no number, so that those of blocks follow each other.
    have first : ((a.attempt? w).bind Attempt.block?).toList.map Block.id =
        List.range' w.process.nextCollection
          ((a.attempt? w).bind Attempt.block?).toList.length := by
      cases h : a.attempt? w with
      | none => rfl
      | some t =>
        rw [Option.bind_some]
        cases begins : t.block? with
        | none => rfl
        | some b =>
          have id := (Attempt.describes_of_block? begins).id
          rw [(Act.attempt_cases h).1] at id
          exact congrArg List.singleton id
    rw [attemptsFrom, blocks, List.filterMap_append, filterMap_toList, ← blocks, List.map_append,
      first, ih, nextCollection_apply, List.length_append, List.range'_append_1]

theorem nested_flatMap_events (ts : List Attempt) : Nested (ts.flatMap Attempt.events) := by
  induction ts with
  | nil => exact nested_nil
  | cons t ts ih => exact t.nested_events.append ih

/-- The log tells the attempts of a run one after the other. The collections that begin are numbered
in order across all collectors, and those that sweep are those that the records count. -/
theorem log_tells_attempts (acts : List Act) :
    transcript acts = (attempts acts).flatMap Attempt.events ∧
    Nested (transcript acts) ∧
    (blocks (attempts acts)).map Block.id = List.range' 1 (blocks (attempts acts)).length ∧
    (∀ t : Attempt,
      (t.block? = none ↔ t.collector.isLocked ∨ t.collector.IsBusy t.process) ∧
      (∀ b, t.block? = some b → t.Describes b) ∧
      ∀ reason, t.deferral? = some reason ↔ t.trigger ≠ .manual ∧ t.metrics? = none ∧
        reason = if t.collector.isLocked then .locked else .rootBorrowed) ∧
    ((blocks (attempts acts)).countP (.enterPhase .sweep ∈ ·.events) =
      ((attempts acts).filterMap Attempt.metrics?).length) ∧
    ((play acts).process.totals.collections =
      .ofNat ((blocks (attempts acts)).countP (.enterPhase .sweep ∈ ·.events))) ∧
    ∀ id, ((play acts).collector id).collections =
      (blocks ((attempts acts).filter (·.owner = some id))).countP
        (.enterPhase .sweep ∈ ·.events) := by
  have log : transcript acts = (attempts acts).flatMap Attempt.events := transcriptFrom_eq {} acts
  refine ⟨log, ?_, ids_blocks {} acts, fun t => ?_, countP_blocks _, ?_, fun id => ?_⟩
  · rw [log]
    exact nested_flatMap_events _
  · exact ⟨Attempt.block?_eq_none_iff, fun _ => Attempt.describes_of_block?,
      fun _ => Attempt.deferral?_eq_some_iff⟩
  · rw [countP_blocks, play, totals_foldl]
    exact UInt64.zero_add _
  · rw [countP_blocks]
    exact (tells_play acts id).collections

example :
    transcript [.op (.create { threshold := 64 }),
      .root 0 (.rooted .unused (.group [.cell .unused .inert])), .op (.edit 0 .lock),
      .op (.allocate 0 (.ofKind .chunk) (.zeros 40)), .op (.keep 0 ⟨0, 0⟩), .op (.edit 0 .unlock),
      .acquireCell ⟨0, ⟨0, ⟨0, 1⟩⟩⟩ 0 .exclusive, .op (.intern 0 "x"), .op .takeLog,
      .releaseCell ⟨0, ⟨0, ⟨0, 1⟩⟩⟩ 0 .exclusive, .trigger 0] =
    .deferred .locked :: Block.events ⟨.threshold, 1, 96, none⟩ ++
      .deferred .rootBorrowed :: Block.events ⟨.manual, 2, 96, some ⟨32, 0, 64, 128⟩⟩ := by
  decide +kernel

end World

end MarkSweep
