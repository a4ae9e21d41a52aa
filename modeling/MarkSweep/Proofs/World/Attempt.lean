import MarkSweep.Proofs.World.Order

/-!
The collections that a run asks for or makes due, whether or not they complete. Nothing else in a
run has to do with what is kept about collections.
-/

namespace MarkSweep

def Collector.ledger (c : Collector) : Nat × History := (c.collections, c.history)

def Process.ledger (p : Process) : Totals × Nat := (p.totals, p.nextCollection)

structure Attempt where
  owner : Option CollectorId
  trigger : Trigger
  collector : Collector
  process : Process
  pinned : Option Ref

namespace Attempt

def run (t : Attempt) : Except Fault Metrics × Collector × Process :=
  if t.collector.isLocked then (.error (.locked t.collector.lockDepth), t.collector, t.process)
  else t.collector.collect t.process t.trigger t.pinned

def metrics? (t : Attempt) : Option Metrics := t.run.1.toOption

def after (t : Attempt) : Collector := t.run.2.1

def deferral? (t : Attempt) : Option Deferral :=
  if t.trigger = .manual ∨ t.metrics?.isSome then none
  else if t.collector.isLocked then some .locked
  else some .rootBorrowed

def settled (t : Attempt) : Process := t.run.2.2.emit (t.deferral?.toList.map .deferred)

theorem settled_of_manual {t : Attempt} (manual : t.trigger = .manual) : t.settled = t.run.2.2 := by
  simp [settled, deferral?, manual, Process.emit]

inductive Ends (t : Attempt) : Except Fault Metrics × Collector × Process → Prop where
  | locked : t.collector.isLocked →
    Ends t (.error (.locked t.collector.lockDepth), t.collector, t.process)
  | busy : ¬t.collector.isLocked → t.collector.IsBusy t.process →
    Ends t (.error .rootBusy, t.collector, t.process)
  | abandoned (markers : Array Marker) : ¬t.collector.isLocked → ¬t.collector.IsBusy t.process →
    t.collector.IsObstructed t.process →
    Ends t (.error .rootBusy, { t.collector with heap := t.collector.heap.clearMarks },
      { t.process with markers, nextCollection := t.process.nextCollection + 1 }.emit
        (t.collector.markEvents t.trigger t.process.nextCollection ++ [Event.exitCollect]))
  | completed (markers : Array Marker) {marked : Collector.Marked} {m : Metrics}
    {after : Collector} : ¬t.collector.isLocked → ¬t.collector.IsBusy t.process →
    ¬t.collector.IsObstructed t.process →
    t.collector.sweepPhase marked t.trigger t.process.clock = (m, after) →
    Ends t (.ok m, after,
      { t.process with
        markers
        nextCollection := t.process.nextCollection + 1
        totals := t.process.totals.record m }.emit
        (t.collector.markEvents t.trigger t.process.nextCollection ++
          Collector.sweepEvents t.collector after m))

theorem ends (t : Attempt) : t.Ends t.run := by
  rw [run]
  split
  case isTrue locked => exact .locked locked
  case isFalse unlocked =>
    rw [Collector.collect]
    split
    case isTrue busy => exact .busy unlocked ((Collector.isBusy_iff _ _).mpr busy)
    case isFalse idle =>
      rw [← Collector.isBusy_iff] at idle
      simp only [Collector.busy_markPhase, Collector.clearMarks_markPhase]
      split
      case isTrue blocked =>
        exact .abandoned _ unlocked idle ((Collector.isBlocked_iff _ _).mp blocked)
      case isFalse free =>
        rw [Collector.isBlocked_iff] at free
        exact .completed _ unlocked idle free rfl

end Attempt

namespace Collector

variable {c : Collector} {p : Process} {header : Header} {object : Object} {trigger : Trigger}

theorem due_ne_manual (c : Collector) (now : Nat) : c.due now ≠ some .manual := by
  rw [due]
  split
  · simp
  · split <;> simp

theorem allocate_eq_of_due (owner : Option CollectorId)
    (due : (c.place header object).due p.clock = some trigger) :
    c.allocate p header object = ((c.heap.allocate header object).1,
      Attempt.after ⟨owner, trigger, c.place header object, p,
        some (c.heap.allocate header object).1⟩,
      Attempt.settled ⟨owner, trigger, c.place header object, p,
        some (c.heap.allocate header object).1⟩) := by
  have automatic : trigger ≠ .manual := by
    rintro rfl
    exact due_ne_manual _ _ due
  by_cases locked : c.isLocked
  · have locked' : (c.place header object).isLocked := locked
    rw [allocate_of_isLocked due locked]
    simp [Attempt.after, Attempt.settled, Attempt.deferral?, Attempt.metrics?, Attempt.run, locked',
      automatic, Except.toOption]
  · have unlocked : (c.place header object).isLocked = false := Bool.eq_false_of_not_eq_true locked
    simp only [place] at due unlocked ⊢
    simp only [allocate, due, unlocked, Bool.false_eq_true, if_false, Attempt.after,
      Attempt.settled, Attempt.deferral?, Attempt.metrics?, Attempt.run]
    split
    case h_1 e => simp [e, Process.emit, Except.toOption]
    case h_2 e => simp [e, automatic, Except.toOption]

end Collector

namespace World

def owner? (w : World) (id : CollectorId) : Option CollectorId :=
  if id < w.collectors.size then some id else none

def automatic? (w : World) (id : CollectorId) (header : Header) (object : Object) :
    Option Attempt :=
  (((w.collector id).place header object).due w.process.clock).map fun trigger =>
    ⟨w.owner? id, trigger, (w.collector id).place header object, w.process,
      some ((w.collector id).heap.allocate header object).1⟩

def Op.attempt? (w : World) : Op → Option Attempt
  | tryTrigger id => some ⟨w.owner? id, .manual, w.collector id, w.process, none⟩
  | allocate id header object => w.automatic? id header object
  | intern id text =>
    match (w.collector id).interned[text]? with
    | some _ => none
    | none => w.automatic? id (.ofKind .string) (.chunk text.toUTF8)
  | _ => none

def Act.attempt? (w : World) (a : Act) : Option Attempt := a.main?.bind (·.attempt? w)

def absorb (w : World) : Option Attempt → World
  | none => w
  | some t =>
    { w with
      process := t.settled
      collectors := t.owner.elim w.collectors fun id => w.collectors.setIfInBounds id t.after }

def attemptsFrom (w : World) : List Act → List Attempt
  | [] => []
  | a :: acts => (a.attempt? w).toList ++ attemptsFrom (a.apply w) acts

def attempts (acts : List Act) : List Attempt := attemptsFrom {} acts

structure Rests (w w' : World) : Prop where
  process : w'.process.ledger = w.process.ledger
  collector : ∀ id, (w'.collector id).ledger = (w.collector id).ledger

variable {w w' w'' : World} {id : CollectorId}

namespace Rests

theorem refl (w : World) : Rests w w := ⟨rfl, fun _ => rfl⟩

theorem trans (first : Rests w w') (second : Rests w' w'') : Rests w w'' where
  process := second.process.trans first.process
  collector id := (second.collector id).trans (first.collector id)

theorem setCollector {c : Collector} (same : c.ledger = (w.collector id).ledger) :
    Rests w (w.setCollector id c) where
  process := rfl
  collector other := collector_setCollector_ind
    (P := fun c => c.ledger = (w.collector other).ledger) rfl fun e => e ▸ same

theorem addCollector (w : World) (config : Config) : Rests w (w.addCollector config).2 where
  process := rfl
  collector := collector_addCollector_congr Collector.ledger (fun _ _ => rfl) w config

end Rests

theorem setCollector_absorb (w : World) (id : CollectorId) (t : Attempt)
    (owner : t.owner = w.owner? id) :
    ({ w with process := t.settled } : World).setCollector id t.after = w.absorb (some t) := by
  rw [absorb, owner, owner?]
  split
  case isTrue => rfl
  case isFalse outside =>
    -- What is done to a collector that does not exist is lost, but the process took part in it.
    rw [setCollector_of_size_le (w := { w with process := t.settled }) (Nat.not_lt.mp outside)]
    rfl

theorem allocate_of_automatic? {header : Header} {object : Object} {t : Attempt}
    (h : w.automatic? id header object = some t) :
    (w.allocate id header object).2 = w.absorb (some t) := by
  obtain ⟨trigger, due, rfl⟩ := Option.map_eq_some_iff.mp h
  rw [← setCollector_absorb w id _ rfl, allocate, act,
    Collector.allocate_eq_of_due (w.owner? id) due]

theorem allocate_of_automatic?_eq_none {header : Header} {object : Object}
    (h : w.automatic? id header object = none) :
    (w.allocate id header object).2 = w.setCollector id ((w.collector id).place header object) := by
  rw [allocate, act, Collector.allocate_of_due_eq_none (Option.map_eq_none_iff.mp h)]

theorem tryTrigger_eq_absorb (w : World) (id : CollectorId) :
    (w.tryTrigger id).2 = w.absorb
      (some ⟨w.owner? id, .manual, w.collector id, w.process, none⟩) := by
  rw [← setCollector_absorb w id _ rfl, Attempt.settled_of_manual rfl]
  rfl

theorem allocate_cases (w : World) (id : CollectorId) (header : Header) (object : Object) :
    (w.allocate id header object).2.process =
      (w.absorb (w.automatic? id header object)).process ∧
    ∀ other, ∃ heap allocated, (w.allocate id header object).2.collector other =
      { (w.absorb (w.automatic? id header object)).collector other with heap, allocated } := by
  cases h : w.automatic? id header object with
  | none =>
    rw [allocate_of_automatic?_eq_none h]
    refine ⟨rfl, fun other => ?_⟩
    apply collector_setCollector_ind (P := fun c => ∃ heap allocated,
      c = { w.collector other with heap, allocated }) ⟨_, _, rfl⟩
    rintro rfl
    exact ⟨_, _, rfl⟩
  | some t =>
    rw [allocate_of_automatic? h]
    exact ⟨rfl, fun _ => ⟨_, _, rfl⟩⟩

theorem intern_of_absent {text : String} (absent : (w.collector id).interned[text]? = none) :
    (w.intern id text).2.process =
      (w.allocate id (.ofKind .string) (.chunk text.toUTF8)).2.process ∧
    ∀ other, ∃ interned, (w.intern id text).2.collector other =
      { (w.allocate id (.ofKind .string) (.chunk text.toUTF8)).2.collector other with
        interned } := by
  simp only [intern, allocate, act, Collector.intern, absent]
  refine ⟨rfl, fun other => ?_⟩
  generalize (w.collector id).allocate w.process (.ofKind .string) (.chunk text.toUTF8) = allocated
  by_cases inside : id < w.collectors.size
  · rw [collector_setCollector (w := { w with process := allocated.2.2 }) inside,
      collector_setCollector (w := { w with process := allocated.2.2 }) inside]
    split
    · exact ⟨_, rfl⟩
    · exact ⟨_, rfl⟩
  · have outside := Nat.not_lt.mp inside
    rw [setCollector_of_size_le (w := { w with process := allocated.2.2 }) outside,
      setCollector_of_size_le (w := { w with process := allocated.2.2 }) outside]
    exact ⟨_, rfl⟩

theorem filterMap_toList {α β : Type} (o : Option α) (f : α → Option β) :
    o.toList.filterMap f = (o.bind f).toList := by
  rw [List.filterMap_eq_flatMap_toList, Option.toList_bind]
  rfl

theorem Op.apply_of_mayCollect {o : Op} (may : o.MayCollect) (w : World) :
    (o.apply w).process = (w.absorb (o.attempt? w)).process ∧
    ∀ id, ∃ heap allocated interned, (o.apply w).collector id =
      { (w.absorb (o.attempt? w)).collector id with heap, allocated, interned } := by
  cases o with
  | tryTrigger id =>
    rw [apply, tryTrigger_eq_absorb]
    exact ⟨rfl, fun _ => ⟨_, _, _, rfl⟩⟩
  | allocate id header object =>
    obtain ⟨process, collectors⟩ := w.allocate_cases id header object
    refine ⟨process, fun other => ?_⟩
    obtain ⟨_, _, e⟩ := collectors other
    exact ⟨_, _, _, e⟩
  | intern id text =>
    rw [attempt?, apply]
    split
    case h_1 present =>
      simp only [World.intern, act, Collector.intern, present]
      refine ⟨rfl, fun other => ?_⟩
      have same : (w.setCollector id (w.collector id)).collector other = w.collector other :=
        collector_setCollector_ind (P := (· = w.collector other)) rfl (congrArg w.collector)
      exact same ▸ ⟨_, _, _, rfl⟩
    case h_2 absent =>
      obtain ⟨process, collectors⟩ := w.allocate_cases id (.ofKind .string) (.chunk text.toUTF8)
      obtain ⟨process', collectors'⟩ := intern_of_absent absent
      refine ⟨process'.trans process, fun other => ?_⟩
      obtain ⟨_, e'⟩ := collectors' other
      obtain ⟨_, _, e⟩ := collectors other
      rw [e', e]
      exact ⟨_, _, _, rfl⟩
  | _ => exact may.elim

theorem Op.attempt?_of_not_mayCollect {o : Op} (never : ¬o.MayCollect) (w : World) :
    o.attempt? w = none := by
  cases o with
  | tryTrigger | allocate | intern => exact absurd trivial never
  | _ => rfl

theorem Op.rests (w : World) (o : Op) : Rests (w.absorb (o.attempt? w)) (o.apply w) := by
  by_cases may : o.MayCollect
  · obtain ⟨process, collectors⟩ := apply_of_mayCollect may w
    refine ⟨congrArg Process.ledger process, fun id => ?_⟩
    obtain ⟨_, _, _, e⟩ := collectors id
    rw [e]
    rfl
  · rw [attempt?_of_not_mayCollect may]
    cases o with
    | tryTrigger | allocate | intern => exact absurd trivial may
    | create config => exact .addCollector w config
    | edit id e =>
      obtain ⟨_, _, _, eq, -⟩ := Collector.Edit.apply_eq (w.collector id) e
      rw [apply, modifyCollector, eq]
      exact .setCollector rfl
    | addMarker | setMarker | entrust | sleep | setDefaults | takeLog => exact ⟨rfl, fun _ => rfl⟩
    | setTimeout | keep | keepSet | keepDrop | weak | weakClone | weakDrop | map | mapInsert
      | mapErase | mapClear | mapDrop | register | unregister => exact .setCollector rfl

theorem Op.IsQuiet.not_mayCollect {o : Op} (quiet : o.IsQuiet) : ¬o.MayCollect := by
  cases o with
  | tryTrigger | allocate | intern => exact quiet.elim
  | _ => exact id

theorem rests_of_areQuiet {ops : List Op} (quiet : ∀ o ∈ ops, o.IsQuiet) (w : World) :
    Rests w (ops.foldl Op.apply w) := by
  refine List.foldlRecOn ops Op.apply (.refl w) fun w' before o ho => ?_
  have last := o.rests w'
  rw [Op.attempt?_of_not_mayCollect (quiet o ho).not_mayCollect] at last
  exact before.trans last

theorem Act.rests (w : World) (a : Act) : Rests (w.absorb (a.attempt? w)) (a.apply w) := by
  obtain ⟨ops, quiet, e⟩ := a.apply_eq w
  rw [e, attempt?]
  cases a.main? with
  | none => exact rests_of_areQuiet quiet w
  | some o => exact (o.rests w).trans (rests_of_areQuiet quiet (o.apply w))

theorem Act.attempt_cases {a : Act} {t : Attempt} (h : a.attempt? w = some t) :
    t.process = w.process ∧ ∃ id, t.owner = w.owner? id ∧ (t.collector = w.collector id ∨
      ∃ header object, t.collector = (w.collector id).place header object) := by
  have automatic {id : CollectorId} {header : Header} {object : Object}
      (due : w.automatic? id header object = some t) :
      t.process = w.process ∧ ∃ id, t.owner = w.owner? id ∧ (t.collector = w.collector id ∨
        ∃ header object, t.collector = (w.collector id).place header object) := by
    obtain ⟨trigger, -, rfl⟩ := Option.map_eq_some_iff.mp due
    exact ⟨rfl, id, rfl, .inr ⟨header, object, rfl⟩⟩
  obtain ⟨o, -, h⟩ := Option.bind_eq_some_iff.mp h
  cases o with
  | tryTrigger id =>
    cases h
    exact ⟨rfl, id, rfl, .inl rfl⟩
  | allocate id header object => exact automatic h
  | intern id text =>
    rw [Op.attempt?] at h
    split at h
    case h_1 => cases h
    case h_2 => exact automatic h
  | _ => cases h

theorem owner?_eq_some_iff {other : CollectorId} :
    w.owner? id = some other ↔ id = other ∧ id < w.collectors.size := by
  rw [owner?]
  split
  case isTrue inside => simp [inside]
  case isFalse outside => simp [outside]

theorem Act.attempt_congr {α : Type} (f : Collector → α)
    (place : ∀ c header object, f (c.place header object) = f c) {a : Act} {t : Attempt}
    (h : a.attempt? w = some t) (mine : t.owner = some id) :
    f t.collector = f (w.collector id) := by
  obtain ⟨-, other, owner, start⟩ := attempt_cases h
  obtain ⟨rfl, -⟩ := owner?_eq_some_iff.mp (owner.symm.trans mine)
  rcases start with e | ⟨header, object, e⟩
  · rw [e]
  · rw [e, place]

theorem collector_absorb {t : Attempt} (owner : t.owner = w.owner? id) (other : CollectorId) :
    (w.absorb (some t)).collector other =
      if t.owner = some other then t.after else w.collector other := by
  simp only [← setCollector_absorb w id t owner, owner, owner?_eq_some_iff]
  by_cases inside : id < w.collectors.size
  · rw [collector_setCollector (w := { w with process := t.settled }) inside]
    exact if_congr (iff_self_and.mpr fun _ => inside) rfl rfl
  · rw [setCollector_of_size_le (w := { w with process := t.settled }) (Nat.not_lt.mp inside),
      if_neg fun e => inside e.2]
    rfl

theorem attemptsFrom_append (w : World) (acts more : List Act) :
    attemptsFrom w (acts ++ more) =
      attemptsFrom w acts ++ attemptsFrom (acts.foldl Act.apply w) more := by
  induction acts generalizing w with
  | nil => rfl
  | cons a acts ih =>
    rw [List.cons_append, attemptsFrom, ih, attemptsFrom, List.append_assoc, List.foldl_cons]

theorem attempts_append (acts more : List Act) :
    attempts (acts ++ more) = attempts acts ++ attemptsFrom (play acts) more :=
  attemptsFrom_append {} acts more

theorem attempts_concat (acts : List Act) (a : Act) :
    attempts (acts ++ [a]) = attempts acts ++ (a.attempt? (play acts)).toList := by
  rw [attempts_append, attemptsFrom, attemptsFrom, List.append_nil]

end World

end MarkSweep
