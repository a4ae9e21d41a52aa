import MarkSweep.Proofs.Collector.Pacing
import MarkSweep.Proofs.World.Arena
import MarkSweep.Proofs.World.Deferral
import MarkSweep.Proofs.World.Frame

namespace MarkSweep

namespace World

def string? (w : World) (id : CollectorId) (text : String) :
    Option (CollectorId × Header × Object) :=
  match (w.collector id).interned[text]? with
  | none => some (id, .ofKind .string, .chunk text.toUTF8)
  | some _ => none

def Op.allocation? (w : World) : Op → Option (CollectorId × Header × Object)
  | allocate id header object => some (id, header, object)
  | intern id text => w.string? id text
  | _ => none

def Act.Places (w : World) (a : Act) (id : CollectorId) (placed : Collector) : Prop :=
  id < w.collectors.size ∧ ∃ header object,
    a.main?.bind (·.allocation? w) = some (id, header, object) ∧
      placed = (w.collector id).place header object

/-- All that an operation can mean for the pace of a collector. -/
inductive Op.Paces (w : World) (id : CollectorId) (o : Op) (c : Collector) : Prop where
  | idle : (w.collector id).Idles c → Paces w id o c
  | setTimeout (milliseconds : Nat) : o = .setTimeout id milliseconds →
    ((w.collector id).setTimeout milliseconds w.process.clock).Idles c → Paces w id o c
  | place (header : Header) (object : Object) : o.allocation? w = some (id, header, object) →
    ((w.collector id).allocate w.process header object).2.1.Idles c → Paces w id o c
  | tryTrigger : o = .tryTrigger id → ((w.collector id).tryTrigger w.process).2.1.Idles c →
    Paces w id o c

variable {w : World} {id : CollectorId} {o : Op} {c c' : Collector}

theorem Op.Paces.idles (paces : o.Paces w id c) (idles : c.Idles c') : o.Paces w id c' := by
  cases paces with
  | idle h => exact .idle (h.trans idles)
  | setTimeout milliseconds e h => exact .setTimeout milliseconds e (h.trans idles)
  | place header object e h => exact .place header object e (h.trans idles)
  | tryTrigger e h => exact .tryTrigger e (h.trans idles)

theorem paces_setCollector {other : CollectorId} {c : Collector}
    (step : other = id → o.Paces w id c) : o.Paces w id ((w.setCollector other c).collector id) :=
  collector_setCollector_ind (.idle (.refl _)) step

theorem idles_intern (c : Collector) (p : Process) (text : String) :
    c.interned[text]? ≠ none ∧ c.Idles (c.intern p text).2.1 ∨ c.interned[text]? = none ∧
      (c.allocate p (.ofKind .string) (.chunk text.toUTF8)).2.1.Idles (c.intern p text).2.1 := by
  rw [Collector.intern]
  split
  case h_1 present => exact .inl ⟨by simp [present], .refl c⟩
  case h_2 absent => exact .inr ⟨absent, { Collector.Idles.refl _ with }⟩

theorem paces_apply (hid : id < w.collectors.size) (o : Op) :
    o.Paces w id ((o.apply w).collector id) := by
  cases o with
  | create config =>
    rw [Op.apply, collector_addCollector hid]
    exact .idle (.refl _)
  | allocate other header object =>
    apply paces_setCollector
    rintro rfl
    exact .place header object rfl (.refl _)
  | intern other text =>
    apply paces_setCollector
    rintro rfl
    rcases idles_intern (w.collector other) w.process text with ⟨-, idles⟩ | ⟨absent, idles⟩
    · exact .idle idles
    · refine .place _ _ ?_ idles
      rw [Op.allocation?, string?, absent]
  | tryTrigger other =>
    apply paces_setCollector
    rintro rfl
    exact .tryTrigger rfl (.refl _)
  | setTimeout other milliseconds =>
    apply paces_setCollector
    rintro rfl
    exact .setTimeout milliseconds rfl (.refl _)
  | edit other e =>
    apply paces_setCollector
    rintro rfl
    exact .idle (Collector.idles_edit _ e)
  | addMarker | setMarker | entrust | sleep | setDefaults | takeLog => exact .idle (.refl _)
  | keep | keepSet | keepDrop | weak | weakClone | weakDrop | map | mapInsert | mapErase | mapClear
    | mapDrop | register | unregister =>
    apply paces_setCollector
    rintro rfl
    exact .idle { Collector.Idles.refl _ with }

theorem idles_of_isQuiet (quiet : o.IsQuiet) (w : World) (id : CollectorId) :
    (w.collector id).Idles ((o.apply w).collector id) := by
  cases o with
  | keep | keepSet | keepDrop | register | unregister =>
    apply collector_setCollector_ind (.refl _)
    rintro rfl
    exact { Collector.Idles.refl _ with }
  | addMarker | setMarker | entrust => exact .refl _
  | _ => exact quiet.elim

theorem idles_of_areQuiet {ops : List Op} (quiet : ∀ o ∈ ops, o.IsQuiet) (w : World)
    (id : CollectorId) : (w.collector id).Idles ((ops.foldl Op.apply w).collector id) :=
  List.foldlRecOn ops Op.apply (motive := fun w' => (w.collector id).Idles (w'.collector id))
    (.refl _) fun w' before o ho => before.trans (idles_of_isQuiet (quiet o ho) w' id)

variable {a : Act} {placed : Collector}

theorem Act.paces_apply (hid : id < w.collectors.size) (a : Act) :
    (w.collector id).Idles ((a.apply w).collector id) ∨
      ∃ o, a.main? = some o ∧ o.Paces w id ((a.apply w).collector id) := by
  obtain ⟨ops, quiet, e⟩ := a.apply_eq w
  cases main : a.main? with
  | none =>
    rw [e, main]
    exact .inl (idles_of_areQuiet quiet w id)
  | some o =>
    rw [e, main]
    exact .inr ⟨o, rfl, (World.paces_apply hid o).idles (idles_of_areQuiet quiet _ id)⟩

theorem idles_allocation (hid : id < w.collectors.size) {header : Header} {object : Object}
    (h : o.allocation? w = some (id, header, object)) :
    ((w.collector id).allocate w.process header object).2.1.Idles ((o.apply w).collector id) := by
  cases o with
  | allocate other =>
    cases h
    rw [Op.apply, collector_allocate hid]
    exact .refl _
  | intern other text =>
    rw [Op.allocation?, string?] at h
    split at h
    case h_1 absent =>
      cases h
      rw [Op.apply, collector_intern hid]
      rcases idles_intern (w.collector id) w.process text with ⟨present, -⟩ | ⟨-, idles⟩
      · exact absurd absent present
      · exact idles
    case h_2 => cases h
  | _ => cases h

theorem Act.Places.outcome (places : a.Places w id placed) (hc : (w.collector id).Orderly) :
    (placed.due w.process.clock = none ∨ w.IsHeld id) ∧
        placed.Idles ((a.apply w).collector id) ∨
      ∃ trigger, placed.due w.process.clock = some trigger ∧ ¬w.IsHeld id ∧
        placed.Completes trigger ((a.apply w).collector id) := by
  obtain ⟨hid, header, object, h, rfl⟩ := places
  obtain ⟨o, main, h⟩ := Option.bind_eq_some_iff.mp h
  obtain ⟨ops, quiet, e⟩ := a.apply_eq w
  have idles : ((w.collector id).allocate w.process header object).2.1.Idles
      ((a.apply w).collector id) := by
    rw [e, main]
    exact (idles_allocation hid h).trans (idles_of_areQuiet quiet _ id)
  have held : w.IsHeld id ↔ (w.collector id).isLocked ∨ (w.collector id).IsBusy w.process ∨
      (w.collector id).IsObstructed w.process := by
    rw [IsHeld, Collector.IsHeld, Collector.isLocked_iff]
  rw [held]
  rcases Collector.allocate_paces hc.heap w.process header object with
    ⟨stopped, left⟩ | ⟨trigger, due, clear, done⟩
  · exact .inl ⟨stopped, left.trans idles⟩
  · exact .inr ⟨trigger, due, clear, idles.completes done⟩

theorem Op.Paces.accrues (paces : o.Paces w id c) (hh : (w.collector id).heap.Consistent)
    (hc : (w.collector id).Counts) : (w.collector id).Accrues c ∧ c.Counts := by
  cases paces with
  | idle idles => exact ⟨idles.accrues, hc.idles idles⟩
  | setTimeout milliseconds _ idles =>
    have kept : ((w.collector id).setTimeout milliseconds w.process.clock).Counts :=
      ⟨hc.bound, hc.exact⟩
    have left := idles.accrues
    exact ⟨⟨left.collections, left.threshold, left.allocated⟩, kept.idles idles⟩
  | place header object _ idles =>
    have placed := hc.accrues_place header object
    rcases Collector.allocate_paces hh w.process header object with ⟨-, left⟩ | ⟨_, -, -, done⟩
    · exact ⟨(placed.trans left.accrues).trans idles.accrues,
        ((hc.place header object).idles left).idles idles⟩
    · exact ⟨(placed.trans done.accrues).trans idles.accrues, done.counts.idles idles⟩
  | tryTrigger _ idles =>
    rcases Collector.tryTrigger_paces hh w.process with left | done
    · exact ⟨left.accrues.trans idles.accrues, (hc.idles left).idles idles⟩
    · exact ⟨done.accrues.trans idles.accrues, done.counts.idles idles⟩

theorem counts_run (ops : List Op) (id : CollectorId) : ((run ops).collector id).Counts := by
  have fresh (config : Config) (now : Nat) : (Collector.create config now).Counts :=
    ⟨Nat.zero_le _, fun _ => rfl⟩
  induction ops using List.reverseRecOn with
  | nil => exact fresh {} 0
  | append_singleton ops o ih =>
    rw [run_concat]
    by_cases inside : id < (run ops).collectors.size
    · exact ((paces_apply inside o).accrues (orderly_run ops id).heap ih).2
    · rcases collector_apply_of_size_le (Nat.not_lt.mp inside) o with e | ⟨config, e⟩
      · rw [e]
        exact fresh {} 0
      · rw [e]
        exact fresh config _

theorem counts_play (acts : List Act) (id : CollectorId) : ((play acts).collector id).Counts := by
  obtain ⟨ops, e⟩ := exists_run_eq_play acts
  rw [e]
  exact counts_run ops id

theorem accrues_play (before since : List Act) (hid : id < (play before).collectors.size) :
    ((play before).collector id).Accrues ((play (before ++ since)).collector id) ∧
      id < (play (before ++ since)).collectors.size := by
  induction since using List.reverseRecOn with
  | nil =>
    rw [List.append_nil]
    exact ⟨(Collector.Idles.refl _).accrues, hid⟩
  | append_singleton since a ih =>
    obtain ⟨accrues, exist⟩ := ih
    rw [← List.append_assoc, play_concat]
    refine ⟨accrues.trans ?_, exist.trans_le (size_le_size_act _ a)⟩
    rcases a.paces_apply exist with idles | ⟨o, -, paces⟩
    · exact idles.accrues
    · exact (paces.accrues (orderly_play _ id).heap (counts_play _ id)).1

theorem peak_place (c : Collector) (header : Header) (object : Object) :
    (c.place header object).heap.outstanding ≤ (c.place header object).heap.peak := by
  have peak := c.heap.peak_allocate header object
  have outstanding := c.heap.outstanding_allocate header object
  rw [Collector.place, peak, outstanding]
  exact Nat.le_max_right _ _

theorem dvd_outstanding_place (acts : List Act) (id : CollectorId) (header : Header)
    (object : Object) :
    8 ∣ (((play acts).collector id).place header object).heap.outstanding := by
  obtain ⟨ops, steady, e⟩ := exists_steady acts id
  have placed : (((play acts).collector id).place header object).heap =
      Heap.run (ops ++ [.allocate header object]) := by
    rw [Heap.run_concat, ← e]
    rfl
  rw [placed]
  exact Heap.dvd_outstanding_run (Heap.steady_concat.mpr ⟨steady, trivial⟩)

theorem Op.Paces.isManual (paces : o.Paces w id c) (hh : (w.collector id).heap.Consistent)
    (manual : (w.collector id).IsManual)
    (untimed : ∀ milliseconds, o = .setTimeout id milliseconds → milliseconds = 0) :
    c.IsManual := by
  cases paces with
  | idle idles => exact manual.idles idles
  | setTimeout milliseconds e idles =>
    obtain rfl := untimed milliseconds e
    have stopped : ((w.collector id).setTimeout 0 w.process.clock).IsManual :=
      ⟨manual.threshold, rfl⟩
    exact stopped.idles idles
  | place header object _ idles => exact (manual.allocate hh _ header object).idles idles
  | tryTrigger _ idles =>
    rcases Collector.tryTrigger_paces hh w.process with left | done
    · exact (manual.idles left).idles idles
    · exact (manual.completes done).idles idles

theorem isManual_play (before since : List Act) (id : CollectorId)
    (made : id = (play before).collectors.size)
    (untimed : ∀ milliseconds, .op (.setTimeout id milliseconds) ∈ since → milliseconds = 0) :
    ((play (before ++ .op (.create .manual) :: since)).collector id).IsManual ∧
      id < (play (before ++ .op (.create .manual) :: since)).collectors.size := by
  induction since using List.reverseRecOn with
  | nil =>
    subst made
    rw [play_concat, Act.apply, Op.apply, collector_addCollector_self, size_addCollector]
    exact ⟨⟨rfl, rfl⟩, Nat.lt_succ_self _⟩
  | append_singleton since a ih =>
    obtain ⟨manual, exist⟩ := ih fun milliseconds h =>
      untimed milliseconds (List.mem_append_left _ h)
    rw [← List.cons_append, ← List.append_assoc, play_concat]
    refine ⟨?_, exist.trans_le (size_le_size_act _ a)⟩
    rcases a.paces_apply exist with idles | ⟨o, main, paces⟩
    · exact manual.idles idles
    · refine paces.isManual (orderly_play _ id).heap manual fun milliseconds e => ?_
      subst e
      rcases Act.eq_of_main? main with rfl | ⟨_, -, e⟩ | ⟨_, _, _, -, e⟩
      · exact untimed milliseconds (by simp)
      · cases e
      · cases e

section

variable {acts : List Act}

theorem Act.Places.counts (places : a.Places (play acts) id placed) : placed.Counts := by
  obtain ⟨-, header, object, -, rfl⟩ := places
  exact (counts_play acts id).place header object

theorem Act.Places.collections (places : a.Places w id placed) :
    placed.collections = (w.collector id).collections := by
  obtain ⟨-, header, object, -, rfl⟩ := places
  rfl

theorem not_isHeld_iff : ¬w.IsHeld id ↔ (w.collector id).lockDepth = 0 ∧
    ¬((w.collector id).IsBusy w.process ∨ (w.collector id).IsObstructed w.process) := by
  rw [IsHeld, Collector.IsHeld, not_or, Nat.not_lt, Nat.le_zero]

theorem Act.Places.collects (places : a.Places (play acts) id placed)
    (room : placed.heap.peak ≤ maxWord) :
    ((placed.Overdue ∨ placed.TimedOut (play acts).process.clock) ∧ ¬(play acts).IsHeld id ∧
      placed.Completes (if placed.Overdue then .threshold else .timeout)
        ((a.apply (play acts)).collector id)) ∨
    ¬((placed.Overdue ∨ placed.TimedOut (play acts).process.clock) ∧ ¬(play acts).IsHeld id) ∧
      placed.Idles ((a.apply (play acts)).collector id) := by
  have due := places.counts.due_eq room (play acts).process.clock
  rcases places.outcome (orderly_play acts id) with ⟨stopped, idles⟩ | ⟨trigger, ran, clear, done⟩
  · refine .inr ⟨?_, idles⟩
    rintro ⟨passed, clear⟩
    rw [due] at stopped
    split at stopped
    case isTrue => simp [clear] at stopped
    case isFalse early =>
      rw [if_pos (passed.resolve_left early)] at stopped
      simp [clear] at stopped
  · left
    rw [due] at ran
    split at ran
    case isTrue late =>
      cases ran
      exact ⟨.inl late, clear, by rwa [if_pos late]⟩
    case isFalse early =>
      split at ran
      case isTrue timedOut =>
        cases ran
        exact ⟨.inr timedOut, clear, by rwa [if_neg early]⟩
      case isFalse => cases ran

theorem Act.Places.due_again (places : a.Places (play acts) id placed)
    (due : placed.due (play acts).process.clock = some .threshold)
    (deferred : ((play (acts ++ [a])).collector id).collections =
      ((play acts).collector id).collections)
    {more : List Act} {b : Act} {placed' : Collector}
    (places' : b.Places (play (acts ++ a :: more)) id placed')
    (since : ((play (acts ++ a :: more)).collector id).collections =
      ((play acts).collector id).collections) :
    placed'.due (play (acts ++ a :: more)).process.clock = some .threshold := by
  have left : placed.Idles ((play (acts ++ [a])).collector id) := by
    have collections := places.collections
    rw [play_concat] at deferred ⊢
    rcases places.outcome (orderly_play acts id) with ⟨-, idles⟩ | ⟨_, -, -, done⟩
    · exact idles
    · have ran := done.collections
      omega
  have exist : id < (play (acts ++ [a])).collectors.size := by
    rw [play_concat]
    exact places.1.trans_le (size_le_size_act _ a)
  have accrues := (accrues_play (acts ++ [a]) more exist).1
  rw [List.append_assoc, List.singleton_append] at accrues
  have same := since.trans deferred.symm
  have reached := Collector.due_eq_threshold_iff.mp due
  have threshold := (accrues.threshold same).trans left.threshold
  have allocated := accrues.allocated same
  rw [left.allocated] at allocated
  obtain ⟨-, header, object, -, rfl⟩ := places'
  have more := ((counts_play (acts ++ a :: more) id).accrues_place header object).allocated rfl
  rw [Collector.due_eq_threshold_iff]
  exact (threshold.le.trans reached).trans (allocated.trans more)

theorem collections_of_isManual (exist : id < (play acts).collectors.size)
    (manual : ((play acts).collector id).IsManual) {b : Act}
    (room : ((play (acts ++ [b])).collector id).heap.peak ≤ maxWord)
    (unforced : b ≠ .trigger id ∧ b ≠ .op (.tryTrigger id)) :
    ((play (acts ++ [b])).collector id).collections =
      ((play acts).collector id).collections := by
  rw [play_concat] at room ⊢
  rcases b.paces_apply exist with idles | ⟨o, main, paces⟩
  · exact idles.collections
  cases paces with
  | idle idles => exact idles.collections
  | setTimeout milliseconds _ idles => exact idles.collections
  | place header object h _ =>
    have places : b.Places (play acts) id (((play acts).collector id).place header object) :=
      ⟨exist, header, object, by rw [main]; exact h, rfl⟩
    rcases places.outcome (orderly_play acts id) with ⟨-, idles⟩ | ⟨trigger, due, -, done⟩
    · exact idles.collections
    · have placed : (((play acts).collector id).place header object).IsManual :=
        ⟨manual.threshold, manual.timeout⟩
      rw [placed.due_eq_none places.counts (peak_place _ header object) (done.peak.trans room)
        (dvd_outstanding_place acts id header object)] at due
      cases due
  | tryTrigger e _ =>
    subst e
    rcases Act.eq_of_main? main with rfl | ⟨_, rfl, e⟩ | ⟨_, _, _, -, e⟩
    · exact absurd rfl unforced.2
    · cases e
      exact absurd rfl unforced.1
    · cases e

end

/-- A collector counts what is outstanding beyond its survivors. An allocation that brings that up
to the threshold, or comes after the timeout, runs a collection unless the collector is held; what
is held off stays due until a collection completes; and a manual collector is never due. -/
theorem collections_are_paced (acts : List Act) (id : CollectorId) :
    (((play acts).collector id).heap.peak ≤ maxWord →
      ((play acts).collector id).survivors + ((play acts).collector id).allocated =
        ((play acts).collector id).heap.outstanding) ∧
    (∀ a placed, a.Places (play acts) id placed → placed.heap.peak ≤ maxWord →
      (((play (acts ++ [a])).collector id).collections =
          ((play acts).collector id).collections + 1 ↔
        (placed.Overdue ∨ placed.TimedOut (play acts).process.clock) ∧
          ((play acts).collector id).lockDepth = 0 ∧
          ¬(((play acts).collector id).IsBusy (play acts).process ∨
            ((play acts).collector id).IsObstructed (play acts).process)) ∧
      (((play (acts ++ [a])).collector id).collections ≠
          ((play acts).collector id).collections + 1 →
        ((play (acts ++ [a])).collector id).collections =
          ((play acts).collector id).collections) ∧
      (((play (acts ++ [a])).collector id).collections =
          ((play acts).collector id).collections + 1 →
        ∃ m, ((play (acts ++ [a])).collector id).history.latest? = some m ∧
          m.trigger = if placed.Overdue then .threshold else .timeout)) ∧
    (∀ a placed, a.Places (play acts) id placed →
      placed.due (play acts).process.clock = some .threshold →
      ((play (acts ++ [a])).collector id).collections = ((play acts).collector id).collections →
      ∀ more b placed', b.Places (play (acts ++ a :: more)) id placed' →
        ((play (acts ++ a :: more)).collector id).collections =
          ((play acts).collector id).collections →
        placed'.due (play (acts ++ a :: more)).process.clock = some .threshold ∧
        (¬(play (acts ++ a :: more)).IsHeld id →
          ((play (acts ++ a :: more ++ [b])).collector id).collections =
              ((play acts).collector id).collections + 1 ∧
            ∃ m, ((play (acts ++ a :: more ++ [b])).collector id).history.latest? = some m ∧
              m.trigger = .threshold)) ∧
    ∀ since b, id = (play acts).collectors.size →
      (∀ milliseconds, .op (.setTimeout id milliseconds) ∈ since → milliseconds = 0) →
      ((play (acts ++ .op (.create .manual) :: since ++ [b])).collector id).heap.peak ≤ maxWord →
      b ≠ .trigger id → b ≠ .op (.tryTrigger id) →
      ((play (acts ++ .op (.create .manual) :: since ++ [b])).collector id).collections =
        ((play (acts ++ .op (.create .manual) :: since)).collector id).collections := by
  refine ⟨(counts_play acts id).exact, ?_, ?_, ?_⟩
  · intro a placed places room
    have before := places.collections
    rw [play_concat, ← not_isHeld_iff, ← before]
    rcases places.collects room with ⟨due, clear, done⟩ | ⟨stopped, idles⟩
    · have more := done.collections
      exact ⟨iff_of_true more ⟨due, clear⟩, fun same => absurd more same, fun _ => done.latest⟩
    · have same := idles.collections
      refine ⟨iff_of_false ?_ stopped, fun _ => same, fun more => ?_⟩ <;> omega
  · intro a placed places due deferred more b placed' places' since
    have again := places.due_again due deferred places' since
    refine ⟨again, fun clear => ?_⟩
    rw [play_concat, ← since, ← places'.collections]
    rcases places'.outcome (orderly_play _ id) with ⟨stopped, -⟩ | ⟨trigger, ran, -, done⟩
    · rw [again] at stopped
      simp [clear] at stopped
    · rw [again] at ran
      cases ran
      exact ⟨done.collections, done.latest⟩
  · intro since b made untimed room trigger tryTrigger
    obtain ⟨manual, exist⟩ := isManual_play acts since id made untimed
    exact collections_of_isManual exist manual room ⟨trigger, tryTrigger⟩

def chunk : Act := .op (.allocate 0 (.ofKind .chunk) (.zeros 3))

def nearly : List Act := [.op (.create { threshold := 64 }), .op (.edit 0 .lock), chunk]

theorem collections_are_paced_locked :
    (((play nearly).collector 0).survivors + ((play nearly).collector 0).allocated = 32) ∧
    ((play (nearly ++ [chunk])).collector 0).collections = 0 ∧
    ((play (nearly ++ chunk :: [chunk, .op (.edit 0 .unlock)] ++ [chunk])).collector 0).collections
      = 1 ∧
    ((play ([] ++ .op (.create .manual) :: [chunk] ++ [chunk])).collector 0).collections = 0 := by
  obtain ⟨counter, exact, lasting, -⟩ := collections_are_paced nearly 0
  obtain ⟨-, -, -, manual⟩ := collections_are_paced [] 0
  have first : chunk.Places (play nearly) 0
      (((play nearly).collector 0).place (.ofKind .chunk) (.zeros 3)) :=
    ⟨by decide +kernel, _, _, rfl, rfl⟩
  have later : chunk.Places (play (nearly ++ chunk :: [chunk, .op (.edit 0 .unlock)])) 0
      (((play (nearly ++ chunk :: [chunk, .op (.edit 0 .unlock)])).collector 0).place
        (.ofKind .chunk) (.zeros 3)) :=
    ⟨by decide +kernel, _, _, rfl, rfl⟩
  obtain ⟨runs, otherwise, -⟩ := exact chunk _ first (by decide +kernel)
  have deferred : ((play (nearly ++ [chunk])).collector 0).collections = 0 := by
    refine (otherwise fun ran => ?_).trans (by decide +kernel)
    exact absurd (runs.mp ran).2.1 (by decide +kernel)
  have due := lasting chunk _ first (by decide +kernel) (deferred.trans (by decide +kernel))
    [chunk, .op (.edit 0 .unlock)] chunk _ later (by decide +kernel)
  refine ⟨(counter (by decide +kernel)).trans (by decide +kernel), deferred, ?_, ?_⟩
  · exact (due.2 (by decide +kernel)).1.trans (by decide +kernel)
  · refine (manual [chunk] chunk rfl ?_ (by decide +kernel) ?_ ?_).trans (by decide +kernel)
    · simp [chunk]
    · simp [chunk]
    · simp [chunk]

end World

end MarkSweep
