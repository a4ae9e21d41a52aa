import MarkSweep.Proofs.World.Deferral
import MarkSweep.Proofs.World.Frame

/-!
Scoped locks. Code that takes the lock by scopes alone leaves every lock as it found it, in whatever
way control leaves the code, and inside a scope the collector holds on to all its nodes.
-/

namespace MarkSweep

namespace Collector

variable (c : Collector) (p : Process)

theorem lockDepth_collect (trigger : Trigger) (pinned : Option Ref) :
    (c.collect p trigger pinned).2.1.lockDepth = c.lockDepth := by
  rcases collect_cases c p trigger pinned with ⟨_, e⟩ | ⟨_, e⟩ | ⟨_, _, e⟩
  · rw [e]
  · rw [e]
  · rw [e]
    rfl

theorem lockDepth_allocate (header : Header) (object : Object) :
    (c.allocate p header object).2.1.lockDepth = c.lockDepth := by
  rcases allocate_snd c p header object with e | ⟨trigger, e⟩
  · rw [e]
    rfl
  · rw [e]
    exact lockDepth_collect (c.place header object) p trigger _

theorem lockDepth_intern (text : String) : (c.intern p text).2.1.lockDepth = c.lockDepth := by
  rw [intern]
  split
  · rfl
  · exact lockDepth_allocate c p _ _

theorem lockDepth_tryTrigger : (c.tryTrigger p).2.1.lockDepth = c.lockDepth := by
  rw [tryTrigger]
  split
  · rfl
  · exact lockDepth_collect c p .manual none

theorem lock_of_error {c c' : Collector} {b : Breach} (h : c.lock = (.error b, c')) : c' = c := by
  rw [lock] at h
  split at h
  · cases h
  · cases h
    rfl

theorem lockDepth_edit {e : Edit} (lock : e ≠ .lock) (unlock : e ≠ .unlock) :
    (e.apply c).lockDepth = c.lockDepth := by
  have modified (r : Ref) (f : Header → Header) :
      (c.modifyHeader r f).2.lockDepth = c.lockDepth := by
    rcases Edit.modifyHeader_cases c r f with e | e <;> rw [e]
  cases e with
  | lock => exact absurd rfl lock
  | unlock => exact absurd rfl unlock
  | setSlot f value => rcases Edit.setSlot_cases c f value with e | e <;> rw [e]
  | setSlotTrailed f value =>
    rcases Edit.setSlotTrailed_cases c f value with e | ⟨prior, -, e⟩ <;> rw [e]
  | writeChunk r start patch =>
    rcases Edit.writeChunk_cases c r start patch with e | ⟨bytes, -, e⟩ <;> rw [e]
  | setFlag r f value => exact modified r _
  | setSecondary r sec => exact modified r _
  | checkpoint | record => rfl
  | rollback => rcases Edit.rollback_cases c with e | ⟨entries, trail, -, e⟩ <;> rw [e]
  | rollbackTo m => rcases Edit.rollbackTo_cases c m with e | ⟨entries, trail, -, e⟩ <;> rw [e]
  | commit => rcases Edit.commit_cases c with e | ⟨trail, -, e⟩ <;> rw [e]

end Collector

namespace World

variable {w w' w'' : World} {id : CollectorId}

def Op.Locks : Op → Prop
  | edit _ .lock | edit _ .unlock => True
  | _ => False

def Act.Locks (a : Act) : Prop := ∃ o, a = .op o ∧ o.Locks

theorem Act.not_locks {a : Act} (h : ∀ o, a ≠ .op o) : ¬a.Locks := by
  rintro ⟨o, rfl, -⟩
  exact h o rfl

theorem Op.lockDepth_apply (w : World) (id : CollectorId) {o : Op} (free : ¬o.Locks) :
    ((o.apply w).collector id).lockDepth = (w.collector id).lockDepth := by
  by_cases exist : id < w.collectors.size
  · have turn := turn_apply exist o
    generalize (o.apply w).collector id = c at turn ⊢
    cases turn with
    | tables => rfl
    | allocate => exact Collector.lockDepth_allocate _ _ _ _
    | intern => exact Collector.lockDepth_intern _ _ _
    | tryTrigger => exact Collector.lockDepth_tryTrigger _ _
    | edit e ho =>
      subst ho
      apply Collector.lockDepth_edit
      · rintro rfl
        exact free trivial
      · rintro rfl
        exact free trivial
  · -- A collector that is made now is not locked either.
    have outside := Nat.not_lt.mp exist
    rw [collector_of_size_le outside]
    rcases collector_apply_of_size_le outside o with e | ⟨config, e⟩
    · rw [e]
    · rw [e]
      rfl

theorem lockDepth_of_areQuiet {ops : List Op} (quiet : ∀ o ∈ ops, o.IsQuiet) (w : World)
    (id : CollectorId) :
    ((ops.foldl Op.apply w).collector id).lockDepth = (w.collector id).lockDepth := by
  refine List.foldlRecOn ops Op.apply
    (motive := fun w' => (w'.collector id).lockDepth = (w.collector id).lockDepth) rfl ?_
  intro w' before o ho
  rw [← before]
  cases o with
  | keep | keepSet | keepDrop | register | unregister =>
    apply collector_setCollector_ind (P := fun c => c.lockDepth = (w'.collector id).lockDepth) rfl
    rintro rfl
    rfl
  | addMarker | setMarker | entrust => rfl
  | _ => exact (quiet _ ho).elim

theorem Act.lockDepth_apply (w : World) (id : CollectorId) {a : Act} (free : ¬a.Locks) :
    ((a.apply w).collector id).lockDepth = (w.collector id).lockDepth := by
  rcases a.apply_cases w with ⟨o, rfl⟩ | ⟨ops, quiet, e⟩ | ⟨o, ops, collecting, quiet, e⟩
  · exact Op.lockDepth_apply w id fun locks => free ⟨o, rfl, locks⟩
  · rw [e, lockDepth_of_areQuiet quiet]
  · rw [e, lockDepth_of_areQuiet quiet]
    apply Op.lockDepth_apply
    cases o with
    | edit => exact collecting.elim
    | _ => exact fun locks => locks

def Act.panics (w : World) : Act → Bool
  | trigger id => !(w.trigger id).1.isOk
  | acquire r a => !(r.acquire w a).isOk
  | replace r content => !(r.replace w content).isOk
  | push r node => !(r.push w node).isOk
  | pushToCell r i node => !(r.pushToCell w i node).isOk
  | acquireCell r i a => !(r.acquireCell w i a).isOk
  | put m key value => !(m.insert w key value).1.isOk
  | remove m key => !(m.erase w key).1.isOk
  | _ => false

def enter? (w : World) (id : CollectorId) : Option World :=
  if id < w.collectors.size ∧ (w.collector id).lock.1.isOk then
    some (w.setCollector id (w.collector id).lock.2)
  else none

def leave? (w : World) (id : CollectorId) : Option World :=
  if (w.collector id).unlock.1.isOk then some (w.setCollector id (w.collector id).unlock.2)
  else none

theorem enter?_eq_some_iff : w.enter? id = some w' ↔
    id < w.collectors.size ∧ (w.collector id).lockDepth < Collector.maxLockDepth ∧
      w' = (Op.edit id .lock).apply w := by
  rw [enter?, Op.apply, modifyCollector, Collector.Edit.apply, Collector.lock]
  by_cases room : (w.collector id).lockDepth < Collector.maxLockDepth
  · simp [room, Except.isOk, Except.toBool, eq_comm]
  · simp [room, Except.isOk, Except.toBool]

theorem lockDepth_enter? (h : w.enter? id = some w') (other : CollectorId) :
    (w'.collector other).lockDepth =
      (w.collector other).lockDepth + if other = id then 1 else 0 := by
  obtain ⟨exist, room, rfl⟩ := enter?_eq_some_iff.mp h
  split
  case isTrue e =>
    subst e
    rw [collector_edit exist, Collector.Edit.apply, Collector.lock, if_pos room]
  case isFalse ne =>
    rw [Op.apply, modifyCollector, collector_setCollector_of_ne w (Ne.symm ne)]
    rfl

theorem leave?_of_pos (locked : 0 < (w.collector id).lockDepth) :
    w.leave? id = some ((Op.edit id .unlock).apply w) := by
  simp [leave?, Op.apply, modifyCollector, Collector.Edit.apply, Collector.unlock,
    Collector.isLocked, locked, Except.isOk, Except.toBool]

theorem lockDepth_unlock (exist : id < w.collectors.size) (locked : 0 < (w.collector id).lockDepth)
    (other : CollectorId) : (((Op.edit id .unlock).apply w).collector other).lockDepth =
      (w.collector other).lockDepth - if other = id then 1 else 0 := by
  split
  case isTrue e =>
    subst e
    rw [collector_edit exist, Collector.Edit.apply, Collector.unlock,
      if_pos ((Collector.isLocked_iff _).mpr locked)]
  case isFalse ne =>
    rw [Op.apply, modifyCollector, collector_setCollector_of_ne w (Ne.symm ne)]
    rfl

theorem calm_edit (w : World) (id other : CollectorId) (e : Collector.Edit) :
    (w.collector other).Calm (((Op.edit id e).apply w).collector other) := by
  apply calm_setCollector
  rintro rfl
  exact Collector.calm_edit _ e

theorem calm_enter? (h : w.enter? id = some w') (other : CollectorId) :
    (w.collector other).Calm (w'.collector other) := by
  obtain ⟨-, -, rfl⟩ := enter?_eq_some_iff.mp h
  exact calm_edit w id other .lock

inductive Exit where
  | finished
  | returned
  | panicked
deriving DecidableEq, Repr

inductive Routine where
  | leave (exit : Exit)
  | act (a : World → Act) (free : ∀ w, ¬(a w).Locks)
  | seq (first second : Routine)
  | branch (test : World → Bool) (yes no : Routine)
  | scope (id : CollectorId) (body : Routine)
  | call (body : Routine)
  | recover (body : Routine)

structure Span where
  id : CollectorId
  entered : World
  inside : List World
  left : World

structure Passage where
  exit : Exit
  world : World
  points : List World := [world]
  spans : List Span := []

def Passage.andThen (first : Passage) (next : World → Passage) : Passage :=
  if first.exit = .finished then
    let second := next first.world
    { second with
      points := first.points ++ second.points
      spans := first.spans ++ second.spans }
  else first

def Passage.stop (t : Passage) (exit : Exit) : Passage :=
  { t with exit := if t.exit = exit then .finished else t.exit }

def Passage.release (t : Passage) (id : CollectorId) (entered : World) : Passage :=
  let (exit, left) := match t.world.leave? id with
    | some left => (t.exit, left)
    | none => (.panicked, t.world)
  { exit
    world := left
    points := entered :: t.points ++ [left]
    spans := t.spans ++ [⟨id, entered, t.points, left⟩] }

def Routine.run : Routine → World → Passage
  | leave exit, w => { exit, world := w }
  | act a _, w =>
    { exit := if (a w).panics w then .panicked else .finished
      world := (a w).apply w
      points := [w, (a w).apply w] }
  | seq first second, w => (first.run w).andThen second.run
  | branch test yes no, w => if test w then yes.run w else no.run w
  | scope id body, w =>
    match w.enter? id with
    | some locked => (body.run locked).release id w
    | none => { exit := .panicked, world := w }
  | call body, w => (body.run w).stop .returned
  | recover body, w => (body.run w).stop .panicked

structure Shelters (id : CollectorId) (w w' : World) : Prop where
  exist : id < w'.collectors.size
  depth : (w.collector id).lockDepth ≤ (w'.collector id).lockDepth
  live : 0 < (w.collector id).lockDepth →
    ∀ r, (w.collector id).isLive r → (w'.collector id).isLive r
  collections : 0 < (w.collector id).lockDepth →
    (w'.collector id).collections = (w.collector id).collections

theorem Shelters.refl (exist : id < w.collectors.size) : Shelters id w w :=
  ⟨exist, Nat.le_refl _, fun _ _ h => h, fun _ => rfl⟩

theorem Shelters.trans (first : Shelters id w w') (second : Shelters id w' w'') :
    Shelters id w w'' where
  exist := second.exist
  depth := first.depth.trans second.depth
  live locked r h := second.live (locked.trans_le first.depth) r (first.live locked r h)
  collections locked :=
    (second.collections (locked.trans_le first.depth)).trans (first.collections locked)

theorem shelters_act (hw : ∀ id, (w.collector id).Orderly) (exist : id < w.collectors.size)
    {a : Act} (depth : (w.collector id).lockDepth ≤ ((a.apply w).collector id).lockDepth) :
    Shelters id w (a.apply w) where
  exist := exist.trans_le (size_le_size_act w a)
  depth := depth
  live locked := (keeps_act hw (.inl locked) a).live
  collections locked := (keeps_act hw (.inl locked) a).collections

theorem shelters_enter? (hw : ∀ id, (w.collector id).Orderly) (exist : id < w.collectors.size)
    {other : CollectorId} (h : w.enter? other = some w') : Shelters id w w' := by
  have depth := lockDepth_enter? h id
  obtain ⟨-, -, rfl⟩ := enter?_eq_some_iff.mp h
  exact shelters_act hw exist (a := .op (.edit other .lock)) (by rw [Act.apply, depth]; omega)

structure Span.IsSheltered (s : Span) : Prop where
  inside : ∀ v ∈ s.inside,
    (s.entered.collector s.id).lockDepth + 1 ≤ (v.collector s.id).lockDepth ∧
      (v.collector s.id).collections = (s.entered.collector s.id).collections ∧
      ∀ r, (s.entered.collector s.id).isLive r → (v.collector s.id).isLive r
  depth : (s.left.collector s.id).lockDepth = (s.entered.collector s.id).lockDepth
  live : ∀ r, (s.entered.collector s.id).isLive r → (s.left.collector s.id).isLive r

/-- What running code from this world on comes to, whatever the code. -/
structure Passage.IsSound (t : Passage) (w : World) : Prop where
  orderly : ∀ id, (t.world.collector id).Orderly
  depth : ∀ id, (t.world.collector id).lockDepth = (w.collector id).lockDepth
  world_mem : t.world ∈ t.points
  points : ∀ v ∈ t.points, ∀ id < w.collectors.size, Shelters id w v
  spans : ∀ s ∈ t.spans, s.IsSheltered

namespace Passage.IsSound

variable {t : Passage}

theorem here (hw : ∀ id, (w.collector id).Orderly) (exit : Exit) :
    Passage.IsSound { exit, world := w } w where
  orderly := hw
  depth _ := rfl
  world_mem := List.mem_singleton_self w
  points v hv id exist := by
    rw [List.mem_singleton.mp hv]
    exact .refl exist
  spans _ hs := nomatch hs

theorem act (hw : ∀ id, (w.collector id).Orderly) {a : Act} (free : ¬a.Locks) (exit : Exit) :
    Passage.IsSound { exit, world := a.apply w, points := [w, a.apply w] } w where
  orderly := orderly_act hw a
  depth id := Act.lockDepth_apply w id free
  world_mem := by simp
  points v hv id exist := by
    simp only [List.mem_cons, List.not_mem_nil, or_false] at hv
    rcases hv with rfl | rfl
    · exact .refl exist
    · exact shelters_act hw exist (Act.lockDepth_apply w id free).ge
  spans _ hs := nomatch hs

theorem andThen (first : t.IsSound w) {next : World → Passage}
    (second : (next t.world).IsSound t.world) : (t.andThen next).IsSound w := by
  rw [Passage.andThen]
  split
  case isFalse => exact first
  case isTrue =>
    refine ⟨second.orderly, fun id => (second.depth id).trans (first.depth id),
      List.mem_append_right _ second.world_mem, ?_, ?_⟩
    · intro v hv id exist
      rcases List.mem_append.mp hv with hv | hv
      · exact first.points v hv id exist
      · have before := first.points _ first.world_mem id exist
        exact before.trans (second.points v hv id before.exist)
    · intro s hs
      rcases List.mem_append.mp hs with hs | hs
      · exact first.spans s hs
      · exact second.spans s hs

theorem stop (sound : t.IsSound w) (exit : Exit) : (t.stop exit).IsSound w := { sound with }

section

variable (hw : ∀ id, (w.collector id).Orderly) (h : w.enter? id = some w') (sound : t.IsSound w')

include hw h sound

theorem shelters_inside {v : World} (hv : v ∈ t.points) {other : CollectorId}
    (exist : other < w.collectors.size) : Shelters other w v := by
  have outer := shelters_enter? hw exist h
  exact outer.trans (sound.points v hv other outer.exist)

theorem inside {v : World} (hv : v ∈ t.points) :
    (w.collector id).lockDepth + 1 ≤ (v.collector id).lockDepth ∧
      (v.collector id).collections = (w.collector id).collections ∧
      ∀ r, (w.collector id).isLive r → (v.collector id).isLive r := by
  have exist := (enter?_eq_some_iff.mp h).1
  have inner := sound.points v hv id (shelters_enter? hw exist h).exist
  have taken := lockDepth_enter? h id
  rw [if_pos rfl] at taken
  have locked : 0 < (w'.collector id).lockDepth := by omega
  have calm := calm_enter? h id
  refine ⟨taken ▸ inner.depth, (inner.collections locked).trans calm.collections, fun r hr => ?_⟩
  exact inner.live locked r (calm.live r hr)

theorem depth_left (other : CollectorId) :
    (((Op.edit id .unlock).apply t.world).collector other).lockDepth =
      (w.collector other).lockDepth := by
  have exist := (enter?_eq_some_iff.mp h).1
  have locked := (sound.inside hw h sound.world_mem).1
  have there := (sound.shelters_inside hw h sound.world_mem exist).exist
  rw [lockDepth_unlock there (by omega), sound.depth other, lockDepth_enter? h]
  omega

theorem shelters_left {other : CollectorId} (exist : other < w.collectors.size) :
    Shelters other w ((Op.edit id .unlock).apply t.world) := by
  have inside := sound.shelters_inside hw h sound.world_mem exist
  have calm := calm_edit t.world id other .unlock
  refine ⟨inside.exist.trans_le (size_le_size_apply _ _), (sound.depth_left hw h other).ge, ?_, ?_⟩
  · exact fun locked r hr => calm.live r (inside.live locked r hr)
  · exact fun locked => calm.collections.trans (inside.collections locked)

theorem release_eq : t.release id w =
    { exit := t.exit
      world := (Op.edit id .unlock).apply t.world
      points := w :: t.points ++ [(Op.edit id .unlock).apply t.world]
      spans := t.spans ++ [⟨id, w, t.points, (Op.edit id .unlock).apply t.world⟩] } := by
  have locked := (sound.inside hw h sound.world_mem).1
  rw [Passage.release, leave?_of_pos (by omega)]

theorem release : (t.release id w).IsSound w := by
  rw [sound.release_eq hw h]
  refine ⟨orderly_apply sound.orderly _, sound.depth_left hw h, by simp, ?_, ?_⟩
  · intro v hv other exist
    simp only [List.cons_append, List.mem_cons, List.mem_append, List.not_mem_nil, or_false] at hv
    rcases hv with rfl | hv | rfl
    · exact .refl exist
    · exact sound.shelters_inside hw h hv exist
    · exact sound.shelters_left hw h exist
  · intro s hs
    rcases List.mem_append.mp hs with hs | hs
    · exact sound.spans s hs
    · rw [List.mem_singleton.mp hs]
      refine ⟨fun v => sound.inside hw h, sound.depth_left hw h id, fun r hr => ?_⟩
      have kept := (sound.inside hw h sound.world_mem).2.2 r hr
      exact (calm_edit t.world id id .unlock).live r kept

end

end Passage.IsSound

theorem orderly_enter? (hw : ∀ id, (w.collector id).Orderly) (h : w.enter? id = some w') :
    ∀ id, (w'.collector id).Orderly := by
  obtain ⟨-, -, rfl⟩ := enter?_eq_some_iff.mp h
  exact orderly_apply hw _

theorem Routine.isSound_run (p : Routine) (hw : ∀ id, (w.collector id).Orderly) :
    (p.run w).IsSound w := by
  induction p generalizing w with
  | leave exit => exact .here hw exit
  | act a free => exact .act hw (free w) _
  | seq first second ihf ihs => exact (ihf hw).andThen (ihs (ihf hw).orderly)
  | branch test yes no ihy ihn =>
    rw [run]
    split
    · exact ihy hw
    · exact ihn hw
  | scope id body ih =>
    rw [run]
    split
    case h_1 locked h => exact (ih (orderly_enter? hw h)).release hw h
    case h_2 => exact .here hw .panicked
  | call body ih => exact (ih hw).stop .returned
  | recover body ih => exact (ih hw).stop .panicked

theorem Routine.run_scope (hw : ∀ id, (w.collector id).Orderly) (h : w.enter? id = some w')
    (body : Routine) : ((scope id body).run w).exit = (body.run w').exit ∧
      ⟨id, w, (body.run w').points, ((scope id body).run w).world⟩ ∈
        ((scope id body).run w).spans := by
  have inner := body.isSound_run (orderly_enter? hw h)
  rw [run, h]
  dsimp only
  rw [inner.release_eq hw h]
  simp

end World

end MarkSweep
