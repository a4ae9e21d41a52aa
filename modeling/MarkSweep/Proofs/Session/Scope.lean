import MarkSweep.Proofs.Session.Play

namespace MarkSweep

namespace World

variable {w w' locked : World} {id : CollectorId}

namespace Passes

variable (hw : ∀ id, (w.collector id).Orderly)

include hw

theorem orderly (h : w.Passes w') : ∀ id, (w'.collector id).Orderly := by
  obtain ⟨p, -, rfl⟩ := h
  exact (p.isSound_run hw).orderly

theorem lockDepth (h : w.Passes w') (id : CollectorId) :
    (w'.collector id).lockDepth = (w.collector id).lockDepth := by
  obtain ⟨p, -, rfl⟩ := h
  exact (p.isSound_run hw).depth id

theorem scope (h : w.enter? id = some locked) (inner : locked.Passes w') :
    ∃ c, (w'.collector id).unlock = (.ok (), c) ∧ w.Passes (w'.setCollector id c) := by
  obtain ⟨p, hp, rfl⟩ := inner
  have sound := p.isSound_run (orderly_enter? hw h)
  have held := (sound.inside hw h sound.world_mem).1
  have released : ((p.run locked).world.collector id).unlock =
      (.ok (), { (p.run locked).world.collector id with
        lockDepth := ((p.run locked).world.collector id).lockDepth - 1 }) := by
    rw [Collector.unlock, if_pos ((Collector.isLocked_iff _).mpr (by omega))]
  refine ⟨_, released, .scope id p, ?_, ?_⟩
  · rw [(Routine.run_scope hw h p).1, hp]
  · rw [Routine.run, h]
    simp only [Passage.release, leave?, released]
    rfl

end Passes

end World

namespace Session

open World

theorem run_relock (id : CollectorId) (f : Collector → Except Breach Unit × Collector)
    (s : Session) :
    (relock id f).run.run s =
      ((f (s.world.collector id)).1.mapError .breach,
        { s with world := s.world.setCollector id (f (s.world.collector id)).2 }) := by
  simp only [relock, run_bind, run_edit]
  cases (f (s.world.collector id)).1 with
  | error b => rfl
  | ok c => rfl

theorem plays_create (name : String) (config : ConfigArg) : Plays (create name config) := by
  intro s
  exact .op (o := .create (config.resolveForCollector s.world.process.defaults)) not_false s.world

theorem plays_runOp (on : String) {o : Op} (lock : o ≠ .lock) (unlock : o ≠ .unlock) :
    Plays (runOp on o) := by
  cases o with
  | create config => exact plays_create on config
  | _ => exact (plays_find _ _).bind fun id => plays_perform id lock unlock

theorem plays_seize (root : String) (target : HoldTarget) : Plays (seize root target) := by
  refine (plays_find _ _).bind fun (r, shape) => (plays_attempt fun w => ?_).bind fun _ => plays_pure _
  cases target with
  | whole access => exact .act (a := .acquire r access) (Act.not_locks nofun) w
  | cell index access => exact .act (a := .acquireCell r index access) (Act.not_locks nofun) w

theorem passes_letGo (r : Rooted) (target : HoldTarget) (w : World) :
    w.Passes (letGo r target w) := by
  cases target with
  | whole access => exact .act (a := .release r access) (Act.not_locks nofun) w
  | cell index access => exact .act (a := .releaseCell r index access) (Act.not_locks nofun) w

theorem plays_seizeEntry (map key : String) : Plays (seizeEntry map key) := by
  refine (plays_find _ _).bind fun m => (plays_world? _).bind fun value => ?_
  cases value with
  | none => exact plays_pure _
  | some value =>
    refine (plays_attempt fun w => ?_).bind fun _ => plays_pure _
    exact .act (a := .acquire m.rooted .shared) (Act.not_locks nofun) w

end Session

mutual

/-- Whether no command takes a lock by itself. -/
def Command.IsScoped : Command → Prop
  | .op _ o => o ≠ .lock ∧ o ≠ .unlock
  | .scope _ _ _ body => Command.AreScoped body
  | .hold _ _ _ body => Command.AreScoped body
  | .holdEntry _ _ _ body => Command.AreScoped body
  | .times _ _ body => Command.AreScoped body

def Command.AreScoped : List Command → Prop
  | [] => True
  | c :: cs => c.IsScoped ∧ Command.AreScoped cs

end

namespace Session

open World

variable {s : Session}

theorem passes_rounds {α : Type} {body : Session → List α × Session}
    (step : ∀ s : Session, (∀ id, (s.world.collector id).Orderly) → s.world.Passes (body s).2.world)
    (n : Nat) (s : Session) (hw : ∀ id, (s.world.collector id).Orderly) :
    s.world.Passes (rounds body n s).2.world := by
  induction n generalizing s with
  | zero => exact .refl _
  | succ n ih =>
    cases n with
    | zero => exact step s hw
    | succ n =>
      have first := step s hw
      exact first.trans (ih _ (first.orderly hw))

theorem passes_scope (on : String) (bails raises : Bool) {body : List Command}
    (hw : ∀ id, (s.world.collector id).Orderly)
    (inner : ∀ s : Session, (∀ id, (s.world.collector id).Orderly) →
      s.world.Passes (Command.runAll bails body s).2.world) :
    s.world.Passes ((Command.scope on bails raises body).run s).2.world := by
  simp only [Command.run, collectorId, run_bind, run_find]
  cases named : s.collectors[on]? with
  | none => exact .refl _
  | some id =>
    simp only [run_relock, run_pure]
    rcases taken : (s.world.collector id).lock with ⟨b | _, c⟩
    · rw [Collector.lock_of_error taken, setCollector_collector]
      exact .refl _
    · simp only [Except.mapError]
      by_cases exist : id < s.world.collectors.size
      · have entered : s.world.enter? id = some (s.world.setCollector id c) := by
          simp [enter?, exist, taken, Except.isOk, Except.toBool]
        have after := inner { s with world := s.world.setCollector id c } (orderly_enter? hw entered)
        obtain ⟨c', released, passes⟩ := Passes.scope hw entered after
        simp only [released]
        exact passes
      · -- There is nothing to lock, and nothing to release afterwards.
        have same := setCollector_of_size_le (Nat.not_lt.mp exist) c
        simp only [same]
        have after := inner s hw
        have free : ((Command.runAll bails body s).2.world.collector id).unlock =
            (.error .notLocked, (Command.runAll bails body s).2.world.collector id) := by
          have depth := after.lockDepth hw id
          rw [collector_of_size_le (Nat.not_lt.mp exist)] at depth
          simp [Collector.unlock, Collector.isLocked, depth]
        simp only [free, setCollector_collector]
        exact after

theorem passes_held {α : Type} {x : Action α} (hx : Plays x) {body : List Command}
    (letGo : α → World → World) (goes : ∀ a w, World.Passes w (letGo a w))
    (hw : ∀ id, (s.world.collector id).Orderly)
    (inner : ∀ s : Session, (∀ id, (s.world.collector id).Orderly) →
      s.world.Passes (Command.runAll false body s).2.world) :
    s.world.Passes (match x.run.run s with
      | (.error _, s) => s.world
      | (.ok a, s) => letGo a (Command.runAll false body s).2.world) := by
  have first := hx s
  rcases h : x.run.run s with ⟨e | a, s'⟩
  · rwa [h] at first
  · rw [h] at first
    exact (first.trans (inner s' (first.orderly hw))).trans (goes a _)

end Session

mutual

theorem Command.passes_run (c : Command) (free : c.IsScoped) (s : Session)
    (hw : ∀ id, (s.world.collector id).Orderly) : s.world.Passes (c.run s).2.world := by
  cases c with
  | op on o => exact Session.plays_runOp on free.1 free.2 s
  | scope on bails raises body =>
    exact Session.passes_scope on bails raises hw fun s => Command.passes_runAll bails body free s
  | hold on root target body =>
    have passes := Session.passes_held (Session.plays_seize root target) (Session.letGo · target)
      (fun r w => Session.passes_letGo r target w) hw (Command.passes_runAll false body free)
    rw [Command.run]
    rcases h : (Session.seize root target).run.run s with ⟨e | r, s'⟩
    · rwa [h] at passes
    · rwa [h] at passes
  | holdEntry on map key body =>
    have passes := Session.passes_held (Session.plays_seizeEntry map key) (fun entry w =>
        if entry.2.isSome then entry.1.rooted.release w .shared else w) (fun entry w => by
        split
        · exact .act (a := .release entry.1.rooted .shared) (World.Act.not_locks nofun) w
        · exact .refl w) hw (Command.passes_runAll false body free)
    rw [Command.run]
    rcases h : (Session.seizeEntry map key).run.run s with ⟨e | entry, s'⟩
    · rwa [h] at passes
    · rwa [h] at passes
  | times on count body =>
    exact Session.passes_rounds (Command.passes_runAll false body free) count s hw

theorem Command.passes_runAll (single : Bool) (cs : List Command) (free : Command.AreScoped cs)
    (s : Session) (hw : ∀ id, (s.world.collector id).Orderly) :
    s.world.Passes (Command.runAll single cs s).2.world := by
  cases cs with
  | nil => exact .refl _
  | cons c cs =>
    have first := Command.passes_run c free.1 s hw
    cases single with
    | true => exact first
    | false => exact first.trans (Command.passes_runAll false cs free.2 _ (first.orderly hw))

end

namespace World

/-- Every scope leaves the lock as it found it, by whatever exit, and holds it at every point
inside, where no collection completes; and what was live when it was entered is live when it is
left. So it is with the scopes of all routines, and commands come to routines. -/
theorem scopes_balance (acts : List Act) (p : Routine) :
    (∀ id, ((p.run (play acts)).world.collector id).lockDepth =
      ((play acts).collector id).lockDepth) ∧
    (∀ s ∈ (p.run (play acts)).spans,
      (s.left.collector s.id).lockDepth = (s.entered.collector s.id).lockDepth ∧
      (∀ v ∈ s.inside,
        (s.entered.collector s.id).lockDepth + 1 ≤ (v.collector s.id).lockDepth ∧
        (v.collector s.id).collections = (s.entered.collector s.id).collections) ∧
      ∀ r, (s.entered.collector s.id).isLive r →
        (∀ v ∈ s.inside, (v.collector s.id).isLive r) ∧ (s.left.collector s.id).isLive r) ∧
    (∀ id locked, (play acts).enter? id = some locked →
      ((Routine.scope id p).run (play acts)).exit = (p.run locked).exit ∧
      ⟨id, play acts, (p.run locked).points, ((Routine.scope id p).run (play acts)).world⟩ ∈
        ((Routine.scope id p).run (play acts)).spans) ∧
    ∀ (c : Command) (s : Session), c.IsScoped → s.world = play acts →
      ∃ q : Routine, (q.run (play acts)).world = (c.run s).2.world := by
  have hw := orderly_play acts
  have sound := p.isSound_run hw
  refine ⟨sound.depth, ?_, fun id locked h => Routine.run_scope hw h p, ?_⟩
  · intro s hs
    have sheltered := sound.spans s hs
    refine ⟨sheltered.depth, fun v hv => ?_, fun r hr => ⟨fun v hv => ?_, sheltered.live r hr⟩⟩
    · obtain ⟨depth, collections, -⟩ := sheltered.inside v hv
      exact ⟨depth, collections⟩
    · exact (sheltered.inside v hv).2.2 r hr
  · rintro c s free e
    rw [← e] at hw
    obtain ⟨q, -, passes⟩ := c.passes_run free s hw
    exact ⟨q, by rw [← e, passes]⟩

-- A collection that must run is refused under the lock, and its panic goes through both scopes.
example :
    let trigger : Routine := .act (fun _ => .trigger 0) fun _ => Act.not_locks nofun
    let t := (Routine.scope 0 (.scope 0 trigger)).run (play [.op (.create .manual)])
    t.exit = .panicked ∧ t.spans.map (fun s => (s.inside.map (·.collector 0 |>.lockDepth),
      (s.left.collector 0).lockDepth)) = [([2, 2], 1), ([1, 2, 2, 1], 0)] := by
  decide +kernel

end World

end MarkSweep
