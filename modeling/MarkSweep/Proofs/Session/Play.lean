import MarkSweep.Proofs.Session.Action
import MarkSweep.Proofs.World.Drop
import MarkSweep.Proofs.World.Scope

namespace MarkSweep

namespace World

def Passes (w w' : World) : Prop :=
  ∃ p : Routine, (p.run w).exit = .finished ∧ (p.run w).world = w'

namespace Passes

variable {w w' w'' : World}

theorem refl (w : World) : w.Passes w := ⟨.leave .finished, rfl, rfl⟩

theorem of_eq (e : w' = w) : w.Passes w' := e ▸ refl w

theorem trans (first : w.Passes w') (second : w'.Passes w'') : w.Passes w'' := by
  obtain ⟨p, hp, rfl⟩ := first
  obtain ⟨q, hq, rfl⟩ := second
  refine ⟨.seq p q, ?_, ?_⟩
  · simpa only [Routine.run, Passage.andThen, hp, if_pos] using hq
  · simp only [Routine.run, Passage.andThen, hp, if_pos]

theorem act {a : Act} (free : ¬a.Locks) (w : World) : w.Passes (a.apply w) := by
  refine ⟨.recover (.act (fun _ => a) fun _ => free), ?_, rfl⟩
  simp only [Routine.run, Passage.stop]
  split <;> simp

theorem op {o : Op} (free : ¬o.Locks) (w : World) : w.Passes (o.apply w) := by
  apply act (a := .op o)
  rintro ⟨o, ⟨⟩, locks⟩
  exact free locks

end Passes

theorem passes_foldl {ops : List Op} (dropping : ∀ o ∈ ops, o.IsDropping) (w : World) :
    w.Passes (ops.foldl Op.apply w) := by
  refine List.foldlRecOn ops Op.apply (motive := fun w' => w.Passes w') (.refl w)
    fun w' before o mem => before.trans (.op ?_ w')
  have dropping := dropping o mem
  cases o <;> simp_all [Op.IsDropping, Op.Locks]

theorem passes_drop (h : Handle) (w : World) : w.Passes (w.drop h).2 := by
  obtain ⟨ops, dropping, e⟩ := exists_ops_cascade w .done [⟨h, []⟩]
  exact e ▸ passes_foldl dropping w

theorem passes_release (m : MarkerId) (w : World) : w.Passes (w.release m).2 := by
  obtain ⟨ops, dropping, e⟩ := exists_ops_release w m
  exact e ▸ passes_foldl dropping w

end World

namespace Session

open World

variable {α β : Type}

def Plays (x : Action α) : Prop := ∀ s : Session, s.world.Passes (x.run.run s).2.world

theorem Reads.plays {x : Action α} (hx : Reads x) : Plays x :=
  fun s => .of_eq (congrArg Session.world (hx s))

theorem Plays.bind {x : Action α} (hx : Plays x) {f : α → Action β} (hf : ∀ a, Plays (f a)) :
    Plays (x >>= f) := by
  intro s
  have first := hx s
  rw [run_bind]
  rcases h : x.run.run s with ⟨e | a, s'⟩
  · rwa [h] at first
  · rw [h] at first
    exact first.trans (hf a s')

theorem plays_pure (a : α) : Plays (pure a) := (reads_pure a).plays

theorem Plays.map {x : Action α} (hx : Plays x) (f : α → β) : Plays (f <$> x) := by
  rw [map_eq_pure_bind]
  exact hx.bind fun a => plays_pure (f a)

theorem plays_find (table : Session → Std.TreeMap String α) (name : String) :
    Plays (find table name) :=
  (reads_find table name).plays

theorem plays_liftFault (x : Except Fault α) : Plays (liftFault x) := by
  cases x <;> exact fun s => .refl _

theorem plays_liftBreach (x : Except Breach α) : Plays (liftBreach x) := by
  cases x <;> exact fun s => .refl _

theorem plays_liftFailure (x : Except Failure α) : Plays (liftFailure x) := by
  cases x <;> exact fun s => .refl _

theorem plays_world? (f : World → α) : Plays (world? f) := fun s => .refl s.world

theorem plays_act {f : World → α × World} (h : ∀ w : World, w.Passes (f w).2) :
    Plays (Session.act f) :=
  fun s => h s.world

theorem plays_actOn {f : World → World} (h : ∀ w : World, w.Passes (f w)) : Plays (actOn f) :=
  fun s => h s.world

theorem plays_modify {f : Session → Session} (h : ∀ s, (f s).world = s.world) :
    Plays (modify f : Action Unit) :=
  fun s => .of_eq (h s)

theorem plays_modify_bind {f : Session → Session} (h : ∀ s, (f s).world = s.world)
    {x : Unit → Action β} (hx : ∀ u, Plays (x u)) : Plays ((modify f : Action Unit) >>= x) :=
  (plays_modify h).bind hx

theorem plays_attempt {f : World → Except Failure World}
    (h : ∀ w : World, w.Passes (w.settle (f w))) : Plays (attempt f) := by
  intro s
  have outcome := h s.world
  simp only [attempt, run_bind, run_get]
  cases e : f s.world with
  | error failure => exact .refl _
  | ok w =>
    rw [e] at outcome
    exact outcome

theorem plays_edit {id : CollectorId} {f : Collector → α × Collector} {e : Collector.Edit}
    (lock : e ≠ .lock) (unlock : e ≠ .unlock) (h : ∀ c, e.apply c = (f c).2) :
    Plays (edit id f) := by
  intro s
  have free : ¬(World.Op.edit id e).Locks := by
    cases e <;> simp_all [World.Op.Locks]
  have outcome := Passes.op free s.world
  rwa [World.Op.apply, modifyCollector, h] at outcome

theorem plays_tryEdit {id : CollectorId} {f : Collector → Except Fault α × Collector}
    {e : Collector.Edit} (lock : e ≠ .lock) (unlock : e ≠ .unlock)
    (h : ∀ c, e.apply c = (f c).2) : Plays (tryEdit id f) :=
  (plays_edit lock unlock h).bind fun _ => plays_liftFault _

theorem plays_slots (args : List SlotArg) : Plays (slots args) := by
  induction args with
  | nil => exact plays_pure _
  | cons a args ih => exact (reads_slot a).plays.bind fun _ => ih.bind fun _ => plays_pure _

theorem plays_object (arg : ObjectArg) : Plays (object arg) := by
  cases arg with
  | chunk bytes => exact plays_pure _
  | vector args => exact (plays_slots args).bind fun _ => plays_pure _

theorem plays_bindNode (name : Option String) (r : Ref) : Plays (bindNode name r) := by
  cases name with
  | none => exact plays_pure _
  | some name => exact plays_modify fun _ => rfl

theorem plays_discard {f : World → Fallout × World} (h : ∀ w : World, w.Passes (f w).2) :
    Plays (discard f) := by
  refine (plays_act h).bind fun fallout => ?_
  cases fallout <;> exact fun s => .refl _

theorem plays_dropNamed {table : Session → Std.TreeMap String α}
    {unname : String → Session → Session} {drop : α → World → Fallout × World}
    (same : ∀ name s, (unname name s).world = s.world)
    (dropping : ∀ a, ∀ w : World, w.Passes (drop a w).2) {name : String} :
    Plays (dropNamed table unname drop name) := by
  refine reads_get.plays.bind fun s => ?_
  split
  case h_1 a _ =>
    refine plays_modify_bind (same name) fun _ => ?_
    exact (plays_discard (dropping a)).bind fun _ => plays_pure true
  case h_2 => exact plays_pure false

section

variable (name : String)

theorem plays_dropKeep : Plays (dropKeep name) := by
  refine plays_dropNamed (fun _ _ => ?_) fun k => ?_
  · rfl
  · exact passes_drop (.keep k)

theorem plays_dropWeak : Plays (dropWeak name) := by
  refine plays_dropNamed (fun _ _ => ?_) fun r => ?_
  · rfl
  · exact passes_drop (.weak r)

theorem plays_dropMap : Plays (dropMap name) := by
  refine plays_dropNamed (fun _ _ => ?_) fun m => ?_
  · rfl
  · exact passes_drop (.map m)

theorem plays_dropStringMap : Plays (dropStringMap name) := by
  refine plays_dropNamed (fun _ _ => ?_) fun m => ?_
  · rfl
  · exact passes_drop (.root m.rooted.registration)

theorem plays_dropRoot : Plays (dropRoot name) := by
  refine plays_dropNamed (fun _ _ => ?_) fun r => ?_
  · rfl
  · exact passes_drop (.root r.1.registration)

theorem plays_dropRegistration : Plays (dropRegistration name) := by
  refine plays_dropNamed (fun _ _ => ?_) fun r => ?_
  · rfl
  · exact passes_drop (.root r)

theorem plays_bindKeep (k : KeepAlive) : Plays (bindKeep name k) :=
  (plays_dropKeep name).bind fun _ => plays_modify fun _ => rfl

theorem plays_bindWeak (r : WeakRef) : Plays (bindWeak name r) :=
  (plays_dropWeak name).bind fun _ => plays_modify fun _ => rfl

theorem plays_bindMap (m : WeakMap) : Plays (bindMap name m) :=
  (plays_dropMap name).bind fun _ => plays_modify fun _ => rfl

theorem plays_bindStringMap (m : StringMap) : Plays (bindStringMap name m) :=
  (plays_dropStringMap name).bind fun _ => plays_modify fun _ => rfl

theorem plays_bindRoot (r : Rooted) (shape : Shape) : Plays (bindRoot name r shape) :=
  (plays_dropRoot name).bind fun _ => plays_modify fun _ => rfl

theorem plays_bindRegistration (r : Registration) : Plays (bindRegistration name r) :=
  (plays_dropRegistration name).bind fun _ => plays_modify fun _ => rfl

theorem plays_bindMarker (m : MarkerId) : Plays (bindMarker name m) := by
  refine (plays_actOn fun w => ?_).bind fun _ => reads_get.plays.bind fun s => ?_
  · exact .op (o := .entrust w.owned (m :: w.held)) not_false w
  split
  case h_1 old _ =>
    exact (plays_discard (passes_release old)).bind fun _ => plays_modify fun _ => rfl
  case h_2 => exact plays_modify fun _ => rfl

end

theorem passes_modifyProbe (w : World) (id : MarkerId) (f : Probe → Probe) :
    w.Passes (modifyProbe w id f) := by
  rw [modifyProbe]
  split
  · exact .op (o := .setMarker id _) not_false w
  · exact .refl w

theorem plays_perform (id : CollectorId) {o : Op} (lock : o ≠ .lock) (unlock : o ≠ .unlock) :
    Plays (perform id o) := by
  cases o with
  | lock => exact absurd rfl lock
  | unlock => exact absurd rfl unlock
  | create => exact plays_pure _
  | sameCollector | reference => exact (plays_find _ _).bind fun _ => plays_pure _
  | describe | timeout | config | defaults | latest | history | totals | findInterned =>
    exact (plays_world? _).bind fun _ => plays_pure _
  | allocate name header object =>
    refine (plays_liftFault _).bind fun header => (plays_object _).bind fun object => ?_
    refine (plays_act fun w => ?_).bind fun r => (plays_bindNode _ _).bind fun _ => plays_pure _
    exact .op (o := .allocate id header object) not_false w
  | intern name text =>
    refine (plays_act fun w => ?_).bind fun r => (plays_bindNode _ _).bind fun _ => plays_pure _
    exact .op (o := .intern id text) not_false w
  | rename => exact (plays_find _ _).bind fun _ => (plays_bindNode _ _).bind fun _ => plays_pure _
  | sleep milliseconds =>
    exact (plays_actOn (.op (o := .sleep milliseconds) not_false)).bind fun _ => plays_pure _
  | setTimeout milliseconds =>
    refine (plays_actOn ?_).bind fun _ => plays_pure _
    exact .op (o := .setTimeout id milliseconds) not_false
  | setDefaults config =>
    refine (plays_actOn fun w => ?_).bind fun _ => plays_pure _
    exact .op (o := .setDefaults (config.resolve w.process.defaults)) not_false w
  | events => exact (plays_act (.op (o := .takeLog) not_false)).bind fun _ => plays_pure _
  | trigger =>
    refine (plays_act ?_).bind fun _ => (plays_liftBreach _).bind fun _ => plays_pure _
    exact .act (a := .trigger id) (Act.not_locks nofun)
  | tryTrigger =>
    refine (plays_act ?_).bind fun _ => (plays_liftFault _).bind fun _ => plays_pure _
    exact .op (o := .tryTrigger id) not_false
  | inspect | describeHeader | slot | text =>
    exact (plays_find _ _).bind fun _ => (plays_world? _).bind fun _ => plays_pure _
  | live => exact (plays_slots _).bind fun _ => (plays_world? _).bind fun _ => plays_pure _
  | compare => exact (plays_find _ _).bind fun _ => (plays_find _ _).bind fun _ => plays_pure _
  | setSlot node index value =>
    refine (plays_find _ _).bind fun r => (reads_slot _).plays.bind fun value => ?_
    exact (plays_tryEdit (e := .setSlot ⟨r, index⟩ value) nofun nofun fun _ => rfl).bind fun _ =>
      plays_pure _
  | setSlotTrailed node index value =>
    refine (plays_find _ _).bind fun r => (reads_slot _).plays.bind fun value => ?_
    refine (plays_tryEdit (e := .setSlotTrailed ⟨r, index⟩ value) nofun nofun fun _ => rfl).bind ?_
    exact fun _ => plays_pure _
  | write node start bytes =>
    refine (plays_find _ _).bind fun r => ?_
    exact (plays_tryEdit (e := .writeChunk r start bytes) nofun nofun fun _ => rfl).bind fun _ =>
      plays_pure _
  | setFlag node flag value =>
    refine (plays_find _ _).bind fun r => ?_
    exact (plays_tryEdit (e := .setFlag r flag value) nofun nofun fun _ => rfl).bind fun _ =>
      plays_pure _
  | setSecondary node sec =>
    refine (plays_find _ _).bind fun r => ?_
    exact (plays_tryEdit (e := .setSecondary r sec) nofun nofun fun _ => rfl).bind fun _ =>
      plays_pure _
  | checkpoint name =>
    refine (plays_edit (e := .checkpoint) nofun nofun fun _ => rfl).bind fun mark => ?_
    cases name with
    | none => exact plays_pure _
    | some name =>
      refine plays_modify_bind ?_ fun _ => plays_pure _
      exact fun _ => rfl
  | record node index prior =>
    refine (plays_find _ _).bind fun r => (reads_slot _).plays.bind fun prior => ?_
    exact (plays_edit (e := .record ⟨r, index⟩ prior) nofun nofun fun _ => rfl).bind fun _ =>
      plays_pure _
  | rollback =>
    exact (plays_tryEdit (e := .rollback) nofun nofun fun _ => rfl).bind fun _ => plays_pure _
  | rollbackTo mark =>
    refine (plays_find _ _).bind fun m => ?_
    exact (plays_tryEdit (e := .rollbackTo m) nofun nofun fun _ => rfl).bind fun _ => plays_pure _
  | commit =>
    exact (plays_tryEdit (e := .commit) nofun nofun fun _ => rfl).bind fun _ => plays_pure _
  | keep name node =>
    refine (plays_find _ _).bind fun r => (plays_act ?_).bind fun k => ?_
    · exact .op (o := .keep id r) not_false
    · exact (plays_bindKeep _ _).bind fun _ => plays_pure _
  | keepGet => exact (plays_find _ _).bind fun _ => plays_pure _
  | keepSet keep node =>
    refine (plays_find _ _).bind fun k => (plays_find _ _).bind fun r => ?_
    refine (plays_act (.op (o := .keepSet k r) not_false)).bind fun k => ?_
    refine plays_modify_bind ?_ fun _ => plays_pure _
    exact fun _ => rfl
  | keepClone name keep =>
    refine (plays_find _ _).bind fun k => (plays_act ?_).bind fun k => ?_
    · exact .op (o := .keep k.collector k.node) not_false
    · exact (plays_bindKeep _ _).bind fun _ => plays_pure _
  | keepCloneFrom keep source =>
    refine (plays_find _ _).bind fun k => (plays_find _ _).bind fun source => ?_
    refine (plays_act (.act (a := .keepCloneFrom k source) (Act.not_locks nofun))).bind fun k => ?_
    refine plays_modify_bind ?_ fun _ => plays_pure _
    exact fun _ => rfl
  | keepDrop => exact (plays_dropKeep _).bind fun _ => plays_pure _
  | weak name node =>
    refine (plays_find _ _).bind fun r => (plays_act ?_).bind fun weak => ?_
    · exact .op (o := .weak id r) not_false
    · exact (plays_bindWeak _ _).bind fun _ => (plays_world? _).bind fun _ => plays_pure _
  | weakClone name weak =>
    refine (plays_find _ _).bind fun old => (plays_act ?_).bind fun weak => ?_
    · exact .op (o := .weakClone old) not_false
    · exact (plays_bindWeak _ _).bind fun _ => (plays_world? _).bind fun _ => plays_pure _
  | weakGet =>
    exact (plays_find _ _).bind fun _ => (plays_world? _).bind fun _ =>
      (plays_world? _).bind fun _ => plays_pure _
  | weakDrop => exact (plays_dropWeak _).bind fun _ => plays_pure _
  | map name =>
    refine (plays_act (.op (o := .map id) not_false)).bind fun m => ?_
    exact (plays_bindMap _ _).bind fun _ => plays_pure _
  | mapInsert map key value =>
    refine (plays_find _ _).bind fun m => (plays_find _ _).bind fun key => ?_
    refine (plays_find _ _).bind fun value => ?_
    exact (plays_act (.op (o := .mapInsert m key value) not_false)).bind fun _ => plays_pure _
  | mapFind =>
    exact (plays_find _ _).bind fun _ => (plays_find _ _).bind fun _ =>
      (plays_world? _).bind fun _ => plays_pure _
  | mapRemove map key =>
    refine (plays_find _ _).bind fun m => (plays_find _ _).bind fun key => ?_
    exact (plays_act (.op (o := .mapErase m key) not_false)).bind fun _ => plays_pure _
  | mapClear map =>
    refine (plays_find _ _).bind fun m => ?_
    exact (plays_actOn (.op (o := .mapClear m) not_false)).bind fun _ => plays_pure _
  | mapEntries =>
    exact (plays_find _ _).bind fun _ => (plays_world? _).bind fun _ =>
      (plays_world? _).bind fun _ => plays_pure _
  | mapDrop => exact (plays_dropMap _).bind fun _ => plays_pure _
  | stringMap name =>
    refine (plays_act (.act (a := .table id) (Act.not_locks nofun))).bind fun m => ?_
    exact (plays_bindStringMap _ _).bind fun _ => plays_pure _
  | stringInsert map key value =>
    refine (plays_find _ _).bind fun m => (plays_slots _).bind fun value => ?_
    refine (plays_act ?_).bind fun _ => (plays_liftFailure _).bind fun _ => plays_pure _
    exact .act (a := .put m key _) (Act.not_locks nofun)
  | stringGet => exact (plays_find _ _).bind fun _ => (plays_world? _).bind fun _ => plays_pure _
  | stringRemove map key =>
    refine (plays_find _ _).bind fun m => (plays_act ?_).bind fun _ => ?_
    · exact .act (a := .remove m key) (Act.not_locks nofun)
    · exact (plays_liftFailure _).bind fun _ => plays_pure _
  | stringKeys =>
    exact (plays_find _ _).bind fun _ => (plays_world? _).bind fun _ =>
      (plays_world? _).bind fun _ => (plays_world? _).bind fun _ => plays_pure _
  | stringDrop => exact (plays_dropStringMap _).bind fun _ => plays_pure _
  | root name shape slots =>
    refine (plays_slots _).bind fun held => (plays_act ?_).bind fun r => ?_
    · exact .act (a := .root id (.rooted .unused (shape.build held))) (Act.not_locks nofun)
    · exact (plays_bindRoot _ _ _).bind fun _ => plays_pure _
  | rootPush root node cell =>
    refine (plays_find _ _).bind fun (r, shape) => (plays_find _ _).bind fun node => ?_
    refine (plays_attempt fun w => ?_).bind fun _ => plays_pure _
    split
    · exact .act (a := .pushToCell r cell node) (Act.not_locks nofun) w
    · exact .act (a := .push r node) (Act.not_locks nofun) w
  | rootList =>
    exact (plays_find _ _).bind fun _ => (plays_world? _).bind fun _ =>
      (plays_liftFailure _).bind fun _ => plays_liftFailure _
  | rootDescribe => exact (plays_find _ _).bind fun _ => (plays_world? _).bind fun _ => plays_pure _
  | rootReplace root shape slots =>
    refine (plays_find _ _).bind fun (r, made) => (plays_slots _).bind fun held s => ?_
    have outcome := Passes.act (a := .replace r (shape.build held)) (Act.not_locks nofun) s.world
    rw [World.Act.apply] at outcome
    rw [run_bind, run_world?]
    dsimp only
    cases e : r.replace s.world (shape.build held) with
    | error failure => exact .refl _
    | ok answer =>
      rw [e] at outcome
      exact outcome
  | rootOwner => exact (plays_find _ _).bind fun _ => plays_pure _
  | rootDrop => exact (plays_dropRoot _).bind fun _ => plays_pure _
  | marker name slots busy busyOnMark =>
    refine (plays_slots _).bind fun slots => (plays_act ?_).bind fun marker => ?_
    · exact .op (o := .addMarker (.probe { slots, busy, busyOnMark })) not_false
    · exact (plays_bindMarker _ _).bind fun _ => plays_pure _
  | markerSet name slots busy busyOnMark =>
    refine (plays_find _ _).bind fun marker => ?_
    cases slots with
    | none =>
      refine (plays_pure _).bind fun slots => (plays_actOn fun w => ?_).bind fun _ => plays_pure _
      exact passes_modifyProbe w marker _
    | some args =>
      refine ((plays_slots _).map some).bind fun slots => ?_
      refine (plays_actOn fun w => ?_).bind fun _ => plays_pure _
      exact passes_modifyProbe w marker _
  | markerVisits name =>
    refine (plays_find _ _).bind fun marker => (plays_world? _).bind fun _ => ?_
    exact (plays_actOn fun w => passes_modifyProbe w marker _).bind fun _ => plays_pure _
  | register name marker =>
    refine (plays_find _ _).bind fun marker => (plays_act ?_).bind fun r => ?_
    · exact .op (o := .register id marker) not_false
    · exact (plays_bindRegistration _ _).bind fun _ => plays_pure _
  | registration => exact (plays_find _ _).bind fun _ => plays_pure _
  | remove =>
    exact (plays_find _ _).bind fun _ => (plays_dropRegistration _).bind fun _ => plays_pure _
  | registrationDrop => exact (plays_dropRegistration _).bind fun _ => plays_pure _

end Session

end MarkSweep
