import MarkSweep.Session.Run

namespace MarkSweep

namespace Session

variable {α β : Type}

theorem run_pure (a : α) (s : Session) : (pure a : Action α).run.run s = (.ok a, s) := rfl

theorem run_bind (x : Action α) (f : α → Action β) (s : Session) :
    (x >>= f).run.run s =
      match x.run.run s with
      | (.ok a, s') => (f a).run.run s'
      | (.error e, s') => (.error e, s') := by
  rw [ExceptT.run_bind, StateT.run_bind]
  show (match (x.run.run s).1 with | _ => _) = _
  rcases x.run.run s with ⟨e | a, s'⟩
  · rfl
  · rfl

theorem run_get (s : Session) : (get : Action Session).run.run s = (.ok s, s) := rfl

theorem run_world? (f : World → α) (s : Session) :
    (world? f).run.run s = (.ok (f s.world), s) := rfl

theorem run_liftFault (x : Except Fault α) (s : Session) :
    (liftFault x).run.run s = (x.mapError .fault, s) := by
  cases x <;> rfl

theorem run_find (table : Session → Std.TreeMap String α) (name : String) (s : Session) :
    (find table name).run.run s =
      match (table s)[name]? with
      | some a => (.ok a, s)
      | none => (.error (.unbound name), s) := by
  simp only [find, run_bind, run_get]
  cases (table s)[name]? with
  | none => rfl
  | some a => rfl

theorem run_edit (id : CollectorId) (f : Collector → α × Collector) (s : Session) :
    (edit id f).run.run s = (.ok (f (s.world.collector id)).1,
      { s with world := s.world.setCollector id (f (s.world.collector id)).2 }) := rfl

theorem run_tryEdit (id : CollectorId) (f : Collector → Except Fault α × Collector) (s : Session) :
    (tryEdit id f).run.run s = ((f (s.world.collector id)).1.mapError .fault,
      { s with world := s.world.setCollector id (f (s.world.collector id)).2 }) := by
  simp only [tryEdit, run_bind, run_edit, run_liftFault]

def Reads (x : Action α) : Prop := ∀ s, (x.run.run s).2 = s

def Recoils (x : Action α) : Prop := ∀ s s' e, x.run.run s = (.error e, s') → s' = s

theorem reads_pure (a : α) : Reads (pure a) := fun _ => rfl

theorem Reads.bind {x : Action α} (hx : Reads x) {f : α → Action β} (hf : ∀ a, Reads (f a)) :
    Reads (x >>= f) := by
  intro s
  have same := hx s
  rw [run_bind]
  rcases h : x.run.run s with ⟨e | a, s'⟩
  · rwa [h] at same
  · rw [h] at same
    cases same
    exact hf a s'

theorem reads_get : Reads (get : Action Session) := fun _ => rfl

theorem reads_find (table : Session → Std.TreeMap String α) (name : String) :
    Reads (find table name) := by
  intro s
  rw [run_find]
  split
  · rfl
  · rfl

theorem reads_slot (a : SlotArg) : Reads (slot a) := by
  cases a with
  | empty => exact reads_pure _
  | scalar value => exact reads_pure _
  | node name => exact (reads_find _ _).bind fun _ => reads_pure _
  | bits name => exact (reads_find _ _).bind fun _ => reads_pure _

theorem Reads.bind_recoils {x : Action α} (hx : Reads x) {f : α → Action β}
    (hf : ∀ a, Recoils (f a)) : Recoils (x >>= f) := by
  intro s s' e h
  have same := hx s
  rw [run_bind] at h
  rcases hr : x.run.run s with ⟨e' | a, s''⟩
  · rw [hr] at h same
    cases h
    exact same
  · rw [hr] at h same
    cases same
    exact hf a _ s' e h

theorem Recoils.map {x : Action α} (hx : Recoils x) (f : α → β) :
    Recoils (x >>= fun a => pure (f a)) := by
  intro s s' e h
  rw [run_bind] at h
  rcases hr : x.run.run s with ⟨e' | a, s''⟩
  · rw [hr] at h
    cases h
    exact hx s s' e hr
  · rw [hr] at h
    cases h

theorem recoils_tryEdit (id : CollectorId) {f : Collector → Except Fault α × Collector}
    (spared : ∀ c e c', f c = (.error e, c') → c' = c) : Recoils (tryEdit id f) := by
  intro s s' e h
  rw [run_tryEdit] at h
  rcases hf : f (s.world.collector id) with ⟨e' | a, c⟩
  · rw [hf, spared _ e' c hf, World.setCollector_collector] at h
    cases h
    rfl
  · rw [hf] at h
    cases h

end Session

end MarkSweep
