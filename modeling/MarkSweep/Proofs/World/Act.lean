import MarkSweep.Handle.StringMap
import MarkSweep.Proofs.World.Run

/-!
Acts: all that a program can ask of a world, the compound uses of handles included. Each act comes
down to operations, so that what holds of every run of those holds of every run of acts.
-/

namespace MarkSweep

namespace World

inductive Act where
  | op (o : Op)
  | trigger (id : CollectorId)
  | keepCloneFrom (k source : KeepAlive)
  | root (id : CollectorId) (m : Marker)
  | acquire (r : Rooted) (a : Access)
  | release (r : Rooted) (a : Access)
  | replace (r : Rooted) (content : Traced)
  | push (r : Rooted) (node : Ref)
  | pushToCell (r : Rooted) (i : Nat) (node : Ref)
  | acquireCell (r : Rooted) (i : Nat) (a : Access)
  | releaseCell (r : Rooted) (i : Nat) (a : Access)
  | table (id : CollectorId)
  | put (m : StringMap) (key : String) (value : Traced)
  | remove (m : StringMap) (key : String)

def settle {ε : Type} (w : World) (outcome : Except ε World) : World := outcome.toOption.getD w

def Act.apply (w : World) : Act → World
  | op o => o.apply w
  | trigger id => (w.trigger id).2
  | keepCloneFrom k source => (k.cloneFrom w source).2
  | root id m => (Rooted.create w id m).2
  | acquire r a => w.settle (r.acquire w a)
  | release r a => r.release w a
  | replace r content => w.settle ((r.replace w content).map Prod.snd)
  | push r node => w.settle (r.push w node)
  | pushToCell r i node => w.settle (r.pushToCell w i node)
  | acquireCell r i a => w.settle (r.acquireCell w i a)
  | releaseCell r i a => r.releaseCell w i a
  | table id => (StringMap.create w id).2
  | put m key value => (m.insert w key value).2
  | remove m key => (m.erase w key).2

def play (acts : List Act) : World := acts.foldl Act.apply {}

theorem play_concat (acts : List Act) (a : Act) : play (acts ++ [a]) = a.apply (play acts) := by
  rw [play, List.foldl_concat, play]

theorem setMarker_setMarker (w : World) (id : MarkerId) (m n : Marker) :
    (w.setMarker id m).setMarker id n = w.setMarker id n := by
  simp [setMarker, Process.setMarker]

end World

namespace Rooted

open World

def Rewrites (r : Rooted) (w w' : World) : Prop := w' = w ∨ ∃ m, w' = w.setMarker r.marker m

variable {r : Rooted} {w w' w'' : World}

namespace Rewrites

theorem refl (r : Rooted) (w : World) : r.Rewrites w w := .inl rfl

theorem trans (first : r.Rewrites w w') (second : r.Rewrites w' w'') : r.Rewrites w w'' := by
  rcases second with rfl | ⟨n, rfl⟩
  · exact first
  · rcases first with rfl | ⟨m, rfl⟩
    · exact .inr ⟨n, rfl⟩
    · exact .inr ⟨n, setMarker_setMarker w r.marker m n⟩

theorem settle {outcome : Except Failure World}
    (h : ∀ w', outcome = .ok w' → r.Rewrites w w') : r.Rewrites w (w.settle outcome) := by
  cases outcome with
  | error e => exact refl r w
  | ok w' => exact h w' rfl

theorem setContent (r : Rooted) (w : World) (content : Traced) :
    r.Rewrites w (r.setContent w content) :=
  .inr ⟨_, rfl⟩

theorem setBorrow (r : Rooted) (w : World) (borrow : Borrow) :
    r.Rewrites w (r.setBorrow w borrow) := by
  rw [Rooted.setBorrow]
  split
  · exact .inr ⟨_, rfl⟩
  · exact .inr ⟨_, rfl⟩
  · exact refl r w

theorem acquire {a : Access} (h : r.acquire w a = .ok w') : r.Rewrites w w' := by
  obtain ⟨borrow, -, hw⟩ := bind_eq_ok.mp h
  cases hw
  exact setBorrow r w borrow

theorem replace {content old : Traced} (h : r.replace w content = .ok (old, w')) :
    r.Rewrites w w' := by
  obtain ⟨borrow, -, hw⟩ := bind_eq_ok.mp h
  cases hw
  exact setContent r w content

theorem push {node : Ref} (h : r.push w node = .ok w') : r.Rewrites w w' := by
  obtain ⟨⟨old, taken⟩, ht, hw⟩ := bind_eq_ok.mp h
  cases hw
  exact (replace ht).trans (setContent r taken _)

theorem modifyCell {i : Nat} {f : Borrow → Traced → Except Failure (Borrow × Traced)}
    (h : r.modifyCell w i f = .ok w') : r.Rewrites w w' := by
  obtain ⟨content, -, hc⟩ := bind_eq_ok.mp h
  obtain ⟨content', -, hw⟩ := bind_eq_ok.mp hc
  cases hw
  exact setContent r w content'

theorem acquireCell {i : Nat} {a : Access} (h : r.acquireCell w i a = .ok w') :
    r.Rewrites w w' := by
  obtain ⟨taken, ht, hc⟩ := bind_eq_ok.mp h
  exact (acquire ht).trans (modifyCell hc)

theorem releaseCell (r : Rooted) (w : World) (i : Nat) (a : Access) :
    r.Rewrites w (r.releaseCell w i a) :=
  (settle fun _ => modifyCell).trans (setBorrow r _ _)

end Rewrites

end Rooted

namespace World

def Op.MayCollect : Op → Prop
  | allocate _ _ _ | intern _ _ | tryTrigger _ => True
  | _ => False

def Op.IsQuiet : Op → Prop
  | keep _ _ | keepSet _ _ | keepDrop _ | register _ _ | unregister _ | addMarker _
    | setMarker _ _ | entrust _ _ => True
  | _ => False

def Act.rooted? : Act → Option Rooted
  | acquire r _ | release r _ | replace r _ | push r _ | pushToCell r _ _ | acquireCell r _ _
    | releaseCell r _ _ => some r
  | _ => none

theorem Act.rewrites_apply {a : Act} {r : Rooted} (h : a.rooted? = some r) (w : World) :
    r.Rewrites w (a.apply w) := by
  cases a with
  | acquire => cases h; exact .settle fun _ => .acquire
  | release => cases h; exact .setBorrow r w _
  | replace =>
    cases h
    apply Rooted.Rewrites.settle
    intro w' hw
    cases hr : r.replace w _ with
    | error e =>
      rw [hr] at hw
      cases hw
    | ok answer =>
      rw [hr] at hw
      cases hw
      exact .replace hr
  | push => cases h; exact .settle fun _ => .push
  | pushToCell => cases h; exact .settle fun _ => .modifyCell
  | acquireCell => cases h; exact .settle fun _ => .acquireCell
  | releaseCell => cases h; exact .releaseCell r w _ _
  | _ => cases h

theorem trigger_snd (w : World) (id : CollectorId) : (w.trigger id).2 = (w.tryTrigger id).2 := by
  rw [trigger]
  split
  case h_1 e => rw [e]
  case h_2 e => rw [e]

theorem rewrites_alter (m : StringMap) (w : World) (node : Ref) (value : Option Traced) :
    m.rooted.Rewrites w (m.alter w node value).2 := by
  simp only [StringMap.alter]
  split
  · exact .refl _ w
  · exact .inr ⟨_, rfl⟩

theorem rewrites_insert (m : StringMap) (w : World) (key : String) (value : Traced) :
    m.rooted.Rewrites (w.intern m.rooted.owner key).2 (m.insert w key value).2 :=
  rewrites_alter m _ _ _

theorem rewrites_erase (m : StringMap) (w : World) (key : String) :
    m.rooted.Rewrites w (m.erase w key).2 := by
  rw [StringMap.erase]
  split
  · exact rewrites_alter m w _ _
  · exact .refl _ w

theorem collector_of_rewrites {r : Rooted} {w w' : World} (h : r.Rewrites w w')
    (id : CollectorId) : w'.collector id = w.collector id := by
  rcases h with rfl | ⟨m, rfl⟩
  · rfl
  · rfl

theorem exists_quiet_of_rewrites {r : Rooted} {w w' : World} (h : r.Rewrites w w') :
    ∃ ops : List Op, (∀ o ∈ ops, o.IsQuiet) ∧ w' = ops.foldl Op.apply w := by
  rcases h with rfl | ⟨m, rfl⟩
  · exact ⟨[], by simp, rfl⟩
  · exact ⟨[.setMarker r.marker m], by simp [Op.IsQuiet], rfl⟩

def Act.main? : Act → Option Op
  | op o => some o
  | trigger id => some (.tryTrigger id)
  | put m key _ => some (.intern m.rooted.owner key)
  | _ => none

theorem Act.eq_of_main? {a : Act} {o : Op} (h : a.main? = some o) :
    a = op o ∨ (∃ id, a = trigger id ∧ o = .tryTrigger id) ∨
      ∃ m key value, a = put m key value ∧ o = .intern m.rooted.owner key := by
  cases a with
  | op o' =>
    cases h
    exact .inl rfl
  | trigger id =>
    cases h
    exact .inr (.inl ⟨id, rfl, rfl⟩)
  | put m key value =>
    cases h
    exact .inr (.inr ⟨m, key, value, rfl, rfl⟩)
  | _ => cases h

theorem Act.apply_eq (w : World) (a : Act) :
    ∃ ops : List Op, (∀ o ∈ ops, o.IsQuiet) ∧
      a.apply w = ops.foldl Op.apply ((a.main?.map (·.apply w)).getD w) := by
  cases ha : a.rooted? with
  | some r =>
    obtain ⟨ops, quiet, e⟩ := exists_quiet_of_rewrites (rewrites_apply ha w)
    have none : a.main? = none := by cases a <;> first | rfl | cases ha
    exact ⟨ops, quiet, by rw [none]; exact e⟩
  | none =>
    cases a with
    | op o => exact ⟨[], by simp, rfl⟩
    | trigger id => exact ⟨[], by simp, trigger_snd w id⟩
    | keepCloneFrom k source =>
      rw [apply, KeepAlive.cloneFrom]
      split
      · exact ⟨[.keepSet k source.node], by simp [Op.IsQuiet], rfl⟩
      · exact ⟨[.keep source.collector source.node, .keepDrop k], by simp [Op.IsQuiet], rfl⟩
    | root id m =>
      exact ⟨[.addMarker m, .register id w.process.markers.size], by simp [Op.IsQuiet], rfl⟩
    | table id =>
      exact ⟨[.addMarker (.table .unused ∅), .register id w.process.markers.size],
        by simp [Op.IsQuiet], rfl⟩
    | put m key value => exact exists_quiet_of_rewrites (rewrites_insert m w key value)
    | remove m key => exact exists_quiet_of_rewrites (rewrites_erase m w key)
    | _ => cases ha

theorem Act.apply_cases (w : World) (a : Act) :
    (∃ o, a = .op o) ∨
    (∃ ops : List Op, (∀ o ∈ ops, o.IsQuiet) ∧ a.apply w = ops.foldl Op.apply w) ∨
    ∃ (o : Op) (ops : List Op), o.MayCollect ∧ (∀ o ∈ ops, o.IsQuiet) ∧
      a.apply w = ops.foldl Op.apply (o.apply w) := by
  obtain ⟨ops, quiet, e⟩ := a.apply_eq w
  cases a with
  | op o => exact .inl ⟨o, rfl⟩
  | trigger id => exact .inr (.inr ⟨.tryTrigger id, ops, trivial, quiet, e⟩)
  | put m key value => exact .inr (.inr ⟨.intern m.rooted.owner key, ops, trivial, quiet, e⟩)
  | _ => exact .inr (.inl ⟨ops, quiet, e⟩)

theorem Act.exists_ops (w : World) (a : Act) :
    ∃ ops : List Op, a.apply w = ops.foldl Op.apply w := by
  obtain ⟨ops, -, e⟩ := a.apply_eq w
  cases main : a.main? with
  | none => exact ⟨ops, by rw [e, main]; rfl⟩
  | some o => exact ⟨o :: ops, by rw [e, main]; rfl⟩

theorem size_le_size_act (w : World) (a : Act) :
    w.collectors.size ≤ (a.apply w).collectors.size := by
  obtain ⟨ops, e⟩ := a.exists_ops w
  rw [e]
  exact size_le_size_foldl w ops

theorem exists_run_eq_play (acts : List Act) : ∃ ops, play acts = run ops := by
  induction acts using List.reverseRecOn with
  | nil => exact ⟨[], rfl⟩
  | append_singleton acts a ih =>
    obtain ⟨ops, ih⟩ := ih
    obtain ⟨more, e⟩ := a.exists_ops (run ops)
    exact ⟨ops ++ more, by rw [play_concat, ih, e, run, run, List.foldl_append]⟩

end World

end MarkSweep
