import MarkSweep.Proofs.Collector.Order
import MarkSweep.Proofs.World.Act

namespace MarkSweep

namespace World

variable {w : World} {id : CollectorId}

theorem collector_setCollector_ind {P : Collector → Prop} {other : CollectorId} {c : Collector}
    (old : P (w.collector id)) (new : other = id → P c) :
    P ((w.setCollector other c).collector id) := by
  by_cases e : other = id
  · by_cases bound : other < w.collectors.size
    · rw [collector_setCollector bound, if_pos e]
      exact new e
    · rwa [setCollector_of_size_le (Nat.not_lt.mp bound)]
  · rwa [collector_setCollector_of_ne w e]

theorem collector_of_size_le (outside : w.collectors.size ≤ id) : w.collector id = {} := by
  rw [collector, Array.getD_eq_getD_getElem?, Array.getElem?_eq_none outside]
  rfl

theorem collector_addCollector_ind {P : Collector → Prop} {config : Config}
    (old : P (w.collector id)) (new : P (Collector.create config w.process.clock)) :
    P ((w.addCollector config).2.collector id) := by
  rcases Nat.lt_trichotomy id w.collectors.size with inside | rfl | outside
  · rwa [collector_addCollector inside]
  · rwa [collector_addCollector_self]
  · have outside' : (w.addCollector config).2.collectors.size ≤ id := by
      rw [size_addCollector]
      exact outside
    rw [collector_of_size_le outside']
    rwa [collector_of_size_le (Nat.le_of_lt outside)] at old

theorem collector_addCollector_congr {β : Type} (f : Collector → β)
    (fresh : ∀ config now, f (Collector.create config now) = f {}) (w : World) (config : Config)
    (id : CollectorId) : f ((w.addCollector config).2.collector id) = f (w.collector id) := by
  by_cases inside : id < w.collectors.size
  · rw [collector_addCollector inside]
  · have empty := collector_of_size_le (Nat.not_lt.mp inside)
    rw [empty]
    exact collector_addCollector_ind (P := fun c => f c = f {}) (congrArg f empty) (fresh _ _)

theorem collector_apply_of_size_le (outside : w.collectors.size ≤ id) (o : Op) :
    (o.apply w).collector id = {} ∨
      ∃ config, (o.apply w).collector id = Collector.create config w.process.clock := by
  rcases size_apply w o with same | ⟨config, rfl⟩
  · exact .inl (collector_of_size_le (same.trans_le outside))
  · exact collector_addCollector_ind
      (P := fun c => c = {} ∨ ∃ config, c = Collector.create config w.process.clock)
      (.inl (collector_of_size_le outside)) (.inr ⟨config, rfl⟩)

theorem orderly_apply (hw : ∀ id, (w.collector id).Orderly) (o : Op) (id : CollectorId) :
    ((o.apply w).collector id).Orderly := by
  have old := hw id
  cases o with
  | create config => exact collector_addCollector_ind old (.create config _)
  | allocate other header object =>
    exact collector_setCollector_ind old fun _ => (hw other).allocate _ _ _
  | intern other text => exact collector_setCollector_ind old fun _ => (hw other).intern _ _
  | tryTrigger other => exact collector_setCollector_ind old fun _ => (hw other).tryTrigger _
  | edit other e => exact collector_setCollector_ind old fun _ => (hw other).edit e
  | setTimeout other => exact collector_setCollector_ind old fun _ => { hw other with }
  | keep other =>
    exact collector_setCollector_ind old fun _ =>
      { hw other with keepAlive := Registry.law.insert (hw other).keepAlive _ }
  | keepSet k =>
    exact collector_setCollector_ind old fun _ =>
      { hw k.collector with keepAlive := Registry.law.set (hw k.collector).keepAlive _ _ }
  | keepDrop k =>
    exact collector_setCollector_ind old fun _ =>
      { hw k.collector with keepAlive := Registry.law.erase (hw k.collector).keepAlive _ }
  | weak other =>
    exact collector_setCollector_ind old fun _ =>
      { hw other with weakRefs := Registry.law.insert (hw other).weakRefs _ }
  | weakClone r =>
    exact collector_setCollector_ind old fun _ =>
      { hw r.collector with weakRefs := Registry.law.insert (hw r.collector).weakRefs _ }
  | weakDrop r =>
    exact collector_setCollector_ind old fun _ =>
      { hw r.collector with weakRefs := Registry.law.erase (hw r.collector).weakRefs _ }
  | map other =>
    exact collector_setCollector_ind old fun _ =>
      { hw other with weakMaps := Registry.law.insert (hw other).weakMaps _ }
  | mapInsert m | mapErase m | mapClear m =>
    exact collector_setCollector_ind old fun _ =>
      { hw m.collector with weakMaps := Registry.law.modify (hw m.collector).weakMaps _ _ }
  | mapDrop m =>
    exact collector_setCollector_ind old fun _ =>
      { hw m.collector with weakMaps := Registry.law.erase (hw m.collector).weakMaps _ }
  | register other =>
    exact collector_setCollector_ind old fun _ =>
      { hw other with roots := Registry.law.insert (hw other).roots _ }
  | unregister r =>
    exact collector_setCollector_ind old fun _ =>
      { hw r.collector with roots := Registry.law.erase (hw r.collector).roots _ }
  | addMarker | setMarker | entrust | sleep | setDefaults | takeLog => exact old

theorem orderly_foldl (hw : ∀ id, (w.collector id).Orderly) (ops : List Op) (id : CollectorId) :
    ((ops.foldl Op.apply w).collector id).Orderly :=
  List.foldlRecOn ops Op.apply (motive := fun w' => ∀ id, (w'.collector id).Orderly) hw
    (fun _ before o _ => orderly_apply before o) id

theorem orderly_act (hw : ∀ id, (w.collector id).Orderly) (a : Act) (id : CollectorId) :
    ((a.apply w).collector id).Orderly := by
  obtain ⟨ops, e⟩ := a.exists_ops w
  rw [e]
  exact orderly_foldl hw ops id

theorem orderly_run (ops : List Op) (id : CollectorId) : ((run ops).collector id).Orderly := by
  refine orderly_foldl (fun id => ?_) ops id
  rw [collector_of_size_le (Nat.zero_le _)]
  exact .empty

theorem orderly_play (acts : List Act) (id : CollectorId) :
    ((play acts).collector id).Orderly := by
  obtain ⟨ops, e⟩ := exists_run_eq_play acts
  rw [e]
  exact orderly_run ops id

end World

end MarkSweep
