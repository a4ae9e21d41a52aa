import MarkSweep.Handle.Drop
import MarkSweep.Proofs.Collector.Edit

/-!
Runs of a world: any operations, in any order, on a world that starts without collectors. Whatever
the operation, a collector is edited, or it rests, allocates or collects.
-/

namespace MarkSweep

namespace World

/-- What handles do beyond this is made of these: a rooted value is a marker with a registration,
a write to it sets the marker, and a drop takes out entries one by one. -/
inductive Op where
  | create (config : Config)
  | allocate (id : CollectorId) (header : Header) (object : Object)
  | intern (id : CollectorId) (text : String)
  | tryTrigger (id : CollectorId)
  | setTimeout (id : CollectorId) (milliseconds : Nat)
  | edit (id : CollectorId) (e : Collector.Edit)
  | keep (id : CollectorId) (node : Ref)
  | keepSet (k : KeepAlive) (node : Ref)
  | keepDrop (k : KeepAlive)
  | weak (id : CollectorId) (node : Ref)
  | weakClone (r : WeakRef)
  | weakDrop (r : WeakRef)
  | map (id : CollectorId)
  | mapInsert (m : WeakMap) (node value : Ref)
  | mapErase (m : WeakMap) (node : Ref)
  | mapClear (m : WeakMap)
  | mapDrop (m : WeakMap)
  | register (id : CollectorId) (marker : MarkerId)
  | unregister (r : Registration)
  | addMarker (m : Marker)
  | setMarker (id : MarkerId) (m : Marker)
  | entrust (owned : List (MarkerId × Handle)) (held : List MarkerId)
  | sleep (milliseconds : Nat)
  | setDefaults (config : Config)
  | takeLog

def Op.apply (w : World) : Op → World
  | create config => (w.addCollector config).2
  | allocate id header object => (w.allocate id header object).2
  | intern id text => (w.intern id text).2
  | tryTrigger id => (w.tryTrigger id).2
  | setTimeout id milliseconds =>
    w.modifyCollector id (·.setTimeout milliseconds w.process.clock)
  | edit id e => w.modifyCollector id (e.apply ·)
  | keep id node => (KeepAlive.create w id node).2
  | keepSet k node => (k.set w node).2
  | keepDrop k => k.drop w
  | weak id node => (WeakRef.create w id node).2
  | weakClone r => (r.clone w).2
  | weakDrop r => r.drop w
  | map id => (WeakMap.create w id).2
  | mapInsert m node value => (m.insert w node value).2
  | mapErase m node => (m.erase w node).2
  | mapClear m => m.clear w
  | mapDrop m => m.drop w
  | register id marker => (Registration.create w id marker).2
  | unregister r => r.erase w
  | addMarker m => (w.addMarker m).2
  | setMarker id m => w.setMarker id m
  | entrust owned held => { w with owned, held }
  | sleep milliseconds => w.sleep milliseconds
  | setDefaults config => w.setDefaults config
  | takeLog => w.takeLog.2

def run (ops : List Op) : World := ops.foldl Op.apply {}

variable {w : World} {id : CollectorId}

theorem run_concat (ops : List Op) (o : Op) : run (ops ++ [o]) = o.apply (run ops) := by
  rw [run, List.foldl_concat, run]

theorem size_setCollector (w : World) (id : CollectorId) (c : Collector) :
    (w.setCollector id c).collectors.size = w.collectors.size :=
  Array.size_setIfInBounds

theorem collector_setCollector_self (hid : id < w.collectors.size) (c : Collector) :
    (w.setCollector id c).collector id = c := by
  rw [collector_setCollector hid, if_pos rfl]

theorem collector_setCollector_of_ne (w : World) {other : CollectorId} (h : other ≠ id)
    (c : Collector) : (w.setCollector other c).collector id = w.collector id := by
  simp only [collector, setCollector, Array.getD_eq_getD_getElem?]
  rw [Array.getElem?_setIfInBounds_ne h]

theorem setCollector_of_size_le (outside : w.collectors.size ≤ id) (c : Collector) :
    w.setCollector id c = w := by
  rw [setCollector, Array.setIfInBounds_eq_of_size_le outside]

theorem move_setCollector (hid : id < w.collectors.size) {other : CollectorId} {c : Collector}
    (h : (w.collector other).Move c) :
    (w.collector id).Move ((w.setCollector other c).collector id) := by
  by_cases e : other = id
  · subst e
    rwa [collector_setCollector_self hid]
  · exact .of_eq (collector_setCollector_of_ne w e c)

theorem size_addCollector (w : World) (config : Config) :
    (w.addCollector config).2.collectors.size = w.collectors.size + 1 :=
  Array.size_push _

theorem collector_addCollector (hid : id < w.collectors.size) (config : Config) :
    (w.addCollector config).2.collector id = w.collector id := by
  simp only [collector, addCollector, Array.getD_eq_getD_getElem?]
  rw [Array.getElem?_push_lt hid, Array.getElem?_eq_getElem hid]

theorem collector_addCollector_self (w : World) (config : Config) :
    (w.addCollector config).2.collector w.collectors.size =
      Collector.create config w.process.clock := by
  rw [collector, addCollector, Array.getD_eq_getD_getElem?, Array.getElem?_push_size]
  rfl

theorem collector_edit (hid : id < w.collectors.size) (e : Collector.Edit) :
    ((Op.edit id e).apply w).collector id = e.apply (w.collector id) := by
  rw [Op.apply, modifyCollector, collector_setCollector_self hid]

theorem apply_cases (hid : id < w.collectors.size) (o : Op) :
    (∃ e, o = .edit id e ∧ (o.apply w).collector id = e.apply (w.collector id)) ∨
      (w.collector id).Move ((o.apply w).collector id) := by
  cases o with
  | create config => exact .inr (.of_eq (collector_addCollector hid config))
  | allocate other header object => exact .inr (move_setCollector hid (.allocate _ _ _ rfl rfl))
  | intern other text => exact .inr (move_setCollector hid (Collector.move_intern _ _ _))
  | tryTrigger other => exact .inr (move_setCollector hid (Collector.move_tryTrigger _ _))
  | edit other e =>
    by_cases ho : other = id
    · subst ho
      exact .inl ⟨e, rfl, collector_edit hid e⟩
    · exact .inr (.of_eq (collector_setCollector_of_ne w ho _))
  | addMarker | setMarker | entrust | sleep | setDefaults | takeLog => exact .inr (.rest rfl rfl)
  | setTimeout | keep | keepSet | keepDrop | weak | weakClone | weakDrop | map | mapInsert
    | mapErase | mapClear | mapDrop | register | unregister =>
    exact .inr (move_setCollector hid (.rest rfl rfl))

theorem size_apply (w : World) (o : Op) :
    (o.apply w).collectors.size = w.collectors.size ∨ ∃ config, o = .create config := by
  cases o with
  | create config => exact .inr ⟨config, rfl⟩
  | addMarker | setMarker | entrust | sleep | setDefaults | takeLog => exact .inl rfl
  | _ => exact .inl (size_setCollector _ _ _)

theorem size_le_size_apply (w : World) (o : Op) :
    w.collectors.size ≤ (o.apply w).collectors.size := by
  rcases size_apply w o with h | ⟨config, rfl⟩
  · exact Nat.le_of_eq h.symm
  · exact Nat.le_of_lt (Nat.lt_of_lt_of_eq (Nat.lt_succ_self _) (size_addCollector w config).symm)

theorem size_le_size_foldl (w : World) (ops : List Op) :
    w.collectors.size ≤ (ops.foldl Op.apply w).collectors.size := by
  induction ops generalizing w with
  | nil => exact Nat.le_refl _
  | cons o ops ih => exact (size_le_size_apply w o).trans (ih (o.apply w))

theorem size_le_size_run (ops more : List Op) :
    (run ops).collectors.size ≤ (run (ops ++ more)).collectors.size := by
  rw [run, run, List.foldl_append]
  exact size_le_size_foldl _ more

theorem consistent_apply (hw : ∀ id < w.collectors.size, (w.collector id).heap.Consistent)
    (o : Op) {id : CollectorId} (hid : id < (o.apply w).collectors.size) :
    ((o.apply w).collector id).heap.Consistent := by
  by_cases old : id < w.collectors.size
  · rcases apply_cases old o with ⟨e, -, h⟩ | move
    · rw [h]
      exact Collector.Edit.consistent_apply (hw id old) e
    · exact move.consistent (hw id old)
  · rcases size_apply w o with h | ⟨config, rfl⟩
    · exact absurd (h ▸ hid) old
    · have bound : id < w.collectors.size + 1 := Nat.lt_of_lt_of_eq hid (size_addCollector w config)
      obtain rfl : id = w.collectors.size :=
        Nat.le_antisymm (Nat.le_of_lt_succ bound) (Nat.not_lt.mp old)
      rw [Op.apply, collector_addCollector_self]
      exact Heap.consistent_empty

theorem consistent_run (ops : List Op) {id : CollectorId} (hid : id < (run ops).collectors.size) :
    ((run ops).collector id).heap.Consistent := by
  induction ops using List.reverseRecOn generalizing id with
  | nil => cases hid
  | append_singleton ops o ih =>
    rw [run_concat] at hid ⊢
    exact consistent_apply (fun _ => ih) o hid

end World

end MarkSweep
