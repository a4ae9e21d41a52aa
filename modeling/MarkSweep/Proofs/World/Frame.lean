import MarkSweep.Proofs.Collector.Linkage
import MarkSweep.Proofs.World.Order

namespace MarkSweep

namespace World

inductive Turn (w : World) (id : CollectorId) (o : Op) : Collector → Prop where
  | tables {config : Config} {periodStart : Nat} {keepAlive : Registry Ref}
    {weakRefs : Registry WeakEntry} {weakMaps : Registry NodeMap} {roots : Registry MarkerId} :
    (roots = (w.collector id).roots ∨ (∃ m, roots = ((w.collector id).roots.insert m).2) ∨
      ∃ key, o = .unregister ⟨id, key⟩ ∧ roots = (w.collector id).roots.erase key) →
    Turn w id o { w.collector id with config, periodStart, keepAlive, weakRefs, weakMaps, roots }
  | allocate (header : Header) (object : Object) :
    Turn w id o ((w.collector id).allocate w.process header object).2.1
  | intern (text : String) : Turn w id o ((w.collector id).intern w.process text).2.1
  | tryTrigger : Turn w id o ((w.collector id).tryTrigger w.process).2.1
  | edit (e : Collector.Edit) : o = .edit id e → Turn w id o (e.apply (w.collector id))

variable {w : World} {o : Op} {id : CollectorId}

theorem turn_setCollector {other : CollectorId} {c : Collector} (step : other = id → w.Turn id o c) :
    w.Turn id o ((w.setCollector other c).collector id) :=
  collector_setCollector_ind (.tables (.inl rfl)) step

theorem turn_apply (hid : id < w.collectors.size) (o : Op) :
    w.Turn id o ((o.apply w).collector id) := by
  cases o with
  | create config =>
    rw [Op.apply, collector_addCollector hid]
    exact .tables (.inl rfl)
  | allocate other header object =>
    apply turn_setCollector
    rintro rfl
    exact .allocate header object
  | intern other text =>
    apply turn_setCollector
    rintro rfl
    exact .intern text
  | tryTrigger other =>
    apply turn_setCollector
    rintro rfl
    exact .tryTrigger
  | edit other e =>
    apply turn_setCollector
    rintro rfl
    exact .edit e rfl
  | register other m =>
    apply turn_setCollector
    rintro rfl
    exact .tables (.inr (.inl ⟨m, rfl⟩))
  | unregister r =>
    apply turn_setCollector
    rintro rfl
    exact .tables (.inr (.inr ⟨r.key, rfl, rfl⟩))
  | addMarker | setMarker | entrust | sleep | setDefaults | takeLog => exact .tables (.inl rfl)
  | setTimeout | keep | keepSet | keepDrop | weak | weakClone | weakDrop | map | mapInsert
    | mapErase | mapClear | mapDrop =>
    apply turn_setCollector
    rintro rfl
    exact .tables (.inl rfl)

theorem roots_apply (hid : id < w.collectors.size) (hc : (w.collector id).Orderly) {key : Key}
    {marker : MarkerId} (untouched : o ≠ .unregister ⟨id, key⟩)
    (h : (w.collector id).roots.get? key = some marker) :
    ((o.apply w).collector id).roots.get? key = some marker := by
  have turn := turn_apply hid o
  generalize (o.apply w).collector id = c at turn ⊢
  cases turn with
  | tables roots =>
    rcases roots with rfl | ⟨m, rfl⟩ | ⟨other, rfl, rfl⟩
    · exact h
    · exact Registry.law.get?_insert_of_eq_some hc.roots m h
    · have ne : other ≠ key := by
        rintro rfl
        exact untouched rfl
      rw [Registry.law.get?_erase_of_ne _ ne, h]
  | allocate => rwa [Collector.roots_allocate]
  | intern => rwa [Collector.roots_intern]
  | tryTrigger => rwa [Collector.roots_tryTrigger]
  | edit e =>
    obtain ⟨_, _, _, eq, -⟩ := Collector.Edit.apply_eq (w.collector id) e
    rwa [eq]

theorem interned_apply (hid : id < w.collectors.size) {text : String} {node : Ref}
    (h : (w.collector id).interned[text]? = some node)
    (live : ((o.apply w).collector id).isLive node) :
    ((o.apply w).collector id).interned[text]? = some node := by
  have turn := turn_apply hid o
  generalize (o.apply w).collector id = c at turn live ⊢
  cases turn with
  | tables => exact h
  | allocate => exact Collector.interned_allocate h live
  | intern => exact Collector.interned_intern h live
  | tryTrigger => exact Collector.interned_tryTrigger h live
  | edit e =>
    obtain ⟨_, _, _, eq, -⟩ := Collector.Edit.apply_eq (w.collector id) e
    rwa [eq]

theorem isLive_apply_of_isRoot (hid : id < w.collectors.size) (hc : (w.collector id).Orderly)
    {r : Ref} (root : (w.collector id).IsRoot w.process none r) (live : (w.collector id).isLive r) :
    ((o.apply w).collector id).isLive r := by
  have turn := turn_apply hid o
  generalize (o.apply w).collector id = c at turn ⊢
  cases turn with
  | tables => exact live
  | allocate => exact Collector.isLive_allocate_of_isRoot hc root live
  | intern => exact Collector.isLive_intern_of_isRoot hc root live _
  | tryTrigger => exact Collector.isLive_tryTrigger_of_isRoot root live
  | edit e =>
    obtain ⟨_, _, _, eq, same⟩ := Collector.Edit.apply_eq (w.collector id) e
    rw [eq]
    exact (same r).trans live

theorem reach_apply (hid : id < w.collectors.size) (hc : (w.collector id).Orderly)
    (reading : ∀ e, o = .edit id e → ¬e.WritesSlots) {roots : Ref → Prop} {r : Ref}
    (kept : ∀ r, roots r → (w.collector id).isLive r → ((o.apply w).collector id).isLive r)
    (hr : (w.collector id).heap.Reach roots r) :
    ((o.apply w).collector id).heap.Reach roots r := by
  rcases apply_cases hid o with ⟨e, rfl, eq⟩ | move
  · rw [eq]
    exact Collector.Edit.reach_apply (reading e rfl) hr
  · exact (move.spares hc.heap).reach kept hr

theorem heap_of_isQuiet {o : Op} (quiet : o.IsQuiet) (w : World) (id : CollectorId) :
    ((o.apply w).collector id).heap = (w.collector id).heap := by
  cases o with
  | keep | keepSet | keepDrop | register | unregister =>
    apply collector_setCollector_ind (P := fun c => c.heap = (w.collector id).heap) rfl
    rintro rfl
    rfl
  | addMarker | setMarker | entrust => rfl
  | _ => exact quiet.elim

theorem heap_of_areQuiet {ops : List Op} (quiet : ∀ o ∈ ops, o.IsQuiet) (w : World)
    (id : CollectorId) : ((ops.foldl Op.apply w).collector id).heap = (w.collector id).heap :=
  List.foldlRecOn ops Op.apply
    (motive := fun w' => (w'.collector id).heap = (w.collector id).heap) rfl
    fun w' before o ho => (heap_of_isQuiet (quiet o ho) w' id).trans before

theorem collector_allocate (hid : id < w.collectors.size) (header : Header) (object : Object) :
    (w.allocate id header object).2.collector id =
      ((w.collector id).allocate w.process header object).2.1 :=
  collector_setCollector_self hid _

theorem collector_intern (hid : id < w.collectors.size) (text : String) :
    (w.intern id text).2.collector id = ((w.collector id).intern w.process text).2.1 :=
  collector_setCollector_self hid _

theorem lt_size_of_table? {p : Process} {marker : MarkerId} {t : Borrow × Std.TreeMap Ref Traced}
    (h : (p.marker marker).table? = some t) : marker < p.markers.size := by
  by_contra outside
  rw [Process.marker, Array.getD_eq_getD_getElem?,
    Array.getElem?_eq_none (Nat.not_lt.mp outside)] at h
  cases h

theorem marker_setMarker {marker : MarkerId} {t : Borrow × Std.TreeMap Ref Traced}
    (h : (w.process.marker marker).table? = some t) (new : Marker) :
    (w.setMarker marker new).process.marker marker = new := by
  simp [World.setMarker, Process.setMarker, Process.marker, lt_size_of_table? h]

theorem table?_apply {marker : MarkerId} (untouched : ∀ m, o ≠ .setMarker marker m)
    {t : Borrow × Std.TreeMap Ref Traced} (h : (w.process.marker marker).table? = some t) :
    ((o.apply w).process.marker marker).table? = some t := by
  cases o with
  | allocate other => exact (Collector.table?_allocate _ w.process _ _ marker).trans h
  | intern other => exact (Collector.table?_intern _ w.process _ marker).trans h
  | tryTrigger other => exact (Collector.table?_tryTrigger _ w.process marker).trans h
  | addMarker m =>
    have bound := lt_size_of_table? h
    rw [Process.marker, Array.getD_eq_getD_getElem?] at h
    simp only [Op.apply, World.addMarker, Process.addMarker, Process.marker,
      Array.getD_eq_getD_getElem?, Array.getElem?_push_lt bound]
    rwa [Array.getElem?_eq_getElem bound] at h
  | setMarker other m =>
    have ne : other ≠ marker := by
      rintro rfl
      exact untouched m rfl
    rw [Process.marker, Array.getD_eq_getD_getElem?] at h ⊢
    simp only [Op.apply, World.setMarker, Process.setMarker]
    rwa [Array.getElem?_setIfInBounds_ne ne]
  | _ => exact h

end World

end MarkSweep
