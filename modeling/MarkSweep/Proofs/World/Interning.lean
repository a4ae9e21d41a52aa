import MarkSweep.Proofs.Collector.Interning
import MarkSweep.Proofs.World.Frame
import MarkSweep.Proofs.World.Lasting

namespace MarkSweep

namespace World

variable {w : World} {o : Op} {id : CollectorId} {text : String} {node r : Ref}

theorem lt_size_of_interned (h : (w.collector id).interned[text]? = some node) :
    id < w.collectors.size := by
  by_contra outside
  rw [collector_of_size_le (Nat.not_lt.mp outside)] at h
  simp at h

theorem intern_of_interned (h : (w.collector id).interned[text]? = some node) :
    w.intern id text = (node, w) := by
  have answer : (w.collector id).intern w.process text = (node, w.collector id, w.process) :=
    Collector.intern_of_interned h w.process
  rw [intern, act, answer]
  exact congrArg (Prod.mk node) (setCollector_collector w id)

theorem interned_of_interned_apply
    (h : ((o.apply w).collector id).interned[text]? = some node) :
    (w.collector id).interned[text]? = some node ∨ (o = .intern id text ∧
      (w.collector id).interned[text]? = none ∧ node = (w.intern id text).1) := by
  by_cases new : o = .intern id text ∧ (w.collector id).interned[text]? = none ∧
      node = (w.intern id text).1
  · exact .inr new
  left
  revert h
  have step {other : CollectorId} {c : Collector}
      (entry : other = id → c.interned[text]? = some node →
        (w.collector id).interned[text]? = some node) :
      ((w.setCollector other c).collector id).interned[text]? = some node →
        (w.collector id).interned[text]? = some node :=
    collector_setCollector_ind (P := fun c => c.interned[text]? = some node → _)
      (fun old => old) entry
  cases o with
  | create config =>
    refine collector_addCollector_ind (P := fun c => c.interned[text]? = some node → _)
      (fun old => old) ?_
    intro h
    simp [Collector.create] at h
  | allocate other header object =>
    apply step
    rintro rfl h
    exact Collector.interned_of_interned_allocate h
  | intern other added =>
    apply step
    rintro rfl h
    rcases Collector.interned_of_interned_intern h with old | ⟨rfl, absent, rfl⟩
    · exact old
    · exact absurd ⟨rfl, absent, rfl⟩ new
  | tryTrigger other =>
    apply step
    rintro rfl h
    exact Collector.interned_of_interned_tryTrigger h
  | edit other e =>
    apply step
    rintro rfl h
    exact Collector.interned_edit _ e ▸ h
  | setTimeout | keep | keepSet | keepDrop | weak | weakClone | weakDrop | map | mapInsert
    | mapErase | mapClear | mapDrop | register | unregister =>
    apply step
    rintro rfl h
    exact h
  | addMarker | setMarker | entrust | sleep | setDefaults | takeLog => exact fun old => old

theorem interned_intern_self (hid : id < w.collectors.size) (text : String) :
    ((w.intern id text).2.collector id).interned[text]? = some (w.intern id text).1 := by
  rw [collector_intern hid]
  exact Collector.interned_intern_self _ _ text

theorem interned_apply_iff (hid : id < w.collectors.size) (hw : ∀ id, (w.collector id).Orderly) :
    ((o.apply w).collector id).interned[text]? = some node ↔
      ((w.collector id).interned[text]? = some node ∧ ((o.apply w).collector id).isLive node) ∨
      (o = .intern id text ∧ (w.collector id).interned[text]? = none ∧
        node = (w.intern id text).1) := by
  constructor
  · intro h
    have live := (orderly_apply hw o id).interned_live text node h
    exact (interned_of_interned_apply h).imp_left fun old => ⟨old, live⟩
  · rintro (⟨old, live⟩ | ⟨rfl, -, rfl⟩)
    · exact interned_apply hid old live
    · exact interned_intern_self hid text

theorem isLive_apply_of_collections (hid : id < w.collectors.size)
    (hc : (w.collector id).Orderly)
    (same : ((o.apply w).collector id).collections = (w.collector id).collections)
    (live : (w.collector id).isLive r) : ((o.apply w).collector id).isLive r := by
  have turn := turn_apply hid o
  generalize (o.apply w).collector id = c at turn same ⊢
  cases turn with
  | tables => exact live
  | allocate => exact Collector.isLive_allocate_of_collections live hc same
  | intern => exact Collector.isLive_intern_of_collections live hc same
  | tryTrigger => exact Collector.isLive_tryTrigger_of_collections live same
  | edit e =>
    obtain ⟨_, _, _, eq, alive⟩ := Collector.Edit.apply_eq (w.collector id) e
    rw [eq]
    exact (alive r).trans live

/-- After the first operations the text was interned anew. Its node is live since. -/
structure Enters (before since : List Op) (id : CollectorId) (text : String) (node : Ref) :
    Prop where
  exist : id < (run before).collectors.size
  absent : ((run before).collector id).interned[text]? = none
  node_eq : node = ((run before).intern id text).1
  lasts : Lasts (before ++ [.intern id text]) since id node

theorem exists_enters (ops : List Op) (h : ((run ops).collector id).interned[text]? = some node) :
    ∃ before since, ops = before ++ .intern id text :: since ∧
      Enters before since id text node := by
  induction ops using List.reverseRecOn with
  | nil =>
    cases lt_size_of_interned h
  | append_singleton ops o ih =>
    have live := (orderly_run _ id).interned_live text node h
    rw [run_concat] at h
    rcases interned_of_interned_apply h with old | ⟨rfl, absent, rfl⟩
    · obtain ⟨before, since, rfl, enters⟩ := ih old
      refine ⟨before, since ++ [o], by simp, { enters with lasts := ?_ }⟩
      rw [lasts_concat]
      refine ⟨enters.lasts, ?_⟩
      simpa using live
    · have exist : id < (run ops).collectors.size := by
        have after := lt_size_of_interned h
        rcases size_apply (run ops) (.intern id text) with same | ⟨_, create⟩
        · rwa [same] at after
        · cases create
      exact ⟨ops, [], rfl, exist, absent, rfl, lasts_nil.mpr live⟩

namespace Enters

variable {before since : List Op}

theorem collector_eq (h : Enters before since id text node) :
    (run (before ++ [.intern id text])).collector id =
      (((run before).collector id).intern (run before).process text).2.1 := by
  rw [run_concat]
  exact collector_intern h.exist text

theorem kind? (h : Enters before since id text node) :
    ((run (before ++ .intern id text :: since)).collector id).kind? node = some .string := by
  have exist := Nat.lt_of_lt_of_le h.exist (size_le_size_run before [.intern id text])
  rw [List.append_cons, (h.lasts.alike exist).kind, h.collector_eq, h.node_eq]
  exact Collector.kind?_intern_self (orderly_run before id) h.absent _

theorem bytes? (h : Enters before since id text node) :
    ((run (before ++ .intern id text :: since)).collector id).bytes? node =
      some (patch id node since text.toUTF8) := by
  have exist := Nat.lt_of_lt_of_le h.exist (size_le_size_run before [.intern id text])
  have start : ((run (before ++ [.intern id text])).collector id).bytes? node =
      some text.toUTF8 := by
    rw [h.collector_eq, h.node_eq]
    exact Collector.bytes?_intern_self (orderly_run before id) h.absent _
  rw [List.append_cons, h.lasts.bytes? exist, start, Option.map_some]

end Enters

/-- The intern table of a collector, in any state that a run leads to. Every entry names a live
string chunk, and different texts name different nodes. Interning a text that is in the table
changes nothing at all; interning another gives a node that is new, live and in the table from then
on. No operation takes an entry away or changes it but with the node, by a collection that
completes, and such a collection keeps the entries of the nodes that it keeps. -/
theorem intern_table_follows_nodes (ops : List Op) (id : CollectorId)
    (hid : id < (run ops).collectors.size) :
    (∀ text node, ((run ops).collector id).findInterned text = some node →
      ((run ops).collector id).isLive node ∧
      ((run ops).collector id).kind? node = some .string ∧
      (((run ops).collector id).bytes? node).isSome) ∧
    (∀ text other node, ((run ops).collector id).findInterned text = some node →
      ((run ops).collector id).findInterned other = some node → text = other) ∧
    (∀ text node, ((run ops).collector id).findInterned text = some node →
      (run ops).intern id text = (node, run ops)) ∧
    (∀ text, ((run ops).collector id).findInterned text = none →
      ¬((run ops).collector id).isLive ((run ops).intern id text).1 ∧
      (((run ops).intern id text).2.collector id).isLive ((run ops).intern id text).1 ∧
      (((run ops).intern id text).2.collector id).findInterned text =
        some ((run ops).intern id text).1) ∧
    (∀ o text node, ((run (ops ++ [o])).collector id).findInterned text = some node ↔
      (((run ops).collector id).findInterned text = some node ∧
        ((run (ops ++ [o])).collector id).isLive node) ∨
      (o = .intern id text ∧ ((run ops).collector id).findInterned text = none ∧
        node = ((run ops).intern id text).1)) ∧
    (∀ o, ((run (ops ++ [o])).collector id).collections = ((run ops).collector id).collections →
      ∀ text node, ((run ops).collector id).findInterned text = some node →
        ((run (ops ++ [o])).collector id).findInterned text = some node) ∧
    (∀ (c c' : Collector) (p p' : Process) (trigger : Trigger) (pinned : Option Ref) (m : Metrics),
      c.collect p trigger pinned = (.ok m, c', p') → ∀ text node,
        c'.findInterned text = some node ↔ c.findInterned text = some node ∧ c'.isLive node) ∧
    ∀ since text node, ((run ops).collector id).findInterned text = some node →
      Lasts ops since id node →
        ((run (ops ++ since)).collector id).findInterned text = some node := by
  have orderly := orderly_run ops
  refine ⟨?_, ?_, ?_, ?_, ?_, ?_, ?_, ?_⟩
  · intro text node h
    obtain ⟨before, since, rfl, enters⟩ := exists_enters ops h
    refine ⟨(orderly id).interned_live text node h, enters.kind?, ?_⟩
    rw [enters.bytes?, Option.isSome_some]
  · exact (orderly id).interned_inj
  · intro text node h
    exact intern_of_interned h
  · intro text absent
    have entry := interned_intern_self hid text
    refine ⟨Collector.not_isLive_intern (orderly id) absent _, ?_, entry⟩
    exact (orderly_apply orderly (.intern id text) id).interned_live text _ entry
  · intro o text node
    rw [run_concat]
    exact interned_apply_iff hid orderly
  · intro o same text node h
    rw [run_concat] at same ⊢
    have live := (orderly id).interned_live text node h
    exact interned_apply hid h (isLive_apply_of_collections hid (orderly id) same live)
  · intro c c' p p' trigger pinned m h text node
    obtain ⟨-, rfl⟩ := Collector.collect_eq_ok h
    exact Collector.getElem?_sweepPhase_interned
  · intro since text node h lasts
    induction since using List.reverseRecOn with
    | nil => rwa [List.append_nil]
    | append_singleton since o ih =>
      obtain ⟨earlier, live⟩ := lasts_concat.mp lasts
      have exist := Nat.lt_of_lt_of_le hid (size_le_size_run ops since)
      rw [run_concat] at live
      rw [← List.append_assoc, run_concat]
      exact interned_apply exist (ih earlier) live

def cramped : List Op := [.create { threshold := 64 }, .intern 0 "k"]

theorem intern_table_in_cramped_heap :
    ((run cramped).collector 0).findInterned "k" = some ⟨0, 0⟩ ∧
    ((run cramped).collector 0).kind? ⟨0, 0⟩ = some .string ∧
    (((run cramped).intern 0 "l").2.collector 0).findInterned "l" =
      some ((run cramped).intern 0 "l").1 ∧
    (((run cramped).intern 0 "l").2.collector 0).isLive ((run cramped).intern 0 "l").1 ∧
    ((run (cramped ++ [.intern 0 "l"])).collector 0).findInterned "k" = none := by
  have exist : 0 < (run cramped).collectors.size := by decide +kernel
  have present : ((run cramped).collector 0).findInterned "k" = some ⟨0, 0⟩ := by decide +kernel
  have absent : ((run cramped).collector 0).findInterned "l" = none := by decide +kernel
  obtain ⟨strings, -, -, fresh, -⟩ := intern_table_follows_nodes cramped 0 exist
  obtain ⟨-, live, entry⟩ := fresh "l" absent
  refine ⟨present, (strings "k" _ present).2.1, entry, live, by decide +kernel⟩

end World

end MarkSweep
