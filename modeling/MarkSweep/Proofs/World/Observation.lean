import MarkSweep.Proofs.Collector.Watch
import MarkSweep.Proofs.World.Deferral
import MarkSweep.Proofs.World.Lasting

namespace MarkSweep

namespace WeakRef

open World

/-- The second reference is the first one, or comes from it by cloning while the operations run. It
is not dropped. -/
inductive Copies (before : List Op) (r : WeakRef) : List Op → WeakRef → Prop where
  | self : Copies before r [] r
  | clone {since : List Op} {s : WeakRef} : Copies before r since s →
    Copies before r (since ++ [.weakClone s]) (s.clone (run (before ++ since))).1
  | stay {since : List Op} {s : WeakRef} {o : Op} : Copies before r since s → o ≠ .weakDrop s →
    Copies before r (since ++ [o]) s

variable {w : World} {o : Op} {r s : WeakRef} {e : WeakEntry}

theorem keepsWatch_apply (hid : r.collector < w.collectors.size)
    (hw : ∀ id, (w.collector id).Orderly) (kept : o ≠ .weakDrop r) :
    (w.collector r.collector).KeepsWatch r.key ((o.apply w).collector r.collector) := by
  have step {other : CollectorId} {c : Collector}
      (h : other = r.collector → (w.collector r.collector).KeepsWatch r.key c) :
      (w.collector r.collector).KeepsWatch r.key ((w.setCollector other c).collector r.collector) :=
    collector_setCollector_ind (.refl _) h
  have spared {c c' : Collector} (heap : c'.heap = c.heap)
      (entry : ∀ e, c.weakRefs.get? r.key = some e → c'.weakRefs.get? r.key = some e) :
      c.KeepsWatch r.key c' := by
    apply Collector.KeepsWatch.of_spared entry
    intro node live
    rwa [Collector.isLive, heap]
  cases o with
  | create config =>
    rw [Op.apply, collector_addCollector hid]
    exact .refl _
  | allocate other header object =>
    exact step fun h => h ▸ Collector.keepsWatch_allocate (hw _) _ _ _
  | intern other text => exact step fun h => h ▸ Collector.keepsWatch_intern (hw _) _ text
  | tryTrigger other => exact step fun h => h ▸ Collector.keepsWatch_tryTrigger _ _
  | edit other e => exact step fun h => h ▸ Collector.keepsWatch_edit _ e
  | weak | weakClone =>
    exact step fun h => h ▸ spared rfl fun _ => Registry.law.get?_insert_of_eq_some (hw _).weakRefs _
  | weakDrop s =>
    obtain ⟨_, key⟩ := r
    apply step
    rintro rfl
    have ne : s.key ≠ key := by
      rintro rfl
      exact kept rfl
    refine spared rfl ?_
    intro e he
    rw [Registry.law.get?_erase_of_ne _ ne, he]
  | setTimeout | keep | keepSet | keepDrop | map | mapInsert | mapErase | mapClear | mapDrop
    | register | unregister =>
    exact step fun h => h ▸ spared rfl fun _ he => he
  | addMarker | setMarker | entrust | sleep | setDefaults | takeLog => exact .refl _

theorem get?_eq_some_iff_valid (h : r.entry? w = some e) {node : Ref} :
    r.get? w = some node ↔ e.valid ∧ e.node = node := by
  rw [get?, h, Option.filter_some]
  cases e.valid <;> simp

theorem get?_eq_none_iff_valid (h : r.entry? w = some e) : r.get? w = none ↔ ¬e.valid := by
  rw [get?, h, Option.filter_some]
  cases e.valid <;> simp

theorem collector_register {id : CollectorId} (hid : id < w.collectors.size) (e : WeakEntry) :
    (register w id e).2.collector id =
      { w.collector id with weakRefs := ((w.collector id).weakRefs.insert e).2 } :=
  collector_setCollector_self hid _

theorem entry_register {id : CollectorId} (hid : id < w.collectors.size)
    (hc : (w.collector id).Orderly) (e : WeakEntry) :
    WeakRef.entry? (register w id e).1 (register w id e).2 = some e := by
  have own : (register w id e).1 = ⟨id, ((w.collector id).weakRefs.insert e).1⟩ := rfl
  unfold WeakRef.entry?
  rw [own, collector_register hid, Registry.law.get?_insert_self hc.weakRefs]

-- By induction on the lineage: the entry keeps its node, and is valid as long as that lasts.
theorem Copies.follows {before since : List Op} {id : CollectorId} (copy : Copies before r since s)
    (hid : id < (run before).collectors.size) (own : r.collector = id)
    (h : r.entry? (run before) = some e)
    (sound : e.valid → ((run before).collector id).isLive e.node) :
    s.collector = id ∧ ∃ valid, s.entry? (run (before ++ since)) = some ⟨e.node, valid⟩ ∧
      (valid ↔ e.valid ∧ Lasts before since id e.node) := by
  induction copy with
  | self =>
    refine ⟨own, e.valid, ?_, ?_⟩
    · rw [List.append_nil]
      exact h
    · rw [lasts_nil]
      exact ⟨fun valid => ⟨valid, sound valid⟩, fun both => both.1⟩
  | @clone since s copy ih =>
    obtain ⟨same, valid, entry, lasting⟩ := ih
    have exist : s.collector < (run (before ++ since)).collectors.size := by
      rw [same]
      exact Nat.lt_of_lt_of_le hid (size_le_size_run before since)
    have cloned : s.clone (run (before ++ since)) =
        register (run (before ++ since)) s.collector ⟨e.node, valid⟩ := by
      rw [WeakRef.clone, entry, Option.getD_some]
    have after : run (before ++ since ++ [.weakClone s]) =
        (register (run (before ++ since)) s.collector ⟨e.node, valid⟩).2 := by
      rw [run_concat, Op.apply, cloned]
    refine ⟨by rw [cloned]; exact same, valid, ?_, ?_⟩
    · rw [← List.append_assoc, after, cloned]
      exact entry_register exist (orderly_run _ _) _
    · rw [lasting, lasts_concat, after, ← same, collector_register exist]
      refine and_congr_right fun _ => ?_
      exact ⟨fun lasts => ⟨lasts, lasts.isLive⟩, fun both => both.1⟩
  | @stay since s o copy kept ih =>
    obtain ⟨same, valid, entry, lasting⟩ := ih
    have exist : s.collector < (run (before ++ since)).collectors.size := by
      rw [same]
      exact Nat.lt_of_lt_of_le hid (size_le_size_run before since)
    have current (hv : valid) :
        ((run (before ++ since)).collector s.collector).isLive e.node := by
      rw [same]
      exact (lasting.mp hv).2.isLive
    have next := keepsWatch_apply exist (orderly_run _) kept _ entry current
    rw [← run_concat] at next
    rw [List.append_assoc] at next
    refine ⟨same, valid && ((run (before ++ (since ++ [o]))).collector s.collector).isLive e.node,
      next, ?_⟩
    rw [Bool.and_eq_true, lasting, lasts_concat, and_assoc, same, List.append_assoc]

def watching (before : List Op) (id : CollectorId) (node : Ref) (since : List Op) : World :=
  run (before ++ .weak id node :: since)

def Watches (before : List Op) (id : CollectorId) (node : Ref) (since : List Op) (r : WeakRef) :
    Prop :=
  Copies (before ++ [.weak id node]) (create (run before) id node).1 since r

theorem Watches.follows {before since : List Op} {id : CollectorId} {node : Ref}
    (watches : Watches before id node since r) (hid : id < (run before).collectors.size) :
    r.collector = id ∧ ∃ valid, r.entry? (watching before id node since) = some ⟨node, valid⟩ ∧
      (valid ↔ Lasts before (.weak id node :: since) id node) := by
  have created : run (before ++ [.weak id node]) = (create (run before) id node).2 :=
    run_concat before _
  have exist : id < (run (before ++ [.weak id node])).collectors.size :=
    Nat.lt_of_lt_of_le hid (size_le_size_run before _)
  have entry : WeakRef.entry? (create (run before) id node).1 (run (before ++ [.weak id node])) =
      some ⟨node, ((run before).collector id).isLive node⟩ := by
    rw [created]
    exact entry_register hid (orderly_run before id) _
  have sound (live : ((run before).collector id).isLive node) :
      ((run (before ++ [.weak id node])).collector id).isLive node := by
    rw [created, create, collector_register hid]
    exact live
  obtain ⟨own, valid, now, lasting⟩ := Copies.follows watches exist rfl entry sound
  refine ⟨own, valid, ?_, ?_⟩
  · rw [watching, List.append_cons]
    exact now
  · rw [lasting, lasts_cons]

/-- A weak reference never lies. It names its node exactly as long as that has not been reclaimed,
and the node is then what it was. Once it names nothing, neither it nor a clone ever does again,
whatever comes to lie in the same place; a reference to a stale node names nothing from the start.
Each collection that completes invalidates the valid entries whose node it reclaims, no others, and
reports how many. -/
theorem observes_while_node_lasts (before since : List Op) (id : CollectorId) (node : Ref)
    (r : WeakRef) (hid : id < (run before).collectors.size)
    (watches : Watches before id node since r) :
    (r.get? (watching before id node since) = some node ↔
      Lasts before (.weak id node :: since) id node) ∧
    (∀ n, r.get? (watching before id node since) = some n → n = node ∧
      ((watching before id node since).collector id).isLive node ∧
      ((run before).collector id).Alike ((watching before id node since).collector id) node) ∧
    (r.get? (watching before id node since) = none →
      ∀ later s, Copies (before ++ .weak id node :: since) r later s →
        s.get? (watching before id node (since ++ later)) = none) ∧
    (¬((run before).collector id).isLive node → r.get? (watching before id node since) = none) ∧
    ∀ (c c' : Collector) (p p' : Process) (trigger : Trigger) (pinned : Option Ref) (m : Metrics),
      c.collect p trigger pinned = (.ok m, c', p') →
        (∀ key, c'.weakRefs.get? key =
          (c.weakRefs.get? key).map fun e => ⟨e.node, e.valid && c'.isLive e.node⟩) ∧
        m.weakCleared =
          {key | ∃ e, c.weakRefs.get? key = some e ∧ e.valid ∧ ¬c'.isLive e.node}.ncard := by
  obtain ⟨own, valid, entry, lasting⟩ := watches.follows hid
  refine ⟨?_, ?_, ?_, ?_, ?_⟩
  · rw [get?_eq_some_iff_valid entry, lasting]
    exact and_iff_left rfl
  · intro n hn
    obtain ⟨hv, rfl⟩ := (get?_eq_some_iff_valid entry).mp hn
    have lasts := lasting.mp hv
    exact ⟨rfl, lasts.isLive, lasts.alike hid⟩
  · intro none later s copy
    have invalid := (get?_eq_none_iff_valid entry).mp none
    have exist : id < (watching before id node since).collectors.size :=
      Nat.lt_of_lt_of_le hid (size_le_size_run before _)
    obtain ⟨-, valid', entry', lasting'⟩ := copy.follows exist own entry fun hv => absurd hv invalid
    rw [watching, ← List.cons_append, ← List.append_assoc, get?_eq_none_iff_valid entry', lasting']
    exact fun both => invalid both.1
  · intro stale
    rw [get?_eq_none_iff_valid entry, lasting]
    exact fun lasts => stale lasts.isLive_start
  · intro c c' p p' trigger pinned m h
    exact ⟨Collector.weakRefs_collect h, Collector.weakCleared_collect h⟩

def loose : List Op := [.create {}, .allocate 0 (.ofKind .chunk) (.zeros 3)]

def replaced : List Op :=
  [.weakClone ⟨0, ⟨0, 1⟩⟩, .tryTrigger 0, .allocate 0 (.ofKind .chunk) (.zeros 3)]

theorem clone_observes_until_replaced :
    (⟨0, ⟨1, 1⟩⟩ : WeakRef).get? (watching loose 0 ⟨0, 0⟩ (replaced.take 1)) = some ⟨0, 0⟩ ∧
    (⟨0, ⟨1, 1⟩⟩ : WeakRef).get? (watching loose 0 ⟨0, 0⟩ replaced) = none ∧
    ((watching loose 0 ⟨0, 0⟩ replaced).collector 0).isLive ⟨0, 1⟩ := by
  have exist : 0 < (run loose).collectors.size := by decide +kernel
  have first : (create (run loose) 0 ⟨0, 0⟩).1 = ⟨0, ⟨0, 1⟩⟩ := by decide +kernel
  have second : (clone ⟨0, ⟨0, 1⟩⟩ (run (loose ++ [.weak 0 ⟨0, 0⟩]))).1 = ⟨0, ⟨1, 1⟩⟩ := by
    decide +kernel
  have cloned : Watches loose 0 ⟨0, 0⟩ (replaced.take 1) ⟨0, ⟨1, 1⟩⟩ := by
    have copy : Copies (loose ++ [.weak 0 ⟨0, 0⟩]) ⟨0, ⟨0, 1⟩⟩ [.weakClone ⟨0, ⟨0, 1⟩⟩]
        (clone ⟨0, ⟨0, 1⟩⟩ (run (loose ++ [.weak 0 ⟨0, 0⟩] ++ []))).1 := .clone .self
    rw [List.append_nil, second] at copy
    rw [Watches, first]
    exact copy
  have kept : Watches loose 0 ⟨0, 0⟩ replaced ⟨0, ⟨1, 1⟩⟩ :=
    .stay (.stay cloned (by simp)) (by simp)
  have lasts : ∀ part ∈ (replaced.take 1).inits,
      ((run (loose ++ .weak 0 ⟨0, 0⟩ :: part)).collector 0).isLive ⟨0, 0⟩ := by decide +kernel
  have reclaimed : ¬((run (loose ++ .weak 0 ⟨0, 0⟩ :: replaced)).collector 0).isLive ⟨0, 0⟩ := by
    decide +kernel
  obtain ⟨named, -⟩ := observes_while_node_lasts loose (replaced.take 1) 0 ⟨0, 0⟩ _ exist cloned
  obtain ⟨-, still, -⟩ := observes_while_node_lasts loose replaced 0 ⟨0, 0⟩ _ exist kept
  refine ⟨named.mpr ?_, ?_, by decide +kernel⟩
  · rw [lasts_cons]
    refine ⟨by decide +kernel, ?_⟩
    intro part hp
    rw [List.append_assoc]
    exact lasts part ((List.mem_inits _ _).mpr hp)
  · rw [Option.eq_none_iff_forall_ne_some]
    intro n hn
    obtain ⟨-, live, -⟩ := still n hn
    exact reclaimed live

end WeakRef

end MarkSweep
