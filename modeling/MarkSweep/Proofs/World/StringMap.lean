import MarkSweep.Proofs.World.Frame

namespace MarkSweep

open World

def World.Act.Spares (m : StringMap) (key : String) : Act → Prop
  | op (.unregister r) => r ≠ m.rooted.registration
  | op (.setMarker id _) => id ≠ m.rooted.marker
  | acquire r a | release r a => r.marker = m.rooted.marker → a = .shared
  | replace r _ | push r _ | pushToCell r _ _ | acquireCell r _ _ | releaseCell r _ _ =>
    r.marker ≠ m.rooted.marker
  | put n text _ | remove n text => n.rooted.marker = m.rooted.marker → n = m ∧ text ≠ key
  | _ => True

namespace StringMap

variable {m : StringMap} {w w' : World} {key text : String} {value : Traced} {r : Ref}

structure Holds (m : StringMap) (w : World) (key : String) (value : Traced) : Prop where
  registered : (m.collector w).roots.get? m.rooted.registration.key = some m.rooted.marker
  entry : ∃ readers entries node,
    (w.process.marker m.rooted.marker).table? = some (.shared readers, entries) ∧
      (m.collector w).interned[key]? = some node ∧ entries[node]? = some value

def Links (m : StringMap) (w : World) (value : Traced) (r : Ref) : Prop :=
  (m.collector w).heap.Reach (· ∈ value.nodes) r

theorem entries_of_table? {t : Borrow × Std.TreeMap Ref Traced}
    (h : (w.process.marker m.rooted.marker).table? = some t) : m.entries w = t := by
  rw [entries, Marker.table?_eq_some_iff.mp h]

theorem lt_size_of_registered
    (h : (m.collector w).roots.get? m.rooted.registration.key = some m.rooted.marker) :
    m.rooted.owner < w.collectors.size := by
  by_contra outside
  rw [StringMap.collector, collector_of_size_le (Nat.not_lt.mp outside)] at h
  exact Option.some_ne_none _ (h.symm.trans (Registry.law.get?_empty _))

section

variable {readers : Nat} {entries : Std.TreeMap Ref Traced} {r : Rooted}
  (table : (w.process.marker m.rooted.marker).table? = some (Borrow.shared readers, entries))
include table

theorem setBorrow_eq (borrow : Borrow) : m.rooted.setBorrow w borrow =
    w.setMarker m.rooted.marker (.table borrow entries) := by
  rw [Rooted.setBorrow, Marker.table?_eq_some_iff.mp table]

theorem settle_acquire_eq (same : r.marker = m.rooted.marker) :
    w.settle (r.acquire w .shared) = m.rooted.setBorrow w (.shared (readers + 1)) := by
  have acquired : r.acquire w .shared = .ok (m.rooted.setBorrow w (.shared (readers + 1))) := by
    rw [Rooted.acquire, Rooted.cell, same, Marker.table?_eq_some_iff.mp table]
    show Except.ok (r.setBorrow w (.shared (readers + 1))) = _
    rw [Rooted.setBorrow, Rooted.setBorrow, same]
  rw [acquired]
  rfl

theorem release_eq (same : r.marker = m.rooted.marker) :
    r.release w .shared = m.rooted.setBorrow w (.shared (readers - 1)) := by
  rw [Rooted.release, Rooted.cell, same, Marker.table?_eq_some_iff.mp table, Rooted.setBorrow,
    Rooted.setBorrow, same]
  rfl

end

namespace Holds

theorem find? (h : m.Holds w key value) : m.find? w key = some value := by
  obtain ⟨readers, entries, node, table, interned, entry⟩ := h.entry
  rw [StringMap.find?, Collector.findInterned, interned, Option.bind_some, entries_of_table? table,
    entry]

theorem lt_size (h : m.Holds w key value) : m.rooted.owner < w.collectors.size :=
  lt_size_of_registered h.registered

theorem isRoot (h : m.Holds w key value) {node : Ref}
    (interned : (m.collector w).interned[key]? = some node) (hr : r = node ∨ r ∈ value.nodes) :
    (m.collector w).IsRoot w.process none r := by
  obtain ⟨readers, entries, node', table, interned', entry⟩ := h.entry
  rw [interned] at interned'
  cases interned'
  refine .inl ⟨_, _, h.registered, ?_⟩
  rw [Marker.table?_eq_some_iff.mp table]
  exact Marker.mem_nodes_table.mpr ⟨node, value, entry, hr⟩

theorem op (h : m.Holds w key value) (hc : (m.collector w).Orderly) {o : Op}
    (registration : o ≠ .unregister m.rooted.registration)
    (marker : ∀ n, o ≠ .setMarker m.rooted.marker n) : m.Holds (o.apply w) key value where
  registered := roots_apply h.lt_size hc registration h.registered
  entry := by
    obtain ⟨readers, entries, node, table, interned, entry⟩ := h.entry
    have live := isLive_apply_of_isRoot (o := o) h.lt_size hc (h.isRoot interned (.inl rfl))
      (hc.interned_live key node interned)
    exact ⟨readers, entries, node, table?_apply marker table,
      interned_apply h.lt_size interned live, entry⟩

theorem setBorrow (h : m.Holds w key value) (readers : Nat) :
    m.Holds (m.rooted.setBorrow w (.shared readers)) key value := by
  obtain ⟨_, entries, node, table, interned, entry⟩ := h.entry
  rw [setBorrow_eq table]
  refine ⟨h.registered, readers, entries, node, ?_, interned, entry⟩
  rw [marker_setMarker table]
  rfl

theorem alter (h : m.Holds w key value) (hc : (m.collector w).Orderly) {other : String}
    {node : Ref} (ne : other ≠ key) (hn : (m.collector w).interned[other]? = some node)
    (v : Option Traced) : m.Holds (m.alter w node v).2 key value := by
  obtain ⟨readers, entries, kept, table, interned, entry⟩ := h.entry
  -- Texts are interned to different nodes, so the entries of the map are as distinct as its texts.
  have apart : node ≠ kept := by
    rintro rfl
    exact ne (hc.interned_inj other key node hn interned)
  have all := entries_of_table? table
  simp only [StringMap.alter, all]
  split
  · exact h
  · refine ⟨h.registered, readers, entries.alter node fun _ => v, kept, ?_, interned, ?_⟩
    · rw [setEntries, marker_setMarker table, all]
      rfl
    · rw [Std.TreeMap.getElem?_alter, if_neg (mt Std.compare_eq_iff_eq.mp apart), entry]

theorem rewrites (h : m.Holds w key value) (hc : (m.collector w).Orderly) {r : Rooted}
    (ne : r.marker ≠ m.rooted.marker) (written : r.Rewrites w w') : m.Holds w' key value := by
  rcases written with rfl | ⟨n, rfl⟩
  · exact h
  · refine h.op (o := .setMarker r.marker n) hc (by simp) ?_
    intro n' e
    exact ne (Op.setMarker.inj e).1

theorem acquire (h : m.Holds w key value) {r : Rooted} (same : r.marker = m.rooted.marker) :
    m.Holds (w.settle (r.acquire w .shared)) key value := by
  obtain ⟨readers, entries, _, table, -⟩ := h.entry
  rw [settle_acquire_eq table same]
  exact h.setBorrow (readers + 1)

theorem release (h : m.Holds w key value) {r : Rooted} (same : r.marker = m.rooted.marker) :
    m.Holds (r.release w .shared) key value := by
  obtain ⟨readers, entries, _, table, -⟩ := h.entry
  rw [release_eq table same]
  exact h.setBorrow (readers - 1)

theorem act (h : m.Holds w key value) (hw : ∀ id, (w.collector id).Orderly) {a : Act}
    (spared : a.Spares m key) : m.Holds (a.apply w) key value := by
  have hc := hw m.rooted.owner
  have inert {o : Op} (registration : ∀ r, o ≠ .unregister r)
      (marker : ∀ id n, o ≠ .setMarker id n) :
      m.Holds (o.apply w) key value ∧ ∀ id, ((o.apply w).collector id).Orderly :=
    ⟨h.op hc (registration _) (marker _), orderly_apply hw o⟩
  cases a with
  | op o =>
    refine h.op hc ?_ ?_
    · rintro rfl
      exact spared rfl
    · rintro n rfl
      exact spared rfl
  | trigger id =>
    rw [Act.apply, trigger_snd]
    exact (inert (o := .tryTrigger id) (by simp) (by simp)).1
  | keepCloneFrom k source =>
    rw [Act.apply, KeepAlive.cloneFrom]
    split
    · exact (inert (o := .keepSet k source.node) (by simp) (by simp)).1
    · obtain ⟨first, hw'⟩ := inert (o := .keep source.collector source.node) (by simp) (by simp)
      exact first.op (o := .keepDrop k) (hw' _) (by simp) (by simp)
  | root id n =>
    obtain ⟨first, hw'⟩ := inert (o := .addMarker n) (by simp) (by simp)
    exact first.op (o := .register id _) (hw' _) (by simp) (by simp)
  | table id =>
    obtain ⟨first, hw'⟩ := inert (o := .addMarker (.table .unused ∅)) (by simp) (by simp)
    exact first.op (o := .register id _) (hw' _) (by simp) (by simp)
  | acquire r access =>
    by_cases same : r.marker = m.rooted.marker
    · cases spared same
      exact h.acquire same
    · exact h.rewrites hc same (Act.rewrites_apply rfl w)
  | release r access =>
    by_cases same : r.marker = m.rooted.marker
    · cases spared same
      exact h.release same
    · exact h.rewrites hc same (Act.rewrites_apply rfl w)
  | replace | push | pushToCell | acquireCell | releaseCell =>
    exact h.rewrites hc spared (Act.rewrites_apply rfl w)
  | put n text v =>
    obtain ⟨first, hw'⟩ := inert (o := .intern n.rooted.owner text) (by simp) (by simp)
    by_cases same : n.rooted.marker = m.rooted.marker
    · obtain ⟨rfl, ne⟩ := spared same
      have found : (n.collector (w.intern n.rooted.owner text).2).interned[text]? =
          some (w.intern n.rooted.owner text).1 := by
        rw [StringMap.collector, collector_intern h.lt_size]
        exact Collector.interned_intern_self _ _ text
      exact first.alter (hw' _) ne found (some v)
    · exact first.rewrites (hw' _) same (rewrites_insert n w text v)
  | remove n text =>
    by_cases same : n.rooted.marker = m.rooted.marker
    · obtain ⟨rfl, ne⟩ := spared same
      rw [Act.apply, StringMap.erase]
      split
      case h_1 node found => exact h.alter hc ne found none
      case h_2 => exact h
    · exact h.rewrites hc same (rewrites_erase n w text)

theorem links_act (h : m.Holds w key value) (hw : ∀ id, (w.collector id).Orderly) {a : Act}
    (writes : ∀ e, a = .op (.edit m.rooted.owner e) → e.WritesSlots →
      m.Links (a.apply w) value r)
    (hr : m.Links w value r) : m.Links (a.apply w) value r := by
  have hc := hw m.rooted.owner
  obtain ⟨_, _, node, _, interned, _⟩ := h.entry
  have kept (o : Op) (r : Ref) (hr : r ∈ value.nodes) (live : (m.collector w).isLive r) :
      ((o.apply w).collector m.rooted.owner).isLive r :=
    isLive_apply_of_isRoot h.lt_size hc (h.isRoot interned (.inr hr)) live
  rcases a.apply_cases w with ⟨o, rfl⟩ | ⟨ops, quiet, e⟩ | ⟨o, ops, collecting, quiet, e⟩
  · by_cases writing : ∃ e, o = .edit m.rooted.owner e ∧ e.WritesSlots
    · obtain ⟨e, rfl, he⟩ := writing
      exact writes e rfl he
    · exact reach_apply h.lt_size hc (fun e he hw => writing ⟨e, he, hw⟩) (kept o) hr
  · rw [Links, StringMap.collector, e, heap_of_areQuiet quiet]
    exact hr
  · rw [Links, StringMap.collector, e, heap_of_areQuiet quiet]
    refine reach_apply h.lt_size hc ?_ (kept o) hr
    rintro e rfl
    exact collecting.elim

end Holds

end StringMap

end MarkSweep
