import MarkSweep.Proofs.World.StringMap

/-!
A string map and the finite map that it stands for. Its entries are filed under nodes, and a node
stands for the text that is interned to it. The map keeps these nodes alive, and with them their
places in the intern table, so that no collection can come between a text and its entry.
-/

namespace MarkSweep

open World

namespace StringMap

variable {m : StringMap} {w w' : World} {t t' : Std.TreeMap String Traced} {key : String}
  {node : Ref}

structure Mirrors (m : StringMap) (w : World) (t : Std.TreeMap String Traced) : Prop where
  registered : (m.collector w).roots.get? m.rooted.registration.key = some m.rooted.marker
  table : ∃ readers entries,
    (w.process.marker m.rooted.marker).table? = some (.shared readers, entries) ∧
    (∀ node value, entries[node]? = some value →
      ∃ key : String, (m.collector w).interned[key]? = some node) ∧
    ∀ (key : String) (value : Traced), t[key]? = some value ↔
      ∃ node, (m.collector w).interned[key]? = some node ∧ entries[node]? = some value

namespace Mirrors

theorem lt_size (h : m.Mirrors w t) : m.rooted.owner < w.collectors.size :=
  lt_size_of_registered h.registered

theorem create {id : CollectorId} (hid : id < w.collectors.size) (hc : (w.collector id).Orderly) :
    (StringMap.create w id).1.Mirrors (StringMap.create w id).2 ∅ := by
  have owner : (StringMap.create w id).1.collector (StringMap.create w id).2 =
      { w.collector id with
        roots := ((w.collector id).roots.insert w.process.markers.size).2 } :=
    collector_setCollector_self hid _
  have marker : (StringMap.create w id).2.process.marker w.process.markers.size =
      .table .unused ∅ := by
    simp [StringMap.create, Rooted.create, World.addMarker, Process.addMarker, Registration.create,
      modifyCollector, setCollector, Process.marker]
  refine ⟨?_, 0, ∅, ?_, ?_, ?_⟩
  · rw [owner]
    exact Registry.law.get?_insert_self hc.roots _
  · exact congrArg Marker.table? marker
  · intro node value he
    simp at he
  · intro key value
    simp

theorem congr (h : m.Mirrors w t) (same : ∀ key : String, t'[key]? = t[key]?) :
    m.Mirrors w t' where
  registered := h.registered
  table := by
    obtain ⟨readers, entries, table, keyed, agree⟩ := h.table
    refine ⟨readers, entries, table, keyed, ?_⟩
    intro key value
    rw [same, agree]

theorem find?_eq (h : m.Mirrors w t) (key : String) : m.find? w key = t[key]? := by
  obtain ⟨readers, entries, table, -, agree⟩ := h.table
  rw [StringMap.find?, entries_of_table? table, Collector.findInterned]
  apply Option.ext
  intro value
  rw [agree, Option.bind_eq_some_iff]

theorem size_eq (h : m.Mirrors w t) (hc : (m.collector w).Orderly) : m.size w = t.size := by
  obtain ⟨readers, entries, table, keyed, agree⟩ := h.table
  have nodup : (t.keys.map fun key => (m.collector w).interned[key]?).Nodup := by
    refine List.Nodup.map_on ?_ Std.TreeMap.nodup_keys
    intro key hk other ho same
    rw [Std.TreeMap.mem_keys, Std.TreeMap.mem_iff_isSome_getElem?] at hk
    obtain ⟨value, hv⟩ := Option.isSome_iff_exists.mp hk
    obtain ⟨node, hn, -⟩ := (agree key value).mp hv
    exact hc.interned_inj key other node hn (same ▸ hn)
  have perm : (t.keys.map fun key => (m.collector w).interned[key]?).Perm
      (entries.keys.map some) := by
    rw [List.perm_ext_iff_of_nodup nodup
      (List.Nodup.map (Option.some_injective Ref) Std.TreeMap.nodup_keys)]
    intro found
    simp only [List.mem_map, Std.TreeMap.mem_keys, Std.TreeMap.mem_iff_isSome_getElem?,
      Option.isSome_iff_exists]
    constructor
    · rintro ⟨key, ⟨value, hv⟩, rfl⟩
      obtain ⟨node, hn, he⟩ := (agree key value).mp hv
      exact ⟨node, ⟨value, he⟩, hn.symm⟩
    · rintro ⟨node, ⟨value, he⟩, rfl⟩
      obtain ⟨key, hn⟩ := keyed node value he
      exact ⟨key, ⟨value, (agree key value).mpr ⟨node, hn, he⟩⟩, hn⟩
  have lengths := perm.length_eq
  rw [List.length_map, List.length_map, Std.TreeMap.length_keys, Std.TreeMap.length_keys] at lengths
  rw [StringMap.size, entries_of_table? table]
  exact lengths.symm

theorem op (h : m.Mirrors w t) (hw : ∀ id, (w.collector id).Orderly) {o : Op}
    (registration : o ≠ .unregister m.rooted.registration)
    (marker : ∀ n, o ≠ .setMarker m.rooted.marker n) : m.Mirrors (o.apply w) t where
  registered := roots_apply h.lt_size (hw _) registration h.registered
  table := by
    obtain ⟨readers, entries, table, keyed, agree⟩ := h.table
    have hc := hw m.rooted.owner
    have hc' := orderly_apply hw o m.rooted.owner
    have kept {key : String} {node : Ref} {value : Traced}
        (hn : (m.collector w).interned[key]? = some node) (he : entries[node]? = some value) :
        (m.collector (o.apply w)).interned[key]? = some node := by
      have root : (m.collector w).IsRoot w.process none node := by
        refine .inl ⟨_, _, h.registered, ?_⟩
        rw [Marker.table?_eq_some_iff.mp table]
        exact Marker.mem_nodes_table.mpr ⟨node, value, he, .inl rfl⟩
      have live := isLive_apply_of_isRoot (o := o) h.lt_size hc root (hc.interned_live key node hn)
      exact interned_apply h.lt_size hn live
    refine ⟨readers, entries, table?_apply marker table, ?_, ?_⟩
    · intro node value he
      obtain ⟨key, hn⟩ := keyed node value he
      exact ⟨key, kept hn he⟩
    · intro key value
      rw [agree]
      constructor
      · rintro ⟨node, hn, he⟩
        exact ⟨node, kept hn he, he⟩
      · rintro ⟨node, hn, he⟩
        obtain ⟨other, ho⟩ := keyed node value he
        obtain rfl := hc'.interned_inj key other node hn (kept ho he)
        exact ⟨node, ho, he⟩

theorem rewrites (h : m.Mirrors w t) (hw : ∀ id, (w.collector id).Orderly) {r : Rooted}
    (ne : r.marker ≠ m.rooted.marker) (written : r.Rewrites w w') : m.Mirrors w' t := by
  rcases written with rfl | ⟨n, rfl⟩
  · exact h
  · refine h.op (o := .setMarker r.marker n) hw (by simp) ?_
    intro n' e
    exact ne (Op.setMarker.inj e).1

theorem setBorrow (h : m.Mirrors w t) (readers : Nat) :
    m.Mirrors (m.rooted.setBorrow w (.shared readers)) t where
  registered := by
    obtain ⟨_, _, table, -⟩ := h.table
    rw [setBorrow_eq table]
    exact h.registered
  table := by
    obtain ⟨_, entries, table, keyed, agree⟩ := h.table
    rw [setBorrow_eq table]
    refine ⟨readers, entries, ?_, keyed, agree⟩
    rw [marker_setMarker table]
    rfl

theorem getElem?_eq (h : m.Mirrors w t) (hn : (m.collector w).interned[key]? = some node) :
    (m.entries w).2[node]? = t[key]? := by
  rw [← h.find?_eq, StringMap.find?, Collector.findInterned, hn, Option.bind_some]

theorem alter (h : m.Mirrors w t) (hc : (m.collector w).Orderly)
    (unused : (m.entries w).1 = .unused) (hn : (m.collector w).interned[key]? = some node)
    (v : Option Traced) (same : ∀ k : String, t'[k]? = if key = k then v else t[k]?) :
    (m.alter w node v).1 = .ok t[key]? ∧ m.Mirrors (m.alter w node v).2 t' := by
  have present := h.getElem?_eq hn
  obtain ⟨readers, entries, table, keyed, agree⟩ := h.table
  have all := entries_of_table? table
  rw [all] at unused present
  obtain rfl : readers = 0 := Borrow.shared.inj unused
  have outcome : m.alter w node v =
      (.ok entries[node]?, m.setEntries w (entries.alter node fun _ => v)) := by
    rw [StringMap.alter, all]
    rfl
  rw [outcome]
  refine ⟨congrArg Except.ok present, h.registered, 0, entries.alter node fun _ => v, ?_, ?_, ?_⟩
  · rw [setEntries, marker_setMarker table, all]
    rfl
  · intro n value he
    rw [Std.TreeMap.getElem?_alter] at he
    split at he
    case isTrue e => exact ⟨key, hn.trans (congrArg some (Std.compare_eq_iff_eq.mp e))⟩
    case isFalse => exact keyed n value he
  · intro k value
    have entry (n : Ref) : (entries.alter node fun _ => v)[n]? =
        if node = n then v else entries[n]? := by
      rw [Std.TreeMap.getElem?_alter]
      simp only [Std.compare_eq_iff_eq]
    simp only [same, entry]
    by_cases e : key = k
    · subst e
      rw [if_pos rfl]
      constructor
      · intro hv
        exact ⟨node, hn, (if_pos rfl).trans hv⟩
      · rintro ⟨n, hn', hv⟩
        obtain rfl : node = n := Option.some.inj (hn.symm.trans hn')
        rwa [if_pos rfl] at hv
    · -- Another text has another node, so its entry is not the one that changes.
      rw [if_neg e, agree]
      refine exists_congr fun n => and_congr_right fun hn' => ?_
      have apart : node ≠ n := by
        rintro rfl
        exact e (hc.interned_inj key k node hn hn')
      rw [if_neg apart]

theorem insert (h : m.Mirrors w t) (hw : ∀ id, (w.collector id).Orderly)
    (unused : (m.entries w).1 = .unused) (key : String) (value : Traced) :
    (m.insert w key value).1 = .ok t[key]? ∧
      m.Mirrors (m.insert w key value).2 (t.insert key value) := by
  have interned := h.op (o := .intern m.rooted.owner key) hw (by simp) (by simp)
  have hc := orderly_apply hw (.intern m.rooted.owner key) m.rooted.owner
  have entry : (m.collector (w.intern m.rooted.owner key).2).interned[key]? =
      some (w.intern m.rooted.owner key).1 := by
    rw [StringMap.collector, collector_intern h.lt_size]
    exact Collector.interned_intern_self _ _ key
  have unused' : (m.entries (w.intern m.rooted.owner key).2).1 = .unused := by
    obtain ⟨readers, entries, table, -⟩ := h.table
    have after := entries_of_table? (table?_apply (o := .intern m.rooted.owner key) (by simp) table)
    rw [entries_of_table? table] at unused
    exact (congrArg Prod.fst after).trans unused
  refine interned.alter hc unused' entry (some value) ?_
  intro k
  rw [Std.TreeMap.getElem?_insert]
  simp only [Std.compare_eq_iff_eq]

theorem erase (h : m.Mirrors w t) (hc : (m.collector w).Orderly)
    (unused : (m.entries w).1 = .unused) (key : String) :
    (m.erase w key).1 = .ok t[key]? ∧ m.Mirrors (m.erase w key).2 (t.erase key) := by
  have without (k : String) : (t.erase key)[k]? = if key = k then none else t[k]? := by
    rw [Std.TreeMap.getElem?_erase]
    simp only [Std.compare_eq_iff_eq]
  rw [StringMap.erase]
  split
  case h_1 node found => exact h.alter hc unused found none without
  case h_2 unknown =>
    have absent : t[key]? = none := by
      rw [← h.find?_eq, StringMap.find?, unknown, Option.bind_none]
    refine ⟨congrArg Except.ok absent.symm, h.congr ?_⟩
    intro k
    rw [without]
    split
    case isTrue e => rw [← e, absent]
    case isFalse => rfl

end Mirrors

end StringMap

end MarkSweep
