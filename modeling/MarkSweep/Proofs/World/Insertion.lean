import MarkSweep.Proofs.World.Deferral
import MarkSweep.Proofs.World.StringMap

/-!
Insertions into a string map. The text is interned before the map has the value, so a collection
that interning runs comes too early for the map to protect what only the value leads to.
-/

namespace MarkSweep

open World

namespace Collector

variable {c : Collector} {p : Process} {text : String} {r : Ref}

def InternCollects (c : Collector) (p : Process) (text : String) : Prop :=
  c.findInterned text = none ∧
    (c.place (.ofKind .string) (.chunk text.toUTF8)).due p.clock ≠ none ∧ ¬c.IsHeld p

theorem calm_intern_of_not_internCollects (hc : c.Orderly) (calm : ¬c.InternCollects p text) :
    c.Calm (c.intern p text).2.1 := by
  cases found : c.findInterned text with
  | some node =>
    rw [findInterned] at found
    rw [intern, found]
    exact .refl c
  | none =>
    apply calm_intern
    by_cases held : c.IsHeld p
    · exact calm_allocate hc held _ _
    · apply calm_allocate_of_due_eq_none hc
      by_contra due
      exact calm ⟨found, due, held⟩

theorem isLive_intern_iff (hc : c.Orderly) (live : c.isLive r) :
    (c.intern p text).2.1.isLive r ↔
      ¬c.InternCollects p text ∨ c.heap.Reach (c.IsRoot p none) r := by
  by_cases collects : c.InternCollects p text
  · obtain ⟨found, due, free⟩ := id collects
    obtain ⟨trigger, due⟩ := Option.ne_none_iff_exists'.mp due
    obtain ⟨depth, clear⟩ := not_or.mp free
    obtain ⟨idle, clear⟩ := not_or.mp clear
    obtain ⟨m, c', p', done⟩ := collect_of_clear
      (c := c.place (.ofKind .string) (.chunk text.toUTF8)) idle clear trigger
      (some (c.heap.allocate (.ofKind .string) (.chunk text.toUTF8)).1)
    have allocated : (c.allocate p (.ofKind .string) (.chunk text.toUTF8)).2.1 = c' := by
      obtain ⟨_, e, -⟩ := allocate_of_due due (mt (isLocked_iff c).mp depth)
      rw [e, done]
    -- The new node is pinned and not yet interned while the collection runs.
    have same : (c.intern p text).2.1.isLive r = c'.isLive r := by
      rw [findInterned] at found
      rw [intern, found, ← allocated]
      rfl
    rw [same, isLive_collect_place_iff hc done live]
    exact (or_iff_right (not_not.mpr collects)).symm
  · exact iff_of_true ((calm_intern_of_not_internCollects hc collects).live r live) (.inl collects)

end Collector

namespace StringMap

variable {m : StringMap} {w : World} {before later : List Act} {key : String} {value : Traced}
  {r : Ref}

structure Stands (m : StringMap) (w : World) : Prop where
  registered : (m.collector w).roots.get? m.rooted.registration.key = some m.rooted.marker
  unborrowed : ∃ entries, (w.process.marker m.rooted.marker).table? = some (.unused, entries)

namespace Stands

theorem lt_size (h : m.Stands w) : m.rooted.owner < w.collectors.size :=
  lt_size_of_registered h.registered

theorem insert (h : m.Stands w) (hw : ∀ id, (w.collector id).Orderly) (key : String)
    (value : Traced) : (∃ old, (m.insert w key value).1 = .ok old) ∧
      m.Holds (m.insert w key value).2 key value := by
  obtain ⟨entries, table⟩ := h.unborrowed
  have table' := table?_apply (o := .intern m.rooted.owner key) (by simp) table
  have registered := roots_apply (o := .intern m.rooted.owner key) h.lt_size (hw _) (by simp)
    h.registered
  -- The borrow is taken after interning, which leaves the map unborrowed as it was.
  have found : (m.collector (w.intern m.rooted.owner key).2).interned[key]? =
      some (w.intern m.rooted.owner key).1 := by
    rw [StringMap.collector, collector_intern h.lt_size]
    exact Collector.interned_intern_self _ _ key
  have all := entries_of_table? table'
  rw [Op.apply] at table' registered all
  have done : m.insert w key value = (.ok entries[(w.intern m.rooted.owner key).1]?,
      m.setEntries (w.intern m.rooted.owner key).2
        (entries.alter (w.intern m.rooted.owner key).1 fun _ => some value)) := by
    simp only [StringMap.insert, StringMap.alter, all]
    rfl
  rw [done]
  refine ⟨⟨_, rfl⟩, registered, 0, entries.alter _ fun _ => some value, _, ?_, found,
    Std.TreeMap.getElem?_alter_self⟩
  rw [setEntries, marker_setMarker table', all]
  rfl

theorem collector_insert (h : m.Stands w) (key : String) (value : Traced) :
    m.collector (m.insert w key value).2 = ((m.collector w).intern w.process key).2.1 :=
  (collector_of_rewrites (rewrites_insert m w key value) _).trans (collector_intern h.lt_size key)

end Stands

def inserted (m : StringMap) (before : List Act) (key : String) (value : Traced)
    (later : List Act) : World :=
  play (before ++ .put m key value :: later)

/-- No slot write or rollback among the further acts unlinks the node from the value. -/
def StaysLinked (m : StringMap) (before : List Act) (key : String) (value : Traced)
    (later : List Act) (r : Ref) : Prop :=
  ∀ part e, part ++ [.op (.edit m.rooted.owner e)] <+: later → e.WritesSlots →
    m.Links (m.inserted before key value part) value r →
    m.Links (m.inserted before key value (part ++ [.op (.edit m.rooted.owner e)])) value r

theorem inserted_concat (later : List Act) (a : Act) :
    m.inserted before key value (later ++ [a]) = a.apply (m.inserted before key value later) := by
  rw [inserted, ← List.cons_append, ← List.append_assoc, play_concat, inserted]

theorem inserted_nil : m.inserted before key value [] = (m.insert (play before) key value).2 :=
  play_concat before _

theorem orderly_inserted (id : CollectorId) :
    ((m.inserted before key value later).collector id).Orderly :=
  orderly_play _ id

theorem holds_inserted (stands : m.Stands (play before)) (spared : ∀ a ∈ later, a.Spares m key) :
    m.Holds (m.inserted before key value later) key value := by
  induction later using List.reverseRecOn with
  | nil =>
    rw [inserted_nil]
    exact (stands.insert (orderly_play before) key value).2
  | append_singleton later a ih =>
    have earlier := ih fun b hb => spared b (List.mem_append_left _ hb)
    rw [inserted_concat]
    exact earlier.act orderly_inserted (spared a (by simp))

theorem links_inserted (stands : m.Stands (play before)) (spared : ∀ a ∈ later, a.Spares m key)
    (linked : m.Links (m.inserted before key value []) value r)
    (stays : m.StaysLinked before key value later r) :
    m.Links (m.inserted before key value later) value r := by
  induction later using List.reverseRecOn with
  | nil => exact linked
  | append_singleton later a ih =>
    have spared' : ∀ b ∈ later, b.Spares m key := fun b hb => spared b (List.mem_append_left _ hb)
    have earlier := ih spared' fun part e hp => stays part e (hp.trans (List.prefix_append later [a]))
    rw [inserted_concat]
    refine (holds_inserted stands spared').links_act orderly_inserted ?_ earlier
    rintro e rfl he
    rw [← inserted_concat]
    exact stays later e List.prefix_rfl he earlier

theorem links_insert (stands : m.Stands (play before))
    (safe : ∀ r ∈ value.nodes, (m.collector (play before)).isLive r →
      (m.collector (m.inserted before key value [])).isLive r)
    (hr : m.Links (play before) value r) : m.Links (m.inserted before key value []) value r := by
  have hc : (m.collector (play before)).Orderly := orderly_play before _
  rw [inserted_nil] at safe ⊢
  rw [Links, stands.collector_insert]
  rw [stands.collector_insert] at safe
  exact ((Collector.move_intern _ _ key).spares hc.heap).reach safe hr

/-- An insertion keeps what the value leads to unless interning the text runs a collection, which
reclaims what the roots do not lead to. What the value leads to afterwards stays linked to it, and
the value stays in the map, whatever follows, until the entry or the links are changed. -/
theorem insert_keeps_value (before : List Act) (m : StringMap) (key : String) (value : Traced)
    (stands : m.Stands (play before)) :
    (∃ old, (m.insert (play before) key value).1 = .ok old) ∧
    (∀ r, m.Links (play before) value r →
      ((m.collector (m.inserted before key value [])).isLive r ↔
        ¬(m.collector (play before)).InternCollects (play before).process key ∨
          (m.collector (play before)).heap.Reach
            ((m.collector (play before)).IsRoot (play before).process none) r)) ∧
    ((∀ r ∈ value.nodes, (m.collector (play before)).isLive r →
        (m.collector (m.inserted before key value [])).isLive r) →
      ∀ r, m.Links (play before) value r → m.Links (m.inserted before key value []) value r) ∧
    ∀ later, (∀ a ∈ later, a.Spares m key) →
      m.find? (m.inserted before key value later) key = some value ∧
      ∀ r, m.Links (m.inserted before key value []) value r →
        m.StaysLinked before key value later r →
        m.Links (m.inserted before key value later) value r ∧
          (m.collector (m.inserted before key value later)).isLive r := by
  have hc : (m.collector (play before)).Orderly := orderly_play before _
  refine ⟨(stands.insert (orderly_play before) key value).1, ?_, ?_, ?_⟩
  · intro r hr
    rw [inserted_nil, stands.collector_insert]
    exact Collector.isLive_intern_iff hc hr.isLive
  · exact fun safe r hr => links_insert stands safe hr
  · intro later spared
    refine ⟨(holds_inserted stands spared).find?, fun r linked stays => ?_⟩
    have kept := links_inserted stands spared linked stays
    exact ⟨kept, kept.isLive⟩

def roomy : List Act :=
  [.op (.create {}), .op (.allocate 0 (.ofKind .chunk) (.zeros 3)),
    .op (.allocate 0 (.ofKind .vector) (.vector #[.node ⟨0, 0⟩])), .table 0]

def shelf : StringMap := ⟨⟨0, ⟨0, ⟨0, 1⟩⟩⟩⟩

theorem insert_keeps_value_roomy :
    shelf.find? (shelf.inserted roomy "k" (.node ⟨1, 0⟩) [.trigger 0, .op (.intern 0 "l")]) "k" =
        some (.node ⟨1, 0⟩) ∧
      (shelf.collector (shelf.inserted roomy "k" (.node ⟨1, 0⟩)
        [.trigger 0, .op (.intern 0 "l")])).isLive ⟨0, 0⟩ := by
  have stands : shelf.Stands (play roomy) := ⟨by decide +kernel, ∅, rfl⟩
  obtain ⟨-, -, linked, later⟩ := insert_keeps_value roomy shelf "k" (.node ⟨1, 0⟩) stands
  have links : shelf.Links (play roomy) (.node ⟨1, 0⟩) ⟨0, 0⟩ := by
    refine .edge (.root (r := ⟨1, 0⟩) ?_ (by decide +kernel)) ?_ (by decide +kernel)
    · simp [Traced.nodes]
    · decide +kernel
  have links' := linked (by simp only [Traced.nodes]; decide +kernel) ⟨0, 0⟩ links
  obtain ⟨found, kept⟩ := later [.trigger 0, .op (.intern 0 "l")] (by simp [Act.Spares])
  refine ⟨found, (kept ⟨0, 0⟩ links' ?_).2⟩
  intro part e hp
  have member := hp.subset (List.mem_append_right part (List.mem_singleton.mpr rfl))
  simp at member

def narrow : List Act :=
  [.op (.create { threshold := 64 }), .op (.allocate 0 (.ofKind .chunk) (.zeros 3)), .table 0]

/-- The map has the chunk, which the insertion reclaimed. -/
theorem insert_loses_value :
    shelf.Stands (play narrow) ∧ (shelf.collector (play narrow)).isLive ⟨0, 0⟩ ∧
      shelf.find? (shelf.inserted narrow "k" (.node ⟨0, 0⟩) []) "k" = some (.node ⟨0, 0⟩) ∧
      ¬(shelf.collector (shelf.inserted narrow "k" (.node ⟨0, 0⟩) [])).isLive ⟨0, 0⟩ := by
  have stands : shelf.Stands (play narrow) := ⟨by decide +kernel, ∅, rfl⟩
  refine ⟨stands, by decide +kernel, ?_, by decide +kernel⟩
  exact (holds_inserted stands (by simp)).find?

end StringMap

end MarkSweep
