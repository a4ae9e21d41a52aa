import MarkSweep.Proofs.Collector.Constancy
import MarkSweep.Proofs.Collector.Frame

namespace MarkSweep

namespace Collector

variable {c : Collector} {p : Process} {text other : String} {node r : Ref}

theorem exists_resident_allocate (hc : c.Orderly) (p : Process) (header : Header)
    (object : Object) : ∃ x,
      (c.allocate p header object).2.1.heap.resident? (c.allocate p header object).1 = some x ∧
      x.object = object ∧ (x.header = header ∨ x.header = header.clearMark) := by
  have placed : (c.place header object).heap.resident? (c.heap.allocate header object).1 =
      some ⟨header, object⟩ := by
    rw [place, hc.heap.resident?_allocate, Function.update_self]
  have live := hc.isLive_allocate p header object
  rw [allocate_fst] at live ⊢
  rcases allocate_snd c p header object with e | ⟨trigger, e⟩
  · rw [e]
    exact ⟨_, placed, rfl, .inl rfl⟩
  · rw [e] at live ⊢
    rcases resident?_collect_cases live with kept | cleared
    · exact ⟨_, kept.trans placed, rfl, .inl rfl⟩
    · rw [cleared, placed]
      exact ⟨_, rfl, rfl, .inr rfl⟩

theorem resident?_allocate_self (hc : c.Orderly) (p : Process) (header : Header) (object : Object) :
    ((c.allocate p header object).2.1.heap.resident? (c.allocate p header object).1).map
      Resident.clearMark = some (Resident.clearMark ⟨header, object⟩) := by
  obtain ⟨x, hx, rfl, marks⟩ := exists_resident_allocate hc p header object
  have headers : x.header.clearMark = header.clearMark := by
    rcases marks with e | e
    · rw [e]
    · rw [e, Header.clearMark_clearMark]
  rw [hx, Option.map_some, Resident.clearMark, headers]
  rfl

theorem intern_of_interned (h : c.interned[text]? = some node) (p : Process) :
    c.intern p text = (node, c, p) := by
  rw [intern, h]

section absent

variable (hc : c.Orderly) (absent : c.interned[text]? = none)

include absent in
theorem intern_fst_of_absent (p : Process) : (c.intern p text).1 =
    (c.allocate p (.ofKind .string) (.chunk text.toUTF8)).1 := by
  rw [intern, absent]

include absent in
theorem heap_intern_of_absent (p : Process) : (c.intern p text).2.1.heap =
    (c.allocate p (.ofKind .string) (.chunk text.toUTF8)).2.1.heap := by
  rw [intern, absent]

include hc absent

theorem not_isLive_intern (p : Process) : ¬c.isLive (c.intern p text).1 := by
  rw [intern_fst_of_absent absent]
  exact hc.not_isLive_allocate p _ _

theorem resident?_intern_self (p : Process) :
    ((c.intern p text).2.1.heap.resident? (c.intern p text).1).map Resident.clearMark =
      some (Resident.clearMark ⟨.ofKind .string, .chunk text.toUTF8⟩) := by
  rw [heap_intern_of_absent absent, intern_fst_of_absent absent]
  exact resident?_allocate_self hc p _ _

theorem kind?_intern_self (p : Process) :
    (c.intern p text).2.1.kind? (c.intern p text).1 = some .string := by
  have kind : (Header.ofKind .string).clearMark.kind = .string := by decide
  rw [kind?_eq_of_clearMark, resident?_intern_self hc absent p]
  exact congrArg some kind

theorem bytes?_intern_self (p : Process) :
    (c.intern p text).2.1.bytes? (c.intern p text).1 = some text.toUTF8 := by
  rw [bytes?, object?_eq_of_clearMark, resident?_intern_self hc absent p]
  rfl

end absent

theorem interned_edit (c : Collector) (e : Edit) : (e.apply c).interned = c.interned := by
  obtain ⟨_, _, _, eq, -⟩ := Edit.apply_eq c e
  rw [eq]

theorem interned_of_interned_intern (h : (c.intern p text).2.1.interned[other]? = some node) :
    c.interned[other]? = some node ∨
      (other = text ∧ c.interned[text]? = none ∧ node = (c.intern p text).1) := by
  cases known : c.interned[text]? with
  | some old =>
    rw [intern_of_interned known] at h
    exact .inl h
  | none =>
    by_cases same : other = text
    · subst same
      rw [interned_intern_self] at h
      exact .inr ⟨rfl, rfl, (Option.some.inj h).symm⟩
    · simp only [intern, known] at h
      rw [Std.TreeMap.getElem?_insert, if_neg (mt Std.compare_eq_iff_eq.mp (Ne.symm same))] at h
      exact .inl (interned_of_interned_allocate h)

theorem interned_of_interned_tryTrigger (h : (c.tryTrigger p).2.1.interned[text]? = some node) :
    c.interned[text]? = some node := by
  rw [tryTrigger] at h
  split at h
  · exact h
  · exact interned_of_interned_collect h

theorem clearMarks_collect_of_collections {trigger : Trigger} {pinned : Option Ref}
    (same : (c.collect p trigger pinned).2.1.collections = c.collections) :
    (c.collect p trigger pinned).2.1.heap.clearMarks = c.heap.clearMarks := by
  rcases collect_cases c p trigger pinned with ⟨_, e⟩ | ⟨_, e⟩ | ⟨_, _, e⟩
  · rw [e]
  · rw [e]
    exact c.heap.clearMarks_clearMarks
  · rw [e] at same
    exact absurd same (Nat.succ_ne_self c.collections)

theorem clearMarks_allocate_of_collections {header : Header} {object : Object}
    (same : (c.allocate p header object).2.1.collections = c.collections) :
    (c.allocate p header object).2.1.heap.clearMarks =
      (c.place header object).heap.clearMarks := by
  rcases allocate_snd c p header object with e | ⟨trigger, e⟩
  · rw [e]
  · rw [e] at same ⊢
    exact clearMarks_collect_of_collections (c := c.place header object) same

section spared

variable (live : c.isLive r)
include live

theorem isLive_collect_of_collections {trigger : Trigger} {pinned : Option Ref}
    (same : (c.collect p trigger pinned).2.1.collections = c.collections) :
    (c.collect p trigger pinned).2.1.isLive r :=
  (Heap.isLive_congr (clearMarks_collect_of_collections same) r).trans live

theorem isLive_allocate_of_collections (hc : c.Orderly) {header : Header} {object : Object}
    (same : (c.allocate p header object).2.1.collections = c.collections) :
    (c.allocate p header object).2.1.isLive r := by
  have placed : (c.place header object).isLive r :=
    (hc.heap.isLive_allocate header object r).mpr (.inr live)
  exact (Heap.isLive_congr (clearMarks_allocate_of_collections same) r).trans placed

theorem isLive_intern_of_collections (hc : c.Orderly)
    (same : (c.intern p text).2.1.collections = c.collections) :
    (c.intern p text).2.1.isLive r := by
  rw [intern] at same ⊢
  split at same
  case h_1 => exact live
  case h_2 => exact isLive_allocate_of_collections live hc same

theorem isLive_tryTrigger_of_collections
    (same : (c.tryTrigger p).2.1.collections = c.collections) :
    (c.tryTrigger p).2.1.isLive r := by
  rw [tryTrigger] at same ⊢
  split at same
  case isTrue locked => rwa [if_pos locked]
  case isFalse free =>
    rw [if_neg free]
    exact isLive_collect_of_collections live same

end spared

end Collector

end MarkSweep
