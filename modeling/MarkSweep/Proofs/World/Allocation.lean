import MarkSweep.Proofs.Collector.Interning
import MarkSweep.Proofs.Collector.Linkage
import MarkSweep.Proofs.World.Order

namespace MarkSweep

theorem Heap.Consistent.edges_allocate {h : Heap} (hh : h.Consistent) (header : Header)
    (object : Object) :
    (h.allocate header object).2.edges (h.allocate header object).1 = object.edges := by
  rw [edges, object?, hh.resident?_allocate, Function.update_self]
  rfl

namespace Collector

variable {c : Collector} {p : Process} {header : Header} {object : Object} {r s : Ref}

theorem spares_place (hc : c.Orderly) : c.Spares (c.place header object) := by
  have trail : (c.place header object).trail = c.trail := rfl
  apply Spares.of_grows trail
  · intro r live
    exact (hc.heap.isLive_allocate header object r).mpr (.inr live)
  · intro r slots ho
    rwa [Heap.object?, place, hc.heap.resident?_allocate_of_isLive _ _ (Heap.isLive_of_object? ho)]

/-- What is promised of the reference that an allocation returns, and of the collector after it. -/
structure Delivers (c c' : Collector) (header : Header) (object : Object) (node : Ref) : Prop where
  fresh : ¬c.isLive node
  live : c'.isLive node
  held : ∃ x, c'.heap.resident? node = some x ∧ x.object = object ∧
    (x.header = header ∨ x.header = header.clearMark)
  led : ∀ s, c.heap.Reach (· ∈ object.edges) s → c'.isLive s
  spared : c'.collections = c.collections → (∀ r, c'.isLive r ↔ r = node ∨ c.isLive r) ∧
    ∀ r x, c.heap.resident? r = some x → ∃ y, c'.heap.resident? r = some y ∧
      y.object = x.object ∧ y.header.kind = x.header.kind ∧
      y.header.secondary = x.header.secondary ∧ ∀ f, y.header.flag f = x.header.flag f

namespace Orderly

theorem isLive_allocate_of_reach (hc : c.Orderly) (p : Process) (header : Header)
    (reach : c.heap.Reach (· ∈ object.edges) s) :
    (c.allocate p header object).2.1.isLive s := by
  have placed : (c.place header object).heap.Reach (· ∈ object.edges) s :=
    (spares_place hc).reach
      (fun r _ live => (hc.heap.isLive_allocate header object r).mpr (.inr live)) reach
  rcases allocate_snd c p header object with e | ⟨trigger, e⟩
  · rw [e]
    exact placed.isLive
  · rw [e]
    apply isLive_collect_of_reach
    apply placed.mono
    intro r hr live
    have pinned : (c.place header object).heap.Reach
        ((c.place header object).IsRoot p (some (c.heap.allocate header object).1))
        (c.heap.allocate header object).1 :=
      .root (.inr (.inr (.inr rfl))) ((hc.heap.isLive_allocate header object _).mpr (.inl rfl))
    refine pinned.edge ?_ live
    rw [Collector.place, hc.heap.edges_allocate]
    exact hr

theorem resident?_allocate_of_collections (hc : c.Orderly) {x : Resident}
    (same : (c.allocate p header object).2.1.collections = c.collections)
    (hx : c.heap.resident? r = some x) :
    ∃ y, (c.allocate p header object).2.1.heap.resident? r = some y ∧ y.object = x.object ∧
      y.header.Agrees x.header := by
  have live : c.isLive r := by
    rw [isLive, Heap.isLive, hx]
    rfl
  have marks := Heap.resident?_congr (clearMarks_allocate_of_collections same) r
  rw [Collector.place, hc.heap.resident?_allocate_of_isLive _ _ live, hx] at marks
  obtain ⟨y, hy, cleared⟩ := Option.map_eq_some_iff.mp marks
  have objects : y.clearMark.object = x.clearMark.object := congrArg Resident.object cleared
  exact ⟨y, hy, objects, Header.agrees_of_clearMark_eq (congrArg Resident.header cleared)⟩

theorem delivers_allocate (hc : c.Orderly) (p : Process) (header : Header) (object : Object) :
    c.Delivers (c.allocate p header object).2.1 header object (c.allocate p header object).1 where
  fresh := hc.not_isLive_allocate p header object
  live := hc.isLive_allocate p header object
  held := exists_resident_allocate hc p header object
  led _ reach := hc.isLive_allocate_of_reach p header reach
  spared same := by
    constructor
    · intro r
      rw [isLive, Heap.isLive_congr (clearMarks_allocate_of_collections same), allocate_fst]
      exact hc.heap.isLive_allocate header object r
    · intro r x hx
      obtain ⟨y, hy, objects, agrees⟩ := hc.resident?_allocate_of_collections same hx
      exact ⟨y, hy, objects, agrees.kind, agrees.secondary, agrees.flag⟩

end Orderly

end Collector

namespace World

/-- The reference that an allocation returns is a new one, for the object as it was given, and all
that the object leads to stays. Unless a collection completes, nothing else changes or goes. -/
theorem allocation_delivers (acts : List Act) (id : CollectorId) (p : Process) (header : Header)
    (object : Object) :
    ((play acts).collector id).Delivers
      (((play acts).collector id).allocate p header object).2.1 header object
      (((play acts).collector id).allocate p header object).1 :=
  (orderly_play acts id).delivers_allocate p header object

end World

end MarkSweep
