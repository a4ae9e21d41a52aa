import MarkSweep.Proofs.Collector.Metrics
import MarkSweep.Proofs.World.Arena

namespace MarkSweep

namespace World

def Reaches (c : Collector) : Prop :=
  ∃ acts id, c = (play acts).collector id ∨
    ∃ header object, c = ((play acts).collector id).place header object

variable {c : Collector}

theorem Reaches.consistent (reached : Reaches c) : c.heap.Consistent := by
  obtain ⟨acts, id, rfl | ⟨header, object, rfl⟩⟩ := reached
  · exact (orderly_play acts id).heap
  · exact ((orderly_play acts id).place header object).heap

theorem Reaches.fitting (reached : Reaches c) : c.heap.Fitting := by
  obtain ⟨acts, id, placed⟩ := reached
  obtain ⟨ops, steady, e⟩ := exists_steady acts id
  have fits := Heap.fitting_run steady
  rcases placed with rfl | ⟨header, object, rfl⟩
  · rwa [e]
  · rw [← e] at fits
    exact (orderly_play acts id).heap.fitting_apply fits (o := .allocate header object) trivial

/-- The figures of a collection account for every resident, by its fate and under its kind, and for
every live root. -/
theorem metrics_conserved {c' : Collector} {p p' : Process} {trigger : Trigger}
    {pinned : Option Ref} {m : Metrics} (reached : Reaches c)
    (h : c.collect p trigger pinned = (.ok m, c', p')) :
    m.tally.total.reclaimed + m.tally.total.surviving = ⟨c.heap.live, c.heap.outstanding⟩ ∧
    m.tally.total.surviving = ⟨c'.heap.live, c'.heap.outstanding⟩ ∧
    (∀ k, m.tally.kinds[k]? =
      if ∃ e ∈ c.heap.residents, e.2.header.kind = k
      then some (fateOf c'.isLive (ofKind k c.heap.residents)) else none) ∧
    (m.tally.kinds.toList.map Prod.snd).sum = m.tally.total ∧
    (∃ roots : Finset Ref, (∀ r, r ∈ roots ↔ c.IsRoot p pinned r ∧ c.isLive r) ∧
      m.rootsScanned = roots.card) ∧
    m.rootsScanned ≤ m.tally.total.surviving.objects := by
  have fits := reached.fitting
  have tally := Collector.tally_collect fits h
  have scanned := Collector.rootsScanned_collect h
  have roots (r : Ref) : r ∈ (c.rootNodes p.markers pinned).toFinset.filter (c.isLive ·) ↔
      c.IsRoot p pinned r ∧ c.isLive r := by
    rw [Finset.mem_filter, List.mem_toFinset, Collector.mem_rootNodes]
  obtain ⟨conserved, surviving⟩ := Collector.volume_collect reached.consistent h
  refine ⟨conserved, surviving, ?_, ?_, ⟨_, roots, scanned⟩, ?_⟩
  · intro k
    rw [tally, getElem?_kinds_census]
  · rw [tally, sum_kinds_census]
  · rw [scanned]
    exact Collector.card_le_surviving fits h fun r hr => (roots r).mp hr

def keptTwice : World :=
  play [.op (.create .manual), .op (.allocate 0 (.ofKind .chunk) (.zeros 4)),
    .op (.allocate 0 (.ofKind .chunk) (.zeros 4)),
    .op (.allocate 0 (.ofKind .vector) (.vector #[.empty, .empty, .empty])),
    .op (.keep 0 ⟨0, 0⟩), .op (.keep 0 ⟨0, 0⟩)]

theorem metrics_conserved_keptTwice : ∃ m c' p',
    (keptTwice.collector 0).collect keptTwice.process .manual none = (.ok m, c', p') ∧
    m.tally.total.surviving = ⟨1, 32⟩ ∧ m.tally.total.reclaimed + ⟨1, 32⟩ = ⟨3, 128⟩ ∧
    m.tally.kinds[Kind.string]? = none ∧ m.rootsScanned ≤ 1 := by
  have reached : Reaches (keptTwice.collector 0) := ⟨_, 0, .inl rfl⟩
  have ok : ((keptTwice.collector 0).collect keptTwice.process .manual none).1.isOk := by
    decide +kernel
  obtain ⟨m, completed⟩ := Collector.collect_of_isOk ok
  have before : (⟨(keptTwice.collector 0).heap.live,
      (keptTwice.collector 0).heap.outstanding⟩ : Volume) = ⟨3, 128⟩ := by decide +kernel
  have after : (⟨((keptTwice.collector 0).collect keptTwice.process .manual none).2.1.heap.live,
      ((keptTwice.collector 0).collect keptTwice.process .manual none).2.1.heap.outstanding⟩ :
        Volume) = ⟨1, 32⟩ := by decide +kernel
  have strings : ¬∃ e ∈ (keptTwice.collector 0).heap.residents, e.2.header.kind = .string := by
    decide +kernel
  obtain ⟨conserved, surviving, kinds, -, -, bound⟩ := metrics_conserved reached completed
  rw [after] at surviving
  rw [surviving] at conserved bound
  rw [before] at conserved
  exact ⟨m, _, _, completed, surviving, conserved, (kinds _).trans (if_neg strings), bound⟩

end World

end MarkSweep
