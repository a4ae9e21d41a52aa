import MarkSweep.Proofs.Collector.Sparing
import MarkSweep.Proofs.Heap.Census

namespace MarkSweep

namespace Tracer

variable {t : Tracer} {r : Ref}

theorem mark_of_not_fresh (stale : ¬(t.heap.isLive r ∧ ¬t.isMarked r)) : t.mark r = t := by
  have already : t.heap.mark? r = none :=
    Heap.mark?_eq_none_iff.mpr fun live => by_contra fun unmarked => stale ⟨live, unmarked⟩
  rw [mark, already]

theorem marked_mark (fresh : t.heap.isLive r ∧ ¬t.isMarked r) :
    (t.mark r).marked = t.marked + 1 := by
  rw [mark]
  cases hm : t.heap.mark? r with
  | none => exact absurd (Heap.mark?_eq_none_iff.mp hm fresh.1) fresh.2
  | some heap => rfl

theorem marked_markAll (t : Tracer) (rs : List Ref) : (t.markAll rs).marked =
    t.marked + (rs.toFinset.filter fun r => t.heap.isLive r ∧ ¬t.isMarked r).card := by
  induction rs generalizing t with
  | nil => rfl
  | cons r rs ih =>
    rw [markAll, List.foldl_cons, ← markAll, ih, List.toFinset_cons, Finset.filter_insert]
    by_cases fresh : t.heap.isLive r ∧ ¬t.isMarked r
    · -- Once `r` is marked, it is not counted again.
      have rest : (rs.toFinset.filter fun s =>
            (t.mark r).heap.isLive s ∧ ¬(t.mark r).isMarked s) =
          (rs.toFinset.filter fun s => t.heap.isLive s ∧ ¬t.isMarked s).erase r := by
        ext s
        simp only [Finset.mem_filter, Finset.mem_erase, isMarked_mark, fresh.1, and_true, not_or,
          Heap.isLive_congr (clearMarks_mark t r)]
        tauto
      rw [if_pos fresh, rest, marked_mark fresh, ← Finset.erase_insert_eq_erase, Nat.add_assoc,
        Nat.add_comm 1, Finset.card_erase_add_one (Finset.mem_insert_self _ _)]
    · rw [if_neg fresh, mark_of_not_fresh fresh]

end Tracer

namespace Collector

variable {c c' : Collector} {p p' : Process} {trigger : Trigger} {pinned : Option Ref} {m : Metrics}

theorem collect_of_isOk (ok : (c.collect p trigger pinned).1.isOk) :
    ∃ m, c.collect p trigger pinned = (.ok m, (c.collect p trigger pinned).2) := by
  rcases e : c.collect p trigger pinned with ⟨outcome, after⟩
  rw [e] at ok
  cases outcome with
  | error fault => cases ok
  | ok m => exact ⟨m, rfl⟩

theorem tally_collect (fits : c.heap.Fitting)
    (h : c.collect p trigger pinned = (.ok m, c', p')) :
    m.tally = census c'.isLive c.heap.residents := by
  have marks : (c.markPhase p.markers pinned).tracer.heap.isMarked = c'.isLive := by
    funext r
    exact Bool.eq_iff_iff.mpr
      ((isMarked_markPhase (collect_eq_ok h).1 r).trans (isLive_collect h).symm)
  have counted := Heap.sweep_eq_census_of_clearMarks_eq fits
    (clearMarks_markPhase c p.markers pinned)
  rw [marks] at counted
  rw [metrics_collect h]
  exact counted

theorem volume_collect (hh : c.heap.Consistent)
    (h : c.collect p trigger pinned = (.ok m, c', p')) :
    m.tally.total.reclaimed + m.tally.total.surviving = ⟨c.heap.live, c.heap.outstanding⟩ ∧
      m.tally.total.surviving = ⟨c'.heap.live, c'.heap.outstanding⟩ := by
  have marks := clearMarks_markPhase c p.markers pinned
  have marked := hh.of_clearMarks_eq marks
  have counters := congrArg (fun h : Heap => (⟨h.live, h.outstanding⟩ : Volume)) marks
  have surviving := (c.markPhase p.markers pinned).tracer.heap.surviving_sweep
  have conserved := (c.markPhase p.markers pinned).tracer.heap.volume_sweep
  rw [metrics_collect h, (collect_eq_ok h).2]
  refine ⟨?_, surviving.trans marked.sweep.volume⟩
  rw [← surviving, add_comm, marked.volume] at conserved
  exact conserved.trans counters

theorem rootsScanned_collect (h : c.collect p trigger pinned = (.ok m, c', p')) :
    m.rootsScanned = ((c.rootNodes p.markers pinned).toFinset.filter (c.isLive ·)).card := by
  have live (r : Ref) : c.heap.clearMarks.isLive r = c.isLive r :=
    Heap.isLive_congr c.heap.clearMarks_clearMarks r
  have scanned := (markPhase_of_free (collect_eq_ok h).1 pinned).2
  rw [Tracer.marked_markAll] at scanned
  rw [metrics_collect h, sweepPhase, scanned]
  simp only [Tracer.isMarked, Heap.isMarked_clearMarks, live, Bool.false_eq_true, not_false_iff,
    and_true, Nat.zero_add]

theorem card_le_surviving (fits : c.heap.Fitting)
    (h : c.collect p trigger pinned = (.ok m, c', p')) {roots : Finset Ref}
    (live : ∀ r ∈ roots, c.IsRoot p pinned r ∧ c.isLive r) :
    roots.card ≤ m.tally.total.surviving.objects := by
  have kept : roots ⊆ ((c.heap.residents.filter fun e => c'.isLive e.1).map Prod.fst).toFinset := by
    intro r hr
    obtain ⟨root, before⟩ := live r hr
    obtain ⟨x, hx⟩ := Option.isSome_iff_exists.mp before
    have after : c'.isLive r := (isLive_collect h).mpr (.root root before)
    rw [List.mem_toFinset, List.mem_map]
    exact ⟨(r, x), List.mem_filter.mpr ⟨Heap.mem_residents.mpr hx, after⟩, rfl⟩
  have survivors := (Finset.card_le_card kept).trans (List.toFinset_card_le _)
  rw [List.length_map] at survivors
  rw [tally_collect fits h, total_census]
  exact survivors

end Collector

end MarkSweep
