import MarkSweep.Proofs.Heap.Occupancy
import Mathlib.Algebra.Order.BigOperators.Group.Finset
import Mathlib.Order.Bounds.Basic

namespace MarkSweep

theorem listings_eq_zero_iff {free : Vector (List Nat) freeListCount} {i : Nat} :
    listings free i = 0 ↔ ∀ l : Fin freeListCount, i ∉ free.get l := by
  simp only [listings, Finset.sum_eq_zero_iff, Finset.mem_univ, true_implies, List.count_eq_zero]

theorem exists_of_listings_eq_one {free : Vector (List Nat) freeListCount} {i : Nat}
    (h : listings free i = 1) :
    ∃ l : Fin freeListCount, (free.get l).count i = 1 ∧
      ∀ k : Fin freeListCount, k ≠ l → i ∉ free.get k := by
  have some : listings free i ≠ 0 := by omega
  rw [ne_eq, listings_eq_zero_iff, not_forall] at some
  obtain ⟨l, hl⟩ := some
  have positive := List.count_pos_iff.mpr (not_not.mp hl)
  have total := Finset.add_sum_erase Finset.univ (fun k => (free.get k).count i) (Finset.mem_univ l)
  have whole : ∑ k : Fin freeListCount, (free.get k).count i = 1 := h
  have rest : ∑ k ∈ Finset.univ.erase l, (free.get k).count i = 0 := by omega
  refine ⟨l, by omega, ?_⟩
  intro k hk
  rw [Finset.sum_eq_zero_iff] at rest
  exact List.count_eq_zero.mp (rest k (Finset.mem_erase.mpr ⟨hk, Finset.mem_univ k⟩))

namespace Heap

inductive Op where
  | allocate (header : Header) (object : Object)
  | setHeader (r : Ref) (header : Header)
  | setObject (r : Ref) (object : Object)
  | mark (r : Ref)
  | clearMarks
  | sweep

def Op.apply (h : Heap) : Op → Heap
  | allocate header object => (h.allocate header object).2
  | setHeader r header => h.modifyHeader r fun _ => header
  | setObject r object => h.setObject r object
  | mark r => (h.mark? r).getD h
  | clearMarks => h.clearMarks
  | sweep => h.sweep.2

def run (ops : List Op) : Heap := ops.foldl Op.apply empty

theorem run_concat (ops : List Op) (o : Op) : run (ops ++ [o]) = o.apply (run ops) := by
  rw [run, List.foldl_concat, run]

theorem Consistent.apply {h : Heap} (hh : h.Consistent) (o : Op) : (o.apply h).Consistent := by
  cases o with
  | allocate header object => exact hh.allocate header object
  | setHeader r header => exact hh.modify r _
  | setObject r object => exact hh.modify r _
  | mark r =>
    cases hm : h.mark? r with
    | none => simpa [Op.apply, hm] using hh
    | some h' => simpa [Op.apply, hm] using hh.mark? hm
  | clearMarks => exact hh.clearMarks
  | sweep => exact hh.sweep

theorem consistent_run (ops : List Op) : (run ops).Consistent := by
  induction ops using List.reverseRecOn with
  | nil => exact consistent_empty
  | append_singleton ops o ih =>
    rw [run_concat]
    exact ih.apply o

theorem mark?_counters {h h' : Heap} {r : Ref} (hm : h.mark? r = some h') :
    h'.peak = h.peak ∧ h'.outstanding = h.outstanding := by
  obtain ⟨-, rfl⟩ := mark?_eq_some_iff.mp hm
  exact ⟨rfl, rfl⟩

theorem peak_apply {h : Heap} (hp : h.outstanding ≤ h.peak) (o : Op) :
    (o.apply h).peak = max h.peak (o.apply h).outstanding := by
  cases o with
  | allocate header object =>
    rw [Op.apply, allocate]
    split <;> rfl
  | setHeader r header => exact (max_eq_left hp).symm
  | setObject r object => exact (max_eq_left hp).symm
  | mark r =>
    cases hm : h.mark? r with
    | none => simpa [Op.apply, hm] using hp
    | some h' =>
      obtain ⟨peak, outstanding⟩ := mark?_counters hm
      simpa [Op.apply, hm, peak, outstanding] using hp
  | clearMarks => exact (max_eq_left hp).symm
  | sweep => rfl

theorem isGreatest_concat {f : List Op → Nat} {ops : List Op} {o : Op} {m n : Nat}
    (greatest : IsGreatest {k | ∃ before, before <+: ops ∧ f before = k} m) (grows : m ≤ n)
    (bound : f (ops ++ [o]) ≤ n) (attained : n = m ∨ n = f (ops ++ [o])) :
    IsGreatest {k | ∃ before, before <+: ops ++ [o] ∧ f before = k} n := by
  constructor
  · rcases attained with rfl | rfl
    · obtain ⟨before, hb, hn⟩ := greatest.1
      exact ⟨before, hb.trans (List.prefix_append ops [o]), hn⟩
    · exact ⟨ops ++ [o], List.prefix_rfl, rfl⟩
  · rintro k ⟨before, hb, rfl⟩
    rcases List.prefix_concat_iff.mp hb with rfl | hb
    · exact bound
    · exact (greatest.2 ⟨before, hb, rfl⟩).trans grows

theorem isGreatest_nil (f : List Op → Nat) :
    IsGreatest {k | ∃ before, before <+: [] ∧ f before = k} (f []) := by
  refine ⟨⟨[], List.prefix_rfl, rfl⟩, ?_⟩
  rintro k ⟨before, hb, rfl⟩
  rw [List.prefix_nil.mp hb]

theorem isGreatest_peak (ops : List Op) :
    IsGreatest {n | ∃ before, before <+: ops ∧ (run before).outstanding = n} (run ops).peak := by
  induction ops using List.reverseRecOn with
  | nil => exact isGreatest_nil fun ops => (run ops).outstanding
  | append_singleton ops o ih =>
    have bound : (run ops).outstanding ≤ (run ops).peak := ih.2 ⟨ops, List.prefix_rfl, rfl⟩
    have peak := peak_apply bound o
    rw [← run_concat] at peak
    rw [peak]
    exact isGreatest_concat ih (le_max_left _ _) (le_max_right _ _) (max_choice _ _)

/-- The places, the free lists and the counters account for one another after every run. -/
theorem run_accounts (ops : List Op) :
    (∀ i < (run ops).capacity,
      ((run ops).IsOccupied i ∧ ∀ l : Fin freeListCount, i ∉ (run ops).free.get l) ∨
      ((run ops).IsVacant i ∧ ∃ l : Fin freeListCount, ((run ops).free.get l).count i = 1 ∧
        ∀ k : Fin freeListCount, k ≠ l → i ∉ (run ops).free.get k)) ∧
    (∀ l : Fin freeListCount, ∀ i ∈ (run ops).free.get l, i < (run ops).capacity) ∧
    (run ops).live = (run ops).places.countP Place.isOccupied ∧
    (run ops).outstanding =
      (((run ops).places.toList.filter Place.isOccupied).map Place.reserved).sum ∧
    IsGreatest {n | ∃ before, before <+: ops ∧ (run before).outstanding = n} (run ops).peak ∧
    (∀ header object (i : Nat) p, (run ops).places[i]? = some p → Place.isOccupied p →
      ((run ops).allocate header object).2.places[i]? = some p) ∧
    (run ops).sweep.1.total.reclaimed.bytes ≤ (run ops).outstanding ∧
    (run ops).sweep.1.total.reclaimed.objects ≤ (run ops).live := by
  have hh := consistent_run ops
  have vacant_of_mem (l : Fin freeListCount) (i : Nat) (hi : i ∈ (run ops).free.get l) :
      (run ops).IsVacant i := by
    have listed : listings (run ops).free i ≠ 0 := fun e => listings_eq_zero_iff.mp e l hi
    have once := hh.listed i
    rw [← hh.vacant]
    omega
  refine ⟨?_, ?_, ?_, ?_, isGreatest_peak ops, ?_, hh.reclaimed_le.2, hh.reclaimed_le.1⟩
  · intro i hi
    rcases isVacant_or_isOccupied hi with hv | ho
    · exact .inr ⟨hv, exists_of_listings_eq_one ((hh.vacant i).mpr hv)⟩
    · exact .inl ⟨ho, fun l hl => not_isOccupied_of_isVacant (vacant_of_mem l i hl) ho⟩
  · intro l i hi
    exact lt_capacity_of_isVacant (vacant_of_mem l i hi)
  · rw [← objects_volume, hh.volume]
  · rw [← bytes_volume, hh.volume]
  · intro header object i p hp ho
    have other : ((run ops).allocate header object).1.index ≠ i := by
      rintro rfl
      exact hh.not_isOccupied_allocate header object ⟨p, hp, ho⟩
    rw [hh.getElem?_allocate, if_neg other, hp]

end Heap

end MarkSweep
