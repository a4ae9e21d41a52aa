import MarkSweep.Proofs.Heap.Volume
import Mathlib.Algebra.BigOperators.Fin
import Mathlib.Algebra.BigOperators.Group.Finset.Basic

/-!
Which places are occupied and which wait on a free list. Every operation keeps a heap consistent:
each vacant place is listed once, no other index is listed, and the counters hold the volume.
-/

namespace MarkSweep

def listings (free : Vector (List Nat) freeListCount) (i : Nat) : Nat :=
  ∑ l : Fin freeListCount, (free.get l).count i

theorem listings_set (free : Vector (List Nat) freeListCount) (l : Fin freeListCount)
    (xs : List Nat) (i : Nat) :
    listings (free.set l xs l.isLt) i + (free.get l).count i = listings free i + xs.count i := by
  have own : (free.set l xs l.isLt).get l = xs := Vector.getElem_set_self l.isLt
  have rest : ∑ k ∈ Finset.univ.erase l, ((free.set l xs l.isLt).get k).count i =
      ∑ k ∈ Finset.univ.erase l, (free.get k).count i := by
    apply Finset.sum_congr rfl
    intro k hk
    have hne : l.val ≠ k.val := fun e => (Finset.mem_erase.mp hk).1 (Fin.ext e.symm)
    have other : (free.set l xs l.isLt).get k = free.get k :=
      Vector.getElem_set_ne l.isLt k.isLt hne
    rw [other]
  have before := Finset.add_sum_erase Finset.univ (fun k => (free.get k).count i)
    (Finset.mem_univ l)
  have after := Finset.add_sum_erase Finset.univ
    (fun k => ((free.set l xs l.isLt).get k).count i) (Finset.mem_univ l)
  rw [own] at after
  simp only [listings]
  omega

namespace Heap

def IsOccupied (h : Heap) (i : Nat) : Prop := ∃ p, h.places[i]? = some p ∧ p.resident.isSome

def IsVacant (h : Heap) (i : Nat) : Prop := ∃ p, h.places[i]? = some p ∧ p.resident = none

structure Consistent (h : Heap) : Prop where
  vacant : ∀ i, listings h.free i = 1 ↔ h.IsVacant i
  listed : ∀ i, listings h.free i ≤ 1
  volume : h.volume = ⟨h.live, h.outstanding⟩

theorem listings_empty (i : Nat) : listings empty.free i = 0 := by
  apply Finset.sum_eq_zero
  intro l _
  have unused : empty.free.get l = [] := Vector.getElem_replicate l.isLt
  rw [unused, List.count_nil]

theorem consistent_empty : empty.Consistent where
  vacant i := by
    rw [listings_empty]
    simp [IsVacant, empty]
  listed i := by simp [listings_empty]
  volume := rfl

theorem isVacant_iff {h : Heap} {i : Nat} :
    h.IsVacant i ↔ (h.places.map Place.volume)[i]? = some 0 := by
  simp only [IsVacant, Array.getElem?_map, Option.map_eq_some_iff]
  constructor
  · rintro ⟨p, hp, hr⟩
    exact ⟨p, hp, by simp [Place.volume, Place.isOccupied, hr]⟩
  · rintro ⟨p, hp, hv⟩
    refine ⟨p, hp, ?_⟩
    cases hr : p.resident with
    | none => rfl
    | some x => simp [Place.volume, Place.isOccupied, hr, Volume.eq_iff] at hv

theorem not_isOccupied_of_isVacant {h : Heap} {i : Nat} (hv : h.IsVacant i) :
    ¬h.IsOccupied i := by
  rintro ⟨p, hp, ho⟩
  obtain ⟨q, hq, hn⟩ := hv
  obtain rfl : p = q := by simpa [hp] using hq
  simp [hn] at ho

theorem isVacant_or_isOccupied {h : Heap} {i : Nat} (hi : i < h.capacity) :
    h.IsVacant i ∨ h.IsOccupied i := by
  have hp : h.places[i]? = some h.places[i] := Array.getElem?_eq_getElem hi
  cases hr : h.places[i].resident with
  | none => exact .inl ⟨_, hp, hr⟩
  | some x => exact .inr ⟨_, hp, by simp [hr]⟩

theorem lt_capacity_of_isVacant {h : Heap} {i : Nat} (hv : h.IsVacant i) : i < h.capacity := by
  obtain ⟨p, hp, -⟩ := hv
  exact (Array.getElem?_eq_some_iff.mp hp).1

theorem Consistent.congr {h h' : Heap} (hh : h.Consistent)
    (volumes : h'.places.map Place.volume = h.places.map Place.volume)
    (free : h'.free = h.free) (live : h'.live = h.live)
    (outstanding : h'.outstanding = h.outstanding) : h'.Consistent where
  vacant i := by rw [free, hh.vacant, isVacant_iff, isVacant_iff, volumes]
  listed i := by rw [free]; exact hh.listed i
  volume := by
    have total := hh.volume
    rw [Heap.volume, ← Array.toList_map] at total ⊢
    rw [volumes, total, live, outstanding]

theorem Consistent.modify {h : Heap} (hh : h.Consistent) (r : Ref) (f : Resident → Resident) :
    (h.modify r f).Consistent := by
  have volumes : (h.modify r f).places.map Place.volume = h.places.map Place.volume := by
    simp only [Heap.modify]
    apply map_modify_of_forall
    intro p
    split
    · exact Place.volume_congr rfl (by simp [Place.isOccupied])
    · rfl
  exact hh.congr volumes rfl rfl rfl

theorem Consistent.mark? {h h' : Heap} {r : Ref} (hh : h.Consistent) (hm : h.mark? r = some h') :
    h'.Consistent := by
  obtain ⟨-, rfl⟩ := mark?_eq_some_iff.mp hm
  exact hh.modify _ _

theorem Consistent.clearMarks {h : Heap} (hh : h.Consistent) : h.clearMarks.Consistent := by
  have volumes : h.clearMarks.places.map Place.volume = h.places.map Place.volume := by
    rw [Heap.clearMarks, Array.map_map]
    congr 1
    funext p
    exact Place.volume_clearMark p
  exact hh.congr volumes rfl rfl rfl

theorem listings_rest {h : Heap} {l : Fin freeListCount} {index : Nat} {rest : List Nat}
    (hl : h.free.get l = index :: rest) (i : Nat) :
    listings (h.free.set l rest l.isLt) i + (if index = i then 1 else 0) = listings h.free i := by
  have step := listings_set h.free l rest i
  rw [hl, List.count_cons] at step
  simp only [beq_iff_eq] at step
  omega

theorem Consistent.isVacant_of_cons {h : Heap} (hh : h.Consistent) {l : Fin freeListCount}
    {index : Nat} {rest : List Nat} (hl : h.free.get l = index :: rest) : h.IsVacant index := by
  have step := listings_rest hl index
  have once := hh.listed index
  rw [if_pos rfl] at step
  rw [← hh.vacant]
  omega

theorem Consistent.getElem?_allocate {h : Heap} (hh : h.Consistent) (header : Header)
    (object : Object) (i : Nat) :
    (h.allocate header object).2.places[i]? =
      if (h.allocate header object).1.index = i then
        some ⟨(h.allocate header object).1.generation, blockSize object.footprint,
          some ⟨header, object⟩⟩
      else h.places[i]? := by
  cases hl : h.free[freeListOf object.footprint] with
  | nil =>
    simp only [Heap.allocate, hl, Array.getElem?_push]
    by_cases hi : h.places.size = i
    · rw [if_pos hi.symm, if_pos hi]
    · rw [if_neg (Ne.symm hi), if_neg hi]
  | cons index rest =>
    obtain ⟨p, hp, -⟩ := hh.isVacant_of_cons hl
    simp only [Heap.allocate, hl, Array.getElem?_modify]
    by_cases hi : index = i
    · subst hi
      simp [hp]
    · rw [if_neg hi, if_neg hi]

theorem Consistent.not_isOccupied_allocate {h : Heap} (hh : h.Consistent) (header : Header)
    (object : Object) : ¬h.IsOccupied (h.allocate header object).1.index := by
  cases hl : h.free[freeListOf object.footprint] with
  | nil =>
    simp only [Heap.allocate, hl]
    rintro ⟨p, hp, -⟩
    simp at hp
  | cons index rest =>
    simp only [Heap.allocate, hl]
    exact not_isOccupied_of_isVacant (hh.isVacant_of_cons hl)

theorem Consistent.isVacant_allocate {h : Heap} (hh : h.Consistent) (header : Header)
    (object : Object) (i : Nat) :
    (h.allocate header object).2.IsVacant i ↔
      h.IsVacant i ∧ (h.allocate header object).1.index ≠ i := by
  rw [IsVacant, hh.getElem?_allocate]
  split
  case isTrue hi => simp [hi]
  case isFalse hi => simp [hi, IsVacant]

theorem Consistent.listings_allocate {h : Heap} (hh : h.Consistent) (header : Header)
    (object : Object) (i : Nat) :
    listings (h.allocate header object).2.free i =
      if (h.allocate header object).1.index = i then 0 else listings h.free i := by
  cases hl : h.free[freeListOf object.footprint] with
  | nil =>
    simp only [Heap.allocate, hl]
    split
    case isTrue hi =>
      have unlisted : ¬h.IsVacant i := by simp [IsVacant, ← hi]
      have once := hh.listed i
      rw [← hh.vacant] at unlisted
      omega
    case isFalse => rfl
  | cons index rest =>
    have step := listings_rest (l := freeListOf object.footprint) hl i
    have once := hh.listed i
    simp only [Heap.allocate, hl]
    split at step
    case isTrue hi => rw [if_pos hi]; omega
    case isFalse hi => rw [if_neg hi]; exact step

theorem Consistent.volume_allocate {h : Heap} (hh : h.Consistent) (header : Header)
    (object : Object) :
    (h.allocate header object).2.volume = h.volume + ⟨1, blockSize object.footprint⟩ := by
  cases hl : h.free[freeListOf object.footprint] with
  | nil => simp [Heap.allocate, hl, Heap.volume, Place.volume, Place.isOccupied]
  | cons index rest =>
    obtain ⟨p, hp, hn⟩ := hh.isVacant_of_cons hl
    rw [← Array.getElem?_toList] at hp
    have step := sum_map_modify Place.volume (fun p : Place => { p with
      reserved := blockSize object.footprint, resident := some ⟨header, object⟩ }) hp
    have vacated : p.volume = 0 := by simp [Place.volume, Place.isOccupied, hn]
    rw [vacated, add_zero] at step
    simp only [Heap.allocate, hl, Heap.volume, Array.toList_modify]
    rw [step]
    rfl

theorem Consistent.allocate {h : Heap} (hh : h.Consistent) (header : Header) (object : Object) :
    (h.allocate header object).2.Consistent where
  vacant i := by
    rw [hh.listings_allocate, hh.isVacant_allocate, ← hh.vacant]
    split
    case isTrue hi => simp [hi]
    case isFalse hi => simp [hi]
  listed i := by
    rw [hh.listings_allocate]
    split
    · exact Nat.zero_le 1
    · exact hh.listed i
  volume := by
    rw [hh.volume_allocate, hh.volume, Heap.allocate]
    split <;> simp [Volume.eq_iff]

theorem listings_vacated (free : Vector (List Nat) freeListCount) (p : Place) (index i : Nat) :
    listings (match p.vacated? with
      | some list => free.set list (index :: free.get list) list.isLt
      | none => free) i = listings free i + if index = i ∧ p.isUnmarked then 1 else 0 := by
  obtain ⟨generation, reserved, resident⟩ := p
  cases resident with
  | none => simp [Place.vacated?, Place.isUnmarked]
  | some x =>
    cases hx : x.header.isMarked with
    | true => simp [Place.vacated?, Place.isUnmarked, hx]
    | false =>
      have step := listings_set free (freeListOf x.object.footprint)
        (index :: free.get (freeListOf x.object.footprint)) i
      rw [List.count_cons] at step
      simp only [beq_iff_eq] at step
      simp only [Place.vacated?, Place.isUnmarked, hx, Bool.false_eq_true, if_false,
        Option.any_some, Bool.not_false, and_true]
      omega

theorem listings_released (free : Vector (List Nat) freeListCount) (ps : List Place) (k i : Nat) :
    listings (released free (ps.zipIdx k)) i =
      listings free i + if k ≤ i ∧ ps[i - k]?.any Place.isUnmarked then 1 else 0 := by
  induction ps generalizing free k with
  | nil => simp [released]
  | cons p ps ih =>
    have step := ih (match p.vacated? with
      | some list => free.set list (k :: free.get list) list.isLt
      | none => free) (k + 1)
    rw [listings_vacated] at step
    rw [List.zipIdx_cons, released, List.foldl_cons, ← released]
    refine step.trans ?_
    rcases lt_trichotomy k i with hlt | rfl | hgt
    · have hs : i - k = i - (k + 1) + 1 := by omega
      rw [if_neg (by omega), hs, List.getElem?_cons_succ]
      simp [Nat.succ_le_of_lt hlt, Nat.le_of_lt hlt]
    · simp
    · simp [Nat.not_le_of_lt hgt, Nat.not_le_of_lt (Nat.lt_succ_of_lt hgt), Nat.ne_of_gt hgt]

theorem isVacant_sweep {h : Heap} {i : Nat} :
    h.sweep.2.IsVacant i ↔ h.IsVacant i ∨ h.places[i]?.any Place.isUnmarked := by
  rw [IsVacant, IsVacant, getElem?_places_sweep]
  cases h.places[i]? with
  | none => simp
  | some p =>
    obtain ⟨generation, reserved, resident⟩ := p
    cases resident with
    | none => simp [Place.sweep]
    | some x => cases hx : x.header.isMarked <;> simp [Place.sweep, Place.isUnmarked, hx]

theorem listings_sweep (h : Heap) (i : Nat) :
    listings h.sweep.2.free i =
      listings h.free i + if h.places[i]?.any Place.isUnmarked then 1 else 0 := by
  have step := listings_released h.free h.places.toList 0 i
  simpa [Heap.sweep] using step

theorem Consistent.reclaimed_le {h : Heap} (hh : h.Consistent) :
    h.sweep.1.total.reclaimed.objects ≤ h.live ∧
      h.sweep.1.total.reclaimed.bytes ≤ h.outstanding := by
  have total := Heap.volume_sweep h
  rw [hh.volume, Volume.eq_iff] at total
  simp only [Volume.objects_add, Volume.bytes_add] at total
  omega

theorem Consistent.sweep {h : Heap} (hh : h.Consistent) : h.sweep.2.Consistent := by
  have disjoint (i : Nat) (hu : h.places[i]?.any Place.isUnmarked) : listings h.free i = 0 := by
    have once := hh.listed i
    have occupied : ¬h.IsVacant i := by
      rintro ⟨p, hp, hn⟩
      simp [hp, Place.isUnmarked, hn] at hu
    rw [← hh.vacant] at occupied
    omega
  refine ⟨fun i => ?_, fun i => ?_, ?_⟩
  · rw [listings_sweep, isVacant_sweep, ← hh.vacant]
    split
    case isTrue hu => simp [hu, disjoint i hu]
    case isFalse hu => simp [hu]
  · rw [listings_sweep]
    split
    case isTrue hu => simp [disjoint i hu]
    case isFalse hu => exact hh.listed i
  · have total := Heap.volume_sweep h
    rw [hh.volume, Volume.eq_iff] at total
    simp only [Volume.objects_add, Volume.bytes_add] at total
    rw [Volume.eq_iff]
    simp only [Heap.sweep] at total ⊢
    omega

end Heap

end MarkSweep
