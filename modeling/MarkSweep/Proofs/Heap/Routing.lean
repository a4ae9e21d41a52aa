import MarkSweep.Proofs.Heap.Tenure
import MarkSweep.Proofs.Node.Footprint
import Mathlib.Order.Monotone.Defs

/-!
Size classes as a rounding. A size is rounded up to its block, and a block is routed as the sizes
it is made for. So the list that an allocation draws on is the list that takes the place back once
a sweep has vacated it, as long as the payload has kept its length.
-/

namespace MarkSweep

theorem isLeast_of_find? {l : List Nat} {p : Nat → Bool} {c : Nat}
    (increasing : l.Pairwise (· < ·)) (found : l.find? p = some c) :
    IsLeast {d | d ∈ l ∧ p d} c := by
  obtain ⟨holds, before, after, rfl, earlier⟩ := List.find?_eq_some_iff_append.mp found
  constructor
  · exact ⟨by simp, holds⟩
  · rintro d ⟨hd, also⟩
    have later := (List.pairwise_cons.mp (List.pairwise_append.mp increasing).2.1).1
    rcases List.mem_append.mp hd with hd | hd
    · simpa [also] using earlier d hd
    · rcases List.mem_cons.mp hd with rfl | hd
      · exact Nat.le_refl d
      · exact Nat.le_of_lt (later d hd)

theorem sizeClass?_eq_some_iff {size c : Nat} :
    sizeClass? size = some c ↔ IsLeast {d | d ∈ sizeClasses ∧ size ≤ d} c := by
  have increasing : sizeClasses.Pairwise (· < ·) := by decide
  have least {d : Nat} (found : sizeClass? size = some d) :
      IsLeast {d | d ∈ sizeClasses ∧ size ≤ d} d := by
    simpa using isLeast_of_find? increasing found
  constructor
  · exact least
  · intro hc
    cases found : sizeClass? size with
    | none =>
      have none := List.find?_eq_none.mp found c hc.1.1
      simp [hc.1.2] at none
    | some d => rw [(least found).unique hc]

example : [16, 17, 2048, 2049].map sizeClass? = [some 16, some 32, some 2048, none] := by decide

theorem le_maxSmallSize_of_sizeClass? {size c : Nat} (h : sizeClass? size = some c) :
    c ≤ maxSmallSize := by
  have all : ∀ d ∈ sizeClasses, d ≤ maxSmallSize := by decide
  exact all c (sizeClass?_eq_some_iff.mp h).1.1

theorem sizeClass?_blockSize (size : Nat) : sizeClass? (blockSize size) = sizeClass? size := by
  rw [blockSize]
  cases h : sizeClass? size with
  | none => exact h
  | some c =>
    have least := sizeClass?_eq_some_iff.mp h
    refine sizeClass?_eq_some_iff.mpr ⟨⟨least.1.1, Nat.le_refl c⟩, ?_⟩
    rintro d ⟨-, above⟩
    exact above

theorem blockSize_le_blockSize {m n : Nat} (h : m ≤ blockSize n) : blockSize m ≤ blockSize n := by
  cases hn : sizeClass? n with
  | none =>
    have whole : blockSize n = n := by rw [blockSize, hn, Option.getD_none]
    have large := sizeClass?_eq_none_iff.mp hn
    cases hm : sizeClass? m with
    | none => rwa [blockSize, hm]
    | some c =>
      have small := le_maxSmallSize_of_sizeClass? hm
      rw [blockSize, hm, Option.getD_some, whole]
      omega
  | some d =>
    have block : blockSize n = d := by rw [blockSize, hn, Option.getD_some]
    rw [block] at h ⊢
    have member := (sizeClass?_eq_some_iff.mp hn).1.1
    cases hm : sizeClass? m with
    | none =>
      have small := le_maxSmallSize_of_sizeClass? hn
      have large := sizeClass?_eq_none_iff.mp hm
      omega
    | some c =>
      rw [blockSize, hm, Option.getD_some]
      exact (sizeClass?_eq_some_iff.mp hm).2 ⟨member, h⟩

theorem monotone_blockSize : Monotone blockSize := by
  intro m n h
  exact blockSize_le_blockSize (h.trans (le_blockSize n))

theorem blockSize_blockSize (size : Nat) : blockSize (blockSize size) = blockSize size :=
  Nat.le_antisymm (blockSize_le_blockSize (Nat.le_refl _)) (le_blockSize _)

theorem freeListOf_blockSize (size : Nat) : freeListOf (blockSize size) = freeListOf size :=
  freeListOf_eq_iff.mpr (sizeClass?_blockSize size)

namespace Heap

variable {h : Heap}

/-- The allocation takes the latest place of the list, or a new one if none waits there, and
reserves a block that is routed to the list. -/
structure DrawsOn (h : Heap) (header : Header) (object : Object) (l : Fin freeListCount) :
    Prop where
  place : (h.allocate header object).1.index = (h.free.get l).head?.getD h.capacity
  free : ∀ k, (h.allocate header object).2.free.get k =
    if l = k then (h.free.get k).tail else h.free.get k
  block : ∃ p, (h.allocate header object).2.places[(h.allocate header object).1.index]? = some p ∧
    freeListOf p.reserved = l

theorem Consistent.drawsOn (hh : h.Consistent) (header : Header) (object : Object) :
    h.DrawsOn header object (freeListOf object.footprint) where
  place := index_allocate h header object
  free := get_free_allocate h header object
  block := by
    refine ⟨_, (hh.getElem?_allocate header object _).trans (if_pos rfl), ?_⟩
    exact freeListOf_blockSize object.footprint

theorem Consistent.mem_free_sweep_iff (hh : h.Consistent) {r : Ref} {x : Resident}
    (hx : h.resident? r = some x) (unmarked : x.header.isMarked = false) {l : Fin freeListCount} :
    r.index ∈ h.sweep.2.free.get l ↔ freeListOf x.object.footprint = l := by
  obtain ⟨p, hp, -, hr⟩ := resident?_eq_some_iff.mp hx
  have occupied : h.IsOccupied r.index := ⟨p, hp, by simp [hr]⟩
  have unlisted : r.index ∉ h.free.get l := fun waits =>
    not_isOccupied_of_isVacant (hh.isVacant_of_mem waits) occupied
  have vacated : p.vacated? = some (freeListOf x.object.footprint) := by
    simp [Place.vacated?, hr, unmarked]
  rw [mem_free_sweep]
  simp [hp, vacated, unlisted]

/-- Sizes are rounded up to the least class that holds them, and above all classes to themselves;
footprints are rounded up to multiples of eight, in words of 16 bits or more as in numbers. A size
is routed alike wherever it counts: by the block that an allocation reserves, where the allocation
looks for a place, and where a sweep leaves the place of a payload as long as the one allocated. -/
theorem sizes_round_tightly :
    (∀ size c, sizeClass? size = some c ↔ IsLeast {d | d ∈ sizeClasses ∧ size ≤ d} c) ∧
    (∀ size, sizeClass? size = none ↔ maxSmallSize < size) ∧
    (∀ size, size ≤ blockSize size) ∧
    Monotone blockSize ∧
    (∀ size, blockSize (blockSize size) = blockSize size) ∧
    (∀ m n, freeListOf m = freeListOf n ↔ sizeClass? m = sizeClass? n) ∧
    (∀ size, freeListOf (blockSize size) = freeListOf size) ∧
    (∀ o : Object, IsLeast {n | 8 ∣ n ∧ headerBytes + o.payloadBytes ≤ n} o.footprint) ∧
    (∀ w (o : Object), 16 ≤ w → o.payloadBytes < 2 ^ (w - 1) →
      headerBytes + o.payloadBytes + 7 < 2 ^ w ∧ (o.footprintWord w).toNat = o.footprint) ∧
    (∀ before header object,
      (run before).DrawsOn header object (freeListOf object.footprint)) ∧
    ∀ before header object since x,
      (later before since header object).resident? (granted before header object) = some x →
      x.header.isMarked = false → x.object.payloadBytes = object.payloadBytes →
      ∀ l, (granted before header object).index ∈
        (later before since header object).sweep.2.free.get l ↔
          freeListOf object.footprint = l := by
  refine ⟨fun _ _ => sizeClass?_eq_some_iff, fun _ => sizeClass?_eq_none_iff, le_blockSize,
    monotone_blockSize, blockSize_blockSize, fun _ _ => freeListOf_eq_iff, freeListOf_blockSize,
    Object.isLeast_footprint, ?_, fun before => (consistent_run before).drawsOn, ?_⟩
  · intro w o word fits
    have room := Object.charge_lt word fits
    exact ⟨room, Object.toNat_footprintWord room⟩
  · intro before header object since x hx unmarked length l
    have same : x.object.footprint = object.footprint := by
      rw [x.object.footprint_eq, length, object.footprint_eq]
    rw [← same]
    exact (consistent_run _).mem_free_sweep_iff hx unmarked

def swept : List Op := [.allocate (.ofKind .vector) (.emptySlots 1), .sweep]

def scribbled : Object := .vector #[.scalar 7, .empty]

theorem sizes_round_tightly_scribbled :
    (Object.emptySlots 2).payloadBytes < 2 ^ 63 ∧
    ((Object.emptySlots 2).footprintWord 64).toNat = 32 ∧
    granted swept (.ofKind .vector) (.emptySlots 2) = ⟨0, 1⟩ ∧
    (later swept [.setObject ⟨0, 1⟩ scribbled] (.ofKind .vector)
      (.emptySlots 2)).resident? ⟨0, 1⟩ = some ⟨.ofKind .vector, scribbled⟩ ∧
    (Header.ofKind .vector).isMarked = false ∧
    scribbled.payloadBytes = (Object.emptySlots 2).payloadBytes ∧
    0 ∈ (later swept [.setObject ⟨0, 1⟩ scribbled] (.ofKind .vector)
      (.emptySlots 2)).sweep.2.free.get (freeListOf 32) := by
  obtain ⟨-, -, -, -, -, -, -, -, words, -, kept⟩ := sizes_round_tightly
  have fits : (Object.emptySlots 2).payloadBytes < 2 ^ 63 := by decide +kernel
  have place : granted swept (.ofKind .vector) (.emptySlots 2) = ⟨0, 1⟩ := by decide +kernel
  have resident : (later swept [.setObject ⟨0, 1⟩ scribbled] (.ofKind .vector)
      (.emptySlots 2)).resident? ⟨0, 1⟩ = some ⟨.ofKind .vector, scribbled⟩ := by
    with_unfolding_all rfl
  have unmarked : (Header.ofKind .vector).isMarked = false := by decide
  have length : scribbled.payloadBytes = (Object.emptySlots 2).payloadBytes := rfl
  refine ⟨fits, (words 64 _ (by decide) fits).2, place, resident, unmarked, length, ?_⟩
  have listed := (kept swept _ _ _ _ (place ▸ resident) unmarked length (freeListOf 32)).mpr rfl
  rwa [place] at listed

end Heap

end MarkSweep
