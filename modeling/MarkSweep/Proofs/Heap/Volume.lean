import MarkSweep.Heap.Sweep
import Mathlib.Algebra.BigOperators.Group.List.Basic
import Mathlib.Algebra.GroupWithZero.Nat

namespace MarkSweep

namespace Volume

instance : Zero Volume := ⟨{}⟩

instance : Add Volume := ⟨fun a b => ⟨a.objects + b.objects, a.bytes + b.bytes⟩⟩

@[simp] theorem objects_zero : (0 : Volume).objects = 0 := rfl

@[simp] theorem bytes_zero : (0 : Volume).bytes = 0 := rfl

@[simp] theorem objects_add (a b : Volume) : (a + b).objects = a.objects + b.objects := rfl

@[simp] theorem bytes_add (a b : Volume) : (a + b).bytes = a.bytes + b.bytes := rfl

theorem eq_iff {a b : Volume} : a = b ↔ a.objects = b.objects ∧ a.bytes = b.bytes := by
  cases a
  cases b
  simp

instance : AddCommMonoid Volume where
  add_assoc a b c := by simp [eq_iff, Nat.add_assoc]
  zero_add a := by simp [eq_iff]
  add_zero a := by simp [eq_iff]
  add_comm a b := by simp [eq_iff, Nat.add_comm]
  nsmul := nsmulRec

end Volume

namespace Place

def isOccupied (p : Place) : Bool := p.resident.isSome

def volume (p : Place) : Volume := if p.isOccupied then ⟨1, p.reserved⟩ else 0

def reclaimed (p : Place) : Volume := if p.isUnmarked then ⟨1, p.reserved⟩ else 0

theorem volume_congr {p q : Place} (reserved : p.reserved = q.reserved)
    (occupied : p.isOccupied = q.isOccupied) : p.volume = q.volume := by
  rw [volume, volume, reserved, occupied]

theorem volume_clearMark (p : Place) : p.clearMark.volume = p.volume :=
  volume_congr rfl (by simp [isOccupied, clearMark])

theorem volume_sweep (p : Place) : p.sweep.volume + p.reclaimed = p.volume := by
  obtain ⟨generation, reserved, resident⟩ := p
  cases resident with
  | none => rfl
  | some x =>
    cases hx : x.header.isMarked <;>
      simp [sweep, volume, reclaimed, isOccupied, isUnmarked, hx]

theorem reclaimed_tally (t : Tally) (p : Place) :
    (tally t p).total.reclaimed = t.total.reclaimed + p.reclaimed := by
  obtain ⟨generation, reserved, resident⟩ := p
  cases resident with
  | none => simp [tally, reclaimed, isUnmarked]
  | some x =>
    cases hx : x.header.isMarked <;>
      simp [tally, Tally.add, Fate.add, reclaimed, isUnmarked, hx, Volume.add, Volume.eq_iff]

theorem surviving_tally (t : Tally) (p : Place) :
    (tally t p).total.surviving = t.total.surviving + p.sweep.volume := by
  obtain ⟨generation, reserved, resident⟩ := p
  cases resident with
  | none => simp [tally, sweep, volume, isOccupied]
  | some x =>
    cases hx : x.header.isMarked <;>
      simp [tally, Tally.add, Fate.add, sweep, volume, isOccupied, hx, Volume.add, Volume.eq_iff]

end Place

theorem foldl_tally (count : Tally → Volume) {share : Place → Volume}
    (step : ∀ t p, count (Place.tally t p) = count t + share p) (ps : List Place) (t : Tally) :
    count (ps.foldl Place.tally t) = count t + (ps.map share).sum := by
  induction ps generalizing t with
  | nil => simp
  | cons p ps ih => rw [List.foldl_cons, ih, step, List.map_cons, List.sum_cons, add_assoc]

theorem sum_map_modify {α β : Type} [AddCommMonoid β] (f : α → β) (g : α → α) {l : List α}
    {i : Nat} {a : α} (h : l[i]? = some a) :
    ((l.modify i g).map f).sum + f a = (l.map f).sum + f (g a) := by
  induction l generalizing i with
  | nil => simp at h
  | cons b l ih =>
    cases i with
    | zero =>
      obtain rfl : b = a := by simpa using h
      simp only [List.modify_zero_cons, List.map_cons, List.sum_cons]
      rw [add_right_comm, add_comm (f (g b)), add_right_comm]
    | succ i =>
      have tail := ih (i := i) (by simpa using h)
      simp only [List.modify_succ_cons, List.map_cons, List.sum_cons]
      rw [add_assoc, tail, add_assoc]

theorem map_modify_of_forall {α β : Type} {f : α → β} {g : α → α} {xs : Array α} (i : Nat)
    (h : ∀ a, f (g a) = f a) : (xs.modify i g).map f = xs.map f := by
  apply Array.ext_getElem?
  intro j
  simp only [Array.getElem?_map, Array.getElem?_modify]
  split
  · simp [Function.comp_def, h]
  · rfl

namespace Heap

def volume (h : Heap) : Volume := (h.places.toList.map Place.volume).sum

theorem objects_volume (h : Heap) : h.volume.objects = h.places.countP Place.isOccupied := by
  rw [volume, ← Array.countP_toList]
  induction h.places.toList with
  | nil => rfl
  | cons p ps ih =>
    rw [List.map_cons, List.sum_cons, Volume.objects_add, ih, List.countP_cons, Place.volume]
    split <;> simp [Nat.add_comm]

theorem bytes_volume (h : Heap) :
    h.volume.bytes = ((h.places.toList.filter Place.isOccupied).map Place.reserved).sum := by
  rw [volume]
  induction h.places.toList with
  | nil => rfl
  | cons p ps ih =>
    rw [List.map_cons, List.sum_cons, Volume.bytes_add, ih, List.filter_cons, Place.volume]
    split <;> simp

theorem reclaimed_sweep (h : Heap) :
    h.sweep.1.total.reclaimed = (h.places.toList.map Place.reclaimed).sum := by
  have total := foldl_tally (·.total.reclaimed) Place.reclaimed_tally h.places.toList {}
  rw [Array.foldl_toList] at total
  exact total.trans (zero_add _)

theorem surviving_sweep (h : Heap) : h.sweep.1.total.surviving = h.sweep.2.volume := by
  have total := foldl_tally (·.total.surviving) Place.surviving_tally h.places.toList {}
  rw [Array.foldl_toList] at total
  rw [volume, sweep, Array.toList_map, List.map_map]
  exact total.trans (zero_add _)

theorem volume_sweep (h : Heap) : h.sweep.2.volume + h.sweep.1.total.reclaimed = h.volume := by
  rw [reclaimed_sweep, volume, volume, sweep]
  simp only [Array.toList_map, List.map_map]
  induction h.places.toList with
  | nil => rfl
  | cons p ps ih =>
    simp only [List.map_cons, List.sum_cons, Function.comp_apply]
    rw [add_add_add_comm, Place.volume_sweep, ih]

end Heap

end MarkSweep
