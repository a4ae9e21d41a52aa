import MarkSweep.Proofs.Heap.Volume
import MarkSweep.Proofs.Node.Header
import Mathlib.Data.Option.Basic

/-!
What marks do to a heap. A heap with its marks cleared is what marking leaves alone: references
resolve as before, to the same payloads, under headers that are the same but for the mark.
-/

namespace MarkSweep

def Resident.clearMark (x : Resident) : Resident := { x with header := x.header.clearMark }

theorem Resident.eq_of_clearMark_eq {x y : Resident} (rest : x.clearMark = y.clearMark)
    (mark : x.header.isMarked = y.header.isMarked) : x = y := by
  obtain ⟨headers, objects⟩ := Resident.mk.inj rest
  exact congrArg₂ Resident.mk (Header.eq_of_clearMark_eq headers mark) objects

theorem Place.eq_of_clearMark_eq {p q : Place} (rest : p.clearMark = q.clearMark)
    (mark : (p.resident.any fun x => x.header.isMarked) =
      q.resident.any fun x => x.header.isMarked) : p = q := by
  obtain ⟨generations, reserveds, residents⟩ := Place.mk.inj rest
  have same : p.resident = q.resident := by
    cases hx : p.resident with
    | none =>
      rw [hx] at residents
      exact (Option.map_eq_none_iff.mp residents.symm).symm
    | some x =>
      rw [hx] at residents
      obtain ⟨y, hy, e⟩ := Option.map_eq_some_iff.mp residents.symm
      rw [hx, hy] at mark
      rw [hy, Resident.eq_of_clearMark_eq e.symm mark]
  cases p
  cases q
  simp_all only

namespace Heap

theorem resident?_clearMarks (h : Heap) (r : Ref) :
    h.clearMarks.resident? r = (h.resident? r).map Resident.clearMark := by
  simp only [resident?, clearMarks, Array.getElem?_map]
  cases h.places[r.index]? with
  | none => rfl
  | some p =>
    simp only [Option.map_some, Place.clearMark]
    split <;> rfl

theorem isLive_eq_isSome_object? (h : Heap) (r : Ref) : h.isLive r = (h.object? r).isSome := by
  rw [isLive, object?, Option.isSome_map]

theorem isLive_of_object? {h : Heap} {r : Ref} {o : Object} (ho : h.object? r = some o) :
    h.isLive r := by
  rw [isLive_eq_isSome_object?, ho]
  rfl

theorem isMarked_clearMarks (h : Heap) (r : Ref) : h.clearMarks.isMarked r = false := by
  rw [isMarked, resident?_clearMarks]
  cases h.resident? r <;> simp [Resident.clearMark]

theorem clearMarks_mark? {h h' : Heap} {r : Ref} (hm : h.mark? r = some h') :
    h'.clearMarks = h.clearMarks := by
  obtain ⟨-, rfl⟩ := mark?_eq_some_iff.mp hm
  have places : (h.modifyHeader r Header.mark).places.map Place.clearMark =
      h.places.map Place.clearMark := by
    simp only [modifyHeader, modify]
    apply map_modify_of_forall
    intro p
    split
    · simp [Place.clearMark, Function.comp_def]
    · rfl
  rw [clearMarks, clearMarks, places]
  rfl

theorem clearMarks_clearMarks (h : Heap) : h.clearMarks.clearMarks = h.clearMarks := by
  have idem : Place.clearMark ∘ Place.clearMark = Place.clearMark := by
    funext p
    simp [Place.clearMark, Function.comp_def]
  simp [clearMarks, idem]

section

variable {h h' : Heap}

theorem object?_congr (e : h'.clearMarks = h.clearMarks) (r : Ref) :
    h'.object? r = h.object? r := by
  have object?_clearMarks (h : Heap) : h.clearMarks.object? r = h.object? r := by
    simp [object?, resident?_clearMarks, Resident.clearMark, Function.comp_def]
  rw [← object?_clearMarks h', e, object?_clearMarks]

theorem isLive_congr (e : h'.clearMarks = h.clearMarks) (r : Ref) : h'.isLive r = h.isLive r := by
  rw [isLive_eq_isSome_object?, object?_congr e, isLive_eq_isSome_object?]

theorem edges_congr (e : h'.clearMarks = h.clearMarks) (r : Ref) : h'.edges r = h.edges r := by
  rw [edges, object?_congr e, edges]

theorem isLive_of_isMarked {r : Ref} (hm : h.isMarked r) : h.isLive r := by
  rw [isMarked] at hm
  rw [isLive]
  cases hx : h.resident? r with
  | none => simp [hx] at hm
  | some x => rfl

theorem isMarked_of_mark? {r s : Ref} (hm : h.mark? r = some h') :
    h'.isMarked s ↔ h.isMarked s ∨ s = r := by
  obtain ⟨⟨x, hx, hu⟩, rfl⟩ := mark?_eq_some_iff.mp hm
  rw [isMarked, modifyHeader, resident?_modify, isMarked]
  by_cases hs : r = s
  · subst hs
    simp [hx]
  · simp [hs, Ne.symm hs]

theorem mark?_eq_none_iff {r : Ref} : h.mark? r = none ↔ (h.isLive r → h.isMarked r) := by
  rw [mark?, isLive, isMarked]
  cases h.resident? r with
  | none => simp
  | some x => cases hx : x.header.isMarked <;> simp [hx]

theorem eq_of_clearMarks_eq (rest : h.clearMarks = h'.clearMarks)
    (marks : ∀ r, h.isMarked r = h'.isMarked r) : h = h' := by
  obtain ⟨places, free, outstanding, peak, live⟩ := h
  obtain ⟨places', _, _, _, _⟩ := h'
  obtain ⟨cleared, rfl, rfl, rfl, rfl⟩ := Heap.mk.inj rest
  suffices same : places = places' by rw [same]
  apply Array.ext_getElem?
  intro i
  have place : places[i]?.map Place.clearMark = places'[i]?.map Place.clearMark := by
    rw [← Array.getElem?_map, ← Array.getElem?_map, cleared]
  cases hp : places[i]? with
  | none =>
    rw [hp, Option.map_none] at place
    exact (Option.map_eq_none_iff.mp place.symm).symm
  | some p =>
    rw [hp] at place
    obtain ⟨q, hq, e⟩ := Option.map_eq_some_iff.mp place.symm
    have generation : q.generation = p.generation := (Place.mk.inj e).1
    have mark := marks ⟨i, p.generation⟩
    simp only [isMarked, resident?, hp, hq, generation, if_true] at mark
    rw [hq, Place.eq_of_clearMark_eq e.symm mark]

end

theorem resident?_sweep (h : Heap) (r : Ref) :
    h.sweep.2.resident? r =
      ((h.resident? r).filter fun x => x.header.isMarked).map Resident.clearMark := by
  rw [resident?, getElem?_places_sweep, resident?]
  cases h.places[r.index]? with
  | none => rfl
  | some p =>
    obtain ⟨generation, reserved, resident⟩ := p
    cases resident with
    | none => simp [Place.sweep]
    | some x =>
      cases hx : x.header.isMarked <;> simp only [Option.map_some, Place.sweep, hx] <;>
        by_cases hg : generation = r.generation <;> simp [hg, hx, Resident.clearMark]

end Heap

end MarkSweep
