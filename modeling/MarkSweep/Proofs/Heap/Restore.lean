import MarkSweep.Heap.Field
import MarkSweep.Proofs.Heap.Marks
import MarkSweep.Proofs.Heap.Occupancy

namespace MarkSweep

namespace Object

def setSlot (o : Object) (i : Nat) (value : Slot) : Object :=
  match o with
  | .vector slots => .vector (slots.setIfInBounds i value)
  | .chunk bytes => .chunk bytes

def restore (o : Object) (r : Ref) (entries : List Entry) : Object :=
  entries.foldl (fun o e => if e.field.node = r then o.setSlot e.field.index e.prior else o) o

theorem setSlot_setSlot {slots : Array Slot} {i : Nat} {prior : Slot} (hp : slots[i]? = some prior)
    (value : Slot) : ((vector slots).setSlot i value).setSlot i prior = vector slots := by
  have same : (slots.setIfInBounds i value).setIfInBounds i prior = slots := by
    rw [Array.setIfInBounds_setIfInBounds]
    apply Array.ext_getElem?
    intro j
    rw [Array.getElem?_setIfInBounds]
    by_cases hj : i = j
    · subst hj
      have bound := (Array.getElem?_eq_some_iff.mp hp).1
      rw [if_pos rfl, if_pos bound, hp]
    · rw [if_neg hj]
  exact congrArg vector same

theorem mem_slots_restore {r : Ref} {entries : List Entry} {current slots : Array Slot}
    (h : (vector current).restore r entries = vector slots) {s : Slot} (hs : s ∈ slots) :
    s ∈ current ∨ ∃ e ∈ entries, e.prior = s := by
  induction entries generalizing current with
  | nil =>
    cases h
    exact .inl hs
  | cons e entries ih =>
    rw [restore, List.foldl_cons, ← restore] at h
    split at h
    case isTrue =>
      rcases ih h with hm | ⟨d, hd, hp⟩
      · rcases Array.mem_or_eq_of_mem_setIfInBounds hm with hm | rfl
        · exact .inl hm
        · exact .inr ⟨e, List.mem_cons_self, rfl⟩
      · exact .inr ⟨d, List.mem_cons_of_mem e hd, hp⟩
    case isFalse =>
      rcases ih h with hm | ⟨d, hd, hp⟩
      · exact .inl hm
      · exact .inr ⟨d, List.mem_cons_of_mem e hd, hp⟩

theorem exists_of_restore_eq_vector {r : Ref} {entries : List Entry} {o : Object}
    {slots : Array Slot} (h : o.restore r entries = vector slots) :
    ∃ current, o = vector current := by
  cases o with
  | vector current => exact ⟨current, rfl⟩
  | chunk bytes =>
    have chunks (es : List Entry) : (chunk bytes).restore r es = chunk bytes := by
      induction es with
      | nil => rfl
      | cons e es ih =>
        rw [restore, List.foldl_cons, ← restore]
        split
        · exact ih
        · exact ih
    rw [chunks] at h
    cases h

end Object

namespace Heap

theorem object?_modify (h : Heap) (r s : Ref) (f : Resident → Resident) (g : Object → Object)
    (same : ∀ x, (f x).object = g x.object) :
    (h.modify r f).object? s = if r = s then (h.object? s).map g else h.object? s := by
  rw [object?, resident?_modify, object?]
  split
  · simp only [Option.map_map, Function.comp_def, same]
  · rfl

theorem object?_modifyHeader (h : Heap) (r s : Ref) (f : Header → Header) :
    (h.modifyHeader r f).object? s = h.object? s := by
  have kept := h.object?_modify r s (fun x => { x with header := f x.header }) id fun _ => rfl
  rwa [Option.map_id, id, ite_self] at kept

theorem object?_modify_of_ne (h : Heap) {r s : Ref} (other : r ≠ s) (f : Resident → Resident) :
    (h.modify r f).object? s = h.object? s := by
  rw [object?, resident?_modify, if_neg other, object?]

theorem isLive_modify (h : Heap) (r s : Ref) (f : Resident → Resident) :
    (h.modify r f).isLive s = h.isLive s := by
  rw [isLive, resident?_modify, isLive]
  split
  · rw [Option.isSome_map]
  · rfl

theorem object?_writeSlot (h : Heap) (f : Field) (value : Slot) (r : Ref) :
    (h.writeSlot f value).object? r =
      if f.node = r then (h.object? r).map (·.setSlot f.index value) else h.object? r := by
  apply object?_modify
  intro x
  obtain ⟨header, object⟩ := x
  cases object <;> rfl

theorem restore_cons (h : Heap) (e : Entry) (entries : List Entry) :
    h.restore (e :: entries) = (h.writeSlot e.field e.prior).restore entries := rfl

theorem restore_append (h : Heap) (first second : List Entry) :
    h.restore (first ++ second) = (h.restore first).restore second :=
  List.foldl_append

theorem object?_restore (h : Heap) (entries : List Entry) (r : Ref) :
    (h.restore entries).object? r = (h.object? r).map (·.restore r entries) := by
  induction entries generalizing h with
  | nil => exact Option.map_id'.symm
  | cons e entries ih =>
    rw [restore_cons, ih, object?_writeSlot]
    split
    case isTrue hr =>
      rw [Option.map_map]
      congr 1
      funext o
      rw [Function.comp_apply, Object.restore, Object.restore, List.foldl_cons, if_pos hr]
    case isFalse hr =>
      congr 1
      funext o
      rw [Object.restore, Object.restore, List.foldl_cons, if_neg hr]

theorem isLive_writeSlot (h : Heap) (f : Field) (value : Slot) (r : Ref) :
    (h.writeSlot f value).isLive r = h.isLive r :=
  isLive_modify h f.node r _

theorem isLive_restore (h : Heap) (entries : List Entry) (r : Ref) :
    (h.restore entries).isLive r = h.isLive r := by
  rw [isLive_eq_isSome_object?, object?_restore, Option.isSome_map, isLive_eq_isSome_object?]

theorem object?_restore_writeSlot {h : Heap} {f : Field} {prior : Slot}
    (hp : h.slotAt f = .ok prior) (value : Slot) (entries : List Entry) (r : Ref) :
    ((h.writeSlot f value).restore (⟨f, prior⟩ :: entries)).object? r =
      (h.restore entries).object? r := by
  obtain ⟨slots, ho, hs⟩ := slotAt_eq_ok_iff.mp hp
  rw [restore_cons, object?_restore, object?_restore, object?_writeSlot, object?_writeSlot]
  by_cases hr : f.node = r
  · subst hr
    simp only [if_pos, ho, Option.map_some, Object.setSlot_setSlot hs]
  · simp only [if_neg hr]

theorem Consistent.writeSlot {h : Heap} (hh : h.Consistent) (f : Field) (value : Slot) :
    (h.writeSlot f value).Consistent :=
  hh.modify f.node _

theorem Consistent.restore {h : Heap} (hh : h.Consistent) (entries : List Entry) :
    (h.restore entries).Consistent := by
  induction entries generalizing h with
  | nil => exact hh
  | cons e entries ih => exact ih (hh.writeSlot e.field e.prior)

end Heap

end MarkSweep
