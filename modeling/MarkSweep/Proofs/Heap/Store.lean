import MarkSweep.Proofs.Heap.Marks
import MarkSweep.Proofs.Heap.Run
import Mathlib.Logic.Function.Basic

/-!
The heap as a store: a partial function from references to residents. Places are used again under
new generations, yet no operation of a run touches a binding other than the ones it is about.
-/

namespace MarkSweep

def Resident.Remarked (b : Bool) (x y : Resident) : Prop :=
  y.object = x.object ∧ y.header.Agrees x.header ∧ y.header.isMarked = b

theorem Resident.remarked_clearMark (x : Resident) : x.Remarked false x.clearMark :=
  ⟨rfl, x.header.agrees_clearMark, x.header.isMarked_clearMark⟩

theorem Resident.remarked_mark (x : Resident) :
    x.Remarked true { x with header := x.header.mark } :=
  ⟨rfl, x.header.agrees_mark, x.header.isMarked_mark⟩

theorem rel_map_clearMark (x : Option Resident) :
    Option.Rel (Resident.Remarked false) x (x.map Resident.clearMark) := by
  cases x with
  | none => exact .none
  | some x => exact .some x.remarked_clearMark

namespace Heap

theorem resident?_eq_none {h : Heap} {r : Ref} (ho : ¬h.IsOccupied r.index) :
    h.resident? r = none := by
  rw [Option.eq_none_iff_forall_not_mem]
  intro x hx
  obtain ⟨p, hp, -, hr⟩ := resident?_eq_some_iff.mp hx
  exact ho ⟨p, hp, by simp [hr]⟩

theorem Consistent.resident?_allocate_eq_none {h : Heap} (hh : h.Consistent) (header : Header)
    (object : Object) : h.resident? (h.allocate header object).1 = none :=
  resident?_eq_none (hh.not_isOccupied_allocate header object)

theorem Consistent.resident?_allocate {h : Heap} (hh : h.Consistent) (header : Header)
    (object : Object) :
    (h.allocate header object).2.resident? =
      Function.update h.resident? (h.allocate header object).1 (some ⟨header, object⟩) := by
  have free := hh.not_isOccupied_allocate header object
  funext s
  rw [resident?, hh.getElem?_allocate]
  generalize (h.allocate header object).1 = r at free ⊢
  by_cases hs : s = r
  · subst hs
    simp
  · rw [Function.update_of_ne hs]
    by_cases hi : r.index = s.index
    · have hg : r.generation ≠ s.generation := by
        intro hg
        apply hs
        cases r
        cases s
        simp_all
      rw [hi] at free
      rw [resident?_eq_none free, if_pos hi]
      exact if_neg hg
    · rw [if_neg hi]
      rfl

theorem Consistent.not_isLive_allocate {h : Heap} (hh : h.Consistent) (header : Header)
    (object : Object) : ¬h.isLive (h.allocate header object).1 := by
  rw [isLive, hh.resident?_allocate_eq_none]
  exact Bool.false_ne_true

theorem Consistent.isLive_allocate {h : Heap} (hh : h.Consistent) (header : Header)
    (object : Object) (r : Ref) :
    (h.allocate header object).2.isLive r ↔ r = (h.allocate header object).1 ∨ h.isLive r := by
  rw [isLive, hh.resident?_allocate, isLive]
  by_cases e : r = (h.allocate header object).1
  · simp [e]
  · simp [e, Function.update_of_ne]

theorem Consistent.resident?_allocate_of_isLive {h : Heap} (hh : h.Consistent) (header : Header)
    (object : Object) {r : Ref} (live : h.isLive r) :
    (h.allocate header object).2.resident? r = h.resident? r := by
  have old : r ≠ (h.allocate header object).1 := by
    rintro rfl
    exact hh.not_isLive_allocate header object live
  rw [hh.resident?_allocate, Function.update_of_ne old]

theorem resident?_modify_eq_update (h : Heap) (r : Ref) (f : Resident → Resident) :
    (h.modify r f).resident? = Function.update h.resident? r ((h.resident? r).map f) := by
  funext s
  rw [resident?_modify]
  by_cases hs : r = s
  · subst hs
    simp
  · rw [if_neg hs, Function.update_of_ne (Ne.symm hs)]

theorem isSome_mark?_iff {h : Heap} {r : Ref} :
    (h.mark? r).isSome ↔ ∃ x, h.resident? r = some x ∧ x.header.isMarked = false := by
  rw [Option.isSome_iff_exists]
  constructor
  · rintro ⟨h', hm⟩
    exact (mark?_eq_some_iff.mp hm).1
  · intro hx
    exact ⟨_, mark?_eq_some_iff.mpr ⟨hx, rfl⟩⟩

theorem mem_residents {h : Heap} {r : Ref} {x : Resident} :
    (r, x) ∈ h.residents ↔ h.resident? r = some x := by
  rw [residents, List.mem_filterMap, resident?_eq_some_iff]
  constructor
  · rintro ⟨⟨p, i⟩, hp, hx⟩
    obtain ⟨y, hy, he⟩ := Option.map_eq_some_iff.mp hx
    rw [List.mem_zipIdx_iff_getElem?, Array.getElem?_toList] at hp
    cases he
    exact ⟨p, hp, rfl, hy⟩
  · rintro ⟨p, hp, hg, hx⟩
    refine ⟨(p, r.index), ?_, ?_⟩
    · rw [List.mem_zipIdx_iff_getElem?, Array.getElem?_toList]
      exact hp
    · simp [hx, hg]

theorem pairwise_residents (h : Heap) :
    h.residents.Pairwise fun a b => a.1.index < b.1.index := by
  have places : (h.places.toList.zipIdx).Pairwise fun a b => a.2 < b.2 := by
    rw [← List.pairwise_map, List.zipIdx_map_snd]
    exact List.pairwise_lt_range'
  apply places.filterMap
  rintro ⟨p, i⟩ ⟨q, j⟩ hij a ha b hb
  obtain ⟨x, -, rfl⟩ := Option.map_eq_some_iff.mp ha
  obtain ⟨y, -, rfl⟩ := Option.map_eq_some_iff.mp hb
  exact hij

/-- Every operation on the heap of a run is the operation of the same name on its store. -/
theorem run_refines_store (ops : List Op) :
    (∀ header object,
      (run ops).resident? ((run ops).allocate header object).1 = none ∧
      ((run ops).allocate header object).2.resident? =
        Function.update (run ops).resident? ((run ops).allocate header object).1
          (some ⟨header, object⟩)) ∧
    (∀ r, ((run ops).mark? r).isSome ↔
      ∃ x, (run ops).resident? r = some x ∧ x.header.isMarked = false) ∧
    (∀ r h', (run ops).mark? r = some h' → ∃ x y, (run ops).resident? r = some x ∧
      x.Remarked true y ∧ h'.resident? = Function.update (run ops).resident? r (some y)) ∧
    (∀ r, Option.Rel (Resident.Remarked false) ((run ops).resident? r)
      ((run ops).clearMarks.resident? r)) ∧
    (∀ r, Option.Rel (Resident.Remarked false)
      (((run ops).resident? r).filter fun x => x.header.isMarked)
      ((run ops).sweep.2.resident? r)) ∧
    (∀ r f, ((run ops).modifyHeader r f).resident? =
      Function.update (run ops).resident? r
        (((run ops).resident? r).map fun x => { x with header := f x.header })) ∧
    (∀ r object, ((run ops).setObject r object).resident? =
      Function.update (run ops).resident? r
        (((run ops).resident? r).map fun x => { x with object })) ∧
    ((run ops).residents.Pairwise fun a b => a.1.index < b.1.index) ∧
    (∀ r x, (r, x) ∈ (run ops).residents ↔ (run ops).resident? r = some x) := by
  have hh := consistent_run ops
  refine ⟨fun header object => ⟨hh.resident?_allocate_eq_none header object,
    hh.resident?_allocate header object⟩, fun r => isSome_mark?_iff, ?_, ?_, ?_,
    fun r f => resident?_modify_eq_update _ r _, fun r object => resident?_modify_eq_update _ r _,
    pairwise_residents _, fun r x => mem_residents⟩
  · intro r h' hm
    obtain ⟨⟨x, hx, -⟩, rfl⟩ := mark?_eq_some_iff.mp hm
    refine ⟨x, _, hx, x.remarked_mark, ?_⟩
    rw [modifyHeader, resident?_modify_eq_update, hx]
    rfl
  · intro r
    rw [resident?_clearMarks]
    exact rel_map_clearMark _
  · intro r
    rw [resident?_sweep]
    exact rel_map_clearMark _

end Heap

end MarkSweep
