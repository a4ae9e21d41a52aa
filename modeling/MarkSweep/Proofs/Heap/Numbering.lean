import MarkSweep.Proofs.Heap.Generation
import MarkSweep.Proofs.Heap.Restore
import MarkSweep.Proofs.Heap.Store

namespace MarkSweep

namespace Heap

structure Wanes (h h' : Heap) : Prop where
  live : ∀ r, h'.isLive r → h.isLive r
  next : ∀ i, h'.nextGeneration i = h.nextGeneration i

/-- The heap has issued these references and no others, oldest first. -/
structure Numbers (h : Heap) (rs : List Ref) : Prop where
  live : ∀ r, h.isLive r → r ∈ rs
  next : ∀ i, h.nextGeneration i = UInt32.ofNat (rs.filter (·.index = i)).length
  nth : ∀ i k r, (rs.filter (·.index = i))[k]? = some r → r.generation = UInt32.ofNat k

variable {h h' h'' : Heap} {rs : List Ref}

namespace Wanes

theorem refl (h : Heap) : h.Wanes h := ⟨fun _ live => live, fun _ => rfl⟩

theorem trans (first : h.Wanes h') (second : h'.Wanes h'') : h.Wanes h'' where
  live r live := first.live r (second.live r live)
  next i := (second.next i).trans (first.next i)

theorem of_outline (e : h'.places.map Place.outline = h.places.map Place.outline) :
    h.Wanes h' := by
  constructor
  · intro r live
    obtain ⟨occupied, generation⟩ := outline_congr e r.index
    rw [isLive_iff] at live ⊢
    rwa [← occupied, ← generation]
  · intro i
    obtain ⟨occupied, generation⟩ := outline_congr e i
    simp [nextGeneration, occupied, generation]

theorem of_clearMarks (e : h'.clearMarks = h.clearMarks) : h.Wanes h' := by
  apply of_outline
  rw [← outline_clearMarks, e, outline_clearMarks]

end Wanes

theorem wanes_modify (h : Heap) (r : Ref) (f : Resident → Resident) : h.Wanes (h.modify r f) :=
  .of_outline (outline_modify h r f)

theorem wanes_restore (h : Heap) (entries : List Entry) : h.Wanes (h.restore entries) := by
  induction entries generalizing h with
  | nil => exact .refl h
  | cons e entries ih => exact (wanes_modify h e.field.node _).trans (ih _)

theorem Consistent.wanes_sweep (hh : h.Consistent) : h.Wanes h.sweep.2 := by
  constructor
  · intro r live
    rw [isLive_iff] at live ⊢
    obtain ⟨still, generation⟩ := live
    have before := isOccupied_of_isOccupied_sweep still
    rw [generation_sweep] at generation
    simp only [still, not_true_eq_false, and_false, if_false, UInt32.add_zero] at generation
    exact ⟨before, generation⟩
  · intro i
    have next := hh.nextGeneration_apply .sweep i
    simpa [Op.issued?, Op.apply] using next

theorem isOccupied_iff_exists_isLive {i : Nat} :
    h.IsOccupied i ↔ ∃ r, h.isLive r ∧ r.index = i := by
  constructor
  · intro occupied
    exact ⟨⟨i, h.generation i⟩, (isLive_iff _).mpr ⟨occupied, rfl⟩, rfl⟩
  · rintro ⟨r, live, rfl⟩
    exact ((isLive_iff r).mp live).1

theorem numbers_empty : empty.Numbers [] where
  live r live := by simp [isLive, resident?, empty] at live
  next i := by simp [nextGeneration, generation, empty, IsOccupied]
  nth i k r hr := by simp at hr

namespace Numbers

theorem wanes (hn : h.Numbers rs) (wanes : h.Wanes h') : h'.Numbers rs where
  live r live := hn.live r (wanes.live r live)
  next i := (wanes.next i).trans (hn.next i)
  nth := hn.nth

theorem allocate (hn : h.Numbers rs) (hh : h.Consistent) (header : Header) (object : Object) :
    (h.allocate header object).2.Numbers (rs ++ [(h.allocate header object).1]) := by
  have fresh := hh.generation_issued? (o := .allocate header object) rfl
  constructor
  · intro r live
    rw [List.mem_append, List.mem_singleton]
    rcases (hh.isLive_allocate header object r).mp live with rfl | before
    · exact .inr rfl
    · exact .inl (hn.live r before)
  · intro i
    have next := hh.nextGeneration_apply (.allocate header object) i
    rw [Op.apply, hn.next] at next
    rw [next]
    by_cases here : (h.allocate header object).1.index = i
    · simp [Op.issued?, here, UInt32.ofNat_add]
    · simp [Op.issued?, here]
  · intro i k r hr
    rw [List.filter_append, List.getElem?_append] at hr
    split at hr
    case isTrue => exact hn.nth i k r hr
    case isFalse above =>
      -- The new reference is the only one further back, if it is to this place at all.
      by_cases here : (h.allocate header object).1.index = i
      · simp only [List.filter_singleton, here, decide_true, cond_true,
          List.getElem?_singleton, Option.ite_none_right_eq_some, Option.some.injEq] at hr
        obtain ⟨last, rfl⟩ := hr
        have number : k = (rs.filter (·.index = i)).length := by omega
        rw [fresh, here, hn.next, number]
      · simp [here] at hr

theorem isLive_iff (hn : h.Numbers rs) {r : Ref} {k : Nat} (number : r.generation = UInt32.ofNat k) :
    h.isLive r ↔ h.IsOccupied r.index ∧
      (rs.filter (·.index = r.index)).length % 2 ^ 32 = (k + 1) % 2 ^ 32 := by
  rw [Heap.isLive_iff, number]
  refine and_congr_right fun occupied => ?_
  have next := hn.next r.index
  rw [nextGeneration, if_pos occupied] at next
  rw [← UInt32.add_left_inj 1, next, ← UInt32.toNat_inj, UInt32.toNat_add, UInt32.toNat_ofNat',
    UInt32.toNat_ofNat']
  simp

end Numbers

end Heap

end MarkSweep
