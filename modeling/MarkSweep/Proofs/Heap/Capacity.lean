import MarkSweep.Proofs.Heap.Tenure
import MarkSweep.Proofs.Node.Footprint

/-!
How many places a heap needs. As long as no write changes the size of a payload, each place serves
one size class for its whole life, and there are as many places for a class as it ever had
residents at once.
-/

namespace MarkSweep

theorem Object.footprint_congr {a b : Object} (kind : a.isVector = b.isVector)
    (length : a.length = b.length) : a.footprint = b.footprint := by
  cases a <;> cases b <;> simp_all [isVector, slots?, Object.length, footprint]

namespace Heap

def Op.KeepsSize (h : Heap) : Op → Prop
  | setObject r object => ∀ old ∈ h.object? r, object.footprint = old.footprint
  | _ => True

def Steady (h : Heap) : List Op → Prop
  | [] => True
  | o :: ops => o.KeepsSize h ∧ (o.apply h).Steady ops

def sizes (h : Heap) : List Nat := h.residents.map fun x => x.2.object.footprint

def residentsOf (h : Heap) (l : Fin freeListCount) : Nat := h.sizes.countP fun n => freeListOf n = l

def room (h : Heap) (l : Fin freeListCount) : Nat := h.residentsOf l + (h.free.get l).length

end Heap

namespace Place

def size? (p : Place) : Option Nat := p.resident.map fun x => x.object.footprint

def extent (p : Place) : Nat × Option Nat := (p.reserved, p.size?)

def isOf (l : Fin freeListCount) (p : Place) : Bool := p.size?.any fun n => freeListOf n = l

theorem reserved_sweep (p : Place) : p.sweep.reserved = p.reserved := by
  rw [sweep]
  split
  · rfl
  · split <;> rfl

theorem mem_size?_of_sweep {p : Place} {n : Nat} (h : n ∈ p.sweep.size?) : n ∈ p.size? := by
  obtain ⟨generation, reserved, resident⟩ := p
  cases resident with
  | none => exact h
  | some x =>
    cases hx : x.header.isMarked with
    | true => simpa [size?, sweep, hx] using h
    | false => simp [size?, sweep, hx] at h

theorem isOf_sweep (p : Place) (l : Fin freeListCount) :
    (if p.sweep.isOf l then 1 else 0) + (if p.vacated? = some l then 1 else 0) =
      if p.isOf l then 1 else 0 := by
  obtain ⟨generation, reserved, resident⟩ := p
  cases resident with
  | none => rfl
  | some x => cases hx : x.header.isMarked <;> simp [isOf, size?, sweep, vacated?, hx]

end Place

theorem filterMap_modify_perm {α β : Type} {f : α → Option β} {g : α → α} {l : List α} {i : Nat}
    {a : α} {b : β} (h : l[i]? = some a) (vacant : f a = none) (placed : f (g a) = some b) :
    ((l.modify i g).filterMap f).Perm (b :: l.filterMap f) := by
  induction l generalizing i with
  | nil => simp at h
  | cons c l ih =>
    cases i with
    | zero =>
      obtain rfl : c = a := by simpa using h
      simp [vacant, placed]
    | succ i =>
      have tail := ih (i := i) (by simpa using h)
      rw [List.modify_succ_cons, List.filterMap_cons, List.filterMap_cons]
      cases f c with
      | none => exact tail
      | some d => exact (tail.cons d).trans (.swap b d _)

namespace Heap

theorem sizes_eq (h : Heap) : h.sizes = h.places.toList.filterMap Place.size? := by
  have places (ps : List Place) (k : Nat) :
      ((ps.zipIdx k).filterMap fun p => p.1.resident.map fun x =>
        ((⟨p.2, p.1.generation⟩, x) : Ref × Resident)).map (fun x => x.2.object.footprint) =
        ps.filterMap Place.size? := by
    induction ps generalizing k with
    | nil => rfl
    | cons p ps ih =>
      rw [List.zipIdx_cons, List.filterMap_cons, List.filterMap_cons, Place.size?]
      cases p.resident with
      | none => exact ih (k + 1)
      | some x => exact congrArg (x.object.footprint :: ·) (ih (k + 1))
  exact places h.places.toList 0

theorem steady_append (h : Heap) (first second : List Op) :
    h.Steady (first ++ second) ↔ h.Steady first ∧ (h.after first).Steady second := by
  induction first generalizing h with
  | nil => simp [Steady, after]
  | cons o first ih =>
    rw [List.cons_append, Steady, Steady, ih, and_assoc]
    rfl

variable {h h' : Heap}

theorem Consistent.sizes_allocate (hh : h.Consistent) (header : Header) (object : Object) :
    (h.allocate header object).2.sizes.Perm (object.footprint :: h.sizes) := by
  rw [sizes_eq, sizes_eq]
  cases hl : h.free[freeListOf object.footprint] with
  | nil =>
    simp only [Heap.allocate, hl, Array.toList_push, List.filterMap_append]
    exact List.perm_append_singleton _ _
  | cons index rest =>
    obtain ⟨p, hp, hn⟩ := hh.isVacant_of_cons hl
    simp only [Heap.allocate, hl, Array.toList_modify]
    rw [← Array.getElem?_toList] at hp
    exact filterMap_modify_perm hp (by simp [Place.size?, hn]) rfl

theorem sizes_congr (e : h'.places.map Place.extent = h.places.map Place.extent) :
    h'.sizes = h.sizes := by
  have sizes_map (h : Heap) :
      h.sizes = (h.places.map Place.extent).toList.filterMap Prod.snd := by
    rw [sizes_eq, Array.toList_map, List.filterMap_map]
    rfl
  rw [sizes_map, e, sizes_map]

theorem extents_modify {r : Ref} {f : Resident → Resident}
    (same : ∀ x, h.resident? r = some x → (f x).object.footprint = x.object.footprint) :
    (h.modify r f).places.map Place.extent = h.places.map Place.extent := by
  apply Array.ext_getElem?
  intro i
  simp only [modify, Array.getElem?_map, Array.getElem?_modify]
  split
  case isFalse => rfl
  case isTrue place =>
    subst place
    cases hp : h.places[r.index]? with
    | none => rfl
    | some p =>
      by_cases hg : p.generation = r.generation
      · have sizes : (p.resident.map f).map (fun x => x.object.footprint) =
            p.resident.map fun x => x.object.footprint := by
          cases hx : p.resident with
          | none => rfl
          | some x => exact congrArg some (same x (resident?_eq_some_iff.mpr ⟨p, hp, hg, hx⟩))
        simpa [Place.extent, Place.size?, hg] using sizes
      · simp [hg]

theorem extents_apply {o : Op} (hi : o.issued? h = none) (hs : o ≠ .sweep)
    (steady : o.KeepsSize h) :
    (o.apply h).places.map Place.extent = h.places.map Place.extent ∧
      (o.apply h).free = h.free := by
  cases o with
  | allocate header object => cases hi
  | setHeader r header => exact ⟨extents_modify fun _ _ => rfl, rfl⟩
  | setObject r object =>
    refine ⟨extents_modify fun x hx => ?_, rfl⟩
    exact steady x.object (by simp [object?, hx])
  | mark r =>
    cases hm : h.mark? r with
    | none => simp [Op.apply, hm]
    | some h' =>
      obtain ⟨-, rfl⟩ := mark?_eq_some_iff.mp hm
      rw [Op.apply, hm]
      exact ⟨extents_modify fun _ _ => rfl, rfl⟩
  | clearMarks =>
    refine ⟨?_, rfl⟩
    rw [Op.apply, clearMarks, Array.map_map]
    congr 1
    funext p
    simp [Place.extent, Place.size?, Place.clearMark, Function.comp_def]
  | sweep => exact absurd rfl hs

def vacatedTo (h : Heap) (l : Fin freeListCount) : Nat :=
  h.places.toList.countP fun p => p.vacated? = some l

theorem residentsOf_eq (h : Heap) (l : Fin freeListCount) :
    h.residentsOf l = h.places.toList.countP (Place.isOf l) := by
  rw [residentsOf, sizes_eq, List.countP_filterMap]
  congr 1
  funext p
  rw [Place.isOf]
  cases p.size? <;> rfl

theorem residentsOf_sweep (h : Heap) (l : Fin freeListCount) :
    h.sweep.2.residentsOf l + h.vacatedTo l = h.residentsOf l := by
  rw [residentsOf_eq, residentsOf_eq, vacatedTo, sweep, Array.toList_map]
  induction h.places.toList with
  | nil => rfl
  | cons p ps ih =>
    have here := p.isOf_sweep l
    rw [List.map_cons, List.countP_cons, List.countP_cons, List.countP_cons]
    simp only [decide_eq_true_eq] at here ⊢
    omega

theorem length_free_sweep (h : Heap) (l : Fin freeListCount) :
    (h.sweep.2.free.get l).length = (h.free.get l).length + h.vacatedTo l := by
  have places : h.places.toList.countP (fun p => p.vacated? = some l) =
      (h.places.toList.zipIdx.filter fun p => p.1.vacated? = some l).length := by
    rw [← List.countP_eq_length_filter,
      ← Function.comp_def (fun p : Place => decide (p.vacated? = some l)) Prod.fst,
      ← List.countP_map, List.zipIdx_map_fst]
  rw [sweep, get_released, vacatedTo, places]
  simp [Nat.add_comm]

/-- How the operation changes the room for each class. A class gets another place only while no
place waits for it, not even afterwards. -/
structure Grows (h h' : Heap) (grown : Fin freeListCount → Nat) : Prop where
  room : ∀ l, h'.room l = h.room l + grown l
  capacity : h'.capacity = h.capacity + ∑ l, grown l
  full : ∀ l, grown l ≠ 0 → h'.free.get l = []

theorem grows_of_extents (e : h'.places.map Place.extent = h.places.map Place.extent)
    (free : h'.free = h.free) : h.Grows h' 0 where
  room l := by
    rw [room, residentsOf, sizes_congr e, free]
    rfl
  capacity := by simpa [capacity] using congrArg Array.size e
  full l hl := absurd rfl hl

theorem Consistent.grows_allocate (hh : h.Consistent) (header : Header) (object : Object) :
    h.Grows (h.allocate header object).2 fun l =>
      if freeListOf object.footprint = l ∧ h.free.get l = [] then 1 else 0 := by
  have free := get_free_allocate h header object
  have residents (l : Fin freeListCount) : (h.allocate header object).2.residentsOf l =
      h.residentsOf l + if freeListOf object.footprint = l then 1 else 0 := by
    rw [residentsOf, (hh.sizes_allocate header object).countP_eq, List.countP_cons]
    simp [residentsOf]
  refine ⟨fun l => ?_, ?_, fun l hl => ?_⟩
  · rw [room, residents, free, room]
    by_cases own : freeListOf object.footprint = l
    · cases hl : h.free.get l with
      | nil => simp [own]
      | cons index rest => simp [own]; omega
    · simp [own]
  · have one (l : Fin freeListCount) : (if freeListOf object.footprint = l ∧ h.free.get l = []
        then 1 else 0) = if freeListOf object.footprint = l then
          (if h.free.get (freeListOf object.footprint) = [] then 1 else 0) else 0 := by
      by_cases own : freeListOf object.footprint = l <;> simp [own]
    simp only [one, Finset.sum_ite_eq, Finset.mem_univ, if_true]
    cases hl : h.free[freeListOf object.footprint] with
    | nil =>
      have unlisted : h.free.get (freeListOf object.footprint) = [] := hl
      simp [Heap.allocate, hl, unlisted, capacity]
    | cons index rest =>
      have listed : h.free.get (freeListOf object.footprint) = index :: rest := hl
      simp [Heap.allocate, hl, listed, capacity]
  · obtain ⟨own, none⟩ : freeListOf object.footprint = l ∧ h.free.get l = [] := by
      by_contra other
      exact hl (if_neg other)
    rw [free, if_pos own, none]
    rfl

theorem grows_sweep (h : Heap) : h.Grows h.sweep.2 0 where
  room l := by
    have residents := residentsOf_sweep h l
    have free := length_free_sweep h l
    simp only [room, Pi.zero_apply]
    omega
  capacity := by simp [capacity, sweep]
  full l hl := absurd rfl hl

theorem Consistent.exists_grows (hh : h.Consistent) {o : Op} (steady : o.KeepsSize h) :
    ∃ grown, h.Grows (o.apply h) grown := by
  by_cases hs : o = .sweep
  · subst hs
    exact ⟨0, grows_sweep h⟩
  cases hi : o.issued? h with
  | none =>
    obtain ⟨extents, free⟩ := extents_apply hi hs steady
    exact ⟨0, grows_of_extents extents free⟩
  | some r =>
    cases o with
    | allocate header object => exact ⟨_, hh.grows_allocate header object⟩
    | setHeader | setObject | mark | clearMarks | sweep => cases hi

theorem steady_concat {ops : List Op} {o : Op} :
    empty.Steady (ops ++ [o]) ↔ empty.Steady ops ∧ o.KeepsSize (run ops) := by
  rw [steady_append, Steady, Steady, and_true]
  rfl

theorem capacity_run {ops : List Op} (steady : empty.Steady ops) :
    (run ops).capacity = ∑ l, (run ops).room l := by
  induction ops using List.reverseRecOn with
  | nil => decide
  | append_singleton ops o ih =>
    obtain ⟨before, kept⟩ := steady_concat.mp steady
    obtain ⟨grown, grows⟩ := (consistent_run ops).exists_grows kept
    rw [run_concat, grows.capacity, ih before, ← Finset.sum_add_distrib]
    exact Finset.sum_congr rfl fun l _ => (grows.room l).symm

theorem isGreatest_room {ops : List Op} (steady : empty.Steady ops) (l : Fin freeListCount) :
    IsGreatest {n | ∃ before, before <+: ops ∧ (run before).residentsOf l = n}
      ((run ops).room l) := by
  induction ops using List.reverseRecOn with
  | nil =>
    have start : (run []).room l = (run []).residentsOf l := by
      revert l
      decide
    rw [start]
    exact isGreatest_nil fun ops => (run ops).residentsOf l
  | append_singleton ops o ih =>
    obtain ⟨before, kept⟩ := steady_concat.mp steady
    obtain ⟨grown, grows⟩ := (consistent_run ops).exists_grows kept
    have room := grows.room l
    rw [← run_concat] at room grows
    refine isGreatest_concat (ih before) ?_ (Nat.le_add_right _ _) ?_
    · omega
    · by_cases more : grown l = 0
      · exact .inl (by omega)
      · refine .inr ?_
        rw [Heap.room, grows.full l more]
        rfl

def Fitting (h : Heap) : Prop :=
  ∀ e ∈ h.places.map Place.extent, ∀ n ∈ e.2, e.1 = blockSize n

theorem Consistent.fitting_apply (hh : h.Consistent) (hf : h.Fitting) {o : Op}
    (steady : o.KeepsSize h) : (o.apply h).Fitting := by
  by_cases hs : o = .sweep
  · subst hs
    intro e he n hn
    obtain ⟨q, hq, rfl⟩ := Array.mem_map.mp he
    obtain ⟨p, hp, rfl⟩ := Array.mem_map.mp hq
    have before := hf p.extent (Array.mem_map.mpr ⟨p, hp, rfl⟩) n (Place.mem_size?_of_sweep hn)
    exact p.reserved_sweep.trans before
  cases hi : o.issued? h with
  | none =>
    rw [Fitting, (extents_apply hi hs steady).1]
    exact hf
  | some r =>
    cases o with
    | allocate header object =>
      intro e he n hn
      obtain ⟨q, hq, rfl⟩ := Array.mem_map.mp he
      obtain ⟨i, hq⟩ := Array.mem_iff_getElem?.mp hq
      rw [Op.apply, hh.getElem?_allocate] at hq
      split at hq
      · cases hq
        cases hn
        rfl
      · exact hf q.extent (Array.mem_map.mpr ⟨q, Array.mem_of_getElem? hq, rfl⟩) n hn
    | setHeader | setObject | mark | clearMarks | sweep => cases hi

theorem fitting_run {ops : List Op} (steady : empty.Steady ops) : (run ops).Fitting := by
  induction ops using List.reverseRecOn with
  | nil => simp [Fitting, run, empty]
  | append_singleton ops o ih =>
    obtain ⟨before, kept⟩ := steady_concat.mp steady
    rw [run_concat]
    exact (consistent_run ops).fitting_apply (ih before) kept

theorem bytes_volume_of_fitting (hf : h.Fitting) :
    h.volume.bytes = (h.sizes.map blockSize).sum := by
  have places (ps : List Place) (fits : ∀ p ∈ ps, ∀ n ∈ p.size?, p.reserved = blockSize n) :
      ((ps.map Place.volume).sum).bytes = ((ps.filterMap Place.size?).map blockSize).sum := by
    induction ps with
    | nil => rfl
    | cons p ps ih =>
      have rest := ih fun q hq => fits q (List.mem_cons_of_mem p hq)
      have own := fits p List.mem_cons_self
      rw [List.map_cons, List.sum_cons, Volume.bytes_add, rest, List.filterMap_cons]
      cases hx : p.resident with
      | none => simp [Place.volume, Place.isOccupied, Place.size?, hx]
      | some x =>
        have block := own x.object.footprint (by simp [Place.size?, hx])
        simp [Place.volume, Place.isOccupied, Place.size?, hx, block]
  rw [volume, sizes_eq]
  exact places _ fun p hp n hn => hf p.extent (Array.mem_map.mpr ⟨p, by simpa using hp, rfl⟩) n hn

theorem outstanding_run {ops : List Op} (steady : empty.Steady ops) :
    (run ops).outstanding = ((run ops).sizes.map blockSize).sum := by
  rw [← bytes_volume_of_fitting (fitting_run steady), (consistent_run ops).volume]

theorem dvd_blockSize_footprint (o : Object) : 8 ∣ blockSize o.footprint := by
  have aligned : 8 ∣ o.footprint := o.isLeast_footprint.1.1
  rw [blockSize]
  cases hc : sizeClass? o.footprint with
  | none => exact aligned
  | some c =>
    have classes : ∀ c ∈ sizeClasses, 8 ∣ c := by decide
    exact classes c (List.mem_of_find?_eq_some hc)

theorem dvd_outstanding_run {ops : List Op} (steady : empty.Steady ops) :
    8 ∣ (run ops).outstanding := by
  rw [outstanding_run steady]
  apply List.dvd_sum
  simp only [sizes, List.map_map, List.mem_map]
  rintro _ ⟨x, -, rfl⟩
  exact dvd_blockSize_footprint x.2.object

theorem lt_capacity_of_tenure {ops : List Op} {i : Nat} {t : Tenure} (ht : tenure ops i = some t) :
    i < (run ops).capacity := by
  obtain ⟨before, header, since, rfl, place, -⟩ := exists_request ht
  rw [← place]
  exact index_granted_lt before since header t.asked

theorem tenure_steady {ops : List Op} {o : Op} {i : Nat} {t : Tenure}
    (kept : o.KeepsSize (run ops)) (ht : tenure ops i = some t) :
    ∃ u, tenure (ops ++ [o]) i = some u ∧
      freeListOf u.held.footprint = freeListOf t.held.footprint := by
  rw [tenure_concat]
  cases o with
  | allocate header object =>
    rw [Op.record]
    by_cases place : i = ((run ops).allocate header object).1.index
    · subst place
      obtain ⟨u, hu, list⟩ := exists_tenure_of_reused (lt_capacity_of_tenure ht)
      cases ht.symm.trans hu
      exact ⟨_, Function.update_self _ _ _, list.symm⟩
    · exact ⟨t, (Function.update_of_ne place _ _).trans ht, rfl⟩
  | setObject r object =>
    rw [Op.record]
    split
    case isFalse => exact ⟨t, ht, rfl⟩
    case isTrue live =>
      by_cases place : i = r.index
      · subst place
        obtain ⟨x, hx⟩ := Option.isSome_iff_exists.mp live
        obtain ⟨u, hu, held⟩ := (follows_run ops).resident r x hx
        cases ht.symm.trans hu
        have same : object.footprint = t.held.footprint := by
          rw [held]
          exact kept x.object (by simp [object?, hx])
        refine ⟨{ t with held := object }, by simp [ht], ?_⟩
        rw [same]
      · exact ⟨t, (Function.update_of_ne place _ _).trans ht, rfl⟩
  | setHeader | mark | clearMarks | sweep => exact ⟨t, ht, rfl⟩

theorem tenure_of_prefix {before ops : List Op} (steady : empty.Steady ops) (hb : before <+: ops)
    {i : Nat} {t : Tenure} (ht : tenure before i = some t) :
    ∃ u, tenure ops i = some u ∧ freeListOf u.held.footprint = freeListOf t.held.footprint := by
  induction ops using List.reverseRecOn with
  | nil =>
    rw [List.prefix_nil.mp hb] at ht
    exact ⟨t, ht, rfl⟩
  | append_singleton ops o ih =>
    obtain ⟨first, kept⟩ := steady_concat.mp steady
    rcases List.prefix_concat_iff.mp hb with rfl | hb
    · exact ⟨t, ht, rfl⟩
    · obtain ⟨u, hu, same⟩ := ih first hb
      obtain ⟨v, hv, again⟩ := tenure_steady kept hu
      exact ⟨v, hv, again.trans same⟩

theorem sizeClass?_eq_of_index_eq {ops first second : List Op} (steady : empty.Steady ops)
    (hf : first <+: ops) (hs : second <+: ops) {r s : Ref} {x y : Resident}
    (hx : (run first).resident? r = some x) (hy : (run second).resident? s = some y)
    (place : r.index = s.index) :
    sizeClass? x.object.footprint = sizeClass? y.object.footprint := by
  obtain ⟨t, ht, held⟩ := (follows_run first).resident r x hx
  obtain ⟨u, hu, held'⟩ := (follows_run second).resident s y hy
  rw [place] at ht
  obtain ⟨v, hv, same⟩ := tenure_of_prefix steady hf ht
  obtain ⟨v', hv', same'⟩ := tenure_of_prefix steady hs hu
  cases hv.symm.trans hv'
  rw [← held, ← held', ← freeListOf_eq_iff, ← same, same']

end Heap

end MarkSweep
