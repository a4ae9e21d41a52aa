import MarkSweep.Proofs.Heap.Generation
import MarkSweep.Proofs.Heap.Store

/-!
What places are used for again. Beside a run goes a record of the request that each place was last
allocated for and of the payload that its last occupant had in the end. It is that payload, and not
the request, whose size class decides which requests get the place next.
-/

namespace MarkSweep

theorem sizeClass?_eq_getElem? (size : Nat) :
    sizeClass? size = sizeClasses[(freeListOf size).val]? := by
  have found (cs : List Nat) : cs.find? (size ≤ ·) = cs[cs.findIdx (size ≤ ·)]? := by
    induction cs with
    | nil => rfl
    | cons c cs ih =>
      rw [List.find?_cons, List.findIdx_cons]
      cases hc : decide (size ≤ c) with
      | true => rfl
      | false => exact ih
  exact found sizeClasses

theorem freeListOf_eq_iff {m n : Nat} :
    freeListOf m = freeListOf n ↔ sizeClass? m = sizeClass? n := by
  have distinct : ∀ j k : Fin freeListCount,
      sizeClasses[j.val]? = sizeClasses[k.val]? → j = k := by decide
  rw [sizeClass?_eq_getElem?, sizeClass?_eq_getElem?]
  constructor
  · intro e
    rw [e]
  · exact distinct _ _

namespace Heap

theorem get_released (free : Vector (List Nat) freeListCount) (ps : List (Place × Nat))
    (l : Fin freeListCount) :
    (released free ps).get l =
      ((ps.filter fun p => p.1.vacated? = some l).map Prod.snd).reverse ++ free.get l := by
  induction ps generalizing free with
  | nil => rfl
  | cons p ps ih =>
    obtain ⟨p, i⟩ := p
    rw [released, List.foldl_cons, ← released, ih, List.filter_cons]
    cases hv : p.vacated? with
    | none => simp [hv]
    | some k =>
      by_cases same : k = l
      · subst same
        have own : (free.set k (i :: free[k]) k.isLt).get k = i :: free.get k :=
          Vector.getElem_set_self k.isLt
        simpa [hv] using own
      · have apart : k.val ≠ l.val := fun e => same (Fin.ext e)
        have other : (free.set k (i :: free[k]) k.isLt).get l = free.get l :=
          Vector.getElem_set_ne k.isLt l.isLt apart
        simpa [hv, same] using other

theorem get_free_allocate (h : Heap) (header : Header) (object : Object)
    (l : Fin freeListCount) :
    (h.allocate header object).2.free.get l =
      if freeListOf object.footprint = l then (h.free.get l).tail else h.free.get l := by
  cases hl : h.free[freeListOf object.footprint] with
  | nil =>
    simp only [allocate, hl]
    split
    case isTrue same =>
      subst same
      exact hl.trans (congrArg List.tail hl).symm
    case isFalse => rfl
  | cons index rest =>
    simp only [allocate, hl]
    split
    case isTrue same =>
      subst same
      exact (Vector.getElem_set_self (freeListOf object.footprint).isLt).trans
        (congrArg List.tail hl).symm
    case isFalse other =>
      exact Vector.getElem_set_ne _ _ fun e => other (Fin.ext e)

theorem index_allocate (h : Heap) (header : Header) (object : Object) :
    (h.allocate header object).1.index =
      (h.free.get (freeListOf object.footprint)).head?.getD h.capacity := by
  have list : h.free.get (freeListOf object.footprint) = h.free[freeListOf object.footprint] := rfl
  rw [list]
  cases hl : h.free[freeListOf object.footprint] with
  | nil => simp [allocate, hl, capacity]
  | cons index rest => simp [allocate, hl]

theorem Consistent.isVacant_of_mem {h : Heap} (hh : h.Consistent) {l : Fin freeListCount}
    {i : Nat} (hi : i ∈ h.free.get l) : h.IsVacant i := by
  have listed : listings h.free i ≠ 0 := fun e => listings_eq_zero_iff.mp e l hi
  have once := hh.listed i
  rw [← hh.vacant]
  omega

theorem mem_free_sweep {h : Heap} {l : Fin freeListCount} {i : Nat} :
    i ∈ h.sweep.2.free.get l ↔
      (∃ p, h.places[i]? = some p ∧ p.vacated? = some l) ∨ i ∈ h.free.get l := by
  rw [sweep, get_released, List.mem_append, List.mem_reverse, List.mem_map]
  simp [List.mem_zipIdx_iff_getElem?, and_assoc]

end Heap

/-- What a place was last asked to hold, and what its last occupant held in the end. -/
structure Tenure where
  asked : Object
  held : Object

namespace Heap

def Op.record (h : Heap) (kept : Nat → Option Tenure) : Op → Nat → Option Tenure
  | allocate header object =>
    Function.update kept (h.allocate header object).1.index (some ⟨object, object⟩)
  | setObject r object =>
    if h.isLive r then
      Function.update kept r.index ((kept r.index).map fun t => { t with held := object })
    else kept
  | _ => kept

def log (ops : List Op) : Heap × (Nat → Option Tenure) :=
  ops.foldl (fun p o => (o.apply p.1, o.record p.1 p.2)) (empty, fun _ => none)

def tenure (ops : List Op) : Nat → Option Tenure := (log ops).2

theorem log_fst (ops : List Op) : (log ops).1 = run ops := by
  induction ops using List.reverseRecOn with
  | nil => rfl
  | append_singleton ops o ih => rw [run_concat, ← ih, log, List.foldl_concat, log]

theorem tenure_concat (ops : List Op) (o : Op) :
    tenure (ops ++ [o]) = o.record (run ops) (tenure ops) := by
  rw [tenure, log, List.foldl_concat, ← log, log_fst, tenure]

structure Follows (h : Heap) (kept : Nat → Option Tenure) : Prop where
  resident : ∀ r x, h.resident? r = some x → ∃ t, kept r.index = some t ∧ t.held = x.object
  listed : ∀ l : Fin freeListCount, ∀ i ∈ h.free.get l,
    ∃ t, kept i = some t ∧ freeListOf t.held.footprint = l

variable {h h' : Heap} {kept : Nat → Option Tenure}

theorem follows_empty : Follows empty fun _ => none where
  resident r x hx := by simp [resident?, empty] at hx
  listed l i hi := by
    have unused : empty.free.get l = [] := Vector.getElem_replicate l.isLt
    simp [unused] at hi

theorem Follows.congr (hf : Follows h kept)
    (objects : ∀ r x, h'.resident? r = some x → ∃ y, h.resident? r = some y ∧ y.object = x.object)
    (free : h'.free = h.free) : Follows h' kept where
  resident r x hx := by
    obtain ⟨y, hy, same⟩ := objects r x hx
    rw [← same]
    exact hf.resident r y hy
  listed := by rw [free]; exact hf.listed

theorem Follows.modifyHeader (hf : Follows h kept) (r : Ref) (f : Header → Header) :
    Follows (h.modifyHeader r f) kept := by
  refine hf.congr ?_ rfl
  intro s x hx
  rw [Heap.modifyHeader, resident?_modify] at hx
  split at hx
  · obtain ⟨y, hy, rfl⟩ := Option.map_eq_some_iff.mp hx
    exact ⟨y, hy, rfl⟩
  · exact ⟨x, hx, rfl⟩

theorem eq_of_index_eq {r s : Ref} (hr : h.isLive r) (hs : h.isLive s)
    (place : r.index = s.index) : r = s := by
  have first := ((isLive_iff r).mp hr).2
  have second := ((isLive_iff s).mp hs).2
  rw [place] at first
  exact Ref.eq_iff.mpr ⟨place, first.symm.trans second⟩

theorem Follows.setObject (hf : Follows h kept) (hh : h.Consistent) (r : Ref) (object : Object) :
    Follows (h.setObject r object) ((Op.setObject r object).record h kept) := by
  rw [Op.record]
  split
  case isFalse dead =>
    refine hf.congr ?_ rfl
    intro s x hx
    rw [Heap.setObject, resident?_modify] at hx
    split at hx
    case isTrue same =>
      subst same
      rw [isLive, Bool.not_eq_true, Option.isSome_eq_false_iff, Option.isNone_iff_eq_none] at dead
      simp [dead] at hx
    case isFalse => exact ⟨x, hx, rfl⟩
  case isTrue live =>
    refine ⟨?_, ?_⟩
    · intro s x hx
      rw [Heap.setObject, resident?_modify] at hx
      split at hx
      case isTrue same =>
        subst same
        obtain ⟨y, hy, rfl⟩ := Option.map_eq_some_iff.mp hx
        obtain ⟨t, ht, -⟩ := hf.resident r y hy
        exact ⟨{ t with held := object }, by simp [ht], rfl⟩
      case isFalse other =>
        have place : s.index ≠ r.index := fun e =>
          other (eq_of_index_eq live (Option.isSome_of_eq_some hx) e.symm)
        rw [Function.update_of_ne place]
        exact hf.resident s x hx
    · intro l i hi
      have place : i ≠ r.index := by
        rintro rfl
        exact not_isOccupied_of_isVacant (hh.isVacant_of_mem hi) ((isLive_iff r).mp live).1
      rw [Function.update_of_ne place]
      exact hf.listed l i hi

theorem Follows.allocate (hf : Follows h kept) (hh : h.Consistent) (header : Header)
    (object : Object) :
    Follows (h.allocate header object).2 ((Op.allocate header object).record h kept) := by
  refine ⟨?_, ?_⟩
  · intro s x hx
    rw [hh.resident?_allocate] at hx
    by_cases same : s = (h.allocate header object).1
    · subst same
      rw [Function.update_self] at hx
      cases hx
      exact ⟨⟨object, object⟩, Function.update_self _ _ _, rfl⟩
    · rw [Function.update_of_ne same] at hx
      have place : s.index ≠ (h.allocate header object).1.index := by
        intro e
        have occupied := ((isLive_iff s).mp (Option.isSome_of_eq_some hx)).1
        rw [e] at occupied
        exact hh.not_isOccupied_allocate header object occupied
      rw [Op.record, Function.update_of_ne place]
      exact hf.resident s x hx
  · intro l i hi
    have place : i ≠ (h.allocate header object).1.index := by
      rintro rfl
      have vacant := (hh.allocate header object).isVacant_of_mem hi
      exact ((hh.isVacant_allocate header object _).mp vacant).2 rfl
    have before : i ∈ h.free.get l := by
      rw [get_free_allocate] at hi
      split at hi
      · exact List.mem_of_mem_tail hi
      · exact hi
    rw [Op.record, Function.update_of_ne place]
    exact hf.listed l i before

theorem Follows.sweep (hf : Follows h kept) : Follows h.sweep.2 kept where
  resident r x hx := by
    rw [resident?_sweep] at hx
    obtain ⟨y, hy, rfl⟩ := Option.map_eq_some_iff.mp hx
    exact hf.resident r y (Option.filter_eq_some_iff.mp hy).1
  listed l i hi := by
    rcases mem_free_sweep.mp hi with ⟨p, hp, vacated⟩ | hi
    · obtain ⟨generation, reserved, resident⟩ := p
      cases resident with
      | none => cases vacated
      | some x =>
        have hx : h.resident? ⟨i, generation⟩ = some x :=
          resident?_eq_some_iff.mpr ⟨_, hp, rfl, rfl⟩
        obtain ⟨t, ht, held⟩ := hf.resident _ x hx
        rw [Place.vacated?] at vacated
        cases hm : x.header.isMarked with
        | true => simp [hm] at vacated
        | false =>
          refine ⟨t, ht, ?_⟩
          simpa [hm, held] using vacated
    · exact hf.listed l i hi

theorem Follows.apply (hf : Follows h kept) (hh : h.Consistent) (o : Op) :
    Follows (o.apply h) (o.record h kept) := by
  cases o with
  | allocate header object => exact hf.allocate hh header object
  | setHeader r header => exact hf.modifyHeader r fun _ => header
  | setObject r object => exact hf.setObject hh r object
  | mark r =>
    cases hm : h.mark? r with
    | none => simpa [Op.apply, Op.record, hm] using hf
    | some h' =>
      obtain ⟨-, rfl⟩ := mark?_eq_some_iff.mp hm
      simpa [Op.apply, Op.record, hm] using hf.modifyHeader r Header.mark
  | clearMarks =>
    refine hf.congr ?_ rfl
    intro s x hx
    rw [Op.apply, resident?_clearMarks] at hx
    obtain ⟨y, hy, rfl⟩ := Option.map_eq_some_iff.mp hx
    exact ⟨y, hy, rfl⟩
  | sweep => exact hf.sweep

theorem follows_run (ops : List Op) : Follows (run ops) (tenure ops) := by
  induction ops using List.reverseRecOn with
  | nil => exact follows_empty
  | append_singleton ops o ih =>
    rw [run_concat, tenure_concat]
    exact ih.apply (consistent_run ops) o

theorem record_cases {o : Op} {i : Nat} {t : Tenure} (ht : o.record h kept i = some t) :
    (∃ header, o = .allocate header t.asked ∧ (h.allocate header t.asked).1.index = i ∧
      t.held = t.asked) ∨
    (∀ r ∈ o.issued? h, r.index ≠ i) ∧ ∃ u, kept i = some u ∧ u.asked = t.asked ∧
      (t.held = u.held ∨ ∃ r, r.index = i ∧ o = .setObject r t.held) := by
  cases o with
  | allocate header object =>
    by_cases place : i = (h.allocate header object).1.index
    · subst place
      rw [Op.record, Function.update_self] at ht
      cases ht
      exact .inl ⟨header, rfl, rfl, rfl⟩
    · rw [Op.record, Function.update_of_ne place] at ht
      refine .inr ⟨?_, t, ht, rfl, .inl rfl⟩
      rintro r ⟨⟩
      exact Ne.symm place
  | setObject r object =>
    refine .inr ⟨by rintro _ ⟨⟩, ?_⟩
    rw [Op.record] at ht
    split at ht
    case isFalse => exact ⟨t, ht, rfl, .inl rfl⟩
    case isTrue =>
      by_cases place : i = r.index
      · subst place
        rw [Function.update_self] at ht
        obtain ⟨u, hu, rfl⟩ := Option.map_eq_some_iff.mp ht
        exact ⟨u, hu, rfl, .inr ⟨r, rfl, rfl⟩⟩
      · rw [Function.update_of_ne place] at ht
        exact ⟨t, ht, rfl, .inl rfl⟩
  | setHeader | mark | clearMarks | sweep =>
    exact .inr ⟨by rintro _ ⟨⟩, t, ht, rfl, .inl rfl⟩

theorem issued_concat (h : Heap) (ops : List Op) (o : Op) :
    h.issued (ops ++ [o]) = h.issued ops ++ (o.issued? (h.after ops)).toList := by
  induction ops generalizing h with
  | nil => simp [issued, after]
  | cons p ops ih =>
    rw [List.cons_append, issued, ih, issued, List.append_assoc]
    rfl

theorem exists_request {ops : List Op} {i : Nat} {t : Tenure} (ht : tenure ops i = some t) :
    ∃ before header since, ops = before ++ .allocate header t.asked :: since ∧
      (granted before header t.asked).index = i ∧
      (∀ r ∈ (run (before ++ [.allocate header t.asked])).issued since, r.index ≠ i) ∧
      (t.held = t.asked ∨ ∃ r, r.index = i ∧ .setObject r t.held ∈ since) := by
  induction ops using List.reverseRecOn generalizing t with
  | nil => cases ht
  | append_singleton ops o ih =>
    rw [tenure_concat] at ht
    rcases record_cases ht with ⟨header, rfl, place, held⟩ | ⟨elsewhere, u, hu, asked, held⟩
    · exact ⟨ops, header, [], rfl, place, by simp [issued], .inl held⟩
    · obtain ⟨before, header, since, rfl, place, others, earlier⟩ := ih hu
      rw [asked] at place others earlier elsewhere ⊢
      refine ⟨before, header, since ++ [o], by simp, place, ?_, ?_⟩
      · have whole : run (before ++ .allocate header t.asked :: since) =
            (run (before ++ [.allocate header t.asked])).after since :=
          later_eq_after before since header t.asked
        rw [whole] at elsewhere
        intro r hr
        rw [issued_concat, List.mem_append, Option.mem_toList] at hr
        rcases hr with hr | hr
        · exact others r hr
        · exact elsewhere r hr
      · rcases held with held | ⟨r, hr, rfl⟩
        · rcases earlier with earlier | ⟨r, hr, written⟩
          · exact .inl (held.trans earlier)
          · exact .inr ⟨r, hr, by simp [held, written]⟩
        · exact .inr ⟨r, hr, by simp⟩

theorem exists_tenure_of_reused {ops : List Op} {header : Header} {object : Object}
    (reused : ((run ops).allocate header object).1.index < (run ops).capacity) :
    ∃ t, tenure ops ((run ops).allocate header object).1.index = some t ∧
      freeListOf t.held.footprint = freeListOf object.footprint := by
  have place := index_allocate (run ops) header object
  cases list : (run ops).free.get (freeListOf object.footprint) with
  | nil =>
    rw [place, list] at reused
    exact absurd reused (Nat.lt_irrefl _)
  | cons index rest =>
    rw [list] at place
    rw [place]
    apply (follows_run ops).listed
    rw [list]
    exact List.mem_cons_self

/-- A place is used again for requests of the class of what its last occupant held in the end. That
is the class of the request it was last allocated for unless the payload was replaced since. -/
theorem reused_place_suits_last_payload (ops : List Op) (header : Header) (object : Object)
    (reused : ((run ops).allocate header object).1.index < (run ops).capacity) :
    (∀ r x, (run ops).resident? r = some x →
      ∃ t, tenure ops r.index = some t ∧ t.held = x.object) ∧
    ∃ t, tenure ops ((run ops).allocate header object).1.index = some t ∧
      sizeClass? object.footprint = sizeClass? t.held.footprint ∧
      ∃ before header' since, ops = before ++ .allocate header' t.asked :: since ∧
        (granted before header' t.asked).index = ((run ops).allocate header object).1.index ∧
        (∀ r ∈ (run (before ++ [.allocate header' t.asked])).issued since,
          r.index ≠ ((run ops).allocate header object).1.index) ∧
        (t.held = t.asked ∨ ∃ r, r.index = ((run ops).allocate header object).1.index ∧
          .setObject r t.held ∈ since) := by
  obtain ⟨t, ht, list⟩ := exists_tenure_of_reused reused
  exact ⟨(follows_run ops).resident, t, ht, (freeListOf_eq_iff.mp list).symm, exists_request ht⟩

def regrown : List Op :=
  [.allocate (.ofKind .chunk) (.zeros 4), .setObject ⟨0, 0⟩ (.zeros 20), .sweep]

theorem reused_place_suits_last_payload_regrown :
    ((run regrown).allocate (.ofKind .chunk) (.zeros 24)).1.index < (run regrown).capacity ∧
      ∃ t, tenure regrown 0 = some t ∧ t.asked = .zeros 4 ∧
        sizeClass? (Object.zeros 24).footprint = sizeClass? t.held.footprint := by
  have reused : ((run regrown).allocate (.ofKind .chunk) (.zeros 24)).1.index <
      (run regrown).capacity := by decide +kernel
  obtain ⟨-, t, ht, same, -⟩ := reused_place_suits_last_payload _ _ _ reused
  have record : tenure regrown 0 = some ⟨.zeros 4, .zeros 20⟩ := rfl
  refine ⟨reused, t, ht, ?_, same⟩
  cases record.symm.trans ht
  rfl

/-- A payload that is replaced in between takes its place to the list of another class. -/
theorem reused_place_misses_request :
    ¬∀ ops header object t,
      ((run ops).allocate header object).1.index < (run ops).capacity →
      tenure ops ((run ops).allocate header object).1.index = some t →
      sizeClass? object.footprint = sizeClass? t.asked.footprint := by
  intro suits
  have same := suits regrown (.ofKind .chunk) (.zeros 24) ⟨.zeros 4, .zeros 20⟩
    (by decide +kernel) rfl
  revert same
  decide +kernel

end Heap

end MarkSweep
