import MarkSweep.Proofs.Heap.Capacity

namespace MarkSweep

namespace Fate

instance : Zero Fate := ⟨{}⟩

instance : Add Fate := ⟨fun a b => ⟨a.surviving + b.surviving, a.reclaimed + b.reclaimed⟩⟩

theorem eq_iff {a b : Fate} : a = b ↔ a.surviving = b.surviving ∧ a.reclaimed = b.reclaimed := by
  cases a
  cases b
  simp

@[simp] theorem surviving_zero : (0 : Fate).surviving = 0 := rfl

@[simp] theorem reclaimed_zero : (0 : Fate).reclaimed = 0 := rfl

@[simp] theorem surviving_add (a b : Fate) : (a + b).surviving = a.surviving + b.surviving := rfl

@[simp] theorem reclaimed_add (a b : Fate) : (a + b).reclaimed = a.reclaimed + b.reclaimed := rfl

instance : AddCommMonoid Fate where
  add_assoc a b c := by simp [eq_iff, add_assoc]
  zero_add a := by simp [eq_iff]
  add_zero a := by simp [eq_iff]
  add_comm a b := by simp [eq_iff, add_comm]
  nsmul := nsmulRec

end Fate

def volumeOf (rs : List (Ref × Resident)) : Volume :=
  ⟨rs.length, (rs.map fun e => blockSize e.2.object.footprint).sum⟩

def fateOf (live : Ref → Bool) (rs : List (Ref × Resident)) : Fate where
  surviving := volumeOf (rs.filter fun e => live e.1)
  reclaimed := volumeOf (rs.filter fun e => !live e.1)

def ofKind (k : Kind) (rs : List (Ref × Resident)) : List (Ref × Resident) :=
  rs.filter fun e => e.2.header.kind = k

def census (live : Ref → Bool) (rs : List (Ref × Resident)) : Tally :=
  rs.foldl (fun t e => t.add e.2.header.kind (live e.1) (blockSize e.2.object.footprint)) {}

variable {live : Ref → Bool} {rs : List (Ref × Resident)} {e : Ref × Resident} {k : Kind}

theorem fateOf_append (live : Ref → Bool) (rs ss : List (Ref × Resident)) :
    fateOf live (rs ++ ss) = fateOf live rs + fateOf live ss := by
  simp [fateOf, volumeOf, Fate.eq_iff, Volume.eq_iff]

theorem fateOf_concat :
    fateOf live (rs ++ [e]) = (fateOf live rs).add (live e.1) (blockSize e.2.object.footprint) := by
  cases hl : live e.1 <;> simp [fateOf, Fate.add, Volume.add, volumeOf, hl]

theorem census_concat : census live (rs ++ [e]) =
    (census live rs).add e.2.header.kind (live e.1) (blockSize e.2.object.footprint) := by
  rw [census, List.foldl_concat, census]

theorem total_census (live : Ref → Bool) (rs : List (Ref × Resident)) :
    (census live rs).total = fateOf live rs := by
  induction rs using List.reverseRecOn with
  | nil => rfl
  | append_singleton rs e ih => rw [census_concat, fateOf_concat, Tally.add, ih]

theorem ofKind_concat (k : Kind) (rs : List (Ref × Resident)) (e : Ref × Resident) :
    ofKind k (rs ++ [e]) = if e.2.header.kind = k then ofKind k rs ++ [e] else ofKind k rs := by
  rw [ofKind, List.filter_append, ← ofKind]
  split
  case isTrue own => simp [own]
  case isFalse other => simp [other]

theorem getElem?_kinds_census (live : Ref → Bool) (rs : List (Ref × Resident)) (k : Kind) :
    (census live rs).kinds[k]? =
      if ∃ e ∈ rs, e.2.header.kind = k then some (fateOf live (ofKind k rs)) else none := by
  induction rs using List.reverseRecOn with
  | nil => simp [census]
  | append_singleton rs e ih =>
    rw [census_concat, Tally.getElem?_kinds_add, ofKind_concat]
    by_cases own : e.2.header.kind = k
    · have counted : (census live rs).kinds[k]?.getD {} = fateOf live (ofKind k rs) := by
        rw [ih]
        split
        · rfl
        case isFalse none =>
          have empty : ofKind k rs = [] := by simpa [ofKind] using none
          rw [empty]
          rfl
      rw [if_pos own, if_pos own, if_pos ⟨e, by simp, own⟩, fateOf_concat, own, counted]
    · have same : (∃ d ∈ rs ++ [e], d.2.header.kind = k) ↔ ∃ d ∈ rs, d.2.header.kind = k := by
        simp [own, or_and_right, exists_or]
      rw [if_neg own, if_neg own, ih]
      simp only [same]

theorem sum_fateOf_ofKind {ks : List Kind} (once : ks.Nodup)
    (all : ∀ e ∈ rs, e.2.header.kind ∈ ks) :
    (ks.map fun k => fateOf live (ofKind k rs)).sum = fateOf live rs := by
  induction rs using List.reverseRecOn with
  | nil => exact List.sum_map_zero
  | append_singleton rs e ih =>
    have earlier := ih fun d hd => all d (List.mem_append_left _ hd)
    have own := all e (by simp)
    have step (k : Kind) : fateOf live (ofKind k (rs ++ [e])) =
        fateOf live (ofKind k rs) + if e.2.header.kind = k then fateOf live [e] else 0 := by
      rw [ofKind_concat]
      split
      · exact fateOf_append live _ _
      · exact (add_zero _).symm
    have single : (ks.map fun k => if e.2.header.kind = k then fateOf live [e] else 0).sum =
        fateOf live [e] := by
      rw [List.sum_map_eq_nsmul_single e.2.header.kind _ fun k ne _ => if_neg ne.symm,
        List.count_eq_one_of_mem once own, one_nsmul, if_pos rfl]
    simp only [step]
    rw [List.sum_map_add, earlier, single, fateOf_append]

theorem sum_kinds_census (live : Ref → Bool) (rs : List (Ref × Resident)) :
    ((census live rs).kinds.toList.map Prod.snd).sum = (census live rs).total := by
  have rows : (census live rs).kinds.toList.map Prod.snd =
      (census live rs).kinds.keys.map fun k => fateOf live (ofKind k rs) := by
    rw [← Std.TreeMap.map_fst_toList_eq_keys, List.map_map]
    apply List.map_congr_left
    rintro ⟨k, fate⟩ row
    have found := Std.TreeMap.mem_toList_iff_getElem?_eq_some.mp row
    rw [getElem?_kinds_census] at found
    split at found
    · exact (Option.some.inj found).symm
    · cases found
  have all (e : Ref × Resident) (he : e ∈ rs) :
      e.2.header.kind ∈ (census live rs).kinds.keys := by
    rw [Std.TreeMap.mem_keys, Std.TreeMap.mem_iff_isSome_getElem?, getElem?_kinds_census,
      if_pos ⟨e, he, rfl⟩]
    rfl
  rw [rows, sum_fateOf_ofKind Std.TreeMap.nodup_keys all, total_census]

theorem census_clearMark (live : Ref → Bool) (rs : List (Ref × Resident)) :
    census live (rs.map fun e => (e.1, e.2.clearMark)) = census live rs := by
  rw [census, List.foldl_map, census]
  apply List.foldl_ext
  intro t e _
  rw [Resident.clearMark, e.2.header.agrees_clearMark.kind]

namespace Heap

variable {h h' : Heap}

theorem residents_clearMarks (h : Heap) :
    h.clearMarks.residents = h.residents.map fun e => (e.1, e.2.clearMark) := by
  rw [residents, residents, List.map_filterMap, clearMarks, Array.toList_map, List.zipIdx_map,
    List.filterMap_map]
  apply List.filterMap_congr
  rintro ⟨p, i⟩ _
  simp only [Function.comp_apply, Prod.map_apply, id_eq, Place.clearMark, Option.map_map]
  rfl

theorem extents_clearMarks (h : Heap) :
    h.clearMarks.places.map Place.extent = h.places.map Place.extent := by
  simp [clearMarks, Place.extent, Place.size?, Place.clearMark, Function.comp_def]

theorem Fitting.of_clearMarks_eq (hf : h.Fitting) (e : h'.clearMarks = h.clearMarks) :
    h'.Fitting := by
  rw [Fitting, ← extents_clearMarks, e, extents_clearMarks]
  exact hf

theorem sweep_eq_census (hf : h.Fitting) : h.sweep.1 = census h.isMarked h.residents := by
  have places : h.sweep.1 = h.places.toList.zipIdx.foldl (fun t e => Place.tally t e.1) {} := by
    rw [sweep, ← Array.foldl_toList]
    conv_lhs => rw [← List.zipIdx_map_fst 0 h.places.toList, List.foldl_map]
  rw [places, census, residents, List.foldl_filterMap]
  apply List.foldl_ext
  rintro t ⟨p, i⟩ member
  rw [List.mem_zipIdx_iff_getElem?, Array.getElem?_toList] at member
  cases hx : p.resident with
  | none => simp [Place.tally, hx]
  | some x =>
    have found : h.resident? ⟨i, p.generation⟩ = some x :=
      resident?_eq_some_iff.mpr ⟨p, member, rfl, hx⟩
    have block : p.reserved = blockSize x.object.footprint :=
      hf p.extent (Array.mem_map.mpr ⟨p, Array.mem_of_getElem? member, rfl⟩) x.object.footprint
        (by simp [Place.extent, Place.size?, hx])
    simp [Place.tally, hx, isMarked, found, block]

theorem sweep_eq_census_of_clearMarks_eq (hf : h.Fitting) (e : h'.clearMarks = h.clearMarks) :
    h'.sweep.1 = census h'.isMarked h.residents := by
  rw [sweep_eq_census (hf.of_clearMarks_eq e), ← census_clearMark, ← residents_clearMarks, e,
    residents_clearMarks, census_clearMark]

end Heap

end MarkSweep
