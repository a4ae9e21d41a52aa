import MarkSweep.Proofs.Heap.Run

/-!
Generations along a run. The objects that come into one place are numbered from zero on, and the
generation of a reference is the number of its object; so a reference resolves again only after its
place has been reclaimed as often as there are generations.
-/

namespace MarkSweep

theorem Ref.eq_iff {r s : Ref} : r = s ↔ r.index = s.index ∧ r.generation = s.generation := by
  cases r
  cases s
  simp

def Place.outline (p : Place) : UInt32 × Bool := (p.generation, p.isOccupied)

namespace Heap

instance (h : Heap) (i : Nat) : Decidable (h.IsOccupied i) :=
  decidable_of_iff (h.places[i]?.any Place.isOccupied) (Option.any_eq_true _ _)

def generation (h : Heap) (i : Nat) : UInt32 := (h.places[i]?.map Place.generation).getD 0

def nextGeneration (h : Heap) (i : Nat) : UInt32 :=
  h.generation i + if h.IsOccupied i then 1 else 0

def Op.Reclaims (h : Heap) (i : Nat) (o : Op) : Prop :=
  h.IsOccupied i ∧ ¬(o.apply h).IsOccupied i

instance (h : Heap) (i : Nat) (o : Op) : Decidable (o.Reclaims h i) := instDecidableAnd

def Op.issued? (h : Heap) : Op → Option Ref
  | allocate header object => some (h.allocate header object).1
  | _ => none

def after (h : Heap) (ops : List Op) : Heap := ops.foldl Op.apply h

def issued (h : Heap) : List Op → List Ref
  | [] => []
  | o :: ops => (o.issued? h).toList ++ (o.apply h).issued ops

def reclaims (h : Heap) (i : Nat) : List Op → Nat
  | [] => 0
  | o :: ops => (if o.Reclaims h i then 1 else 0) + (o.apply h).reclaims i ops

variable {h h' : Heap}

theorem isLive_iff (r : Ref) :
    h.isLive r ↔ h.IsOccupied r.index ∧ h.generation r.index = r.generation := by
  rw [isLive, resident?, IsOccupied, generation]
  cases h.places[r.index]? with
  | none => simp
  | some p =>
    by_cases hg : p.generation = r.generation
    · simp [hg]
    · simp [hg]

theorem isOccupied_iff (i : Nat) :
    h.IsOccupied i ↔ (h.places.map Place.outline)[i]?.any Prod.snd := by
  rw [Array.getElem?_map, Option.any_map, Option.any_eq_true]
  rfl

theorem generation_eq (i : Nat) :
    h.generation i = ((h.places.map Place.outline)[i]?.map Prod.fst).getD 0 := by
  rw [generation, Array.getElem?_map, Option.map_map]
  rfl

theorem outline_congr (e : h'.places.map Place.outline = h.places.map Place.outline) (i : Nat) :
    (h'.IsOccupied i ↔ h.IsOccupied i) ∧ h'.generation i = h.generation i := by
  rw [isOccupied_iff, isOccupied_iff, generation_eq, generation_eq, e]
  exact ⟨Iff.rfl, rfl⟩

theorem outline_modify (h : Heap) (r : Ref) (f : Resident → Resident) :
    (h.modify r f).places.map Place.outline = h.places.map Place.outline := by
  simp only [modify]
  apply map_modify_of_forall
  intro p
  split
  · simp [Place.outline, Place.isOccupied]
  · rfl

theorem outline_clearMarks (h : Heap) :
    h.clearMarks.places.map Place.outline = h.places.map Place.outline := by
  rw [clearMarks, Array.map_map]
  congr 1
  funext p
  simp [Place.outline, Place.isOccupied, Place.clearMark]

theorem outline_apply {o : Op} (hi : o.issued? h = none) (hs : o ≠ .sweep) :
    (o.apply h).places.map Place.outline = h.places.map Place.outline := by
  cases o with
  | allocate header object => cases hi
  | setHeader r header => exact outline_modify h r _
  | setObject r object => exact outline_modify h r _
  | mark r =>
    cases hm : h.mark? r with
    | none => simp [Op.apply, hm]
    | some h' =>
      obtain ⟨-, rfl⟩ := mark?_eq_some_iff.mp hm
      rw [Op.apply, hm]
      exact outline_modify h r _
  | clearMarks => exact outline_clearMarks h
  | sweep => exact absurd rfl hs

theorem generation_allocate (h : Heap) (header : Header) (object : Object) :
    (h.allocate header object).1.generation = h.generation (h.allocate header object).1.index := by
  cases hl : h.free[freeListOf object.footprint] with
  | nil => simp [allocate, hl, generation]
  | cons index rest => simp [allocate, hl, generation]

theorem Consistent.isOccupied_allocate (hh : h.Consistent) (header : Header) (object : Object)
    (i : Nat) :
    (h.allocate header object).2.IsOccupied i ↔
      h.IsOccupied i ∨ (h.allocate header object).1.index = i := by
  rw [IsOccupied, hh.getElem?_allocate]
  split
  case isTrue hi => simp [hi]
  case isFalse hi => simp [hi, IsOccupied]

theorem Consistent.generation_allocate_snd (hh : h.Consistent) (header : Header)
    (object : Object) (i : Nat) :
    (h.allocate header object).2.generation i = h.generation i := by
  rw [generation, hh.getElem?_allocate]
  split
  case isTrue hi =>
    subst hi
    exact generation_allocate h header object
  case isFalse => rfl

theorem isOccupied_of_isOccupied_sweep {i : Nat} (ho : h.sweep.2.IsOccupied i) :
    h.IsOccupied i := by
  obtain ⟨q, hq, hs⟩ := ho
  rw [getElem?_places_sweep] at hq
  obtain ⟨p, hp, rfl⟩ := Option.map_eq_some_iff.mp hq
  refine ⟨p, hp, ?_⟩
  cases hr : p.resident with
  | none => simp [Place.sweep, hr] at hs
  | some x => rfl

theorem generation_sweep (h : Heap) (i : Nat) :
    h.sweep.2.generation i =
      h.generation i + if h.IsOccupied i ∧ ¬h.sweep.2.IsOccupied i then 1 else 0 := by
  simp only [generation, IsOccupied, getElem?_places_sweep]
  cases h.places[i]? with
  | none => simp
  | some p =>
    obtain ⟨generation, reserved, resident⟩ := p
    cases resident with
    | none => simp [Place.sweep]
    | some x => cases hx : x.header.isMarked <;> simp [Place.sweep, hx]

theorem Consistent.generation_apply (hh : h.Consistent) (o : Op) (i : Nat) :
    (o.apply h).generation i = h.generation i + if o.Reclaims h i then 1 else 0 := by
  by_cases hs : o = .sweep
  · subst hs
    exact generation_sweep h i
  cases hi : o.issued? h with
  | none =>
    obtain ⟨occupied, generation⟩ := outline_congr (outline_apply hi hs) i
    have kept : ¬o.Reclaims h i := fun ⟨before, gone⟩ => gone (occupied.mpr before)
    rw [generation, if_neg kept, UInt32.add_zero]
  | some r =>
    cases o with
    | allocate header object =>
      have kept : ¬(Op.allocate header object).Reclaims h i := by
        rintro ⟨before, gone⟩
        exact gone ((hh.isOccupied_allocate header object i).mpr (.inl before))
      rw [if_neg kept, Op.apply, hh.generation_allocate_snd, UInt32.add_zero]
    | setHeader | setObject | mark | clearMarks | sweep => cases hi

theorem Consistent.generation_issued? (hh : h.Consistent) {o : Op} {r : Ref}
    (hi : o.issued? h = some r) : r.generation = h.nextGeneration r.index := by
  cases o with
  | allocate header object =>
    obtain rfl : (h.allocate header object).1 = r := Option.some.inj hi
    rw [nextGeneration, if_neg (hh.not_isOccupied_allocate header object), UInt32.add_zero]
    exact generation_allocate h header object
  | setHeader | setObject | mark | clearMarks | sweep => cases hi

theorem Consistent.nextGeneration_apply (hh : h.Consistent) (o : Op) (i : Nat) :
    (o.apply h).nextGeneration i =
      h.nextGeneration i + if (o.issued? h).any (·.index = i) then 1 else 0 := by
  have raised := hh.generation_apply o i
  by_cases hs : o = .sweep
  · subst hs
    -- A place that the sweep vacates gains the generation that it loses by being vacant.
    have kept := isOccupied_of_isOccupied_sweep (h := h) (i := i)
    simp only [Op.Reclaims, Op.apply] at raised
    rw [nextGeneration, nextGeneration, Op.apply, raised]
    by_cases still : h.sweep.2.IsOccupied i
    · simp [Op.issued?, still, kept still]
    · simp [Op.issued?, still]
  cases hi : o.issued? h with
  | none =>
    obtain ⟨occupied, generation⟩ := outline_congr (outline_apply hi hs) i
    simp [nextGeneration, occupied, generation]
  | some r =>
    cases o with
    | allocate header object =>
      obtain rfl : (h.allocate header object).1 = r := Option.some.inj hi
      have vacant := hh.not_isOccupied_allocate header object
      simp only [nextGeneration, Op.apply, hh.generation_allocate_snd, hh.isOccupied_allocate]
      by_cases here : (h.allocate header object).1.index = i
      · subst here
        simp [vacant]
      · simp [here]
    | setHeader | setObject | mark | clearMarks | sweep => cases hi

theorem Consistent.after (hh : h.Consistent) (ops : List Op) : (h.after ops).Consistent := by
  induction ops generalizing h with
  | nil => exact hh
  | cons o ops ih => exact ih (hh.apply o)

theorem Consistent.generation_after (hh : h.Consistent) (ops : List Op) (i : Nat) :
    (h.after ops).generation i = h.generation i + UInt32.ofNat (h.reclaims i ops) := by
  induction ops generalizing h with
  | nil => exact (UInt32.add_zero _).symm
  | cons o ops ih =>
    have rest := ih (hh.apply o)
    rw [hh.generation_apply, UInt32.add_assoc] at rest
    refine rest.trans ?_
    rw [reclaims, UInt32.ofNat_add]
    split <;> rfl

theorem Consistent.generation_issued (hh : h.Consistent) (ops : List Op) {i k : Nat} {r : Ref}
    (hr : ((h.issued ops).filter (·.index = i))[k]? = some r) :
    r.generation = h.nextGeneration i + UInt32.ofNat k := by
  induction ops generalizing h k with
  | nil => simp [issued] at hr
  | cons o ops ih =>
    have next := hh.nextGeneration_apply o i
    rw [issued, List.filter_append] at hr
    cases hi : o.issued? h with
    | none =>
      rw [hi] at hr next
      rw [ih (hh.apply o) hr, next]
      simp
    | some s =>
      rw [hi] at hr next
      by_cases here : s.index = i
      -- This reference is the first to the place, and has its next generation; the later ones are
      -- counted from the one after that.
      · simp only [Option.toList_some, List.filter_singleton, here, decide_true, cond_true,
          List.singleton_append] at hr
        cases k with
        | zero =>
          obtain rfl : s = r := by simpa using hr
          rw [hh.generation_issued? hi, here]
          exact (UInt32.add_zero _).symm
        | succ k =>
          rw [ih (hh.apply o) hr, next]
          simp [here, UInt32.add_assoc, UInt32.ofNat_add, UInt32.add_comm 1]
      · rw [ih (hh.apply o) (k := k) (by simpa [here] using hr), next]
        simp [here]

theorem add_ofNat_eq_self_iff (g : UInt32) (n : Nat) : g + UInt32.ofNat n = g ↔ 2 ^ 32 ∣ n := by
  have small := g.toNat_lt
  rw [← UInt32.toNat_inj, UInt32.toNat_add, UInt32.toNat_ofNat']
  omega

theorem index_lt_capacity (hh : h.Consistent) (header : Header) (object : Object) :
    (h.allocate header object).1.index < (h.allocate header object).2.capacity := by
  have placed := hh.getElem?_allocate header object (h.allocate header object).1.index
  rw [if_pos rfl] at placed
  exact (Array.getElem?_eq_some_iff.mp placed).1

theorem capacity_le_capacity_apply (h : Heap) (o : Op) : h.capacity ≤ (o.apply h).capacity := by
  cases o with
  | allocate header object =>
    rw [Op.apply, allocate]
    split <;> simp [capacity]
  | setHeader | setObject | clearMarks | sweep =>
    simp [Op.apply, capacity, modifyHeader, setObject, modify, clearMarks, sweep]
  | mark r =>
    cases hm : h.mark? r with
    | none => simp [Op.apply, hm]
    | some h' =>
      obtain ⟨-, rfl⟩ := mark?_eq_some_iff.mp hm
      simp [Op.apply, hm, capacity, modifyHeader, modify]

theorem capacity_le_capacity_after (h : Heap) (ops : List Op) :
    h.capacity ≤ (h.after ops).capacity := by
  induction ops generalizing h with
  | nil => exact Nat.le_refl _
  | cons o ops ih => exact (capacity_le_capacity_apply h o).trans (ih (o.apply h))

def granted (before : List Op) (header : Header) (object : Object) : Ref :=
  ((run before).allocate header object).1

section

variable (before since : List Op) (header : Header) (object : Object)

def later : Heap := run (before ++ .allocate header object :: since)

/-- How often those operations reclaim the place of the reference. -/
def reclaimsSince : Nat :=
  (run (before ++ [.allocate header object])).reclaims (granted before header object).index since

theorem later_eq_after :
    later before since header object = (run (before ++ [.allocate header object])).after since := by
  rw [later, run, run, after, List.foldl_append, List.foldl_concat, List.foldl_cons]

theorem generation_later :
    (later before since header object).generation (granted before header object).index =
      (granted before header object).generation +
        UInt32.ofNat (reclaimsSince before since header object) := by
  have start : (run (before ++ [.allocate header object])).generation
      (granted before header object).index = (granted before header object).generation := by
    rw [run_concat, Op.apply, (consistent_run before).generation_allocate_snd]
    exact (generation_allocate (run before) header object).symm
  rw [later_eq_after, (consistent_run _).generation_after, start, reclaimsSince]

theorem isLive_granted_iff :
    (later before since header object).isLive (granted before header object) ↔
      (later before since header object).IsOccupied (granted before header object).index ∧
        2 ^ 32 ∣ reclaimsSince before since header object := by
  rw [isLive_iff, generation_later, add_ofNat_eq_self_iff]

theorem index_granted_lt :
    (granted before header object).index < (later before since header object).capacity := by
  have placed := index_lt_capacity (consistent_run before) header object
  rw [later_eq_after, run_concat]
  exact placed.trans_le (capacity_le_capacity_after _ since)

/-- References to one place carry the numbers of their objects, up to the width of generations. So
a reference resolves exactly when its place has been reclaimed a multiple of that often since, and
is returned again only then. -/
theorem granted_resolves_iff :
    (∀ i k r, ((empty.issued before).filter (·.index = i))[k]? = some r →
      r.generation.toNat = k % 2 ^ 32) ∧
    ((later before since header object).isLive (granted before header object) ↔
      (later before since header object).IsOccupied (granted before header object).index ∧
        2 ^ 32 ∣ reclaimsSince before since header object) ∧
    (0 < reclaimsSince before since header object →
      reclaimsSince before since header object < 2 ^ 32 →
      (later before since header object).resident? (granted before header object) = none) ∧
    ∀ header' object',
      (((later before since header object).allocate header' object').1 =
          granted before header object ↔
        ((later before since header object).allocate header' object').1.index =
            (granted before header object).index ∧
          2 ^ 32 ∣ reclaimsSince before since header object) ∧
      (((later before since header object).allocate header' object').2.capacity ≤ 2 ^ 32 →
        (((later before since header object).allocate header' object').1.bits =
            (granted before header object).bits ↔
          ((later before since header object).allocate header' object').1 =
            granted before header object)) := by
  refine ⟨?_, isLive_granted_iff before since header object, ?_, fun header' object' => ⟨?_, ?_⟩⟩
  · intro i k r hr
    have first : empty.nextGeneration i = 0 := by
      simp [nextGeneration, generation, empty, IsOccupied]
    rw [consistent_empty.generation_issued before hr, first, UInt32.zero_add,
      UInt32.toNat_ofNat']
  · intro once few
    have dead : ¬(later before since header object).isLive (granted before header object) := by
      rw [isLive_granted_iff]
      rintro ⟨-, divides⟩
      exact absurd (Nat.le_of_dvd once divides) (Nat.not_le.mpr few)
    rwa [isLive, Option.not_isSome_iff_eq_none] at dead
  · have fresh := generation_allocate (later before since header object) header' object'
    constructor
    · intro same
      rw [same, generation_later, eq_comm, add_ofNat_eq_self_iff] at fresh
      exact ⟨congrArg Ref.index same, fresh⟩
    · rintro ⟨place, divides⟩
      rw [place, generation_later, (add_ofNat_eq_self_iff _ _).mpr divides] at fresh
      exact Ref.eq_iff.mpr ⟨place, fresh⟩
  · intro room
    -- The word gives 32 bits to the index, which must suffice for both places.
    have hh : (later before since header object).Consistent := consistent_run _
    have second := index_lt_capacity hh header' object'
    have first := (index_granted_lt before since header object).trans_le
      (capacity_le_capacity_apply _ (.allocate header' object'))
    constructor
    · exact Ref.bits_inj (second.trans_le room) (first.trans_le room)
    · exact congrArg Ref.bits

end

end Heap

end MarkSweep
