import MarkSweep.Heap.SizeClass
import MarkSweep.Node.Header
import MarkSweep.Node.Object

/-!
The heap: an arena of places that never move. A place holds at most one object. When its object is
reclaimed its generation goes up, so that references issued for that object no longer resolve, and
the place waits on the free list of its size for another object.
-/

namespace MarkSweep

structure Resident where
  header : Header
  object : Object

structure Place where
  generation : UInt32
  reserved : Nat
  resident : Option Resident

structure Heap where
  places : Array Place := #[]
  free : Vector (List Nat) freeListCount := Vector.replicate freeListCount []
  outstanding : Nat := 0
  peak : Nat := 0
  live : Nat := 0

namespace Place

def clearMark (p : Place) : Place :=
  { p with resident := p.resident.map fun x => { x with header := x.header.clearMark } }

def isUnmarked (p : Place) : Bool := p.resident.any fun x => !x.header.isMarked

end Place

namespace Heap

def empty : Heap := {}

def capacity (h : Heap) : Nat := h.places.size

def resident? (h : Heap) (r : Ref) : Option Resident :=
  match h.places[r.index]? with
  | some p => if p.generation = r.generation then p.resident else none
  | none => none

def isLive (h : Heap) (r : Ref) : Bool := (h.resident? r).isSome

def header? (h : Heap) (r : Ref) : Option Header := (h.resident? r).map (·.header)

def object? (h : Heap) (r : Ref) : Option Object := (h.resident? r).map (·.object)

def isMarked (h : Heap) (r : Ref) : Bool := (h.resident? r).any (·.header.isMarked)

def edges (h : Heap) (r : Ref) : List Ref := ((h.object? r).map Object.edges).getD []

def allocate (h : Heap) (header : Header) (object : Object) : Ref × Heap :=
  let block := blockSize object.footprint
  let list := freeListOf object.footprint
  let resident := some ⟨header, object⟩
  let outstanding := h.outstanding + block
  let peak := max h.peak outstanding
  let live := h.live + 1
  match h.free[list] with
  | index :: rest =>
    let generation := (h.places[index]?.map (·.generation)).getD 0
    let places := h.places.modify index fun p => { p with reserved := block, resident }
    (⟨index, generation⟩, { places, free := h.free.set list rest, outstanding, peak, live })
  | [] =>
    (⟨h.places.size, 0⟩,
      { places := h.places.push ⟨0, block, resident⟩, free := h.free, outstanding, peak, live })

def modify (h : Heap) (r : Ref) (f : Resident → Resident) : Heap :=
  { h with
    places := h.places.modify r.index fun p =>
      if p.generation = r.generation then { p with resident := p.resident.map f } else p }

def modifyHeader (h : Heap) (r : Ref) (f : Header → Header) : Heap :=
  h.modify r fun x => { x with header := f x.header }

def setObject (h : Heap) (r : Ref) (object : Object) : Heap :=
  h.modify r fun x => { x with object }

def mark? (h : Heap) (r : Ref) : Option Heap :=
  match h.resident? r with
  | some x => if x.header.isMarked then none else some (h.modifyHeader r Header.mark)
  | none => none

def clearMarks (h : Heap) : Heap := { h with places := h.places.map Place.clearMark }

def unmarked (h : Heap) : Nat := h.places.countP Place.isUnmarked

def residents (h : Heap) : List (Ref × Resident) :=
  h.places.toList.zipIdx.filterMap fun (p, index) =>
    p.resident.map fun x => (⟨index, p.generation⟩, x)

theorem resident?_eq_some_iff {h : Heap} {r : Ref} {x : Resident} :
    h.resident? r = some x ↔
      ∃ p, h.places[r.index]? = some p ∧ p.generation = r.generation ∧ p.resident = some x := by
  rw [resident?]
  split <;> simp_all

theorem resident?_modify (h : Heap) (r s : Ref) (f : Resident → Resident) :
    (h.modify r f).resident? s = if r = s then (h.resident? s).map f else h.resident? s := by
  simp only [modify, resident?, Array.getElem?_modify]
  by_cases hi : r.index = s.index
  case neg =>
    have : r ≠ s := fun e => hi (congrArg Ref.index e)
    simp [hi, this]
  case pos =>
    by_cases hg : r.generation = s.generation
    case pos =>
      have : r = s := by cases r; cases s; simp_all
      subst this
      cases h.places[r.index]? with
      | none => simp
      | some p => by_cases hp : p.generation = r.generation <;> simp [hp]
    case neg =>
      have : r ≠ s := fun e => hg (congrArg Ref.generation e)
      rw [if_pos hi, if_neg this]
      cases h.places[s.index]? with
      | none => rfl
      | some p =>
        by_cases hp : p.generation = r.generation
        case pos =>
          have hs : p.generation ≠ s.generation := fun e => hg (hp.symm.trans e)
          simp only [Option.map_some, if_pos hp, if_neg hs]
        case neg => simp only [Option.map_some, if_neg hp]

theorem mark?_eq_some_iff {h h' : Heap} {r : Ref} :
    h.mark? r = some h' ↔
      (∃ x, h.resident? r = some x ∧ x.header.isMarked = false) ∧
        h' = h.modifyHeader r Header.mark := by
  rw [mark?]
  cases h.resident? r with
  | none => simp
  | some x => cases hm : x.header.isMarked <;> simp [hm, eq_comm (a := h')]

theorem unmarked_of_mark? {h h' : Heap} {r : Ref} (hm : h.mark? r = some h') :
    h'.unmarked + 1 = h.unmarked := by
  obtain ⟨⟨x, hx, hu⟩, rfl⟩ := mark?_eq_some_iff.mp hm
  obtain ⟨p, hp, hg, hr⟩ := resident?_eq_some_iff.mp hx
  obtain ⟨hi, rfl⟩ := Array.getElem?_eq_some_iff.mp hp
  have before : h.places[r.index].isUnmarked = true := by simp [Place.isUnmarked, hr, hu]
  have marked : x.header.mark.isMarked = true := by
    rw [Header.isMarked_eq]
    simp [Header.mark, Header.markMask]
  have positive : 0 < h.places.countP Place.isUnmarked :=
    Array.countP_pos_iff.mpr ⟨_, Array.getElem_mem hi, before⟩
  have after : (h.modifyHeader r Header.mark).places =
      h.places.set r.index { h.places[r.index] with
        resident := some { x with header := x.header.mark } } hi := by
    apply Array.ext
    case h₁ => simp [modifyHeader, modify]
    case h₂ =>
      intro j _ _
      simp only [modifyHeader, modify, Array.getElem_modify, Array.getElem_set]
      split
      case isTrue e => subst e; simp [hg, hr]
      case isFalse => rfl
  have done : Place.isUnmarked { h.places[r.index] with
      resident := some { x with header := x.header.mark } } = false := by
    simp [Place.isUnmarked, marked]
  rw [unmarked, unmarked, after, Array.countP_set, if_pos before, done]
  simp
  omega

end Heap

end MarkSweep
