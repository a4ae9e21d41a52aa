import MarkSweep.Heap.Basic
import MarkSweep.Heap.Tally

namespace MarkSweep

namespace Place

def sweep (p : Place) : Place :=
  match p.resident with
  | none => p
  | some x =>
    if x.header.isMarked then
      { p with resident := some { x with header := x.header.clearMark } }
    else { p with generation := p.generation + 1, resident := none }

def vacated? (p : Place) : Option (Fin freeListCount) :=
  match p.resident with
  | none => none
  | some x => if x.header.isMarked then none else some (freeListOf x.object.footprint)

def tally (t : Tally) (p : Place) : Tally :=
  match p.resident with
  | none => t
  | some x => t.add x.header.kind x.header.isMarked p.reserved

end Place

namespace Heap

def released (free : Vector (List Nat) freeListCount) (places : List (Place × Nat)) :
    Vector (List Nat) freeListCount :=
  places.foldl (fun free (p, index) =>
    match p.vacated? with
    | some list => free.set list (index :: free[list])
    | none => free) free

def sweep (h : Heap) : Tally × Heap :=
  let tally := h.places.foldl Place.tally {}
  let outstanding := h.outstanding - tally.total.reclaimed.bytes
  (tally,
    { places := h.places.map Place.sweep
      free := released h.free h.places.toList.zipIdx
      outstanding
      peak := max h.peak outstanding
      live := h.live - tally.total.reclaimed.objects })

theorem getElem?_places_sweep (h : Heap) (i : Nat) :
    h.sweep.2.places[i]? = h.places[i]?.map Place.sweep :=
  Array.getElem?_map

end Heap

end MarkSweep
