import MarkSweep.Handle.Drop

namespace MarkSweep

structure StringMap where
  rooted : Rooted
deriving DecidableEq, Repr

namespace StringMap

def create (w : World) (collector : CollectorId) : StringMap × World :=
  let (rooted, w) := Rooted.create w collector (.table .unused ∅)
  (⟨rooted⟩, w)

def collector (m : StringMap) (w : World) : Collector := w.collector m.rooted.owner

def drop (m : StringMap) (w : World) : Fallout × World := m.rooted.drop w

def entries (m : StringMap) (w : World) : Borrow × Std.TreeMap Ref Traced :=
  match w.process.marker m.rooted.marker with
  | .table borrow entries => (borrow, entries)
  | _ => (.unused, ∅)

def setEntries (m : StringMap) (w : World) (entries : Std.TreeMap Ref Traced) : World :=
  w.setMarker m.rooted.marker (.table (m.entries w).1 entries)

def alter (m : StringMap) (w : World) (node : Ref) (value : Option Traced) :
    Except Failure (Option Traced) × World :=
  let (borrow, entries) := m.entries w
  match borrow.acquire .exclusive with
  | .error e => (.error e, w)
  | .ok _ => (.ok entries[node]?, m.setEntries w (entries.alter node fun _ => value))

/-- Maps a text to a value. The text is interned first, which may run a collection. -/
def insert (m : StringMap) (w : World) (key : String) (value : Traced) :
    Except Failure (Option Traced) × World :=
  let (node, w) := w.intern m.rooted.owner key
  m.alter w node (some value)

def find? (m : StringMap) (w : World) (key : String) : Option Traced :=
  ((m.collector w).findInterned key).bind fun node => (m.entries w).2[node]?

def erase (m : StringMap) (w : World) (key : String) : Except Failure (Option Traced) × World :=
  match (m.collector w).findInterned key with
  | some node => m.alter w node none
  | none => (.ok none, w)

def size (m : StringMap) (w : World) : Nat := (m.entries w).2.size

def keys (m : StringMap) (w : World) : List String :=
  (m.entries w).2.keys.filterMap (m.collector w).string?

def describe (m : StringMap) (w : World) : String :=
  s!"ManagedStringMap \x7b len: {m.size w}, .. \x7d"

end StringMap

end MarkSweep
