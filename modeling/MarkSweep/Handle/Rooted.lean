import MarkSweep.World

namespace MarkSweep

namespace Registration

def create (w : World) (collector : CollectorId) (marker : MarkerId) : Registration × World :=
  let (key, roots) := (w.collector collector).roots.insert marker
  (⟨collector, key⟩, w.modifyCollector collector fun c => { c with roots })

def erase (r : Registration) (w : World) : World :=
  w.modifyCollector r.collector fun c => { c with roots := c.roots.erase r.key }

def describe (r : Registration) : String :=
  "RootRegistration \x7b key: RootKey(" ++ r.key.display ++ "), .. \x7d"

end Registration

namespace World

def setMarker (w : World) (id : MarkerId) (m : Marker) : World :=
  { w with process := w.process.setMarker id m }

def addMarker (w : World) (m : Marker) : MarkerId × World :=
  let (id, process) := w.process.addMarker m
  (id, { w with process })

end World

structure Rooted where
  marker : MarkerId
  registration : Registration
deriving DecidableEq, Repr

namespace Rooted

def create (w : World) (collector : CollectorId) (m : Marker) : Rooted × World :=
  let (marker, w) := w.addMarker m
  let (registration, w) := Registration.create w collector marker
  (⟨marker, registration⟩, w)

def ofContent (w : World) (collector : CollectorId) (content : Traced) : Rooted × World :=
  create w collector (.rooted .unused content)

def owner (r : Rooted) : CollectorId := r.registration.collector

def cell (r : Rooted) (w : World) : Borrow × Traced :=
  match w.process.marker r.marker with
  | .rooted borrow content => (borrow, content)
  | .table borrow entries => (borrow, Marker.tableContent entries)
  | .probe _ => (.unused, .inert)

def setBorrow (r : Rooted) (w : World) (borrow : Borrow) : World :=
  match w.process.marker r.marker with
  | .rooted _ content => w.setMarker r.marker (.rooted borrow content)
  | .table _ entries => w.setMarker r.marker (.table borrow entries)
  | .probe _ => w

def setContent (r : Rooted) (w : World) (content : Traced) : World :=
  w.setMarker r.marker (.rooted (r.cell w).1 content)

def acquire (r : Rooted) (w : World) (a : Access) : Except Failure World := do
  let borrow ← (r.cell w).1.acquire a
  pure (r.setBorrow w borrow)

def release (r : Rooted) (w : World) (a : Access) : World :=
  r.setBorrow w ((r.cell w).1.release a)

def read (r : Rooted) (w : World) : Except Failure Traced := do
  let _ ← (r.cell w).1.acquire .shared
  pure (r.cell w).2

def replace (r : Rooted) (w : World) (content : Traced) : Except Failure (Traced × World) := do
  let _ ← (r.cell w).1.acquire .exclusive
  pure ((r.cell w).2, r.setContent w content)

def push (r : Rooted) (w : World) (node : Ref) : Except Failure World := do
  let (content, w) ← r.replace w .inert
  pure (r.setContent w (content.push node))

def modifyCell (r : Rooted) (w : World) (i : Nat)
    (f : Borrow → Traced → Except Failure (Borrow × Traced)) : Except Failure World := do
  let content ← r.read w
  let content ← content.modifyCell i f
  pure (r.setContent w content)

def pushToCell (r : Rooted) (w : World) (i : Nat) (node : Ref) : Except Failure World :=
  r.modifyCell w i fun borrow content => do
    let _ ← borrow.acquire .exclusive
    pure (borrow, content.push node)

def acquireCell (r : Rooted) (w : World) (i : Nat) (a : Access) : Except Failure World := do
  let w ← r.acquire w .shared
  r.modifyCell w i fun borrow content => do
    let borrow ← borrow.acquire a
    pure (borrow, content)

def releaseCell (r : Rooted) (w : World) (i : Nat) (a : Access) : World :=
  let free := r.modifyCell w i fun borrow content => pure (borrow.release a, content)
  r.release (free.toOption.getD w) .shared

def describe (r : Rooted) (w : World) : String :=
  let (borrow, content) := r.cell w
  "Rooted(" ++ (Traced.cell borrow content).describe ++ ")"

end Rooted

end MarkSweep
