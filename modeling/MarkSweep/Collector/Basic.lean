import MarkSweep.Collection.Event
import MarkSweep.Config
import MarkSweep.Heap.Sweep
import MarkSweep.Marking.Marker
import MarkSweep.Registry
import MarkSweep.Trail

namespace MarkSweep

structure Process where
  clock : Nat := 0
  markers : Array Marker := #[]
  defaults : Config := {}
  totals : Totals := {}
  nextCollection : Nat := 1
  log : Array Event := #[]

namespace Process

def marker (p : Process) (id : MarkerId) : Marker := p.markers.getD id default

def emit (p : Process) (events : List Event) : Process := { p with log := p.log ++ events }

def addMarker (p : Process) (m : Marker) : MarkerId × Process :=
  (p.markers.size, { p with markers := p.markers.push m })

def setMarker (p : Process) (id : MarkerId) (m : Marker) : Process :=
  { p with markers := p.markers.setIfInBounds id m }

end Process

structure WeakEntry where
  node : Ref
  valid : Bool
deriving DecidableEq, Repr

abbrev NodeMap := Std.TreeMap Ref Ref

structure Collector where
  heap : Heap := {}
  trail : Trail := {}
  keepAlive : Registry Ref := {}
  weakRefs : Registry WeakEntry := {}
  weakMaps : Registry NodeMap := {}
  roots : Registry MarkerId := {}
  interned : Std.TreeMap String Ref := ∅
  config : Config := {}
  threshold : Nat := config.threshold
  allocated : Nat := 0
  periodStart : Nat := 0
  collections : Nat := 0
  history : History := {}
  lockDepth : Nat := 0
deriving Inhabited

namespace Collector

def create (config : Config) (now : Nat) : Collector := { config, periodStart := now }

def isLocked (c : Collector) : Bool := 0 < c.lockDepth

def maxLockDepth : Nat := 0xffffffff

def lock (c : Collector) : Except Breach Unit × Collector :=
  if c.lockDepth < maxLockDepth then (.ok (), { c with lockDepth := c.lockDepth + 1 })
  else (.error .lockOverflow, c)

def unlock (c : Collector) : Except Breach Unit × Collector :=
  if c.isLocked then (.ok (), { c with lockDepth := c.lockDepth - 1 }) else (.error .notLocked, c)

def setTimeout (c : Collector) (milliseconds now : Nat) : Collector :=
  { c with config := c.config.withTimeout milliseconds, periodStart := now }

/-- The automatic collection that is due, if any. The threshold comes before the timeout. -/
def due (c : Collector) (now : Nat) : Option Trigger :=
  if c.threshold ≤ c.allocated then some .threshold
  else if c.config.timeout.any (· ≤ now - c.periodStart) then some .timeout
  else none

def describe (c : Collector) : String :=
  "Collector \x7b " ++ s!"lock_count: {c.lockDepth}, roots: {c.roots.size}, " ++
    s!"live_objects: {c.heap.live}, bytes_outstanding: {c.heap.outstanding}, " ++
    s!"max_mem: {c.heap.peak}, keep_alive: {c.keepAlive.size}, " ++
    s!"weak_refs: {c.weakRefs.size}, weak_maps: {c.weakMaps.size}, " ++
    s!"trail_depth: {c.trail.depth}, collections: {c.collections}, .. \x7d"

end Collector

end MarkSweep
