import MarkSweep.Handle.KeepAlive
import MarkSweep.Handle.StringMap
import MarkSweep.Handle.Weak

namespace MarkSweep

structure Summary where
  lockDepth : Nat
  roots : Nat
  live : Nat
  outstanding : Nat
  peak : Nat
  collections : Nat
  threshold : Nat
  trailDepth : Nat
  trailLength : Nat
  interned : Nat
deriving DecidableEq, Repr

def Collector.summary (c : Collector) : Summary where
  lockDepth := c.lockDepth
  roots := c.roots.size
  live := c.heap.live
  outstanding := c.heap.outstanding
  peak := c.heap.peak
  collections := c.collections
  threshold := c.threshold
  trailDepth := c.trail.depth
  trailLength := c.trail.length
  interned := c.interned.size

structure Inspection where
  live : Bool
  header : Option Header
  kind : Option Kind
  length : Option Nat
  isVector : Bool
  slots : Option (Array Slot)
  bytes : Option ByteArray
  text : Option String
  flags : List (Option Bool)

def Collector.inspect (c : Collector) (r : Ref) : Inspection where
  live := c.isLive r
  header := c.header? r
  kind := c.kind? r
  length := c.length? r
  isVector := c.isVector r
  slots := c.slots? r
  bytes := c.bytes? r
  text := c.string? r
  flags := [c.flag? r .one, c.flag? r .two]

inductive ScopeEnd where
  | finished
  | bailed
  | failed (breach : Breach)
deriving DecidableEq, Repr

inductive Reply where
  | done
  | truth (b : Bool)
  | truths (bs : List Bool)
  | count (n : Nat)
  | text (s : Option String)
  | milliseconds (n : Option Nat)
  | node (r : Option Ref)
  | nodes (rs : Option (List Ref))
  | cells (rss : List (List Ref))
  | slot (s : Option Slot)
  | config (c : Config)
  | metrics (m : Option Metrics)
  | history (ms : List Metrics)
  | totals (t : Totals)
  | events (es : List Event)
  | inspection (i : Inspection)
  | reference (r : Ref)
  | comparison (a b : Ref)
  | keepAlive (k : KeepAlive) (own : Bool)
  | moved (k : KeepAlive) (own : Bool)
  | weak (target : Option Ref) (own : Bool) (description : String)
  | found (r : Option Ref)
  | entries (es : List (Ref × Ref)) (description : String)
  | lookup (value : Option (List Ref)) (contains : Bool)
  | keys (ks : List String) (size : Nat) (description : String)
  | visits (vs : List Visit)
  | registration (own : Bool) (description : String)
  | steps (results : List (Except Failure Reply × Summary))
  | scope (results : List (Except Failure Reply × Summary)) (ending : ScopeEnd)
  | heldEntry (value : Option (List Ref)) (results : List (Except Failure Reply × Summary))
  | rounds (results : List (Except Failure Reply))

end MarkSweep
