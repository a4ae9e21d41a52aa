import MarkSweep.Collector.Basic

/-!
Collections. The marks are cleared, everything reachable from the roots is marked, the rest is
swept, and weak observers of what went are dealt with. Nothing is reclaimed from a partial mark.
-/

namespace MarkSweep

namespace WeakEntry

def settle (heap : Heap) (e : WeakEntry) : WeakEntry :=
  { e with valid := e.valid && heap.isLive e.node }

def lapses (heap : Heap) (e : WeakEntry) : Bool := e.valid && !heap.isLive e.node

end WeakEntry

def NodeMap.prune (m : NodeMap) (heap : Heap) : NodeMap := m.filter fun key _ => heap.isLive key

namespace Collector

structure Marked where
  markers : Array Marker
  tracer : Tracer
  rootsScanned : Nat

def markPhase (c : Collector) (markers : Array Marker) (pinned : Option Ref) : Marked :=
  let (markers, t) := markRoots markers { heap := c.heap.clearMarks } c.roots.values
  if t.busy then { markers, tracer := t, rootsScanned := 0 }
  else
    let t := t.markAll c.keepAlive.values
    let t := t.markAll c.trail.priorNodes
    let t := t.markAll pinned.toList
    { markers, tracer := t.drain, rootsScanned := t.marked }

/-- Sweeps a marked heap and puts the collector in order for the time until the next collection. -/
def sweepPhase (c : Collector) (marked : Marked) (trigger : Trigger) (now : Nat) :
    Metrics × Collector :=
  let (tally, heap) := marked.tracer.heap.sweep
  let metrics : Metrics :=
    { trigger
      ordinal := c.collections + 1
      tally
      rootsScanned := marked.rootsScanned
      weakCleared := c.weakRefs.values.countP (WeakEntry.lapses heap)
      weakPruned := c.weakMaps.values.foldl (fun n m => n + (m.size - (m.prune heap).size)) 0 }
  (metrics,
    { c with
      heap
      weakRefs := c.weakRefs.mapValues (WeakEntry.settle heap)
      weakMaps := c.weakMaps.mapValues (·.prune heap)
      interned := c.interned.filter fun _ node => heap.isLive node
      threshold := c.config.nextThreshold c.threshold tally.total.surviving.bytes
      allocated := 0
      periodStart := now
      collections := c.collections + 1
      history := c.history.push metrics })

def markEvents (c : Collector) (trigger : Trigger) (id : Nat) : List Event :=
  [.enterCollect trigger id, .enterPhase .clear, .exitPhase, .enterPhase .mark,
    .phaseStart .mark c.heap.outstanding, .exitPhase]

def sweepEvents (before after : Collector) (m : Metrics) : List Event :=
  [.enterPhase .sweep, .phaseEnd .sweep m.tally.total.reclaimed.bytes, .enterPhase .weak,
    .phaseEnd .weak m.weakPruned, .exitPhase, .exitPhase] ++
  (if after.threshold = before.threshold then []
    else [.thresholdGrown before.threshold after.threshold]) ++
  [.exitCollect]

/-- Runs a collection, which a busy root refuses at once and a busy part of a root makes give up.
`pinned` is an object that has to survive and that no root may hold yet. -/
def collect (c : Collector) (p : Process) (trigger : Trigger) (pinned : Option Ref) :
    Except Fault Metrics × Collector × Process :=
  if c.roots.values.any fun id => (p.marker id).isBusy then (.error .rootBusy, c, p)
  else
    let id := p.nextCollection
    let marked := c.markPhase p.markers pinned
    let p := { p with markers := marked.markers, nextCollection := id + 1 }
    if marked.tracer.busy then
      (.error .rootBusy, { c with heap := marked.tracer.heap.clearMarks },
        p.emit (c.markEvents trigger id ++ [.exitCollect]))
    else
      let (metrics, after) := c.sweepPhase marked trigger p.clock
      (.ok metrics, after,
        { p with totals := p.totals.record metrics }.emit
          (c.markEvents trigger id ++ sweepEvents c after metrics))

def tryTrigger (c : Collector) (p : Process) : Except Fault Metrics × Collector × Process :=
  if c.isLocked then (.error (.locked c.lockDepth), c, p) else c.collect p .manual none

/-- Puts an object into the heap and then runs the automatic collection that is due, if one is. The
new object survives it. -/
def allocate (c : Collector) (p : Process) (header : Header) (object : Object) :
    Ref × Collector × Process :=
  let (node, heap) := c.heap.allocate header object
  let added := heap.outstanding - c.heap.outstanding
  let c := { c with heap, allocated := min maxWord (c.allocated + added) }
  match c.due p.clock with
  | none => (node, c, p)
  | some trigger =>
    if c.isLocked then (node, c, p.emit [.deferred .locked])
    else
      match c.collect p trigger (some node) with
      | (.ok _, c, p) => (node, c, p)
      | (.error _, c, p) => (node, c, p.emit [.deferred .rootBorrowed])

def intern (c : Collector) (p : Process) (text : String) : Ref × Collector × Process :=
  match c.interned[text]? with
  | some node => (node, c, p)
  | none =>
    let (node, c, p) := c.allocate p (.ofKind .string) (.chunk text.toUTF8)
    (node, { c with interned := c.interned.insert text node }, p)

def findInterned (c : Collector) (text : String) : Option Ref := c.interned[text]?

theorem collect_of_busy {c : Collector} {p : Process}
    (h : (c.roots.values.any fun id => (p.marker id).isBusy) = true) (trigger : Trigger)
    (pinned : Option Ref) : c.collect p trigger pinned = (.error .rootBusy, c, p) := by
  rw [collect, if_pos h]

theorem tryTrigger_of_locked {c : Collector} (h : c.isLocked = true) (p : Process) :
    c.tryTrigger p = (.error (.locked c.lockDepth), c, p) := by
  rw [tryTrigger, if_pos h]

end Collector

end MarkSweep
