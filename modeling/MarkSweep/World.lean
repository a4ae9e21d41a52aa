import MarkSweep.Collector.Collect
import MarkSweep.Handle.Basic

/-!
A process and its collectors, which are named by their position and never go away.
-/

namespace MarkSweep

structure World where
  process : Process := {}
  collectors : Array Collector := #[]
  owned : List (MarkerId × Handle) := []
  held : List MarkerId := []

namespace World

def collector (w : World) (id : CollectorId) : Collector := w.collectors.getD id default

def setCollector (w : World) (id : CollectorId) (c : Collector) : World :=
  { w with collectors := w.collectors.setIfInBounds id c }

def modifyCollector (w : World) (id : CollectorId) (f : Collector → Collector) : World :=
  w.setCollector id (f (w.collector id))

def addCollector (w : World) (config : Config) : CollectorId × World :=
  (w.collectors.size, { w with
    collectors := w.collectors.push (Collector.create config w.process.clock) })

def act {α : Type} (w : World) (id : CollectorId)
    (f : Collector → Process → α × Collector × Process) : α × World :=
  let (a, c, process) := f (w.collector id) w.process
  (a, { w with process }.setCollector id c)

def allocate (w : World) (id : CollectorId) (header : Header) (object : Object) : Ref × World :=
  w.act id fun c p => c.allocate p header object

def intern (w : World) (id : CollectorId) (text : String) : Ref × World :=
  w.act id fun c p => c.intern p text

def tryTrigger (w : World) (id : CollectorId) : Except Fault Metrics × World :=
  w.act id fun c p => c.tryTrigger p

def trigger (w : World) (id : CollectorId) : Except Breach Unit × World :=
  match w.tryTrigger id with
  | (.ok _, w) => (.ok (), w)
  | (.error f, w) => (.error (.refused f), w)

def sleep (w : World) (milliseconds : Nat) : World :=
  { w with process := { w.process with clock := w.process.clock + milliseconds } }

def setDefaults (w : World) (config : Config) : World :=
  { w with process := { w.process with defaults := config } }

def takeLog (w : World) : List Event × World :=
  (w.process.log.toList, { w with process := { w.process with log := #[] } })

theorem collector_setCollector {w : World} {id : CollectorId} (h : id < w.collectors.size)
    (c : Collector) (other : CollectorId) :
    (w.setCollector id c).collector other = if id = other then c else w.collector other := by
  simp only [collector, setCollector, Array.getD_eq_getD_getElem?, Array.getElem?_setIfInBounds]
  split <;> simp_all

theorem setCollector_collector (w : World) (id : CollectorId) :
    w.setCollector id (w.collector id) = w := by
  have same : w.collectors.setIfInBounds id (w.collector id) = w.collectors := by
    apply Array.ext_getElem?
    intro i
    rw [Array.getElem?_setIfInBounds]
    split
    case isTrue e =>
      subst e
      split
      case isTrue inside =>
        rw [collector, Array.getD_eq_getD_getElem?, Array.getElem?_eq_getElem inside]
        rfl
      case isFalse outside => rw [Array.getElem?_eq_none (Nat.not_lt.mp outside)]
    case isFalse => rfl
  rw [setCollector, same]

end World

end MarkSweep
