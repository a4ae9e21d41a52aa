import MarkSweep.Node.Ref

/-!
What can go wrong. A fault is an answer of an operation that could not be done; a breach is a
misuse that ends the step it happens in.
-/

namespace MarkSweep

inductive Fault where
  | locked (depth : Nat)
  | rootBusy
  | staleNode (node : Ref)
  | notAVector (node : Ref)
  | notAChunk (node : Ref)
  | slotOutOfBounds (node : Ref) (index length : Nat)
  | noCheckpoint
  | invalidKind (id : UInt8)
deriving DecidableEq, Repr

def Fault.message : Fault → String
  | .locked depth => s!"cannot collect while the collector is locked (lock depth {depth})"
  | .rootBusy => "cannot collect while a rooted aggregate is mutably borrowed"
  | .staleNode node => s!"node {node.display} is not live"
  | .notAVector node => s!"node {node.display} is not a vector"
  | .notAChunk node => s!"node {node.display} is not a chunk"
  | .slotOutOfBounds node index length =>
    s!"slot {index} out of bounds for node {node.display} of length {length}"
  | .noCheckpoint => "no open trail checkpoint"
  | .invalidKind id => s!"invalid node kind id {id}"

inductive Breach where
  | refused (fault : Fault)
  | notLocked
  | lockOverflow
  | cellOutOfBounds (index length : Nat)
  | raised (text : String)
deriving DecidableEq, Repr

def Breach.message : Breach → String
  | .refused fault => fault.message
  | .notLocked => "unlock() called on an unlocked collector"
  | .lockOverflow => "collector lock count overflow"
  | .cellOutOfBounds index length =>
    s!"index out of bounds: the len is {length} but the index is {index}"
  | .raised text => text

inductive Failure where
  | fault (f : Fault)
  | breach (b : Breach)
  | alreadyBorrowed
  | unbound (name : String)
deriving DecidableEq, Repr

end MarkSweep
