import MarkSweep.Collector.Access

namespace MarkSweep

abbrev CollectorId := Nat

structure KeepAlive where
  collector : CollectorId
  key : Key
  node : Ref
deriving DecidableEq, Repr

structure WeakRef where
  collector : CollectorId
  key : Key
deriving DecidableEq, Repr

structure WeakMap where
  collector : CollectorId
  key : Key
deriving DecidableEq, Repr

structure Registration where
  collector : CollectorId
  key : Key
deriving DecidableEq, Repr

inductive Handle where
  | keep (k : KeepAlive)
  | weak (r : WeakRef)
  | map (m : WeakMap)
  | root (r : Registration)
deriving DecidableEq, Repr

end MarkSweep
