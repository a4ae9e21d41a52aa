namespace MarkSweep

structure PhaseTimer where
  clear : Nat := 0
  mark : Nat := 0
  sweep : Nat := 0
  started : Option Nat := none
deriving DecidableEq, Repr

namespace PhaseTimer

def start (t : PhaseTimer) (now : Nat) : PhaseTimer := { t with started := some now }

def endClear (t : PhaseTimer) (now : Nat) : PhaseTimer :=
  match t.started with
  | some start => { t with clear := now - start, started := none }
  | none => t

def endMark (t : PhaseTimer) (now : Nat) : PhaseTimer :=
  match t.started with
  | some start => { t with mark := now - start, started := none }
  | none => t

def endSweep (t : PhaseTimer) (now : Nat) : PhaseTimer :=
  match t.started with
  | some start => { t with sweep := now - start, started := none }
  | none => t

end PhaseTimer

end MarkSweep
