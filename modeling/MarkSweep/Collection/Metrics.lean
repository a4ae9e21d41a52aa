import MarkSweep.Heap.Tally

namespace MarkSweep

inductive Trigger where
  | unset
  | manual
  | threshold
  | timeout
deriving DecidableEq, Repr, Inhabited

def Trigger.display : Trigger → String
  | unset => "None"
  | manual => "Manual"
  | threshold => "Threshold"
  | timeout => "Timeout"

structure Metrics where
  trigger : Trigger := .unset
  ordinal : Nat := 0
  tally : Tally := {}
  rootsScanned : Nat := 0
  weakCleared : Nat := 0
  weakPruned : Nat := 0
deriving Inhabited

def historySize : Nat := 64

structure History where
  entries : List Metrics := []

namespace History

def push (h : History) (m : Metrics) : History where
  entries := (if h.entries.length = historySize then h.entries.tail else h.entries) ++ [m]

def latest? (h : History) : Option Metrics := h.entries.getLast?

def length (h : History) : Nat := h.entries.length

theorem latest?_push (h : History) (m : Metrics) : (h.push m).latest? = some m := by
  simp [latest?, push]

end History

structure Totals where
  collections : UInt64 := 0
  manualCollections : UInt64 := 0
  bytesReclaimed : UInt64 := 0
  objectsReclaimed : UInt64 := 0
deriving DecidableEq, Repr

def Totals.record (t : Totals) (m : Metrics) : Totals where
  collections := t.collections + 1
  manualCollections :=
    if m.trigger = .manual then t.manualCollections + 1 else t.manualCollections
  bytesReclaimed := t.bytesReclaimed + .ofNat m.tally.total.reclaimed.bytes
  objectsReclaimed := t.objectsReclaimed + .ofNat m.tally.total.reclaimed.objects

end MarkSweep
