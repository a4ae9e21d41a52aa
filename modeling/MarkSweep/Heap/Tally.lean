import MarkSweep.Node.Kind
import Std.Data.TreeMap

namespace MarkSweep

structure Volume where
  objects : Nat := 0
  bytes : Nat := 0
deriving DecidableEq, Repr, Inhabited

def Volume.add (v : Volume) (bytes : Nat) : Volume := ⟨v.objects + 1, v.bytes + bytes⟩

structure Fate where
  surviving : Volume := {}
  reclaimed : Volume := {}
deriving DecidableEq, Repr, Inhabited

def Fate.add (f : Fate) (survives : Bool) (bytes : Nat) : Fate :=
  if survives then { f with surviving := f.surviving.add bytes }
  else { f with reclaimed := f.reclaimed.add bytes }

structure Tally where
  total : Fate := {}
  kinds : Std.TreeMap Kind Fate := ∅
deriving Inhabited

def Tally.add (t : Tally) (kind : Kind) (survives : Bool) (bytes : Nat) : Tally where
  total := t.total.add survives bytes
  kinds := t.kinds.alter kind fun fate => some ((fate.getD {}).add survives bytes)

theorem Tally.getElem?_kinds_add (t : Tally) (kind other : Kind) (survives : Bool) (bytes : Nat) :
    (t.add kind survives bytes).kinds[other]? =
      if kind = other then some ((t.kinds[kind]?.getD {}).add survives bytes)
      else t.kinds[other]? := by
  simp [Tally.add, Std.TreeMap.getElem?_alter]

end MarkSweep
