import MarkSweep.Fault

namespace MarkSweep

structure Kind where
  id : BitVec 7
deriving DecidableEq, Repr

namespace Kind

def free : Kind := ⟨0⟩

def chunk : Kind := ⟨1⟩

def vector : Kind := ⟨2⟩

def string : Kind := ⟨3⟩

def firstClient : Nat := 4

def maxId : Nat := 127

def ofByte (id : UInt8) : Except Fault Kind :=
  if id = 0 ∨ maxId < id.toNat then .error (.invalidKind id) else .ok ⟨.ofNat 7 id.toNat⟩

def isBuiltin (k : Kind) : Bool := k.id.toNat < firstClient

def display (k : Kind) : String :=
  if k = free then "free"
  else if k = chunk then "chunk"
  else if k = vector then "vector"
  else if k = string then "string"
  else s!"kind#{k.id.toNat}"

def describe (k : Kind) : String := s!"NodeKind({k.id.toNat})"

instance : Ord Kind where
  compare := compareOn fun k => k.id.toNat

instance : Std.TransOrd Kind :=
  inferInstanceAs (Std.TransCmp (compareOn fun k : Kind => k.id.toNat))

instance : Std.LawfulEqOrd Kind where
  eq_of_compare {a b} h := by
    have h' : compareOn (fun k : Kind => k.id.toNat) a b = .eq := h
    simp only [compareOn, Std.compare_eq_iff_eq, BitVec.toNat_inj] at h'
    cases a
    cases b
    simp_all

end Kind

end MarkSweep
