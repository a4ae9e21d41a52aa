namespace MarkSweep

structure Ref where
  index : Nat
  generation : UInt32
deriving DecidableEq, Repr, Inhabited

namespace Ref

instance : Ord Ref where
  compare := compareLex (compareOn index) (compareOn fun r => r.generation.toNat)

instance : Std.TransOrd Ref :=
  inferInstanceAs (Std.TransCmp (compareLex (compareOn index) (compareOn fun r => r.generation.toNat)))

instance : Std.LawfulEqOrd Ref where
  eq_of_compare {a b} h := by
    have h' : compareOn index a b = .eq ∧ compareOn (fun r => r.generation.toNat) a b = .eq := by
      simpa [compare, compareLex, Ordering.then_eq_eq] using h
    obtain ⟨hi, hg⟩ := h'
    simp only [compareOn, Std.compare_eq_iff_eq] at hi hg
    cases a
    cases b
    simp_all [UInt32.toNat_inj]

def sameSlot (a b : Ref) : Bool := a.index == b.index

def bits (r : Ref) : Nat := r.generation.toNat * 0x100000000 + r.index

def label (r : Ref) : String := s!"{r.index}v{r.generation}"

def display (r : Ref) : String := "#" ++ r.label

def describe (r : Ref) : String := "NodeRef(" ++ r.label ++ ")"

theorem bits_inj {a b : Ref} (ha : a.index < 0x100000000) (hb : b.index < 0x100000000)
    (h : a.bits = b.bits) : a = b := by
  cases a
  cases b
  simp only [bits] at *
  simp only [mk.injEq, ← UInt32.toNat_inj]
  omega

end Ref

end MarkSweep
