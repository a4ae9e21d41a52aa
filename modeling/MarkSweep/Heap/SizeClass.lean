namespace MarkSweep

def sizeClasses : List Nat := [16, 32, 64, 128, 256, 512, 1024, 2048]

def maxSmallSize : Nat := 2048

def sizeClass? (size : Nat) : Option Nat := sizeClasses.find? (size ≤ ·)

def blockSize (size : Nat) : Nat := (sizeClass? size).getD size

def freeListCount : Nat := sizeClasses.length + 1

def freeListOf (size : Nat) : Fin freeListCount :=
  ⟨sizeClasses.findIdx (size ≤ ·), Nat.lt_succ_of_le List.findIdx_le_length⟩

theorem le_blockSize (size : Nat) : size ≤ blockSize size := by
  rw [blockSize]
  cases h : sizeClass? size with
  | none => exact Nat.le_refl size
  | some c => simpa using List.find?_some h

theorem sizeClass?_eq_none_iff {size : Nat} : sizeClass? size = none ↔ maxSmallSize < size := by
  simp [sizeClass?, sizeClasses, maxSmallSize]
  omega

end MarkSweep
