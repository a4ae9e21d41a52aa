/-!
Binary64 numbers, as far as scaling a whole number by one goes. The rule is exact: the number is
rounded to 53 significant bits, so is its product with the factor, and what is left is truncated.
-/

namespace MarkSweep

def maxWord : Nat := 0xffffffffffffffff

structure Binary64 where
  bits : UInt64
deriving DecidableEq, Repr, Inhabited

namespace Binary64

def one : Binary64 := ⟨0x3ff0000000000000⟩

def two : Binary64 := ⟨0x4000000000000000⟩

def isNegative (x : Binary64) : Bool := 0x8000000000000000 ≤ x.bits.toNat

def biased (x : Binary64) : Nat := x.bits.toNat / 0x10000000000000 % 0x800

def fraction (x : Binary64) : Nat := x.bits.toNat % 0x10000000000000

def isNaN (x : Binary64) : Bool := x.biased == 2047 && x.fraction != 0

def isInfinite (x : Binary64) : Bool := x.biased == 2047 && x.fraction == 0

def significand (x : Binary64) : Nat :=
  if x.biased = 0 then x.fraction else 0x10000000000000 + x.fraction

def exponent (x : Binary64) : Int := if x.biased = 0 then -1074 else (x.biased : Int) - 1075

def leOne (x : Binary64) : Bool :=
  !x.isNaN && (x.isNegative || decide (x.bits ≤ one.bits))

/-- Rounds to 53 significant bits, and a tie to the even neighbour. -/
def round53 (n : Nat) : Nat :=
  let unit := 1 <<< (n.log2 - 52)
  let low := n / unit * unit
  if 2 * (n - low) < unit ∨ (2 * (n - low) = unit ∧ n / unit % 2 = 0) then low else low + unit

/-- The product `n * x`, truncated to a word. What exceeds the word becomes its largest number,
what is negative becomes zero, and so does NaN. -/
def scale (x : Binary64) (n : Nat) : Nat :=
  if x.isNaN || x.isNegative then 0
  else if x.isInfinite then if n = 0 then 0 else maxWord
  else
    let product := round53 (round53 n * x.significand)
    min maxWord (product <<< x.exponent.toNat >>> (-x.exponent).toNat)

theorem round53_of_lt {n : Nat} (h : n < 0x20000000000000) : round53 n = n := by
  have hl : n.log2 - 52 = 0 := by
    by_cases hn : n = 0
    case pos => subst hn; rfl
    case neg =>
      have := (Nat.log2_lt (k := 53) hn).mpr h
      omega
  simp [round53, hl]

end Binary64

end MarkSweep
