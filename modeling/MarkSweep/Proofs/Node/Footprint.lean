import MarkSweep.Node.Object
import Mathlib.Algebra.Group.Nat.Defs
import Mathlib.Order.Bounds.Basic

namespace MarkSweep

theorem isLeast_roundUp8 (n : Nat) : IsLeast {m | 8 ∣ m ∧ n ≤ m} (roundUp8 n) := by
  constructor
  · exact ⟨Nat.dvd_mul_left 8 _, le_roundUp8 n⟩
  · rintro m ⟨aligned, above⟩
    exact roundUp8_le above (Nat.mod_eq_zero_of_dvd aligned)

def Object.payloadBytes : Object → Nat
  | chunk bytes => bytes.size
  | vector slots => slots.size * slotBytes

theorem Object.footprint_eq (o : Object) :
    o.footprint = roundUp8 (headerBytes + o.payloadBytes) := by
  cases o <;> rfl

theorem Object.isLeast_footprint (o : Object) :
    IsLeast {n | 8 ∣ n ∧ headerBytes + o.payloadBytes ≤ n} o.footprint := by
  rw [o.footprint_eq]
  exact isLeast_roundUp8 _

variable {w : Nat}

def roundUpWord (n : BitVec w) : BitVec w := (n + 7#w) &&& ~~~7#w

theorem toNat_and_not_seven (n : BitVec w) : (n &&& ~~~7#w).toNat = n.toNat / 8 * 8 := by
  have cleared : n &&& ~~~7#w = n >>> 3 <<< 3 := by
    apply BitVec.eq_of_getLsbD_eq
    intro i hi
    have low : (7#w).getLsbD i = decide (i < 3) := by
      rw [BitVec.getLsbD_ofNat, decide_eq_true hi, Bool.true_and]
      exact Nat.testBit_two_pow_sub_one 3 i
    rw [BitVec.getLsbD_and, BitVec.getLsbD_not, low, BitVec.getLsbD_shiftLeft,
      BitVec.getLsbD_ushiftRight]
    by_cases small : i < 3
    · simp [small]
    · simp [small, hi, Nat.add_sub_of_le (Nat.not_lt.mp small)]
  have below : n.toNat / 8 * 8 < 2 ^ w := (Nat.div_mul_le_self _ 8).trans_lt n.isLt
  rw [cleared, BitVec.toNat_shiftLeft, BitVec.toNat_ushiftRight, Nat.shiftRight_eq_div_pow,
    Nat.shiftLeft_eq, Nat.mod_eq_of_lt below]

theorem toNat_roundUpWord {n : BitVec w} (room : n.toNat + 7 < 2 ^ w) :
    (roundUpWord n).toNat = roundUp8 n.toNat := by
  have seven : (7#w).toNat = 7 := Nat.mod_eq_of_lt (by omega)
  rw [roundUpWord, toNat_and_not_seven, BitVec.toNat_add, seven, Nat.mod_eq_of_lt room, roundUp8]

def Object.payloadWord (w : Nat) : Object → BitVec w
  | chunk bytes => .ofNat w bytes.size
  | vector slots => .ofNat w slots.size * .ofNat w slotBytes

def Object.footprintWord (w : Nat) (o : Object) : BitVec w :=
  roundUpWord (.ofNat w headerBytes + o.payloadWord w)

theorem Object.payloadWord_eq (w : Nat) (o : Object) :
    o.payloadWord w = .ofNat w o.payloadBytes := by
  cases o with
  | chunk bytes => rfl
  | vector slots => exact (BitVec.ofNat_mul _ _).symm

theorem Object.toNat_footprintWord {o : Object}
    (room : headerBytes + o.payloadBytes + 7 < 2 ^ w) :
    (o.footprintWord w).toNat = o.footprint := by
  have charged : (BitVec.ofNat w headerBytes + o.payloadWord w).toNat =
      headerBytes + o.payloadBytes := by
    rw [o.payloadWord_eq, ← BitVec.ofNat_add]
    exact Nat.mod_eq_of_lt (by omega)
  rw [footprintWord, toNat_roundUpWord (by rwa [charged]), charged, o.footprint_eq]

theorem Object.charge_lt {o : Object} (word : 16 ≤ w) (fits : o.payloadBytes < 2 ^ (w - 1)) :
    headerBytes + o.payloadBytes + 7 < 2 ^ w := by
  have halves : 2 ^ (w - 1) + 2 ^ (w - 1) = 2 ^ w := Nat.two_pow_pred_add_two_pow_pred (by omega)
  have least : 2 ^ 15 ≤ 2 ^ (w - 1) := Nat.pow_le_pow_right (by decide) (by omega)
  rw [headerBytes]
  omega

end MarkSweep
