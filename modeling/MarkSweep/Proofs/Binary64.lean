import MarkSweep.Config
import Mathlib.Algebra.Order.Field.Power
import Mathlib.Algebra.Order.Floor.Semifield
import Mathlib.Data.Rat.Floor
import Mathlib.Tactic.FieldSimp
import Mathlib.Tactic.Linarith
import Mathlib.Tactic.NormNum
import Mathlib.Tactic.Positivity
import Mathlib.Tactic.Ring

namespace MarkSweep

namespace Binary64

def value (x : Binary64) : ℚ :=
  (if x.isNegative then -1 else 1) * x.significand * 2 ^ x.exponent

def Exceeds (x : Binary64) (bound : ℚ) : Prop :=
  x.isNaN = false ∧ if x.isInfinite then x.isNegative = false else bound < x.value

/-- The second number is the first in 53 significant bits, a tie going to the even neighbour. -/
inductive Rounds : ℚ → ℚ → Prop where
  | zero : Rounds 0 0
  | units {x : ℚ} (m : Nat) (e : Int) : 2 ^ 52 * 2 ^ e ≤ x → x < 2 ^ 53 * 2 ^ e →
    |x - m * 2 ^ e| ≤ 2 ^ e / 2 → (|x - m * 2 ^ e| = 2 ^ e / 2 → Even m) → Rounds x (m * 2 ^ e)

/-- What scaling a whole number gives, from the rounded number to the rounded product, which is cut
off at the largest word. -/
inductive Scales (x : Binary64) (n : Nat) : Nat → Prop where
  | nan : x.isNaN → Scales x n 0
  | infinite : x.isInfinite → x.isNegative = false → Scales x n (if n = 0 then 0 else maxWord)
  | finite {a p : ℚ} : x.isNaN = false → x.isInfinite = false → Rounds n a →
    Rounds (a * x.value) p → Scales x n (min maxWord ⌊p⌋₊)

theorem Rounds.mul_zpow {x q : ℚ} (h : Rounds x q) (k : Int) : Rounds (x * 2 ^ k) (q * 2 ^ k) := by
  have positive : (0 : ℚ) < 2 ^ k := by positivity
  cases h with
  | zero => simpa using Rounds.zero
  | units m e low high near tie =>
    have power : (2 : ℚ) ^ (e + k) = 2 ^ e * 2 ^ k := zpow_add₀ (by norm_num) e k
    have apart : x * 2 ^ k - m * 2 ^ (e + k) = (x - m * 2 ^ e) * 2 ^ k := by rw [power]; ring
    have gap : |x * 2 ^ k - m * 2 ^ (e + k)| = |x - m * 2 ^ e| * 2 ^ k := by
      rw [apart, abs_mul, abs_of_pos positive]
    have half : (2 : ℚ) ^ (e + k) / 2 = 2 ^ e / 2 * 2 ^ k := by rw [power]; ring
    rw [mul_assoc, ← power]
    refine .units m (e + k) ?_ ?_ ?_ ?_
    · rw [power, ← mul_assoc]
      exact mul_le_mul_of_nonneg_right low positive.le
    · rw [power, ← mul_assoc]
      exact mul_lt_mul_of_pos_right high positive
    · rw [gap, half]
      exact mul_le_mul_of_nonneg_right near positive.le
    · rw [gap, half]
      exact fun same => tie (mul_right_cancel₀ positive.ne' same)

section

variable {x q : ℚ}

theorem units_bounds {m : Nat} {e : Int} (low : 2 ^ 52 * 2 ^ e ≤ x) (high : x < 2 ^ 53 * 2 ^ e)
    (near : |x - m * 2 ^ e| ≤ 2 ^ e / 2) : 2 ^ 52 ≤ m ∧ m ≤ 2 ^ 53 := by
  have unit : (0 : ℚ) < 2 ^ e := by positivity
  obtain ⟨below, above⟩ := abs_le.mp near
  constructor
  · by_contra! few
    have few' : (m : ℚ) + 1 ≤ 2 ^ 52 := by exact_mod_cast few
    have := mul_le_mul_of_nonneg_right few' unit.le
    linarith
  · by_contra! many
    have many' : (2 : ℚ) ^ 53 + 1 ≤ m := by exact_mod_cast many
    have := mul_le_mul_of_nonneg_right many' unit.le
    linarith

theorem Rounds.le_of_le (h : Rounds x q) {k : Nat} {f : Int} (fits : k ≤ 2 ^ 53)
    (le : k * 2 ^ f ≤ x) : (k : ℚ) * 2 ^ f ≤ q := by
  cases h with
  | zero => exact le
  | units m e low high near tie =>
    have unit : (0 : ℚ) < 2 ^ e := by positivity
    obtain ⟨below, above⟩ := abs_le.mp near
    by_contra! passed
    rcases le_or_gt e f with coarse | fine
    · -- Both are multiples of the unit, of which rounding goes half at most.
      obtain ⟨d, rfl⟩ := Int.le.dest coarse
      have power : (2 : ℚ) ^ (e + (d : Int)) = 2 ^ d * 2 ^ e := by
        rw [zpow_add₀ (by norm_num), zpow_natCast, mul_comm]
      rw [power, ← mul_assoc] at passed le
      have step : (m : ℚ) < k * 2 ^ d := lt_of_mul_lt_mul_right passed unit.le
      have step' : (m : ℚ) + 1 ≤ k * 2 ^ d := by exact_mod_cast step
      have := mul_le_mul_of_nonneg_right step' unit.le
      linarith
    · -- The number is below all those that have this unit.
      have half : (2 : ℚ) ^ (e - 1) = 2 ^ e / 2 := by
        rw [zpow_sub_one₀ (by norm_num)]
        ring
      have power : (2 : ℚ) ^ f ≤ 2 ^ (e - 1) := zpow_le_zpow_right₀ (by norm_num) (by omega)
      have fits' : (k : ℚ) ≤ 2 ^ 53 := by exact_mod_cast fits
      have small := mul_le_mul fits' power (by positivity) (by norm_num)
      have many : (2 : ℚ) ^ 52 ≤ m := by exact_mod_cast (units_bounds low high near).1
      have large := mul_le_mul_of_nonneg_right many unit.le
      rw [half] at small
      linarith

theorem Rounds.le_rounded_mul {a p v : ℚ} (h : Rounds x a) (above : 1 + 2 ^ (-52 : Int) ≤ v)
    (product : Rounds (a * v) p) : x ≤ p := by
  cases h with
  | zero => simpa using product.le_of_le (k := 0) (f := 0) (by norm_num) (by simp)
  | units m e low high near tie =>
    have unit : (0 : ℚ) < 2 ^ e := by positivity
    obtain ⟨least, most⟩ := units_bounds low high near
    obtain ⟨-, close⟩ := abs_le.mp near
    have many : (2 : ℚ) ^ 52 ≤ m := by exact_mod_cast least
    -- The factor is worth a whole unit more, which outweighs what the first rounding took away.
    have worth : ((m : ℚ) + 1) * 2 ^ e ≤ m * 2 ^ e * v := by
      have gain : (m : ℚ) + 1 ≤ m * (1 + 2 ^ (-52 : Int)) := by
        norm_num
        linarith
      calc ((m : ℚ) + 1) * 2 ^ e ≤ m * (1 + 2 ^ (-52 : Int)) * 2 ^ e :=
            mul_le_mul_of_nonneg_right gain unit.le
        _ = m * 2 ^ e * (1 + 2 ^ (-52 : Int)) := by ring
        _ ≤ m * 2 ^ e * v := mul_le_mul_of_nonneg_left above (by positivity)
    rcases Nat.lt_or_ge m (2 ^ 53) with room | full
    · have reached := product.le_of_le (k := m + 1) (f := e) room (by exact_mod_cast worth)
      push_cast at reached
      linarith
    · have reached := product.le_of_le (k := m) (f := e) most (by linarith)
      have top : (2 : ℚ) ^ 53 ≤ m := by exact_mod_cast full
      have := mul_le_mul_of_nonneg_right top unit.le
      linarith

end

theorem rounds_of_near {n m k : Nat} (low : 2 ^ 52 * 2 ^ k ≤ n) (high : n < 2 ^ 53 * 2 ^ k)
    (above : 2 * n ≤ 2 * (m * 2 ^ k) + 2 ^ k) (below : 2 * (m * 2 ^ k) ≤ 2 * n + 2 ^ k)
    (tie : 2 * n = 2 * (m * 2 ^ k) + 2 ^ k ∨ 2 * (m * 2 ^ k) = 2 * n + 2 ^ k → Even m) :
    Rounds n (m * 2 ^ k : Nat) := by
  have above' : (2 : ℚ) * n ≤ 2 * (m * 2 ^ k) + 2 ^ k := by exact_mod_cast above
  have below' : (2 : ℚ) * (m * 2 ^ k) ≤ 2 * n + 2 ^ k := by exact_mod_cast below
  have rounds := Rounds.units (x := n) m k
  simp only [zpow_natCast] at rounds
  push_cast
  refine rounds ?_ ?_ ?_ fun same => tie ?_
  · exact_mod_cast low
  · exact_mod_cast high
  · rw [abs_le]
    constructor <;> linarith
  · rcases abs_cases ((n : ℚ) - m * 2 ^ k) with ⟨e, -⟩ | ⟨e, -⟩
    · left
      have : (2 : ℚ) * n = 2 * (m * 2 ^ k) + 2 ^ k := by linarith
      exact_mod_cast this
    · right
      have : (2 : ℚ) * (m * 2 ^ k) = 2 * n + 2 ^ k := by linarith
      exact_mod_cast this

theorem rounds_self {n : Nat} (few : n < 2 ^ 53) : Rounds n n := by
  rcases Nat.eq_zero_or_pos n with rfl | positive
  · simpa using Rounds.zero
  have low := Nat.log2_self_le positive.ne'
  have high := Nat.lt_log2_self (n := n)
  have small : n.log2 ≤ 52 := by
    have := (Nat.log2_lt (k := 53) positive.ne').mpr few
    omega
  have unit : (0 : ℚ) < 2 ^ ((n.log2 : Int) - 52) := by positivity
  have start : (2 : ℚ) ^ 52 * 2 ^ ((n.log2 : Int) - 52) = 2 ^ n.log2 := by
    rw [← zpow_natCast, ← zpow_natCast, ← zpow_add₀ (by norm_num)]
    congr 1
    omega
  have whole : ((n * 2 ^ (52 - n.log2) : Nat) : ℚ) * 2 ^ ((n.log2 : Int) - 52) = n := by
    have back : (2 : ℚ) ^ ((n.log2 : Int) - 52) = (2 ^ (52 - n.log2) : ℚ)⁻¹ := by
      rw [← zpow_natCast, ← zpow_neg]
      congr 1
      omega
    rw [back]
    push_cast
    field_simp
  have rounds := Rounds.units (x := n) (n * 2 ^ (52 - n.log2)) (n.log2 - 52)
  rw [whole, sub_self, abs_zero] at rounds
  refine rounds ?_ ?_ (by positivity) (fun tie => ?_)
  · rw [start]
    exact_mod_cast low
  · have double : (2 : ℚ) ^ 53 * 2 ^ ((n.log2 : Int) - 52) = 2 ^ (n.log2 + 1) := by
      rw [pow_succ, mul_right_comm, start, pow_succ]
    rw [double]
    exact_mod_cast high
  · linarith

theorem rounds_round53 (n : Nat) : Rounds n (round53 n) := by
  rcases Nat.lt_or_ge n (2 ^ 53) with few | many
  · rw [round53_of_lt few]
    exact rounds_self few
  have positive : n ≠ 0 := by omega
  have large : 53 ≤ n.log2 := (Nat.le_log2 positive).mpr many
  obtain ⟨k, hk⟩ := Nat.exists_eq_add_of_le' (Nat.le_of_succ_le large)
  have low : 2 ^ 52 * 2 ^ k ≤ n := by
    rw [← pow_add, Nat.add_comm, ← hk]
    exact Nat.log2_self_le positive
  have high : n < 2 ^ 53 * 2 ^ k := by
    rw [← pow_add, show 53 + k = n.log2 + 1 by omega]
    exact Nat.lt_log2_self
  have split := Nat.div_add_mod n (2 ^ k)
  have short := Nat.mod_lt n (Nat.two_pow_pos k)
  rw [Nat.mul_comm] at split
  have rest : n - n / 2 ^ k * 2 ^ k = n % 2 ^ k := by omega
  rw [round53, hk, Nat.add_sub_cancel, Nat.one_shiftLeft]
  simp only [rest]
  split
  case isTrue down =>
    apply rounds_of_near low high (by omega) (by omega)
    intro tie
    rw [Nat.even_iff]
    omega
  case isFalse up =>
    have next := Nat.add_one_mul (n / 2 ^ k) (2 ^ k)
    rw [← next]
    apply rounds_of_near low high (by omega) (by omega)
    intro tie
    rw [Nat.even_add_one, Nat.not_even_iff]
    omega

theorem shift_eq_floor (n : Nat) (e : Int) :
    n <<< e.toNat >>> (-e).toNat = ⌊(n : ℚ) * 2 ^ e⌋₊ := by
  rcases Int.eq_nat_or_neg e with ⟨k, rfl | rfl⟩
  · have none : (-(k : Int)).toNat = 0 := by omega
    have whole : (n : ℚ) * 2 ^ (k : Int) = (n * 2 ^ k : Nat) := by
      rw [zpow_natCast]
      push_cast
      rfl
    rw [none, whole, Nat.floor_natCast, Int.toNat_natCast, Nat.shiftLeft_eq, Nat.shiftRight_zero]
  · have none : (-(k : Int)).toNat = 0 := by omega
    have part : (n : ℚ) * 2 ^ (-(k : Int)) = n / (2 ^ k : Nat) := by
      rw [zpow_neg, zpow_natCast, div_eq_mul_inv]
      push_cast
      rfl
    rw [none, part, Nat.floor_div_eq_div, neg_neg, Int.toNat_natCast, Nat.shiftLeft_zero,
      Nat.shiftRight_eq_div_pow]

theorem exists_scale_eq {x : Binary64} (finite : x.isInfinite = false) (number : x.isNaN = false)
    (sign : x.isNegative = false) (n : Nat) :
    ∃ a p, Rounds n a ∧ Rounds (a * x.value) p ∧ x.scale n = min maxWord ⌊p⌋₊ := by
  refine ⟨round53 n, round53 (round53 n * x.significand) * 2 ^ x.exponent, rounds_round53 n, ?_, ?_⟩
  · have product := (rounds_round53 (round53 n * x.significand)).mul_zpow x.exponent
    rw [value, sign]
    push_cast at product
    simpa [mul_assoc] using product
  · rw [← shift_eq_floor]
    simp [scale, finite, number, sign]

section

variable {x : Binary64}

theorem isNegative_eq_false : x.isNegative = false ↔ x.bits.toNat < 0x8000000000000000 := by
  simp [isNegative]

theorem toNat_bits (sign : x.isNegative = false) :
    x.bits.toNat = x.biased * 0x10000000000000 + x.fraction := by
  rw [isNegative_eq_false] at sign
  rw [biased, fraction]
  omega

theorem value_le_zero (sign : x.isNegative = true) : x.value ≤ 0 := by
  have magnitude : (0 : ℚ) ≤ x.significand * 2 ^ x.exponent := by positivity
  rw [value, sign, if_pos rfl]
  linarith

theorem value_eq (sign : x.isNegative = false) : x.value = x.significand * 2 ^ x.exponent := by
  simp [value, sign]

theorem value_le_one (sign : x.isNegative = false) (le : x.bits ≤ one.bits) : x.value ≤ 1 := by
  have bits := toNat_bits sign
  have small : x.fraction < 0x10000000000000 := Nat.mod_lt _ (by decide)
  have unit : one.bits.toNat = 1023 * 0x10000000000000 := rfl
  rw [UInt64.le_iff_toNat_le, unit, bits] at le
  rw [value_eq sign, significand, exponent]
  by_cases top : x.biased = 1023
  · have none : x.fraction = 0 := by omega
    simp only [top, none]
    norm_num
  · have step : (if x.biased = 0 then -1074 else (x.biased : Int) - 1075) ≤ -53 := by
      split <;> omega
    have power := zpow_le_zpow_right₀ (show (1 : ℚ) ≤ 2 by norm_num) step
    have bound : (if x.biased = 0 then x.fraction else 0x10000000000000 + x.fraction) ≤ 2 ^ 53 := by
      split <;> omega
    have bound' : ((if x.biased = 0 then x.fraction else 0x10000000000000 + x.fraction : Nat) : ℚ) ≤
        2 ^ 53 := by exact_mod_cast bound
    calc _ ≤ (2 ^ 53 : ℚ) * 2 ^ (-53 : Int) := mul_le_mul bound' power (by positivity) (by norm_num)
      _ = 1 := by norm_num

theorem succ_one_le_value (sign : x.isNegative = false) (lt : one.bits < x.bits) :
    1 + 2 ^ (-52 : Int) ≤ x.value := by
  have bits := toNat_bits sign
  have small : x.fraction < 0x10000000000000 := Nat.mod_lt _ (by decide)
  have unit : one.bits.toNat = 1023 * 0x10000000000000 := rfl
  rw [UInt64.lt_iff_toNat_lt, unit, bits] at lt
  have normal : x.biased ≠ 0 := by omega
  rw [value_eq sign, significand, exponent, if_neg normal, if_neg normal]
  by_cases bottom : x.biased = 1023
  · have some : 1 ≤ x.fraction := by omega
    have some' : (1 : ℚ) ≤ x.fraction := by exact_mod_cast some
    have gap : ((x.biased : Int) - 1075) = -52 := by omega
    rw [gap]
    push_cast
    norm_num
    linarith
  · have power := zpow_le_zpow_right₀ (show (1 : ℚ) ≤ 2 by norm_num)
      (show -51 ≤ (x.biased : Int) - 1075 by omega)
    have some : (0 : ℚ) ≤ x.fraction := by positivity
    push_cast
    calc (1 : ℚ) + 2 ^ (-52 : Int) ≤ 0x10000000000000 * 2 ^ (-51 : Int) := by norm_num
      _ ≤ (0x10000000000000 + x.fraction) * 2 ^ ((x.biased : Int) - 1075) :=
        mul_le_mul (by linarith) power (by positivity) (by linarith)

theorem isNaN_of_le_one (le : x.bits ≤ one.bits) : x.isNaN = false ∧ x.isInfinite = false := by
  have unit : one.bits.toNat = 1023 * 0x10000000000000 := rfl
  rw [UInt64.le_iff_toNat_le, unit] at le
  have low : x.biased ≠ 2047 := by
    rw [biased]
    omega
  simp [isNaN, isInfinite, low]

theorem leOne_iff : x.leOne = true ↔ x.isNaN = false ∧ ¬x.Exceeds 1 := by
  rw [leOne, Exceeds]
  cases number : x.isNaN with
  | true => simp
  | false =>
    cases sign : x.isNegative with
    | true =>
      have low : ¬1 < x.value := by linarith [value_le_zero sign]
      cases x.isInfinite <;> simp [low]
    | false =>
      by_cases le : x.bits ≤ one.bits
      · have low := value_le_one sign le
        simp [le, (isNaN_of_le_one le).2, low]
      · have high := succ_one_le_value sign (UInt64.not_le.mp le)
        have above : 1 < x.value := lt_of_lt_of_le (by norm_num) high
        cases x.isInfinite <;> simp [above, le]

theorem Exceeds.isNegative_eq_false (above : x.Exceeds 1) : x.isNegative = false := by
  obtain ⟨-, above⟩ := above
  split at above
  · exact above
  · by_contra negative
    linarith [value_le_zero (Bool.eq_true_of_not_eq_false negative)]

theorem scales_of_exceeds (above : x.Exceeds 1) (n : Nat) : x.Scales n (x.scale n) := by
  have sign := above.isNegative_eq_false
  cases infinite : x.isInfinite with
  | true =>
    have top : x.scale n = if n = 0 then 0 else maxWord := by
      simp [scale, above.1, infinite, sign]
    rw [top]
    exact .infinite infinite sign
  | false =>
    obtain ⟨a, p, rounds, product, eq⟩ := exists_scale_eq infinite above.1 sign n
    rw [eq]
    exact .finite above.1 infinite rounds product

theorem le_scale (above : x.Exceeds 1) {n : Nat} (word : n ≤ maxWord) : n ≤ x.scale n := by
  have scales := scales_of_exceeds above n
  generalize x.scale n = k at scales
  cases scales with
  | nan nan => simp [above.1] at nan
  | infinite infinite sign =>
    split
    · omega
    · exact word
  | @finite a p number finite rounds product =>
    have sign := above.isNegative_eq_false
    have above := above.2
    rw [finite, if_neg Bool.false_ne_true] at above
    have lt : one.bits < x.bits := by
      rw [← UInt64.not_le]
      intro le
      linarith [value_le_one sign le]
    exact le_min word (Nat.le_floor (rounds.le_rounded_mul (succ_one_le_value sign lt) product))

theorem scale_le (x : Binary64) (n : Nat) : x.scale n ≤ maxWord := by
  rw [scale]
  split
  · exact Nat.zero_le _
  · split
    · split
      · exact Nat.zero_le _
      · exact Nat.le_refl _
    · exact Nat.min_le_left _ _

end

end Binary64
end MarkSweep
