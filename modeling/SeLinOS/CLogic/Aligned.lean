import Mathlib.Order.Bounds.Defs
import Mathlib.Tactic.NormNum

/-!
# Rounding to powers of two

`leastMultiple d n`: the least multiple of `d` from `n` on. A C program computes it for `d = 2 ^ k`
with a mask: `toNat_andNotPred` is the rounding down, `toNat_roundUp` the rounding up.
-/

namespace CLogic

/-- The least multiple of `d` that is not below `n`. -/
def leastMultiple (d n : Nat) : Nat := (n + d - 1) / d * d

theorem leastMultiple_isLeast {d : Nat} (hd : 0 < d) (n : Nat) :
    IsLeast {m | d ∣ m ∧ n ≤ m} (leastMultiple d n) := by
  refine ⟨⟨Nat.dvd_mul_left d _, ?_⟩, ?_⟩
  · have hlt := Nat.lt_div_mul_add (a := n + d - 1) hd
    rw [leastMultiple]
    omega
  · rintro m ⟨⟨c, rfl⟩, hm⟩
    rw [leastMultiple, Nat.mul_comm d c]
    refine Nat.mul_le_mul_right d (Nat.lt_succ_iff.mp ((Nat.div_lt_iff_lt_mul hd).mpr ?_))
    rw [Nat.succ_mul, Nat.mul_comm c d]
    omega

theorem leastMultiple_ge {d : Nat} (hd : 0 < d) (n : Nat) : n ≤ leastMultiple d n :=
  (leastMultiple_isLeast hd n).1.2

theorem leastMultiple_lt {d : Nat} (hd : 0 < d) (n : Nat) : leastMultiple d n < n + d := by
  have := Nat.div_mul_le_self (n + d - 1) d
  rw [leastMultiple]
  omega

variable {w k : Nat} {x : BitVec w}

/-- `x & ~(2^k - 1)`. -/
theorem toNat_andNotPred (hk : k < w) :
    (x &&& ~~~(BitVec.twoPow w k - 1)).toNat = x.toNat / 2 ^ k * 2 ^ k := by
  have hmask : x &&& ~~~(BitVec.twoPow w k - 1) = x >>> k <<< k := by
    refine BitVec.eq_of_getLsbD_eq fun i hi => ?_
    have hpred : (BitVec.twoPow w k - 1).getLsbD i = decide (i < k) := by
      have hone : (1#w).toNat = 1 := Nat.mod_eq_of_lt (Nat.one_lt_two_pow (by omega))
      have hlt : 2 ^ k < 2 ^ w := Nat.pow_lt_pow_right (by omega) hk
      have hpos := Nat.two_pow_pos k
      rw [BitVec.getLsbD, BitVec.toNat_sub, show (1 : BitVec w).toNat = 1 from hone,
        BitVec.toNat_twoPow, Nat.mod_eq_of_lt hlt,
        show 2 ^ w - 1 + 2 ^ k = 2 ^ k - 1 + 2 ^ w by omega, Nat.add_mod_right,
        Nat.mod_eq_of_lt (by omega), Nat.testBit_two_pow_sub_one]
    simp only [BitVec.getLsbD_and, BitVec.getLsbD_not, hpred, hi, BitVec.getLsbD_shiftLeft,
      BitVec.getLsbD_ushiftRight, decide_true, Bool.true_and]
    by_cases hlow : i < k
    · simp [hlow]
    · simp [hlow, show k + (i - k) = i by omega]
  have hle := Nat.div_mul_le_self x.toNat (2 ^ k)
  rw [hmask, BitVec.toNat_shiftLeft, BitVec.toNat_ushiftRight, Nat.shiftRight_eq_div_pow,
    Nat.shiftLeft_eq, Nat.mod_eq_of_lt (Nat.lt_of_le_of_lt hle x.isLt)]

/-- `(x + 2^k - 1) & ~(2^k - 1)`, for a sum that does not wrap. -/
theorem toNat_roundUp (hk : k < w) (hx : x.toNat + 2 ^ k < 2 ^ w) :
    ((x + BitVec.twoPow w k - 1) &&& ~~~(BitVec.twoPow w k - 1)).toNat =
      leastMultiple (2 ^ k) x.toNat := by
  have hone : (1 : BitVec w).toNat = 1 := Nat.mod_eq_of_lt (Nat.one_lt_two_pow (by omega))
  have hpos := Nat.two_pow_pos k
  rw [toNat_andNotPred hk, leastMultiple, BitVec.toNat_sub, BitVec.toNat_add, hone,
    BitVec.toNat_twoPow, Nat.mod_eq_of_lt (show 2 ^ k < 2 ^ w by omega), Nat.mod_eq_of_lt hx,
    show 2 ^ w - 1 + (x.toNat + 2 ^ k) = x.toNat + 2 ^ k - 1 + 2 ^ w by omega, Nat.add_mod_right,
    Nat.mod_eq_of_lt (by omega)]

end CLogic
