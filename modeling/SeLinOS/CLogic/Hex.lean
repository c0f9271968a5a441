import SeLinOS.CLogic.BitString

/-!
# Numbers as groups of four bits

A number is written as its digits to the base 16, the highest first, and read by a loop that shifts
what it has read so far and adds the next digit at the low end.

* `nibble n s`: the four bits of `n` from bit `s` on; `nibbles n k`: the `k` low digits of `n`.
* `pushNibbles`: the loop, in a machine word.
* `pushNibbles_nibbles`, `pushNibbles_zero`: the word that is read is the number that was written.
-/

namespace CLogic

variable {w : Nat}

/-- The four bits of `n` from bit `s` on. -/
def nibble (n s : Nat) : Nat := (n >>> s) % 16

/-- The `k` low digits of `n`, the highest first. -/
def nibbles (n : Nat) : Nat → List Nat
  | 0 => []
  | k + 1 => nibble n (4 * k) :: nibbles n k

/-- The word with one digit more. -/
def pushNibble (acc : BitVec w) (digit : Nat) : BitVec w := acc <<< 4 ||| BitVec.ofNat w digit

/-- The word with the digits of the list more. -/
def pushNibbles (acc : BitVec w) (digits : List Nat) : BitVec w := digits.foldl pushNibble acc

theorem nibble_lt (n s : Nat) : nibble n s < 16 := Nat.mod_lt _ (by decide)

theorem lt_of_mem_nibbles {n k d : Nat} (h : d ∈ nibbles n k) : d < 16 := by
  induction k with
  | zero => cases h
  | succ k ih =>
    rcases List.mem_cons.mp h with rfl | h
    · exact nibble_lt n _
    · exact ih h

@[simp] theorem length_nibbles (n k : Nat) : (nibbles n k).length = k := by
  induction k with
  | zero => rfl
  | succ k ih => rw [nibbles, List.length_cons, ih]

/-- A loop that writes digit `i` of `k` with the shift `4 * (k - 1 - i)`. -/
theorem nibbles_eq_map (n k : Nat) :
    nibbles n k = (List.range k).map fun i => nibble n (4 * (k - 1 - i)) := by
  induction k with
  | zero => rfl
  | succ k ih =>
    rw [nibbles, ih, List.range_succ_eq_map, List.map_cons, List.map_map]
    congr 1
    refine List.map_congr_left fun i _ => ?_
    rw [Function.comp_apply, show k + 1 - 1 - (i + 1) = k - 1 - i by omega]

/-- Masking the shifted word gives a digit. -/
theorem toNat_and_15 (hw : 4 ≤ w) (x : BitVec w) (s : Nat) :
    ((x >>> s) &&& 0xf).toNat = nibble x.toNat s := by
  have hpow : 2 ^ 4 ≤ 2 ^ w := Nat.pow_le_pow_right (by decide) hw
  have hmask : (0xf : BitVec w).toNat = 2 ^ 4 - 1 :=
    (BitVec.toNat_ofNat 15 w).trans (Nat.mod_eq_of_lt (by omega))
  rw [BitVec.toNat_and, hmask, Nat.and_two_pow_sub_one_eq_mod, BitVec.toNat_ushiftRight, nibble]

theorem pushNibble_ofNat {a d : Nat} (hd : d < 16) :
    pushNibble (BitVec.ofNat w a) d = BitVec.ofNat w (16 * a + d) :=
  (ofNat_pushDigit (show d < 2 ^ 4 from hd)).symm

/-- Above the digits that are still to come, the word is the number. -/
theorem pushNibbles_nibbles (n k : Nat) :
    pushNibbles (BitVec.ofNat w (n >>> (4 * k))) (nibbles n k) = BitVec.ofNat w n := by
  induction k with
  | zero => rfl
  | succ k ih =>
    have hstep : 16 * (n >>> (4 * (k + 1))) + nibble n (4 * k) = n >>> (4 * k) := by
      rw [nibble, show 4 * (k + 1) = 4 * k + 4 by omega, Nat.shiftRight_add,
        Nat.shiftRight_eq_div_pow _ 4]
      omega
    rw [nibbles, pushNibbles, List.foldl_cons, pushNibble_ofNat (nibble_lt n _), hstep]
    exact ih

/-- All digits of a number. -/
theorem pushNibbles_zero {n k : Nat} (h : n < 16 ^ k) :
    pushNibbles (0 : BitVec w) (nibbles n k) = BitVec.ofNat w n := by
  have hzero : n >>> (4 * k) = 0 := by
    rw [Nat.shiftRight_eq_div_pow, Nat.pow_mul]
    exact Nat.div_eq_of_lt h
  have hall := pushNibbles_nibbles (w := w) n k
  rwa [hzero] at hall

end CLogic
