import Mathlib.Data.Nat.Nth
import Mathlib.Data.Nat.Prime.Nth
import Mathlib.Order.Bounds.Defs
import SeLinOS.CLogic.BitString

/-!
# SHA-256

The secure hash algorithm for messages that are bit strings, in the terms of its standard: a
message is padded to blocks of 512 bits, each block is expanded to a schedule of 64 words, and 64
rounds over eight working variables take the hash value from one block to the next.

The constants are defined by what they are: bits of the roots of the first primes.

* `pad`: the padded message; `padZeros_isLeast`.
* `schedule`, `round`, `compress`: the computation for a block.
* `digest`: the message digest, 256 bits.
* `pad_byteBits`, `block_byteBits`: messages that are strings of bytes.
* `roundConstant_eq`, `initialHash_eq`: the constants as numbers.
* `schedule_congr`, `compress_congr`: a block matters up to its sixteen words.
-/

namespace CLogic.Sha256

/-! ## Functions -/

def ch (x y z : BitVec 32) : BitVec 32 := (x &&& y) ^^^ (~~~x &&& z)

def maj (x y z : BitVec 32) : BitVec 32 := (x &&& y) ^^^ (x &&& z) ^^^ (y &&& z)

def bigSigma0 (x : BitVec 32) : BitVec 32 :=
  x.rotateRight 2 ^^^ x.rotateRight 13 ^^^ x.rotateRight 22

def bigSigma1 (x : BitVec 32) : BitVec 32 :=
  x.rotateRight 6 ^^^ x.rotateRight 11 ^^^ x.rotateRight 25

def smallSigma0 (x : BitVec 32) : BitVec 32 := x.rotateRight 7 ^^^ x.rotateRight 18 ^^^ x >>> 3

def smallSigma1 (x : BitVec 32) : BitVec 32 := x.rotateRight 17 ^^^ x.rotateRight 19 ^^^ x >>> 10

/-! ## Constants -/

/-- The first 32 bits of the fractional part of the `k`-th root of `p`: the root of
`p * 2 ^ (32 * k)` without its fractional part, in 32 bits. -/
def rootBits (k p : Nat) : BitVec 32 :=
  BitVec.ofNat 32 (Nat.findGreatest (fun r => r ^ k ≤ p * 2 ^ (32 * k)) (p * 2 ^ (32 * k)))

/-- The constant of round `t`, from the cube root of the prime number `t`. -/
noncomputable def roundConstant (t : Nat) : BitVec 32 := rootBits 3 (Nat.nth Nat.Prime t)

/-! ## Blocks -/

/-- The number of zeros that the padding of a message of `l` bits has. -/
def padZeros (l : Nat) : Nat := (959 - l % 512) % 512

/-- The padded message: a bit 1, zeros and the length of the message in 64 bits. -/
def pad (message : List Bool) : List Bool :=
  message ++ true :: (List.replicate (padZeros message.length) false ++ toBits 64 message.length)

/-- Word `t` of block `i`. -/
def block (bits : List Bool) (i t : Nat) : BitVec 32 :=
  BitVec.ofNat 32 (ofBits ((bits.drop (512 * i + 32 * t)).take 32))

/-! ## Computation -/

/-- The message schedule of a block. -/
def schedule (M : Nat → BitVec 32) (t : Nat) : BitVec 32 :=
  if t < 16 then M t
  else
    smallSigma1 (schedule M (t - 2)) + schedule M (t - 7) + smallSigma0 (schedule M (t - 15)) +
      schedule M (t - 16)
termination_by t

/-- Eight words: the working variables, or a hash value. -/
@[ext] structure Words where
  a : BitVec 32
  b : BitVec 32
  c : BitVec 32
  d : BitVec 32
  e : BitVec 32
  f : BitVec 32
  g : BitVec 32
  h : BitVec 32

/-- A round, with its constant and its word of the schedule. -/
def round (constant word : BitVec 32) (v : Words) : Words :=
  let t1 := v.h + bigSigma1 v.e + ch v.e v.f v.g + constant + word
  let t2 := bigSigma0 v.a + maj v.a v.b v.c
  ⟨t1 + t2, v.a, v.b, v.c, v.d + t1, v.e, v.f, v.g⟩

/-- The working variables after the first `t` rounds. -/
noncomputable def rounds (W : Nat → BitVec 32) (v : Words) : Nat → Words
  | 0 => v
  | t + 1 => round (roundConstant t) (W t) (rounds W v t)

/-- The hash value after a block. -/
noncomputable def compress (H : Words) (M : Nat → BitVec 32) : Words :=
  let v := rounds (schedule M) H 64
  ⟨v.a + H.a, v.b + H.b, v.c + H.c, v.d + H.d, v.e + H.e, v.f + H.f, v.g + H.g, v.h + H.h⟩

/-- The hash value before the first block, from the square roots of the first eight primes. -/
noncomputable def initialHash : Words :=
  let root i := rootBits 2 (Nat.nth Nat.Prime i)
  ⟨root 0, root 1, root 2, root 3, root 4, root 5, root 6, root 7⟩

/-- The hash value after the first `i` blocks. -/
noncomputable def hashValue (bits : List Bool) : Nat → Words
  | 0 => initialHash
  | i + 1 => compress (hashValue bits i) (block bits i)

def Words.bits (H : Words) : List Bool :=
  [H.a, H.b, H.c, H.d, H.e, H.f, H.g, H.h].flatMap fun word => toBits 32 word.toNat

/-- The message digest. -/
noncomputable def digest (message : List Bool) : List Bool :=
  (hashValue (pad message) ((pad message).length / 512)).bits

/-! ## Padding -/

theorem padZeros_isLeast (l : Nat) : IsLeast {k | (l + 1 + k) % 512 = 448} (padZeros l) := by
  constructor
  · show (l + 1 + padZeros l) % 512 = 448
    unfold padZeros
    omega
  · intro k hk
    have hk : (l + 1 + k) % 512 = 448 := hk
    unfold padZeros
    omega

/-! ## Messages of whole bytes -/

section Bytes

variable (bytes : List UInt8)

/-- The zero bytes of the padding of `n` bytes. -/
def padZeroBytes (n : Nat) : Nat := (119 - n % 64) % 64

/-- Byte `i` of the length of `n` bytes. -/
def lengthByte (n i : Nat) : UInt8 := UInt8.ofNat ((8 * n) >>> (8 * (8 - 1 - i)))

/-- The padded message, in bytes. -/
def padBytes : List UInt8 :=
  bytes ++ 0x80 :: (List.replicate (padZeroBytes bytes.length) 0 ++
    (List.range 8).map (lengthByte bytes.length))

theorem length_padBytes :
    (padBytes bytes).length = bytes.length + 1 + padZeroBytes bytes.length + 8 := by
  simp only [padBytes, List.length_append, List.length_cons, List.length_replicate,
    List.length_map, List.length_range]
  omega

theorem byteBits_zeros (k : Nat) :
    byteBits (List.replicate k 0) = List.replicate (8 * k) false := by
  induction k with
  | zero => rfl
  | succ k ih =>
    rw [List.replicate_succ, byteBits_cons, ih, show 8 * (k + 1) = 8 + 8 * k by omega,
      List.replicate_add]
    rfl

theorem pad_byteBits : pad (byteBits bytes) = byteBits (padBytes bytes) := by
  have hzeros : padZeros (8 * bytes.length) = 7 + 8 * padZeroBytes bytes.length := by
    unfold padZeros padZeroBytes
    omega
  have hlength : byteBits ((List.range 8).map (lengthByte bytes.length)) =
      toBits 64 (8 * bytes.length) := byteBits_bigEndian 8 (8 * bytes.length)
  rw [pad, padBytes, byteBits_append, byteBits_cons, byteBits_append, byteBits_zeros, hlength,
    length_byteBits, hzeros, List.replicate_add]
  rfl

/-- A word of a block, from its bytes. -/
theorem block_byteBits (i t : Nat) : block (byteBits bytes) i t =
    BitVec.ofNat 32 (bigEndian ((bytes.drop (64 * i + 4 * t)).take 4)) := by
  rw [block, show 512 * i + 32 * t = 8 * (64 * i + 4 * t) by omega, drop_byteBits,
    show 32 = 8 * 4 by rfl, take_byteBits, ofBits_byteBits]

/-- A byte of the padded message. -/
theorem getD_padBytes (i : Nat) : (padBytes bytes).getD i 0 =
    if i < bytes.length then bytes.getD i 0
    else if i = bytes.length then 0x80
    else if i < bytes.length + 1 + padZeroBytes bytes.length then 0
    else ((List.range 8).map (lengthByte bytes.length)).getD
      (i - (bytes.length + 1 + padZeroBytes bytes.length)) 0 := by
  unfold padBytes
  by_cases hdata : i < bytes.length
  · rw [if_pos hdata, List.getD_append _ _ _ _ hdata]
  rw [if_neg hdata, List.getD_append_right _ _ _ _ (by omega)]
  by_cases hone : i = bytes.length
  · rw [if_pos hone, hone, Nat.sub_self]
    rfl
  obtain ⟨k, rfl⟩ : ∃ k, i = bytes.length + 1 + k := ⟨i - bytes.length - 1, by omega⟩
  rw [if_neg hone, show bytes.length + 1 + k - bytes.length = k + 1 by omega, List.getD_cons_succ]
  by_cases hzero : k < padZeroBytes bytes.length
  · rw [if_pos (by omega), List.getD_append _ _ _ _ (by simpa using hzero)]
    simp [hzero]
  · rw [if_neg (by omega), List.getD_append_right _ _ _ _ (by simpa using hzero),
      List.length_replicate, show k - padZeroBytes bytes.length =
        bytes.length + 1 + k - (bytes.length + 1 + padZeroBytes bytes.length) by omega]

end Bytes

/-! ## Schedule -/

section Schedule

variable {M M' : Nat → BitVec 32} {t : Nat}

theorem schedule_lt (h : t < 16) : schedule M t = M t := by
  rw [schedule, if_pos h]

theorem schedule_ge (h : 16 ≤ t) : schedule M t =
    smallSigma1 (schedule M (t - 2)) + schedule M (t - 7) + smallSigma0 (schedule M (t - 15)) +
      schedule M (t - 16) := by
  conv_lhs => rw [schedule, if_neg (by omega)]

/-- The schedule depends on the sixteen words of the block. -/
theorem schedule_congr (h : ∀ t < 16, M t = M' t) (t : Nat) : schedule M t = schedule M' t := by
  induction t using Nat.strong_induction_on with
  | _ t ih =>
    by_cases ht : t < 16
    · rw [schedule_lt ht, schedule_lt ht, h t ht]
    · have hge : 16 ≤ t := by omega
      rw [schedule_ge (M := M) hge, schedule_ge (M := M') hge, ih (t - 2) (by omega),
        ih (t - 7) (by omega), ih (t - 15) (by omega), ih (t - 16) (by omega)]

theorem compress_congr (h : ∀ t < 16, M t = M' t) (H : Words) : compress H M = compress H M' := by
  rw [compress, compress, show schedule M = schedule M' from funext (schedule_congr h)]

end Schedule

/-! ## The first primes -/

/-- The primes that the constants come from. -/
def primes : List Nat :=
  [2, 3, 5, 7, 11, 13, 17, 19, 23, 29, 31, 37, 41, 43, 47, 53, 59, 61, 67, 71, 73, 79, 83, 89, 97,
    101, 103, 107, 109, 113, 127, 131, 137, 139, 149, 151, 157, 163, 167, 173, 179, 181, 191, 193,
    197, 199, 211, 223, 227, 229, 233, 239, 241, 251, 257, 263, 269, 271, 277, 281, 283, 293, 307,
    311]

/-- A test of primality for numbers that are below 18 ^ 2. -/
def IsSmallPrime (n : Nat) : Prop := 2 ≤ n ∧ ∀ d < 16, n ≤ d + 2 ∨ n % (d + 2) ≠ 0

instance (n : Nat) : Decidable (IsSmallPrime n) := inferInstanceAs (Decidable (_ ∧ _))

theorem isSmallPrime_iff {n : Nat} (hn : n < 324) : IsSmallPrime n ↔ n.Prime := by
  have hsqrt : Nat.sqrt n < 18 := Nat.sqrt_lt.mpr (by omega)
  constructor
  · rintro ⟨htwo, htest⟩
    refine Nat.prime_def_le_sqrt.mpr ⟨htwo, fun d hd hle hdvd => ?_⟩
    have hlt : Nat.sqrt n < n := Nat.sqrt_lt_self (by omega)
    rcases htest (d - 2) (by omega) with h | h
    · omega
    · rw [show d - 2 + 2 = d by omega] at h
      exact h (Nat.mod_eq_zero_of_dvd hdvd)
  · intro hprime
    refine ⟨hprime.two_le, fun d hd => ?_⟩
    by_cases hle : n ≤ d + 2
    · exact .inl hle
    · refine .inr fun hmod => ?_
      rcases hprime.eq_one_or_self_of_dvd (d + 2) (Nat.dvd_of_mod_eq_zero hmod) with h | h <;> omega

theorem count_congr {p q : Nat → Prop} [DecidablePred p] [DecidablePred q] {n : Nat}
    (h : ∀ k < n, p k ↔ q k) : Nat.count p n = Nat.count q n := by
  induction n with
  | zero => rfl
  | succ n ih =>
    rw [Nat.count_succ, Nat.count_succ, ih fun k hk => h k (by omega)]
    simp only [h n (by omega)]

set_option maxRecDepth 100000 in
theorem count_isSmallPrime : ∀ t < 64, Nat.count IsSmallPrime (primes.getD t 0) = t ∧
    IsSmallPrime (primes.getD t 0) ∧ primes.getD t 0 < 324 := by
  decide +kernel

/-- The list has the first primes. -/
theorem nth_prime {t : Nat} (ht : t < 64) : Nat.nth Nat.Prime t = primes.getD t 0 := by
  obtain ⟨hcount, hprime, hlt⟩ := count_isSmallPrime t ht
  have hcount' : Nat.count Nat.Prime (primes.getD t 0) = t := by
    rw [← count_congr fun k hk => isSmallPrime_iff (hk.trans hlt), hcount]
  have hnth := Nat.nth_count ((isSmallPrime_iff hlt).mp hprime)
  rwa [hcount'] at hnth

/-! ## The constants as numbers -/

/-- The bits of a root that is known, with its integral part `m`. -/
theorem rootBits_eq {k p m : Nat} {bits : BitVec 32} (hk : 0 < k)
    (hle : (m * 2 ^ 32 + bits.toNat) ^ k ≤ p * 2 ^ (32 * k))
    (hlt : p * 2 ^ (32 * k) < (m * 2 ^ 32 + bits.toNat + 1) ^ k) : rootBits k p = bits := by
  have hroot : Nat.findGreatest (fun r => r ^ k ≤ p * 2 ^ (32 * k)) (p * 2 ^ (32 * k)) =
      m * 2 ^ 32 + bits.toNat := by
    refine le_antisymm ?_ (Nat.le_findGreatest ((Nat.le_self_pow hk.ne' _).trans hle) hle)
    by_contra hgt
    have hspec := Nat.findGreatest_spec (P := fun r => r ^ k ≤ p * 2 ^ (32 * k))
      ((Nat.le_self_pow hk.ne' _).trans hle) hle
    exact absurd (hspec.trans_lt hlt) (Nat.not_lt.mpr (Nat.pow_le_pow_left (by omega) k))
  rw [rootBits, hroot]
  refine BitVec.eq_of_toNat_eq ?_
  rw [BitVec.toNat_ofNat, Nat.mul_comm, Nat.mul_add_mod, Nat.mod_eq_of_lt bits.isLt]

/-- The round constants. -/
def roundConstants : List (BitVec 32) :=
  [0x428a2f98, 0x71374491, 0xb5c0fbcf, 0xe9b5dba5, 0x3956c25b, 0x59f111f1, 0x923f82a4, 0xab1c5ed5,
    0xd807aa98, 0x12835b01, 0x243185be, 0x550c7dc3, 0x72be5d74, 0x80deb1fe, 0x9bdc06a7, 0xc19bf174,
    0xe49b69c1, 0xefbe4786, 0x0fc19dc6, 0x240ca1cc, 0x2de92c6f, 0x4a7484aa, 0x5cb0a9dc, 0x76f988da,
    0x983e5152, 0xa831c66d, 0xb00327c8, 0xbf597fc7, 0xc6e00bf3, 0xd5a79147, 0x06ca6351, 0x14292967,
    0x27b70a85, 0x2e1b2138, 0x4d2c6dfc, 0x53380d13, 0x650a7354, 0x766a0abb, 0x81c2c92e, 0x92722c85,
    0xa2bfe8a1, 0xa81a664b, 0xc24b8b70, 0xc76c51a3, 0xd192e819, 0xd6990624, 0xf40e3585, 0x106aa070,
    0x19a4c116, 0x1e376c08, 0x2748774c, 0x34b0bcb5, 0x391c0cb3, 0x4ed8aa4a, 0x5b9cca4f, 0x682e6ff3,
    0x748f82ee, 0x78a5636f, 0x84c87814, 0x8cc70208, 0x90befffa, 0xa4506ceb, 0xbef9a3f7, 0xc67178f2]

set_option maxRecDepth 100000 in
theorem cubeRoots : ∀ t < 64, ∃ m < 7,
    (m * 2 ^ 32 + (roundConstants.getD t 0).toNat) ^ 3 ≤ primes.getD t 0 * 2 ^ (32 * 3) ∧
      primes.getD t 0 * 2 ^ (32 * 3) <
        (m * 2 ^ 32 + (roundConstants.getD t 0).toNat + 1) ^ 3 := by
  decide +kernel

theorem roundConstant_eq {t : Nat} (ht : t < 64) : roundConstant t = roundConstants.getD t 0 := by
  obtain ⟨m, -, hle, hlt⟩ := cubeRoots t ht
  rw [roundConstant, nth_prime ht]
  exact rootBits_eq (by decide) hle hlt

theorem initialHash_eq : initialHash = ⟨0x6a09e667, 0xbb67ae85, 0x3c6ef372, 0xa54ff53a, 0x510e527f,
    0x9b05688c, 0x1f83d9ab, 0x5be0cd19⟩ := by
  have hroot : ∀ {t m : Nat} {bits : BitVec 32}, t < 64 →
      (m * 2 ^ 32 + bits.toNat) ^ 2 ≤ primes.getD t 0 * 2 ^ (32 * 2) →
      primes.getD t 0 * 2 ^ (32 * 2) < (m * 2 ^ 32 + bits.toNat + 1) ^ 2 →
      rootBits 2 (Nat.nth Nat.Prime t) = bits := by
    intro t m bits ht hle hlt
    rw [nth_prime ht]
    exact rootBits_eq (by decide) hle hlt
  ext1
  · exact hroot (m := 1) (by decide) (by decide) (by decide)
  · exact hroot (m := 1) (by decide) (by decide) (by decide)
  · exact hroot (m := 2) (by decide) (by decide) (by decide)
  · exact hroot (m := 2) (by decide) (by decide) (by decide)
  · exact hroot (m := 3) (by decide) (by decide) (by decide)
  · exact hroot (m := 3) (by decide) (by decide) (by decide)
  · exact hroot (m := 4) (by decide) (by decide) (by decide)
  · exact hroot (m := 4) (by decide) (by decide) (by decide)

end CLogic.Sha256
