import Mathlib.Data.List.Induction
import Mathlib.Data.Nat.Bitwise
import Mathlib.Tactic.Ring

/-!
# Bit strings

Strings of bits with the most significant bit first, and the strings of whole bytes among them.

* `toBits w n`: the `w` low bits of `n`; `ofBits`: the number that a string denotes.
* `byteBits`: the bits of a string of bytes. `drop_byteBits`, `take_byteBits`: its parts.
* `ofBits_byteBits`: the big-endian number of the bytes.
* `ofNat_pushDigit`: how a loop builds a number in a machine word.
-/

namespace CLogic

/-- The `w` low bits of `n`. -/
def toBits (w n : Nat) : List Bool := (List.range w).map fun i => n.testBit (w - 1 - i)

/-- The number that a bit string denotes. -/
def ofBits (bits : List Bool) : Nat := bits.foldl (fun n b => 2 * n + b.toNat) 0

/-- The bits of a string of bytes. -/
def byteBits (bytes : List UInt8) : List Bool := bytes.flatMap fun b => toBits 8 b.toNat

/-- The big-endian number of a string of bytes. -/
def bigEndian (bytes : List UInt8) : Nat := bytes.foldl (fun n b => 256 * n + b.toNat) 0

variable {w n : Nat}

@[simp] theorem length_toBits (w n : Nat) : (toBits w n).length = w := by simp [toBits]

theorem toBits_succ (w n : Nat) : toBits (w + 1) n = n.testBit w :: toBits w n := by
  rw [toBits, List.range_succ_eq_map, List.map_cons, List.map_map, toBits]
  congr 1
  refine List.map_congr_left fun i _ => ?_
  rw [Function.comp_apply, show w + 1 - 1 - (i + 1) = w - 1 - i by omega]

theorem toBits_add (v w n : Nat) : toBits (v + w) n = toBits v (n >>> w) ++ toBits w n := by
  induction v with
  | zero => simp [toBits]
  | succ v ih =>
    rw [show v + 1 + w = v + w + 1 by omega, toBits_succ, toBits_succ, ih, Nat.testBit_shiftRight,
      Nat.add_comm w v]
    rfl

/-- Equal low bits are equal residues. -/
theorem toBits_inj {m : Nat} : toBits w m = toBits w n ↔ m % 2 ^ w = n % 2 ^ w := by
  induction w with
  | zero => simp [toBits, Nat.mod_one]
  | succ w ih =>
    rw [toBits_succ, toBits_succ, List.cons.injEq, ih, Nat.testBit_eq_decide_div_mod_eq,
      Nat.testBit_eq_decide_div_mod_eq, Nat.mod_pow_succ, Nat.mod_pow_succ, decide_eq_decide]
    have hm := Nat.mod_lt (m / 2 ^ w) (show 0 < 2 by decide)
    have hn := Nat.mod_lt (n / 2 ^ w) (show 0 < 2 by decide)
    have hlow := Nat.mod_lt m (Nat.two_pow_pos w)
    have hlow' := Nat.mod_lt n (Nat.two_pow_pos w)
    constructor
    · rintro ⟨hbit, hrest⟩
      have heq : m / 2 ^ w % 2 = n / 2 ^ w % 2 := by omega
      rw [hrest, heq]
    · intro h
      have hrest : m % 2 ^ w = n % 2 ^ w := by
        have := congrArg (· % 2 ^ w) h
        simpa using this
      have heq : 2 ^ w * (m / 2 ^ w % 2) = 2 ^ w * (n / 2 ^ w % 2) := by omega
      have := Nat.eq_of_mul_eq_mul_left (Nat.two_pow_pos w) heq
      exact ⟨by rw [this], hrest⟩

/-! ## Numbers -/

theorem foldl_bits (bits : List Bool) (n : Nat) :
    bits.foldl (fun n b => 2 * n + b.toNat) n = n * 2 ^ bits.length + ofBits bits := by
  induction bits generalizing n with
  | nil => simp [ofBits]
  | cons b bits ih =>
    have hb := ih (2 * 0 + b.toNat)
    rw [ofBits, List.foldl_cons, List.foldl_cons, ih, hb, List.length_cons, Nat.pow_succ]
    ring

theorem ofBits_append (bits bits' : List Bool) :
    ofBits (bits ++ bits') = ofBits bits * 2 ^ bits'.length + ofBits bits' := by
  rw [ofBits, List.foldl_append, foldl_bits]
  rfl

theorem ofBits_toBits (w n : Nat) : ofBits (toBits w n) = n % 2 ^ w := by
  induction w with
  | zero => simp [ofBits, toBits, Nat.mod_one]
  | succ w ih =>
    have hbit : (n.testBit w).toNat = n / 2 ^ w % 2 := by
      rw [Nat.toNat_testBit]
    rw [toBits_succ, ← List.singleton_append, ofBits_append, ih, length_toBits, Nat.mod_pow_succ]
    simp only [ofBits, List.foldl_cons, List.foldl_nil, hbit]
    ring

/-- A machine word with one digit more, of `k` bits. -/
theorem ofNat_pushDigit {w k a d : Nat} (hd : d < 2 ^ k) :
    BitVec.ofNat w (2 ^ k * a + d) = BitVec.ofNat w a <<< k ||| BitVec.ofNat w d := by
  have hor : 2 ^ k * a + d = a <<< k ||| d := by
    rw [← Nat.shiftLeft_add_eq_or_of_lt hd, Nat.shiftLeft_eq, Nat.mul_comm]
  refine BitVec.eq_of_toNat_eq ?_
  rw [hor, BitVec.toNat_or, BitVec.toNat_shiftLeft, BitVec.toNat_ofNat, BitVec.toNat_ofNat,
    BitVec.toNat_ofNat, Nat.or_mod_two_pow, Nat.shiftLeft_eq, Nat.shiftLeft_eq, Nat.mod_mul_mod]

/-! ## Bytes -/

section Bytes

variable (bytes : List UInt8)

@[simp] theorem byteBits_nil : byteBits [] = [] := rfl

@[simp] theorem byteBits_cons (b : UInt8) :
    byteBits (b :: bytes) = toBits 8 b.toNat ++ byteBits bytes := rfl

@[simp] theorem byteBits_append (bytes' : List UInt8) :
    byteBits (bytes ++ bytes') = byteBits bytes ++ byteBits bytes' := List.flatMap_append

@[simp] theorem length_byteBits : (byteBits bytes).length = 8 * bytes.length := by
  induction bytes with
  | nil => rfl
  | cons b bytes ih =>
    rw [byteBits_cons, List.length_append, length_toBits, ih, List.length_cons]
    omega

theorem byteBits_injective : Function.Injective byteBits := by
  intro bytes
  induction bytes with
  | nil =>
    intro bytes' h
    have hlength := congrArg List.length h
    rw [length_byteBits, length_byteBits] at hlength
    exact (List.eq_nil_of_length_eq_zero (by simpa using hlength.symm)).symm
  | cons b bytes ih =>
    intro bytes' h
    cases bytes' with
    | nil => cases congrArg List.length h
    | cons b' bytes' =>
      obtain ⟨hbyte, hrest⟩ := List.append_inj h (by simp)
      have hnat := toBits_inj.mp hbyte
      rw [Nat.mod_eq_of_lt b.toNat_lt, Nat.mod_eq_of_lt b'.toNat_lt] at hnat
      rw [UInt8.toNat_inj.mp hnat, ih hrest]

/-- The bits up to byte `k`, and the bits from it on. -/
theorem byteBits_split (k : Nat) :
    byteBits bytes = byteBits (bytes.take k) ++ byteBits (bytes.drop k) := by
  rw [← byteBits_append, List.take_append_drop]

theorem drop_byteBits (k : Nat) : (byteBits bytes).drop (8 * k) = byteBits (bytes.drop k) := by
  rcases Nat.le_total k bytes.length with hk | hk
  · rw [byteBits_split bytes k, List.drop_left' (by simp [hk])]
  · rw [List.drop_eq_nil_of_le hk, List.drop_eq_nil_of_le (by simp [hk]), byteBits_nil]

theorem take_byteBits (k : Nat) : (byteBits bytes).take (8 * k) = byteBits (bytes.take k) := by
  rcases Nat.le_total k bytes.length with hk | hk
  · rw [byteBits_split bytes k, List.take_left' (by simp [hk])]
  · rw [List.take_of_length_le hk, List.take_of_length_le (by simp [hk])]

/-- The bits of bytes denote their big-endian number. -/
theorem ofBits_byteBits : ofBits (byteBits bytes) = bigEndian bytes := by
  induction bytes using List.reverseRecOn with
  | nil => rfl
  | append_singleton bytes b ih =>
    have hlast : bigEndian (bytes ++ [b]) = 256 * bigEndian bytes + b.toNat := by
      rw [bigEndian, List.foldl_append]
      rfl
    rw [byteBits_append, ofBits_append, ih, hlast, byteBits_cons, byteBits_nil, List.append_nil,
      length_toBits, ofBits_toBits, Nat.mod_eq_of_lt b.toNat_lt]
    omega

/-- A number in big-endian bytes. -/
theorem byteBits_bigEndian (k n : Nat) :
    byteBits ((List.range k).map fun i => UInt8.ofNat (n >>> (8 * (k - 1 - i)))) =
      toBits (8 * k) n := by
  induction k with
  | zero => rfl
  | succ k ih =>
    rw [List.range_succ_eq_map, List.map_cons, List.map_map, byteBits_cons,
      show 8 * (k + 1) = 8 + 8 * k by omega, toBits_add, ← ih]
    congr 1
    · rw [toBits_inj]
      simp
    · congr 1
      refine List.map_congr_left fun i _ => ?_
      rw [Function.comp_apply, show k + 1 - 1 - (i + 1) = k - 1 - i by omega]

end Bytes

end CLogic
