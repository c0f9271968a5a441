import Mathlib.Tactic.IntervalCases
import SeLinOS.CLogic.Bytes
import SeLinOS.CLogic.Sha256

/-!
# The pinned digest of a module image

The hash of an image and its comparison with the digest that a policy has for it
(`selinos_kabi_policy.c`).

* `sha256Block`, `sha256`, `checkPinnedDigest`: the code.
* `sha256Block_eq`: a block is one step of the algorithm.
* `hashData_wp`: the blocks of the data and of its tail are those of the padded message.
* `sha256_correct`: the code writes the message digest, and the comparison accepts that only.
-/

namespace SeLinOS.Kabi

open CLogic

def SHA256_BYTES : Nat := 32
def POLICY_OK : Int := 0
def POLICY_E_ARGUMENT : Int := -1
def POLICY_E_HASH : Int := -2

/-- `sha256_constants`. -/
def sha256Constants : List (BitVec 32) :=
  [0x428a2f98, 0x71374491, 0xb5c0fbcf, 0xe9b5dba5,
    0x3956c25b, 0x59f111f1, 0x923f82a4, 0xab1c5ed5,
    0xd807aa98, 0x12835b01, 0x243185be, 0x550c7dc3,
    0x72be5d74, 0x80deb1fe, 0x9bdc06a7, 0xc19bf174,
    0xe49b69c1, 0xefbe4786, 0x0fc19dc6, 0x240ca1cc,
    0x2de92c6f, 0x4a7484aa, 0x5cb0a9dc, 0x76f988da,
    0x983e5152, 0xa831c66d, 0xb00327c8, 0xbf597fc7,
    0xc6e00bf3, 0xd5a79147, 0x06ca6351, 0x14292967,
    0x27b70a85, 0x2e1b2138, 0x4d2c6dfc, 0x53380d13,
    0x650a7354, 0x766a0abb, 0x81c2c92e, 0x92722c85,
    0xa2bfe8a1, 0xa81a664b, 0xc24b8b70, 0xc76c51a3,
    0xd192e819, 0xd6990624, 0xf40e3585, 0x106aa070,
    0x19a4c116, 0x1e376c08, 0x2748774c, 0x34b0bcb5,
    0x391c0cb3, 0x4ed8aa4a, 0x5b9cca4f, 0x682e6ff3,
    0x748f82ee, 0x78a5636f, 0x84c87814, 0x8cc70208,
    0x90befffa, 0xa4506ceb, 0xbef9a3f7, 0xc67178f2]

/-- `rotr`. -/
def rotr (value : BitVec 32) (bits : Nat) : BitVec 32 := value >>> bits ||| value <<< (32 - bits)

/-- `read_be32` of the bytes from `o` on. -/
def readBe32 (bytes : List UInt8) (o : Nat) : BitVec 32 :=
  (bytes.getD o 0).toBitVec.setWidth 32 <<< 24 |||
    (bytes.getD (o + 1) 0).toBitVec.setWidth 32 <<< 16 |||
    (bytes.getD (o + 2) 0).toBitVec.setWidth 32 <<< 8 |||
    (bytes.getD (o + 3) 0).toBitVec.setWidth 32

/-- `write_be32`. -/
def writeBe32 (value : BitVec 32) : List UInt8 :=
  [⟨(value >>> 24).setWidth 8⟩, ⟨(value >>> 16).setWidth 8⟩, ⟨(value >>> 8).setWidth 8⟩,
    ⟨value.setWidth 8⟩]

/-- The next word of `words`, at `index`. -/
def nextWord (words : List (BitVec 32)) (index : Nat) : BitVec 32 :=
  let word k := words.getD (index - k) 0
  let sigma0 := rotr (word 15) 7 ^^^ rotr (word 15) 18 ^^^ word 15 >>> 3
  let sigma1 := rotr (word 2) 17 ^^^ rotr (word 2) 19 ^^^ word 2 >>> 10
  word 16 + sigma0 + word 7 + sigma1

/-- The array `words` of `sha256_block`, which two loops fill from its start. -/
def messageWords (block : List UInt8) : List (BitVec 32) :=
  (List.range 48).foldl (fun words i => words ++ [nextWord words (16 + i)])
    ((List.range 16).map fun index => readBe32 block (index * 4))

/-- One iteration of the last loop of `sha256_block`. -/
def sha256Round (words : List (BitVec 32)) (v : Sha256.Words) (index : Nat) : Sha256.Words :=
  let sum1 := rotr v.e 6 ^^^ rotr v.e 11 ^^^ rotr v.e 25
  let choose := (v.e &&& v.f) ^^^ (~~~v.e &&& v.g)
  let temporary1 := v.h + sum1 + choose + sha256Constants.getD index 0 + words.getD index 0
  let sum0 := rotr v.a 2 ^^^ rotr v.a 13 ^^^ rotr v.a 22
  let majority := (v.a &&& v.b) ^^^ (v.a &&& v.c) ^^^ (v.b &&& v.c)
  let temporary2 := sum0 + majority
  ⟨temporary1 + temporary2, v.a, v.b, v.c, v.d + temporary1, v.e, v.f, v.g⟩

/-- `sha256_block`. -/
def sha256Block (state : Vector (BitVec 32) 8) (block : List UInt8) : Vector (BitVec 32) 8 :=
  let words := messageWords block
  let v := (List.range 64).foldl (sha256Round words)
    ⟨state[0], state[1], state[2], state[3], state[4], state[5], state[6], state[7]⟩
  #v[state[0] + v.a, state[1] + v.b, state[2] + v.c, state[3] + v.d, state[4] + v.e,
    state[5] + v.f, state[6] + v.g, state[7] + v.h]

/-- The locals of the loop over the blocks of the data. -/
structure HashLoop where
  state : Vector (BitVec 32) 8
  offset : Nat

/-- The locals after the loop. -/
structure HashTail where
  state : Vector (BitVec 32) 8
  tail : Buf

/-- A pointer to `size` bytes, or NULL, and `size`. -/
structure HashInput where
  data : Option (Nat → UInt8)
  size : Nat

/-- The bytes that the pointer points to. -/
def HashInput.object (input : HashInput) : Buf := ⟨input.size, input.data.getD fun _ => 0⟩

/-- The string of bytes that the pointer points to. -/
def HashInput.bytes (input : HashInput) : List UInt8 := input.object.slice 0 input.size

/-- `state` at the start. -/
def sha256Initial : Vector (BitVec 32) 8 :=
  #v[0x6a09e667, 0xbb67ae85, 0x3c6ef372, 0xa54ff53a, 0x510e527f, 0x9b05688c, 0x1f83d9ab, 0x5be0cd19]

section Code

variable {ε σ : Type}

/-- `sha256_block(state, bytes + offset)`. -/
def hashBlock (state : Vector (BitVec 32) 8) (bytes : Buf) (offset : Nat) :
    Prog ε σ (Vector (BitVec 32) 8) := do
  let block ← bytes.load offset 64 (bytes.slice offset 64)
  pure (sha256Block state block)

/-- The loop over the blocks of the data. -/
def hashBlocks (data : Buf) : Prog ε σ HashLoop :=
  Prog.whileM (fun l => pure (decide (data.size - l.offset ≥ 64))) (fun l => do
    let state ← hashBlock l.state data l.offset
    pure ⟨state, l.offset + 64⟩) (data.size + 1) ⟨sha256Initial, 0⟩

/-- The tail with the last bytes of the data and the byte 0x80. -/
def fillTail (data : Buf) (offset : Nat) : Prog ε σ Buf := do
  let tail ← Prog.foldUp (fun index tail => do
    let byte ← data.read (offset + index)
    tail.write index byte) 0 (data.size - offset) (Buf.zeros 128)
  tail.write (data.size - offset) 0x80

/-- `if (tail_size >= 56u)`: a block for the tail alone, and a tail of zeros. -/
def flushTail (tailSize : Nat) (l : HashTail) : Prog ε σ HashTail :=
  if tailSize ≥ 56 then do
    let state ← hashBlock l.state l.tail 0
    let tail ← Prog.foldUp (fun index tail => tail.write index 0) 0 64 l.tail
    pure ⟨state, tail⟩
  else pure l

/-- The length of the data in the last bytes of the tail. -/
def putLength (bitLength : BitVec 64) (tail : Buf) : Prog ε σ Buf :=
  Prog.foldUp (fun index tail =>
    tail.write (56 + index) ⟨(bitLength >>> (56 - 8 * index)).setWidth 8⟩) 0 8 tail

/-- The hash of the data, from the loop over its blocks on. -/
def hashData (data : Buf) : Prog ε σ (List UInt8) := do
  let bitLength := BitVec.ofNat 64 data.size * 8
  let l ← hashBlocks data
  let tail ← fillTail data l.offset
  let l ← flushTail (data.size - l.offset) ⟨l.state, tail⟩
  let tail ← putLength bitLength l.tail
  let state ← hashBlock l.state tail 0
  pure (state.toList.flatMap writeBe32)

/-- `selinos_kabi_sha256`, with the bytes that `digest` has before and after it. -/
def sha256 (input : HashInput) (digest : Option (List UInt8)) :
    Prog ε σ (Option (List UInt8)) :=
  if digest = none ∨ (input.data = none ∧ input.size ≠ 0) then pure digest
  else do
    let bytes ← hashData input.object
    pure (some bytes)

/-- `selinos_kabi_check_pinned_digest`; `none` is a NULL pointer. -/
def checkPinnedDigest (image : HashInput) (expectedDigest : Option (Vector UInt8 32)) :
    Prog Int σ Unit :=
  match image.data, expectedDigest with
  | some _, some expectedDigest => do
    let actual ← sha256 image (some (List.replicate SHA256_BYTES 0))
    let difference := (List.range SHA256_BYTES).foldl (fun difference index =>
      difference ||| ((actual.getD []).getD index 0 ^^^ expectedDigest.toList.getD index 0)) 0
    Prog.ret (if difference = 0 then POLICY_OK else POLICY_E_HASH)
  | _, _ => Prog.ret POLICY_E_ARGUMENT

end Code

/-! ## A block -/

section Block

open Sha256

variable {block : List UInt8} {state : Vector (BitVec 32) 8}

/-- The words of `state` by their names in a hash value. -/
def toWords (state : Vector (BitVec 32) 8) : Words :=
  ⟨state[0], state[1], state[2], state[3], state[4], state[5], state[6], state[7]⟩

theorem readBe32_eq (bytes : List UInt8) (o : Nat) : readBe32 bytes o =
    BitVec.ofNat 32 (bigEndian [bytes.getD o 0, bytes.getD (o + 1) 0, bytes.getD (o + 2) 0,
      bytes.getD (o + 3) 0]) := by
  have hbyte : ∀ b : UInt8, b.toBitVec.setWidth 32 = BitVec.ofNat 32 b.toNat := fun b => by
    rw [UInt8.toNat, BitVec.ofNat_toNat]
  have hpush : ∀ (n : Nat) (b : UInt8), BitVec.ofNat 32 (256 * n + b.toNat) =
      BitVec.ofNat 32 n <<< 8 ||| BitVec.ofNat 32 b.toNat :=
    fun n b => ofNat_pushDigit (show b.toNat < 2 ^ 8 from b.toNat_lt)
  simp only [bigEndian, List.foldl_cons, List.foldl_nil, hpush, Nat.mul_zero, Nat.zero_add]
  simp only [readBe32, hbyte, BitVec.shiftLeft_or_distrib, ← BitVec.shiftLeft_add]

theorem nextWord_eq {words : List (BitVec 32)} {M : Nat → BitVec 32} {index : Nat}
    (hindex : 16 ≤ index) (hwords : ∀ t < index, words.getD t 0 = schedule M t) :
    nextWord words index = schedule M index := by
  rw [schedule_ge hindex, ← hwords (index - 2) (by omega), ← hwords (index - 7) (by omega),
    ← hwords (index - 15) (by omega), ← hwords (index - 16) (by omega)]
  show words.getD (index - 16) 0 + smallSigma0 (words.getD (index - 15) 0) +
    words.getD (index - 7) 0 + smallSigma1 (words.getD (index - 2) 0) = _
  ac_rfl

/-- The array has the schedule of the block. -/
theorem messageWords_eq (block : List UInt8) : messageWords block =
    (List.range 64).map (schedule fun t => readBe32 block (t * 4)) := by
  have hloop : ∀ n, (List.range n).foldl (fun words i => words ++ [nextWord words (16 + i)])
      ((List.range 16).map fun index => readBe32 block (index * 4)) =
        (List.range (16 + n)).map (schedule fun t => readBe32 block (t * 4)) := by
    intro n
    induction n with
    | zero =>
      refine List.map_congr_left fun t ht => ?_
      rw [schedule_lt (List.mem_range.mp ht)]
    | succ n ih =>
      rw [List.range_succ (n := n), List.foldl_append, ih, List.foldl_cons, List.foldl_nil,
        show 16 + (n + 1) = 16 + n + 1 by omega, List.range_succ, List.map_append, List.map_cons,
        List.map_nil, nextWord_eq (by omega)]
      intro t ht
      simp [List.getElem?_range ht]
  exact hloop 48

theorem sha256Constants_eq : ∀ t < 64, sha256Constants.getD t 0 = roundConstant t :=
  fun _ ht => (roundConstant_eq ht).symm

/-- The rounds of the code, in its array of words. -/
theorem sha256Round_foldl {W : Nat → BitVec 32} {words : List (BitVec 32)}
    (hwords : ∀ t < 64, words.getD t 0 = W t) (v : Words) {n : Nat} (hn : n ≤ 64) :
    (List.range n).foldl (sha256Round words) v = rounds W v n := by
  induction n with
  | zero => rfl
  | succ n ih =>
    rw [List.range_succ, List.foldl_append, ih (by omega), List.foldl_cons, List.foldl_nil, rounds,
      ← hwords n (by omega), ← sha256Constants_eq n (by omega)]
    rfl

theorem toWords_add (state : Vector (BitVec 32) 8) (v : Words) :
    toWords #v[state[0] + v.a, state[1] + v.b, state[2] + v.c, state[3] + v.d, state[4] + v.e,
      state[5] + v.f, state[6] + v.g, state[7] + v.h] =
    ⟨v.a + state[0], v.b + state[1], v.c + state[2], v.d + state[3], v.e + state[4],
      v.f + state[5], v.g + state[6], v.h + state[7]⟩ := by
  ext1 <;> exact BitVec.add_comm ..

/-- A block of the data is one step of the algorithm. -/
theorem sha256Block_eq (state : Vector (BitVec 32) 8) (block : List UInt8) :
    toWords (sha256Block state block) =
      compress (toWords state) fun t => readBe32 block (t * 4) := by
  have hwords : ∀ t < 64, (messageWords block).getD t 0 =
      schedule (fun t => readBe32 block (t * 4)) t := by
    intro t ht
    rw [messageWords_eq]
    simp [List.getElem?_range ht]
  have hrounds := sha256Round_foldl hwords (toWords state) (Nat.le_refl 64)
  rw [compress, ← hrounds]
  exact toWords_add state _

/-- Four bytes of a list. -/
theorem take_four {bytes : List UInt8} {o : Nat} (h : o + 4 ≤ bytes.length) :
    (bytes.drop o).take 4 = [bytes.getD o 0, bytes.getD (o + 1) 0, bytes.getD (o + 2) 0,
      bytes.getD (o + 3) 0] := by
  have hget : ∀ k < 4, bytes[o + k]? = some (bytes.getD (o + k) 0) := fun k hk => by
    rw [List.getD_eq_getElem?_getD, List.getElem?_eq_getElem (by omega), Option.getD_some]
  refine List.ext_getElem? fun k => ?_
  by_cases hk : k < 4
  · rw [List.getElem?_take_of_lt hk, List.getElem?_drop, hget k hk]
    interval_cases k <;> rfl
  · rw [List.getElem?_eq_none (by rw [List.length_take]; omega),
      List.getElem?_eq_none (Nat.le_of_not_lt hk)]

/-- A block of bytes of a string is a step of its hash value. -/
theorem sha256Block_step {bytes : List UInt8} {i : Nat} (h : 64 * i + 64 ≤ bytes.length)
    (hstate : toWords state = hashValue (byteBits bytes) i) :
    toWords (sha256Block state ((bytes.drop (64 * i)).take 64)) =
      hashValue (byteBits bytes) (i + 1) := by
  rw [sha256Block_eq, hstate, hashValue]
  refine compress_congr (fun t ht => ?_) _
  have hbyte : ∀ j < 64, ((bytes.drop (64 * i)).take 64).getD j 0 = bytes.getD (64 * i + j) 0 := by
    intro j hj
    rw [List.getD_eq_getElem?_getD, List.getElem?_take_of_lt hj, List.getElem?_drop,
      List.getD_eq_getElem?_getD]
  rw [block_byteBits, take_four (by omega), readBe32_eq, hbyte _ (by omega), hbyte _ (by omega),
    hbyte _ (by omega), hbyte _ (by omega), Nat.mul_comm t 4]
  rfl

end Block

/-! ## The data -/

section Data

open Sha256 Prog

variable {ε σ : Type} {E : ε → σ → Prop} {s : σ} {data : Buf}

/-- The bytes of the image, padded. -/
def padded (data : Buf) : List UInt8 := padBytes (data.slice 0 data.size)

/-- A part of a buffer is a part of a string with the same bytes. -/
theorem slice_eq_take {b : Buf} {p n o : Nat} {bytes : List UInt8} (ho : o + n ≤ bytes.length)
    (hbyte : ∀ j < n, b.byte (p + j) = bytes.getD (o + j) 0) :
    b.slice p n = (bytes.drop o).take n := by
  refine List.ext_getElem? fun j => ?_
  by_cases hj : j < n
  · have hget : bytes[o + j]? = some (bytes.getD (o + j) 0) := by
      rw [List.getD_eq_getElem?_getD, List.getElem?_eq_getElem (by omega), Option.getD_some]
    rw [List.getElem?_take_of_lt hj, List.getElem?_drop, hget, ← hbyte j hj]
    simp [Buf.slice, hj]
  · rw [List.getElem?_eq_none (by rw [Buf.length_slice]; omega),
      List.getElem?_eq_none (by rw [List.length_take]; omega)]

theorem length_padded (data : Buf) :
    (padded data).length = data.size + 1 + padZeroBytes data.size + 8 := by
  rw [padded, length_padBytes, Buf.length_slice]

theorem getD_padded (data : Buf) (i : Nat) : (padded data).getD i 0 =
    if i < data.size then data.byte i
    else if i = data.size then 0x80
    else if i < data.size + 1 + padZeroBytes data.size then 0
    else ((List.range 8).map (lengthByte data.size)).getD
      (i - (data.size + 1 + padZeroBytes data.size)) 0 := by
  rw [padded, getD_padBytes, Buf.length_slice, Buf.getD_slice, Nat.zero_add]
  split <;> rfl

theorem toWords_initial : toWords sha256Initial = initialHash := initialHash_eq.symm

/-- A block in a buffer that has the bytes of a block of the padded image. -/
theorem hashBlock_wp {state : Vector (BitVec 32) 8} {b : Buf} {o i : Nat}
    {Q : Vector (BitVec 32) 8 → σ → Prop} (ho : o + 64 ≤ b.size)
    (hi : 64 * i + 64 ≤ (padded data).length)
    (hbyte : ∀ j < 64, b.byte (o + j) = (padded data).getD (64 * i + j) 0)
    (hstate : toWords state = hashValue (byteBits (padded data)) i)
    (h : ∀ state', toWords state' = hashValue (byteBits (padded data)) (i + 1) → Q state' s) :
    wp (hashBlock state b o) Q E s := by
  refine wp_bind (Buf.wp_load ho (wp_pure (h _ ?_)))
  rw [slice_eq_take hi hbyte]
  exact sha256Block_step hi hstate

theorem hashBlocks_wp (data : Buf) (s : σ) :
    wp (hashBlocks data) (fun l t => t = s ∧ l.offset = 64 * (data.size / 64) ∧
      toWords l.state = hashValue (byteBits (padded data)) (data.size / 64)) E s := by
  refine wp_whileM (fun l t => t = s ∧ ∃ i, l.offset = 64 * i ∧ 64 * i ≤ data.size ∧
    toWords l.state = hashValue (byteBits (padded data)) i) (fun l => data.size - l.offset) ?_ _ _ s
    (Nat.lt_succ_self _) ⟨rfl, 0, rfl, Nat.zero_le _, toWords_initial⟩
  rintro l t ⟨rfl, i, hoffset, hle, hstate⟩
  refine wp_pure ?_
  split
  · rename_i hmore
    have hmore : data.size - l.offset ≥ 64 := by simpa using hmore
    have hlength := length_padded data
    refine wp_bind (hashBlock_wp (i := i) (by omega) (by omega) (fun j hj => ?_) hstate
      fun state hstate => wp_pure ?_)
    · rw [getD_padded, if_pos (by omega), hoffset]
    · have hnext : l.offset + 64 = 64 * (i + 1) := by omega
      have hless : data.size - (l.offset + 64) < data.size - l.offset := by omega
      exact ⟨⟨rfl, i + 1, hnext, by omega, hstate⟩, hless⟩
  · rename_i hless
    have hless : ¬ data.size - l.offset ≥ 64 := by simpa using hless
    have hi : i = data.size / 64 := by omega
    exact ⟨rfl, hi ▸ hoffset, hi ▸ hstate⟩

/-! ## The tail -/

/-- A loop that writes the bytes of a buffer from `o` on. -/
theorem writeBytes_wp {f : Nat → Buf → Prog ε σ Buf} {o n : Nat} {tail : Buf}
    (byte : Nat → UInt8) (s : σ) (hstep : ∀ i < n, ∀ (b : Buf) (Q : Buf → σ → Prop),
      b.size = tail.size → Q { b with byte := Function.update b.byte (o + i) (byte i) } s →
        wp (f i b) Q E s) :
    wp (foldUp f 0 n tail) (fun b t => t = s ∧ b.size = tail.size ∧ ∀ j, b.byte j =
      if o ≤ j ∧ j < o + n then byte (j - o) else tail.byte j) E s := by
  have hinvariant : wp (foldUp f 0 n tail) (fun b t => t = s ∧ b.size = tail.size ∧ ∀ j,
      b.byte j = if o ≤ j ∧ j < o + (0 + n) then byte (j - o) else tail.byte j) E s := by
    refine wp_foldUp (fun i b t => t = s ∧ b.size = tail.size ∧ ∀ j,
      b.byte j = if o ≤ j ∧ j < o + i then byte (j - o) else tail.byte j) 0 n tail s
      ⟨rfl, rfl, fun j => by rw [if_neg (by omega)]⟩ ?_
    rintro i b t - hi ⟨rfl, hsize, hbyte⟩
    refine hstep i (by omega) b _ hsize ⟨rfl, hsize, fun j => ?_⟩
    show Function.update b.byte (o + i) (byte i) j = _
    by_cases hj : j = o + i
    · rw [hj, Function.update_self, if_pos (by omega), Nat.add_sub_cancel_left]
    · rw [Function.update_of_ne hj, hbyte]
      by_cases hlt : o ≤ j ∧ j < o + i
      · rw [if_pos hlt, if_pos (by omega)]
      · rw [if_neg hlt, if_neg (by omega)]
  rwa [Nat.zero_add] at hinvariant

theorem fillTail_wp {o : Nat} (ho : o ≤ data.size) (hless : data.size - o < 64) (s : σ) :
    wp (fillTail data o) (fun tail t => t = s ∧ tail.size = 128 ∧ ∀ j, tail.byte j =
      if j < data.size - o then data.byte (o + j) else if j = data.size - o then 0x80 else 0)
      E s := by
  refine wp_seq (writeBytes_wp (o := 0) (fun i => data.byte (o + i)) s
    fun i hi b Q hsize h => ?_) (fun _ _ h => h) ?_
  · have hb : b.size = 128 := hsize
    refine wp_bind (Buf.wp_read (by omega) (Buf.wp_write (by omega) ?_))
    rwa [Nat.zero_add] at h
  · rintro tail t ⟨rfl, hsize, hbyte⟩
    have hsize : tail.size = 128 := hsize
    refine Buf.wp_write (by omega) ⟨rfl, hsize, fun j => ?_⟩
    show Function.update tail.byte (data.size - o) 0x80 j = _
    by_cases hj : j = data.size - o
    · rw [hj, Function.update_self, if_neg (by omega), if_pos rfl]
    · rw [Function.update_of_ne hj, hbyte]
      by_cases hlt : j < data.size - o
      · rw [if_pos (by omega), if_pos hlt, Nat.sub_zero]
      · rw [if_neg (by omega), if_neg hlt, if_neg hj]
        rfl

/-- The last block is block `k` of the padded image; the tail has it but for the length. -/
structure LastBlock (data : Buf) (k : Nat) (l : HashTail) : Prop where
  length : 64 * k + 64 = (padded data).length
  state : toWords l.state = hashValue (byteBits (padded data)) k
  size : l.tail.size = 128
  byte : ∀ j < 56, l.tail.byte j = (padded data).getD (64 * k + j) 0

theorem flushTail_wp {l : HashTail} {q r : Nat} (hsize : data.size = 64 * q + r) (hr : r < 64)
    (hstate : toWords l.state = hashValue (byteBits (padded data)) q) (htail : l.tail.size = 128)
    (hbyte : ∀ j, l.tail.byte j =
      if j < r then data.byte (64 * q + j) else if j = r then 0x80 else 0) (s : σ) :
    wp (flushTail r l) (fun l t => t = s ∧ ∃ k, LastBlock data k l) E s := by
  have hlength := length_padded data
  have hzeros : padZeroBytes data.size = (119 - r) % 64 := by
    unfold padZeroBytes
    omega
  -- Up to the length, the tail has the bytes of the padding.
  have hpadded : ∀ j, 64 * q + j < data.size + 1 + padZeroBytes data.size →
      l.tail.byte j = (padded data).getD (64 * q + j) 0 := by
    intro j hj
    rw [hbyte, getD_padded]
    by_cases hlt : j < r
    · rw [if_pos hlt, if_pos (by omega)]
    · rw [if_neg hlt, if_neg (show ¬ 64 * q + j < data.size by omega)]
      by_cases heq : j = r
      · rw [if_pos heq, if_pos (by omega)]
      · rw [if_neg heq, if_neg (by omega), if_pos hj]
  refine wp_ite (fun hflush => ?_) fun hkeep => wp_pure ⟨rfl, q, by omega, hstate, htail,
    fun j hj => hpadded j (by omega)⟩
  refine wp_bind (hashBlock_wp (i := q) (by omega) (by omega)
    (fun j hj => by rw [Nat.zero_add]; exact hpadded j (by omega)) hstate fun state hstate => ?_)
  refine wp_seq (writeBytes_wp (o := 0) (fun _ => 0) s fun i hi b Q hb h => ?_)
    (fun _ _ h => h) ?_
  · refine Buf.wp_write (by omega) ?_
    rwa [Nat.zero_add] at h
  · rintro tail t ⟨rfl, hsize', hcleared⟩
    refine wp_pure ⟨rfl, q + 1, by omega, hstate, hsize'.trans htail, fun j hj => ?_⟩
    rw [hcleared, if_pos (by omega), getD_padded, if_neg (by omega), if_neg (by omega),
      if_pos (by omega)]

theorem putLength_wp {tail : Buf} (htail : tail.size = 128) (hsize : data.size < 2 ^ 61) (s : σ) :
    wp (putLength (BitVec.ofNat 64 data.size * 8) tail) (fun b t => t = s ∧ b.size = 128 ∧
      (∀ j < 56, b.byte j = tail.byte j) ∧ ∀ j < 8, b.byte (56 + j) = lengthByte data.size j)
      E s := by
  have hlength : ∀ i < 8, lengthByte data.size i =
      ⟨((BitVec.ofNat 64 data.size * 8) >>> (56 - 8 * i)).setWidth 8⟩ := by
    intro i hi
    have hbits : (BitVec.ofNat 64 data.size * 8).toNat = 8 * data.size := by
      rw [BitVec.toNat_mul, BitVec.toNat_ofNat, show (8 : BitVec 64).toNat = 8 from rfl]
      omega
    refine UInt8.toNat_inj.mp ?_
    show (UInt8.ofNat ((8 * data.size) >>> (8 * (8 - 1 - i)))).toNat =
      (((BitVec.ofNat 64 data.size * 8) >>> (56 - 8 * i)).setWidth 8).toNat
    rw [UInt8.toNat_ofNat', BitVec.toNat_setWidth, BitVec.toNat_ushiftRight, hbits,
      show 8 * (8 - 1 - i) = 56 - 8 * i by omega]
  refine wp_mono (writeBytes_wp (o := 56) (lengthByte data.size) s
    fun i hi b Q hb h => ?_) ?_ fun _ _ h => h
  · refine Buf.wp_write (by omega) ?_
    rwa [← hlength i hi]
  · rintro b t ⟨ht, hb, hbyte⟩
    refine ⟨ht, hb.trans htail, fun j hj => ?_, fun j hj => ?_⟩
    · rw [hbyte, if_neg (by omega)]
    · rw [hbyte, if_pos (by omega), Nat.add_sub_cancel_left]

/-! ## The digest -/

theorem writeBe32_eq (value : BitVec 32) : writeBe32 value =
    (List.range 4).map fun i => UInt8.ofNat (value.toNat >>> (8 * (4 - 1 - i))) := by
  have hbyte : ∀ k, (⟨(value >>> k).setWidth 8⟩ : UInt8) = UInt8.ofNat (value.toNat >>> k) := by
    intro k
    refine UInt8.toNat_inj.mp ?_
    show ((value >>> k).setWidth 8).toNat = (UInt8.ofNat (value.toNat >>> k)).toNat
    rw [UInt8.toNat_ofNat', BitVec.toNat_setWidth, BitVec.toNat_ushiftRight]
  have hlow : value.setWidth 8 = (value >>> 0).setWidth 8 := by rw [BitVec.ushiftRight_zero]
  rw [writeBe32, hlow, hbyte, hbyte, hbyte, hbyte]
  rfl

theorem byteBits_writeBe32 (value : BitVec 32) :
    byteBits (writeBe32 value) = toBits 32 value.toNat := by
  rw [writeBe32_eq]
  exact byteBits_bigEndian 4 value.toNat

theorem length_writeBe32 (values : List (BitVec 32)) :
    (values.flatMap writeBe32).length = 4 * values.length := by
  induction values with
  | nil => rfl
  | cons value values ih =>
    rw [List.flatMap_cons, List.length_append, ih, List.length_cons]
    show 4 + 4 * values.length = _
    omega

theorem byteBits_flatMap (values : List (BitVec 32)) : byteBits (values.flatMap writeBe32) =
    values.flatMap fun value => toBits 32 value.toNat := by
  induction values with
  | nil => rfl
  | cons value values ih =>
    rw [List.flatMap_cons, byteBits_append, ih, byteBits_writeBe32, List.flatMap_cons]

theorem toList_state (state : Vector (BitVec 32) 8) : state.toList =
    [(toWords state).a, (toWords state).b, (toWords state).c, (toWords state).d,
      (toWords state).e, (toWords state).f, (toWords state).g, (toWords state).h] := by
  refine List.ext_getElem (by simp) fun i hi _ => ?_
  have hi : i < 8 := by simpa using hi
  rw [Vector.getElem_toList]
  interval_cases i <;> rfl

/-- The bytes of the digest. -/
theorem byteBits_digest (state : Vector (BitVec 32) 8) :
    byteBits (state.toList.flatMap writeBe32) = (toWords state).bits := by
  rw [byteBits_flatMap, toList_state]
  rfl

/-- The data, its tail and its length are the padded message. -/
theorem hashData_wp (data : Buf) (hsize : data.size < 2 ^ 61) (s : σ) :
    wp (hashData data) (fun bytes t => t = s ∧ bytes.length = SHA256_BYTES ∧
      byteBits bytes = digest (byteBits (data.slice 0 data.size))) E s := by
  refine wp_seq (hashBlocks_wp data s) (fun _ _ h => h) ?_
  rintro l t ⟨rfl, hoffset, hstate⟩
  refine wp_seq (fillTail_wp (by omega) (by omega) t) (fun _ _ h => h) ?_
  rintro tail t ⟨rfl, htail, hbyte⟩
  have hflush := flushTail_wp (E := E) (l := ⟨l.state, tail⟩) (r := data.size - l.offset)
    (by omega) (by omega) hstate htail (fun j => by rw [← hoffset]; exact hbyte j) t
  refine wp_seq hflush (fun _ _ h => h) ?_
  rintro last t ⟨rfl, k, hlast⟩
  refine wp_seq (putLength_wp hlast.size hsize t) (fun _ _ h => h) ?_
  rintro tail t ⟨rfl, htail, hfirst, hlength⟩
  have hlast_length := hlast.length
  have hpadded := length_padded data
  refine wp_bind (hashBlock_wp (i := k) (by omega) (by omega) (fun j hj => ?_) hlast.state
    fun state hstate => wp_pure ⟨rfl, ?_, ?_⟩)
  · rw [Nat.zero_add]
    by_cases hj' : j < 56
    · rw [hfirst j hj', hlast.byte j hj']
    · obtain ⟨i, rfl⟩ : ∃ i, j = 56 + i := ⟨j - 56, by omega⟩
      rw [hlength i (by omega), getD_padded, if_neg (by omega), if_neg (by omega),
        if_neg (by omega), show 64 * k + (56 + i) -
          (data.size + 1 + padZeroBytes data.size) = i by omega]
      simp [show i < 8 by omega]
  · rw [length_writeBe32, Vector.length_toList]
    rfl
  · have hblocks : (pad (byteBits (data.slice 0 data.size))).length / 512 = k + 1 := by
      rw [pad_byteBits, length_byteBits, ← padded]
      omega
    rw [byteBits_digest, hstate, Sha256.digest, hblocks, pad_byteBits, padded]

/-- The digest that the code writes for a string of bytes. -/
theorem sha256_wp {input : HashInput} (hsize : input.size < 2 ^ 61)
    (hnull : input.data = none → input.size = 0) (written : List UInt8) (s : σ) :
    wp (sha256 input (some written)) (fun digest' t => t = s ∧ ∃ d, digest' = some d ∧
      d.length = SHA256_BYTES ∧
        byteBits d = digest (byteBits input.bytes)) E s := by
  refine wp_ite (fun hguard => ?_) fun _ => ?_
  · rcases hguard with h | ⟨hdata, hne⟩
    · cases h
    · exact absurd (hnull hdata) hne
  · refine wp_seq (hashData_wp input.object hsize s) (fun _ _ h => h) ?_
    rintro d t ⟨rfl, hlength, hbits⟩
    exact wp_pure ⟨rfl, d, rfl, hlength, hbits⟩

/-- The fold of the differences is zero for equal bytes only. -/
theorem difference_eq_zero {actual expected : List UInt8} (n : Nat) :
    (List.range n).foldl (fun difference index =>
      difference ||| (actual.getD index 0 ^^^ expected.getD index 0)) 0 = (0 : UInt8) ↔
        ∀ i < n, actual.getD i 0 = expected.getD i 0 := by
  induction n with
  | zero => simp
  | succ n ih =>
    rw [List.range_succ, List.foldl_append, List.foldl_cons, List.foldl_nil, UInt8.or_eq_zero_iff,
      ih, UInt8.xor_eq_zero_iff]
    constructor
    · rintro ⟨hbelow, hn⟩ i hi
      rcases Nat.lt_succ_iff_lt_or_eq.mp hi with h | rfl
      · exact hbelow i h
      · exact hn
    · exact fun h => ⟨fun i hi => h i (by omega), h n (by omega)⟩

/-- Equal bytes up to the length are equal strings. -/
theorem eq_of_getD {bytes bytes' : List UInt8} {n : Nat} (hlength : bytes.length = n)
    (hlength' : bytes'.length = n) :
    (∀ i < n, bytes.getD i 0 = bytes'.getD i 0) ↔ bytes = bytes' := by
  refine ⟨fun h => List.ext_getElem (by omega) fun i hi hi' => ?_, fun h i _ => by rw [h]⟩
  have hget := h i (by omega)
  rwa [List.getD_eq_getElem _ _ hi, List.getD_eq_getElem _ _ hi'] at hget

theorem checkPinnedDigest_wp {input : HashInput} (hsize : input.size < 2 ^ 61)
    (hdata : input.data ≠ none) (expected : Vector UInt8 32) (s : σ) :
    wp (checkPinnedDigest input (some expected)) (fun _ _ => False) (fun code t => t = s ∧
      (code = POLICY_OK ↔ byteBits expected.toList = digest (byteBits input.bytes))) s := by
  obtain ⟨_ | byte, size⟩ := input
  · exact absurd rfl hdata
  refine wp_seq (sha256_wp (E := fun _ _ => False) hsize (fun h => absurd h hdata) _ s)
    (fun _ _ h => h.elim) ?_
  rintro _ t ⟨rfl, d, rfl, hlength, hbits⟩
  refine wp_ret ⟨rfl, ?_⟩
  have hequal := eq_of_getD hlength (@Vector.length_toList _ _ expected)
  rw [← hbits, byteBits_injective.eq_iff, Option.getD_some, eq_comm (a := expected.toList),
    ← hequal]
  split
  · rename_i hdifference
    simpa using (difference_eq_zero SHA256_BYTES).mp hdifference
  · rename_i hdifference
    have hne := mt (difference_eq_zero SHA256_BYTES).mpr hdifference
    simpa [POLICY_OK, POLICY_E_HASH] using hne

/-- The code writes the digest of the data, and accepts an image by its digest. -/
theorem sha256_correct (input : HashInput) (hsize : input.size < 2 ^ 61)
    (hnull : input.data = none → input.size = 0) (written : List UInt8) (s : σ) :
    (∃ d, (sha256 input (some written) : Prog ε σ _) s = .ok (some d) s ∧
      byteBits d = digest (byteBits input.bytes)) ∧
    (input.data ≠ none → ∀ expected : Vector UInt8 32, ∃ code,
      checkPinnedDigest input (some expected) s = .ret code s ∧
        (code = POLICY_OK ↔ byteBits expected.toList = digest (byteBits input.bytes))) := by
  refine ⟨?_, fun hdata expected => ?_⟩
  · obtain ⟨_, _, hrun, rfl, d, rfl, -, hbits⟩ :=
      exists_ok (sha256_wp (E := fun (_ : ε) _ => False) hsize hnull written s)
    exact ⟨d, hrun, hbits⟩
  · obtain ⟨code, _, hrun, rfl, hcode⟩ :=
      exists_returns (checkPinnedDigest_wp hsize hdata expected s)
    exact ⟨code, hrun, hcode⟩

/-- The string "abc". -/
def abc : HashInput := ⟨some fun i => [0x61, 0x62, 0x63].getD i 0, 3⟩

def abcDigest : List UInt8 :=
  [0xba, 0x78, 0x16, 0xbf, 0x8f, 0x01, 0xcf, 0xea, 0x41, 0x41, 0x40, 0xde, 0x5d, 0xae, 0x22, 0x23,
    0xb0, 0x03, 0x61, 0xa3, 0x96, 0x17, 0x7a, 0x9c, 0xb4, 0x10, 0xff, 0x61, 0xf2, 0x00, 0x15, 0xad]

set_option maxRecDepth 100000 in
theorem sha256_abc : (sha256 abc (some []) : Prog Empty Unit _) () = .ok (some abcDigest) () := by
  decide +kernel

theorem sha256_correct_abc : byteBits abcDigest = digest (byteBits [0x61, 0x62, 0x63]) := by
  obtain ⟨⟨d, hrun, hbits⟩, -⟩ :=
    sha256_correct (ε := Empty) abc (by decide) (fun h => absurd h (by simp [abc])) [] ()
  rw [sha256_abc] at hrun
  cases hrun
  exact hbits

end Data

end SeLinOS.Kabi
