import Mathlib.Data.List.Induction
import SeLinOS.CLogic.Bytes

/-!
# Words and bytes

* `be bs`: bytes packed into a 64-bit word, the first byte highest, as the loop
  `word = (word << 8) | byte` does.
* `wordByte w k`: byte `k` of a word, byte 0 the lowest, which a little-endian store writes first.

A word that is packed from eight bytes and then stored has them in the opposite order
(`storedBytes_be`).
-/

namespace CLogic

/-- One step of the packing loop: `(word << 8) | byte`. -/
def pushByte (word : BitVec 64) (byte : UInt8) : BitVec 64 :=
  word <<< 8 ||| byte.toBitVec.setWidth 64

/-- The bytes packed into a word, the first one highest. -/
def be (bs : List UInt8) : BitVec 64 := bs.foldl pushByte 0

/-- Byte `k` of a word; byte 0 is the lowest. -/
def wordByte (w : BitVec 64) (k : Nat) : UInt8 := ⟨(w >>> (8 * k)).setWidth 8⟩

theorem byte_pushByte_zero (w : BitVec 64) (b : UInt8) : wordByte (pushByte w b) 0 = b := by
  apply UInt8.toBitVec_inj.mp
  ext i hi
  simp [wordByte, pushByte]

theorem byte_pushByte_succ (w : BitVec 64) (b : UInt8) {k : Nat} (hk : k < 7) :
    wordByte (pushByte w b) (k + 1) = wordByte w k := by
  apply UInt8.toBitVec_inj.mp
  ext i hi
  have h1 : 8 * (k + 1) + i < 64 := by omega
  have h2 : ¬ 8 * (k + 1) + i < 8 := by omega
  have h3 : 8 * (k + 1) + i - 8 = 8 * k + i := by omega
  have h4 : b.toBitVec.getLsbD (8 * (k + 1) + i) = false := BitVec.getLsbD_of_ge _ _ (by omega)
  have h5 : 8 * k + i < 64 := by omega
  simp [wordByte, pushByte, h1, h2, h3, h4, BitVec.getLsbD_eq_getElem h5]

/-- The bytes of a packed word, from the lowest on, are the packed ones from the last on. -/
theorem byte_be (bs : List UInt8) {k : Nat} (hk : k < bs.length) (hlen : bs.length ≤ 8) :
    wordByte (be bs) k = bs[bs.length - 1 - k] := by
  induction bs using List.reverseRecOn generalizing k with
  | nil => simp at hk
  | append_singleton bs b ih =>
    simp only [List.length_append, List.length_singleton] at hk hlen ⊢
    rw [be, List.foldl_append]
    show wordByte (pushByte (be bs) b) k = _
    cases k with
    | zero => simp [byte_pushByte_zero]
    | succ k =>
      rw [byte_pushByte_succ _ _ (by omega), ih (by omega) (by omega)]
      rw [List.getElem_append_left (by omega)]
      congr 1
      omega

/-- A word is its bytes. -/
theorem eq_of_wordByte {w w' : BitVec 64} (h : ∀ k < 8, wordByte w k = wordByte w' k) :
    w = w' := by
  ext i hi
  have hbyte := congrArg (fun b : UInt8 => b.toBitVec.getLsbD (i % 8)) (h (i / 8) (by omega))
  have hbit : 8 * (i / 8) + i % 8 = i := Nat.div_add_mod i 8
  have hlt : i % 8 < 8 := Nat.mod_lt _ (by decide)
  simpa [wordByte, hlt, hbit, BitVec.getLsbD_eq_getElem hi] using hbyte

/-- The bytes that a store of the word leaves, in the order of their addresses. -/
def storedBytes (w : BitVec 64) : List UInt8 := (List.range 8).map (wordByte w)

/-- Eight bytes, packed and stored, come out in the opposite order. -/
theorem storedBytes_be {bs : List UInt8} (h : bs.length = 8) :
    storedBytes (be bs) = bs.reverse := by
  refine List.ext_getElem (by simp [storedBytes, h]) fun k h1 h2 => ?_
  simp only [storedBytes, List.length_map, List.length_range] at h1
  simp only [storedBytes, List.getElem_map, List.getElem_range, List.getElem_reverse]
  exact byte_be bs (by omega) (by omega)

end CLogic
