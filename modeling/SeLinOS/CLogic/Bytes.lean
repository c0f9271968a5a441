import Mathlib.Data.List.TakeWhile
import SeLinOS.CLogic.Prog

/-!
# Bytes: buffers, memories and little-endian words

* `Buf`: an object of `size` bytes. `Buf.read` reads one byte and `Buf.load` a whole structure; both
  fault outside the object, so a program that does not fault reads only bytes below `size`.
* `Buf.le b o n`: the little-endian number in the `n` bytes at `o`; `byteAt v k` is byte `k` of `v`.
* `CStr`: a C string, the bytes before its NUL; `Buf.cstr b p limit` is the string at `p`.
* `Mem`: the bytes of a memory by address, and `Mem.blit m a n f`, `m` with the `n` bytes at `a`
  replaced by `f 0, …, f (n - 1)`. Every write of a loop is one `blit`.
-/

namespace CLogic

/-- An object of `size` bytes. The bytes at `size` and after it are not part of it. -/
structure Buf where
  size : Nat
  byte : Nat → UInt8

/-- A C string: its bytes before the NUL. -/
structure CStr where
  bytes : List UInt8
  noNul : 0 ∉ bytes
  deriving DecidableEq

namespace Buf

variable {ε σ α : Type}

/-- Reads byte `i`. -/
def read (b : Buf) (i : Nat) : Prog ε σ UInt8 := fun s =>
  if i < b.size then .ok (b.byte i) s else .fault (.read i)

/-- Reads a structure of `len` bytes at `off`; `v` is its value. -/
def load (b : Buf) (off len : Nat) (v : α) : Prog ε σ α := fun s =>
  if off + len ≤ b.size then .ok v s else .fault (.read (off + len - 1))

/-- Writes byte `i` of a local array. -/
def write (b : Buf) (i : Nat) (v : UInt8) : Prog ε σ Buf := fun s =>
  if i < b.size then .ok { b with byte := Function.update b.byte i v } s else .fault (.write i)

/-- The object whose little-endian 64-bit words are `ws`. -/
def ofWords (ws : List Nat) : Buf :=
  ⟨8 * ws.length, fun i => UInt8.ofNat (ws.getD (i / 8) 0 >>> (8 * (i % 8)))⟩

/-- The object with the bytes `bs`. -/
def ofList (bs : List UInt8) : Buf := ⟨bs.length, fun i => bs.getD i 0⟩

/-- `n` zero bytes. -/
def zeros (n : Nat) : Buf := ⟨n, fun _ => 0⟩

/-- The bytes from `p` on, `n` of them. -/
def slice (b : Buf) (p n : Nat) : List UInt8 := (List.range n).map fun i => b.byte (p + i)

/-- The C string at `p` of a buffer that holds at most `limit` of its bytes. -/
def cstr (b : Buf) (p limit : Nat) : CStr where
  bytes := (b.slice p limit).takeWhile (· != 0)
  noNul h := by simpa using List.mem_takeWhile_imp h

/-- Passes the string at `p` to a function that reads it up to its NUL. -/
def readCStr (b : Buf) (p limit : Nat) : Prog ε σ CStr :=
  b.load p ((b.cstr p limit).bytes.length + 1) (b.cstr p limit)

/-- The little-endian number in the `n` bytes at `off`. -/
def le (b : Buf) (off : Nat) : Nat → Nat
  | 0 => 0
  | n + 1 => (b.byte off).toNat + 256 * le b (off + 1) n

theorem le_lt (b : Buf) (off n : Nat) : b.le off n < 256 ^ n := by
  induction n generalizing off with
  | zero => simp [le]
  | succ n ih =>
    have := ih (off + 1)
    have hb := (b.byte off).toNat_lt
    rw [le, Nat.pow_succ]
    omega

@[simp] theorem slice_zero (b : Buf) (p : Nat) : b.slice p 0 = [] := rfl

@[simp] theorem length_slice (b : Buf) (p n : Nat) : (b.slice p n).length = n := by simp [slice]

theorem slice_succ (b : Buf) (p n : Nat) :
    b.slice p (n + 1) = b.byte p :: b.slice (p + 1) n := by
  simp only [slice, List.range_succ_eq_map, List.map_cons, List.map_map, Nat.add_zero]
  congr 1
  exact List.map_congr_left fun i _ => by
    show b.byte (p + (i + 1)) = b.byte (p + 1 + i)
    congr 1; omega

theorem mem_slice {b : Buf} {p n : Nat} {v : UInt8} :
    v ∈ b.slice p n ↔ ∃ i < n, b.byte (p + i) = v := by simp [slice]

/-- The bytes of a part of a list. -/
theorem slice_ofList {l a b : List UInt8} (h : a ++ b <+: l) {p n : Nat} (hp : p = a.length)
    (hn : n = b.length) : (ofList l).slice p n = b := by
  obtain ⟨c, rfl⟩ := h
  subst hp hn
  refine List.ext_getElem (length_slice _ _ _) fun i _ h' => ?_
  have hb : (a ++ (b ++ c))[a.length + i]? = some b[i] := by
    rw [List.getElem?_append_right (by omega), List.getElem?_append_left (by omega)]
    simp
  simp [slice, ofList, hb]

theorem getD_slice (b : Buf) (p n j : Nat) :
    (b.slice p n).getD j 0 = if j < n then b.byte (p + j) else 0 := by
  by_cases h : j < n <;> simp [slice, h]

theorem slice_append (b : Buf) (p m n : Nat) :
    b.slice p (m + n) = b.slice p m ++ b.slice (p + m) n := by
  simp [slice, List.range_add, Nat.add_assoc]

theorem getElem?_slice {b : Buf} {p n k : Nat} (h : k < n) :
    (b.slice p n)[k]? = some (b.byte (p + k)) := by
  simp [slice, h]

theorem take_slice {b : Buf} {p m n : Nat} (h : m ≤ n) : (b.slice p n).take m = b.slice p m := by
  obtain ⟨k, rfl⟩ := Nat.exists_eq_add_of_le h
  rw [slice_append, List.take_left' (length_slice ..)]

theorem drop_slice {b : Buf} {p m n : Nat} :
    (b.slice p n).drop m = b.slice (p + m) (n - m) := by
  rcases Nat.le_total m n with h | h
  · obtain ⟨k, rfl⟩ := Nat.exists_eq_add_of_le h
    rw [slice_append, List.drop_left' (length_slice ..), Nat.add_sub_cancel_left]
  · rw [List.drop_of_length_le (by rwa [length_slice]), Nat.sub_eq_zero_of_le h, slice_zero]

theorem slice_ofList_self {l : List UInt8} : (ofList l).slice 0 l.length = l :=
  slice_ofList (a := []) (by simp) rfl rfl

/-- A string with its NUL below `limit` is shorter than `limit`. -/
theorem cstr_length_lt {b : Buf} {p limit : Nat} (h : 0 ∈ b.slice p limit) :
    (b.cstr p limit).bytes.length < limit := by
  refine Nat.lt_of_le_of_ne ?_ fun he => ?_
  · have hle := (List.takeWhile_sublist (l := b.slice p limit) (· != 0)).length_le
    rwa [length_slice] at hle
  · -- a string of `limit` bytes would be the whole slice, NUL included
    have hall : (b.cstr p limit).bytes = b.slice p limit :=
      (List.takeWhile_prefix _).eq_of_length (by rw [length_slice]; exact he)
    exact (b.cstr p limit).noNul (hall ▸ h)

variable {Q : α → σ → Prop} {E : ε → σ → Prop} {s : σ}

theorem wp_read {b : Buf} {i : Nat} {Q : UInt8 → σ → Prop} (hi : i < b.size) (h : Q (b.byte i) s) :
    Prog.wp (b.read i) Q E s := by
  simp only [Prog.wp, read, hi, ↓reduceIte]; exact h

/-- A load gives its value or faults. -/
theorem load_bind_congr {β : Type} {b : Buf} {off len : Nat} {v : α} {f g : α → Prog ε σ β}
    (h : f v = g v) : b.load off len v >>= f = b.load off len v >>= g := by
  funext s
  rw [Prog.bind_run, Prog.bind_run]
  by_cases hb : off + len ≤ b.size
  · have hload : (b.load off len v : Prog ε σ α) s = .ok v s := by rw [load, if_pos hb]
    rw [hload]
    exact congrFun h s
  · have hload : (b.load off len v : Prog ε σ α) s = .fault (.read (off + len - 1)) := by
      rw [load, if_neg hb]
    rw [hload]

/-- A load inside the object gives its value. -/
theorem load_bind {β : Type} {b : Buf} {off len : Nat} {v : α} {f : α → Prog ε σ β}
    (hb : off + len ≤ b.size) : b.load off len v >>= f = f v := by
  funext s
  rw [Prog.bind_run, load, if_pos hb]

theorem wp_load {b : Buf} {off len : Nat} {v : α} (hb : off + len ≤ b.size) (h : Q v s) :
    Prog.wp (b.load off len v) Q E s := by
  simp only [Prog.wp, load, hb, ↓reduceIte]; exact h

theorem wp_write {b : Buf} {i : Nat} {v : UInt8} {Q : Buf → σ → Prop} (hi : i < b.size)
    (h : Q { b with byte := Function.update b.byte i v } s) : Prog.wp (b.write i v) Q E s := by
  simp only [Prog.wp, write, hi, ↓reduceIte]; exact h

theorem wp_readCStr {b : Buf} {p limit : Nat} {Q : CStr → σ → Prop} (hb : p + limit ≤ b.size)
    (hn : 0 ∈ b.slice p limit) (h : Q (b.cstr p limit) s) : Prog.wp (b.readCStr p limit) Q E s :=
  wp_load (by have := cstr_length_lt hn; omega) h

end Buf

/-- Byte `k` of the number `v`. -/
def byteAt (v k : Nat) : UInt8 := UInt8.ofNat (v >>> (8 * k))

theorem byteAt_toNat (v k : Nat) : (byteAt v k).toNat = v / 256 ^ k % 256 := by
  rw [byteAt, UInt8.toNat_ofNat', Nat.shiftRight_eq_div_pow, Nat.pow_mul]

/-- The bytes of a memory, by address. -/
abbrev Mem : Type := Nat → UInt8

namespace Mem

/-- `m` with the byte `v` at `a`. -/
def set (m : Mem) (a : Nat) (v : UInt8) : Mem := fun x => if x = a then v else m x

/-- `m` with the `n` bytes at `a` replaced by `f 0, …, f (n - 1)`. -/
def blit (m : Mem) (a n : Nat) (f : Nat → UInt8) : Mem := fun x =>
  if a ≤ x ∧ x < a + n then f (x - a) else m x

/-- The little-endian number in the `n` bytes at `a`. -/
def le (m : Mem) (a : Nat) : Nat → Nat
  | 0 => 0
  | n + 1 => (m a).toNat + 256 * le m (a + 1) n

theorem blit_zero (m : Mem) (a : Nat) (f : Nat → UInt8) : m.blit a 0 f = m := by
  funext x; simp only [blit]; rw [if_neg (by omega)]

theorem blit_succ (m : Mem) (a n : Nat) (f : Nat → UInt8) :
    m.blit a (n + 1) f = (m.blit a n f).set (a + n) (f n) := by
  funext x
  simp only [blit, set]
  by_cases h : x = a + n
  · subst h; rw [if_pos (by omega), if_pos rfl]; congr 1; omega
  · rw [if_neg h]
    by_cases h' : a ≤ x ∧ x < a + n
    · rw [if_pos h', if_pos (by omega)]
    · rw [if_neg h', if_neg (by omega)]

theorem blit_in {m : Mem} {a n x : Nat} {f : Nat → UInt8} (h : a ≤ x) (h' : x < a + n) :
    m.blit a n f x = f (x - a) := if_pos ⟨h, h'⟩

theorem blit_out {m : Mem} {a n x : Nat} {f : Nat → UInt8} (h : ¬ (a ≤ x ∧ x < a + n)) :
    m.blit a n f x = m x := if_neg h

/-- The bytes of `v`, read back: `v` modulo `256 ^ n`. -/
theorem le_blit_byteAt (m : Mem) (a n v : Nat) : (m.blit a n (byteAt v)).le a n = v % 256 ^ n := by
  -- The bytes from `k` on are those of `v / 256 ^ k`.
  suffices h : ∀ j k, j + k = n → (m.blit a n (byteAt v)).le (a + k) j = v / 256 ^ k % 256 ^ j by
    simpa using h n 0 rfl
  intro j
  induction j with
  | zero => intro k _; simp [le, Nat.mod_one]
  | succ j ih =>
    intro k hk
    have e : a + k + 1 = a + (k + 1) := by omega
    rw [le, e, ih (k + 1) (by omega), blit_in (by omega) (by omega), Nat.add_sub_cancel_left,
      byteAt_toNat, Nat.pow_succ 256 k, ← Nat.div_div_eq_div_mul, Nat.pow_succ', Nat.mod_mul]

end Mem

end CLogic
