import SeLinOS.CLogic.Aligned
import SeLinOS.CLogic.Endian
import SeLinOS.Sel4.Ipc

/-!
# The user copy helpers of the syscall gateway

`copy_linux_write_buffer`, `copy_linux_bytes_to_user`, `copy_linux_exact_string` and
`copy_linux_word_to_user` of `domain_manager.c`, with the loops over the temporary mapping and every
access that they make through it. An access outside the mapped page, or outside an array, is a
fault.

* `UserSpace`: the pages of the process and the frames behind them. `RootTask`: the process, the
  mapping and the accesses through it.
* `InPage`, `inPage_iff`: what the tests on the address and the length admit.
* `wp_userPage`: the tests and the mapping, which the helpers share.
* `copyLinuxWriteBuffer_wp` and its siblings: what each helper does.
* `copies_in_page`: all of it.
-/

namespace SeLinOS.Gateway

open CLogic Prog Sel4

def PAGE_SIZE : Nat := 4096
def ABI_MAX_WRITE_BYTES : Nat := 127

/-- `page_mask`. -/
def pageMask : Word := ~~~((1 <<< 12 : Word) - 1)

/-- `address & page_mask`, for an address that is a number. -/
def pageBase (address : Nat) : Nat := address / PAGE_SIZE * PAGE_SIZE

/-- The process: the frame cap of each page (`vspace_get_cap`, `none` for `seL4_CapNull`), and the
bytes of the frames. -/
structure UserSpace where
  cap : Nat → Option Nat
  frame : Nat → Mem

namespace UserSpace

/-- The byte that the process has at an address. -/
def byte (u : UserSpace) (address : Nat) : Option UInt8 :=
  (u.cap (pageBase address)).map fun frame => u.frame frame (address - pageBase address)

/-- The `n` bytes that the process has from an address on. -/
def bytes (u : UserSpace) (address n : Nat) : List (Option UInt8) :=
  (List.range n).map fun i => u.byte (address + i)

end UserSpace

/-- The root task while a helper runs: the frame behind `mapping`, and the accesses to the bytes of
frames through it. -/
structure RootTask where
  user : UserSpace
  mapping : Option Nat
  accesses : List (Nat × Nat)

section Definitions

variable {ε α : Type}

/-- `u` with `n` bytes of a frame replaced. -/
def blitFrame (u : UserSpace) (frame offset n : Nat) (f : Nat → UInt8) : UserSpace :=
  { u with frame := Function.update u.frame frame ((u.frame frame).blit offset n f) }

/-- The read of a byte of the mapping. -/
def loadMapping (offset : Nat) : Prog ε RootTask UInt8 := fun s =>
  match s.mapping with
  | some frame =>
    if offset < PAGE_SIZE then
      .ok (s.user.frame frame offset) { s with accesses := s.accesses ++ [(frame, offset)] }
    else .fault (.read offset)
  | none => .fault (.read offset)

/-- One store of `n` bytes to the mapping. -/
def storeMapping (offset n : Nat) (f : Nat → UInt8) : Prog ε RootTask Unit := fun s =>
  match s.mapping with
  | some frame =>
    if offset + n ≤ PAGE_SIZE then
      .ok () { s with
        user := blitFrame s.user frame offset n f
        accesses := s.accesses ++ (List.range n).map fun i => (frame, offset + i) }
    else .fault (.write (offset + n - 1))
  | none => .fault (.write offset)

/-- `vspace_get_cap`, `sel4utils_dup_and_map`, the accesses of `body` and `sel4utils_unmap_dup`.
`mapped`: the frame can be mapped. -/
def withUserPage (mapped : Bool) (base : Word) (failed : α) (body : Prog ε RootTask α) :
    Prog ε RootTask α := do
  let s ← Prog.get
  match s.user.cap base.toNat with
  | none => pure failed
  | some frame =>
    if mapped then
      Prog.modify fun s => { s with mapping := some frame }
      let a ← body
      Prog.modify fun s => { s with mapping := none }
      pure a
    else pure failed

/-- `copy_linux_write_buffer`: its result and `output`. -/
def copyLinuxWriteBuffer (mapped : Bool) (userAddress length : Word) (output : Buf) :
    Prog ε RootTask (Bool × Buf) :=
  let base := userAddress &&& pageMask
  if length = 0 ∨ length > BitVec.ofNat 64 ABI_MAX_WRITE_BYTES ∨
      userAddress + length < userAddress ∨ (userAddress + length - 1) &&& pageMask ≠ base then
    pure (false, output)
  else
    withUserPage mapped base (false, output) do
      let source := (userAddress - base).toNat
      let output ← Prog.foldUp (fun index output => do
        output.write index (← loadMapping (source + index))) 0 length.toNat output
      let output ← output.write length.toNat 0
      pure (true, output)

/-- `copy_linux_bytes_to_user`; a source that is NULL is `none`. -/
def copyLinuxBytesToUser (mapped : Bool) (userAddress : Word) (source : Option Buf)
    (length : Word) : Prog ε RootTask Bool :=
  let base := userAddress &&& pageMask
  match source with
  | none => pure false
  | some source =>
    if length = 0 ∨ length > BitVec.ofNat 64 PAGE_SIZE ∨ userAddress + length < userAddress ∨
        (userAddress + length - 1) &&& pageMask ≠ base then
      pure false
    else
      withUserPage mapped base false do
        let destination := (userAddress - base).toNat
        Prog.forUp (fun index => do
          let byte ← source.read index
          storeMapping (destination + index) 1 fun _ => byte) 0 length.toNat
        pure true

/-- `while (length < SELINOS_ABI_MAX_WRITE_BYTES && expected[length] != '\0') ++length;` -/
def expectedLength : Nat → List UInt8 → Nat
  | length, [] => length
  | length, _ :: rest =>
    if length < ABI_MAX_WRITE_BYTES then expectedLength (length + 1) rest else length

/-- The last loop of `copy_linux_exact_string`, from `index` on. -/
def copiedEqualsFrom (copied : Buf) : Nat → List UInt8 → Prog ε RootTask Bool
  | _, [] => pure true
  | index, c :: rest => do
    if (← copied.read index) ≠ c then pure false
    else copiedEqualsFrom copied (index + 1) rest

/-- `copy_linux_exact_string`. `copied` is the local array before the call. -/
def copyLinuxExactString (mapped : Bool) (userAddress : Word) (expected : Option CStr)
    (copied : Buf) : Prog ε RootTask Bool :=
  match expected with
  | none => pure false
  | some expected => do
    let length := expectedLength 0 expected.bytes
    if length = ABI_MAX_WRITE_BYTES then pure false
    else
      let (ok, copied) ←
        copyLinuxWriteBuffer mapped userAddress (BitVec.ofNat 64 (length + 1)) copied
      if ok then copiedEqualsFrom copied 0 ((expected.bytes ++ [0]).take (length + 1))
      else pure false

/-- `copy_linux_word_to_user`. -/
def copyLinuxWordToUser (mapped : Bool) (userAddress value : Word) : Prog ε RootTask Bool :=
  let base := userAddress &&& pageMask
  if userAddress + 8 < userAddress ∨ (userAddress + 8 - 1) &&& pageMask ≠ base then pure false
  else
    withUserPage mapped base false do
      storeMapping (userAddress - base).toNat 8 (wordByte value)
      pure true

end Definitions

/-! ## The page -/

/-- The `n` bytes at `a` are in a page of the process with this frame, and do not reach the end of
the address space. -/
structure InPage (u : UserSpace) (a n frame : Nat) : Prop where
  cap : u.cap (pageBase a) = some frame
  noWrap : a + n < 2 ^ 64
  page : a - pageBase a + n ≤ PAGE_SIZE

/-- The page tests admit the bytes, and the frame can be mapped. -/
def Admits (mapped : Bool) (u : UserSpace) (a n : Nat) : Prop :=
  mapped = true ∧ ∃ frame, InPage u a n frame

variable {ε : Type} {mapped : Bool} {u : UserSpace} {a n : Word} {frame offset : Nat}

theorem toNat_base (a : Word) : (a &&& pageMask).toNat = pageBase a.toNat :=
  toNat_andNotPred (k := 12) (by decide)

theorem pageBase_le (a : Nat) : pageBase a ≤ a := Nat.div_mul_le_self _ _

theorem toNat_offset (a : Word) : (a - (a &&& pageMask)).toNat = a.toNat - pageBase a.toNat := by
  have hle : a &&& pageMask ≤ a := by
    rw [BitVec.le_def, toNat_base]
    exact pageBase_le _
  rw [BitVec.toNat_sub_of_le hle, toNat_base]

/-- The tests of the helpers on the address and the length. -/
theorem inPage_iff (hn : n ≠ 0) :
    ¬ (a + n < a ∨ (a + n - 1) &&& pageMask ≠ a &&& pageMask) ↔
      a.toNat + n.toNat < 2 ^ 64 ∧ a.toNat - pageBase a.toNat + n.toNat ≤ PAGE_SIZE := by
  have hpos : 0 < n.toNat := Nat.pos_of_ne_zero fun h => hn (BitVec.eq_of_toNat_eq h)
  have ha := a.isLt
  have hlt := n.isLt
  have hone : (1 : Word).toNat = 1 := rfl
  rw [not_or, not_not, BitVec.lt_def, BitVec.toNat_add, ← BitVec.toNat_inj, toNat_base, toNat_base]
  by_cases hwrap : a.toNat + n.toNat < 2 ^ 64
  · have hlast : (a + n - 1).toNat = a.toNat + n.toNat - 1 := by
      rw [BitVec.toNat_sub, BitVec.toNat_add, hone, Nat.mod_eq_of_lt hwrap]
      omega
    rw [hlast, Nat.mod_eq_of_lt hwrap]
    simp only [pageBase, PAGE_SIZE]
    omega
  · rw [show (a.toNat + n.toNat) % 2 ^ 64 = a.toNat + n.toNat - 2 ^ 64 by omega]
    omega

/-! ## The mapping -/

/-- The accesses of `s'` that `s` did not have are to the `n` bytes at `a`, in the page of `a`. -/
def Touched (s : RootTask) (a n : Nat) (s' : RootTask) : Prop :=
  ∀ p ∈ s'.accesses, p ∈ s.accesses ∨ s.user.cap (pageBase a) = some p.1 ∧
    a - pageBase a ≤ p.2 ∧ p.2 < a - pageBase a + n ∧ p.2 < PAGE_SIZE

/-- The access to byte `i` of the bytes at `a`. -/
theorem Touched.push {s t : RootTask} {a n i frame : Nat} (h : Touched s a n t)
    (hpage : InPage s.user a n frame) (hi : i < n) {accesses : List (Nat × Nat)}
    (ht : accesses = t.accesses ++ [(frame, a - pageBase a + i)]) {user : UserSpace}
    {mapping : Option Nat} : Touched s a n ⟨user, mapping, accesses⟩ := by
  intro p hp
  rw [show (RootTask.mk user mapping accesses).accesses = accesses from rfl, ht,
    List.mem_append, List.mem_singleton] at hp
  rcases hp with hp | rfl
  · exact h p hp
  · have := hpage.page
    exact .inr ⟨hpage.cap, by omega, by omega, by omega⟩

variable {α : Type} {E : ε → RootTask → Prop}

theorem wp_withUserPage {failed : α} {body : Prog ε RootTask α} {Q : α → RootTask → Prop}
    {s : RootTask} {a : Word}
    (hfailed : (mapped = true → ∀ frame, s.user.cap (pageBase a.toNat) ≠ some frame) → Q failed s)
    (hbody : mapped = true → ∀ frame, s.user.cap (pageBase a.toNat) = some frame →
      wp body (fun r t => Q r { t with mapping := none }) E { s with mapping := some frame }) :
    wp (withUserPage mapped (a &&& pageMask) failed body) Q E s := by
  unfold withUserPage
  refine wp_bind (wp_get ?_)
  rw [toNat_base]
  cases hcap : s.user.cap (pageBase a.toNat) with
  | none =>
    exact wp_pure (hfailed fun _ frame h => absurd (h.symm.trans hcap) (Option.some_ne_none frame))
  | some frame =>
    refine wp_ite (fun hmapped => ?_) fun hmapped => wp_pure (hfailed fun h => absurd h hmapped)
    refine wp_bind (wp_modify (wp_bind ?_))
    refine wp_mono (hbody hmapped frame hcap) (fun r t h => ?_) fun _ _ h => h
    exact wp_bind (wp_modify (wp_pure h))

/-- The tests of a helper that admits at most `limit` bytes. -/
theorem tests_iff (limit : Nat) (hlimit : limit < 2 ^ 64) :
    ¬ (n = 0 ∨ n > BitVec.ofNat 64 limit ∨ a + n < a ∨
        (a + n - 1) &&& pageMask ≠ a &&& pageMask) ↔
      (0 < n.toNat ∧ n.toNat ≤ limit) ∧ a.toNat + n.toNat < 2 ^ 64 ∧
        a.toNat - pageBase a.toNat + n.toNat ≤ PAGE_SIZE := by
  have hpos : n ≠ 0 ↔ 0 < n.toNat := by
    rw [Nat.pos_iff_ne_zero]
    exact not_congr (BitVec.toNat_inj (y := 0)).symm
  rw [not_or, not_or, gt_iff_lt, BitVec.not_lt, BitVec.le_def, BitVec.toNat_ofNat,
    Nat.mod_eq_of_lt hlimit, ← hpos, and_assoc]
  exact and_congr_right fun hn => and_congr_right fun _ => inPage_iff hn

/-- What the helpers have in common: the tests `c`, which admit the bytes at `a` only in their page
and otherwise where `admitted` holds, and the mapping of this page. -/
theorem wp_userPage {c admitted : Prop} [Decidable c] {failed : α} {body : Prog ε RootTask α}
    {Q : α → RootTask → Prop} {s : RootTask}
    (htests : ¬ c ↔ admitted ∧ a.toNat + n.toNat < 2 ^ 64 ∧
      a.toNat - pageBase a.toNat + n.toNat ≤ PAGE_SIZE)
    (hfailed : ¬ (admitted ∧ Admits mapped s.user a.toNat n.toNat) → Q failed s)
    (hbody : admitted → mapped = true → ∀ frame, InPage s.user a.toNat n.toNat frame →
      wp body (fun r t => Q r { t with mapping := none }) E { s with mapping := some frame }) :
    wp (if c then pure failed else withUserPage mapped (a &&& pageMask) failed body) Q E s := by
  refine wp_ite (fun hc => wp_pure (hfailed ?_)) fun hc => ?_
  · rintro ⟨hadmitted, -, frame, hin⟩
    exact htests.mpr ⟨hadmitted, hin.noWrap, hin.page⟩ hc
  obtain ⟨hadmitted, hwrap, hpage⟩ := htests.mp hc
  refine wp_withUserPage (fun hno => hfailed ?_) fun hmapped frame hcap =>
    hbody hadmitted hmapped frame ⟨hcap, hwrap, hpage⟩
  rintro ⟨-, hmapped, frame, hin⟩
  exact hno hmapped frame hin.cap

/-- The process finds the bytes of the frame in the page. -/
theorem bytes_of_frame {a n : Nat} (h : InPage u a n frame) : u.bytes a n =
    ((List.range n).map fun i => u.frame frame (a - pageBase a + i)).map some := by
  rw [List.map_map]
  refine List.map_congr_left fun i hi => ?_
  rw [List.mem_range] at hi
  have hpage := h.page
  have hle := pageBase_le a
  have hbase : pageBase (a + i) = pageBase a := by
    simp only [pageBase, PAGE_SIZE] at *
    omega
  rw [UserSpace.byte, hbase, h.cap, Option.map_some, Function.comp_apply,
    show a + i - pageBase a = a - pageBase a + i by omega]

/-! ## Reading from the process -/

/-- What `copy_linux_write_buffer` does. -/
structure WriteBufferCopied (mapped : Bool) (a n : Nat) (output : Buf) (s : RootTask)
    (r : Bool × Buf) (t : RootTask) : Prop where
  success : r.1 = true ↔ 0 < n ∧ n ≤ ABI_MAX_WRITE_BYTES ∧ Admits mapped s.user a n
  copied : r.1 = true → s.user.bytes a n = (r.2.slice 0 n).map some ∧ r.2.byte n = 0
  rest : ∀ i, n < i → r.2.byte i = output.byte i
  size : r.2.size = output.size
  kept : r.1 = false → r.2 = output
  user : t.user = s.user
  touched : Touched s a n t

theorem WriteBufferCopied.failed {a n : Nat} {output : Buf} {s : RootTask}
    (h : ¬ (0 < n ∧ n ≤ ABI_MAX_WRITE_BYTES ∧ Admits mapped s.user a n)) :
    WriteBufferCopied mapped a n output s (false, output) s where
  success := iff_of_false Bool.false_ne_true h
  copied hfalse := absurd hfalse Bool.false_ne_true
  rest _ _ := rfl
  size := rfl
  kept _ := rfl
  user := rfl
  touched _ hp := .inl hp

/-- The array after `i` bytes. -/
structure Filled (s : RootTask) (a n frame : Nat) (output : Buf) (i : Nat) (out : Buf)
    (t : RootTask) : Prop where
  done : ∀ k < i, out.byte k = s.user.frame frame (a - pageBase a + k)
  todo : ∀ k, i ≤ k → out.byte k = output.byte k
  size : out.size = output.size
  user : t.user = s.user
  mapping : t.mapping = some frame
  touched : Touched s a n t

theorem copyLinuxWriteBuffer_wp {output : Buf} {s : RootTask}
    (hsize : ABI_MAX_WRITE_BYTES < output.size) :
    wp (copyLinuxWriteBuffer mapped a n output)
      (fun r t => WriteBufferCopied mapped a.toNat n.toNat output s r t) E s := by
  unfold copyLinuxWriteBuffer
  refine wp_userPage (tests_iff ABI_MAX_WRITE_BYTES (by decide)) (fun hno => .failed ?_) ?_
  · rintro ⟨hn, hlen, hadmits⟩
    exact hno ⟨⟨hn, hlen⟩, hadmits⟩
  rintro ⟨hn, hlen⟩ hmapped frame hin
  have hpage := hin.page
  refine wp_seq (wp_foldUp (Filled s a.toNat n.toNat frame output) 0 n.toNat output _
    ⟨fun k hk => absurd hk (Nat.not_lt_zero k), fun _ _ => rfl, rfl, rfl, rfl,
      fun _ hp => .inl hp⟩ ?_) (fun _ _ h => h) ?_
  · rintro i out t - hi ⟨hdone, htodo, hout, huser, hmapping, htouched⟩
    rw [Nat.zero_add] at hi
    rw [toNat_offset]
    have hload : (loadMapping (a.toNat - pageBase a.toNat + i) : Prog ε RootTask UInt8) t =
        .ok (s.user.frame frame (a.toNat - pageBase a.toNat + i))
          { t with accesses := t.accesses ++ [(frame, a.toNat - pageBase a.toNat + i)] } := by
      rw [loadMapping, hmapping]
      simp only
      rw [if_pos (by omega), huser]
    refine wp_bind (wp_of_run hload (Buf.wp_write (by omega) ?_))
    refine ⟨fun k hk => ?_, fun k hk => ?_, hout, huser, hmapping, htouched.push hin hi rfl⟩
    · by_cases hki : k = i
      · subst hki
        exact Function.update_self ..
      · exact (Function.update_of_ne hki ..).trans (hdone k (by omega))
    · exact (Function.update_of_ne (by omega) ..).trans (htodo k (by omega))
  · rintro out t ⟨hdone, htodo, hout, huser, hmapping, htouched⟩
    rw [Nat.zero_add] at hdone htodo
    refine wp_bind (Buf.wp_write (by omega) (wp_pure ?_))
    refine ⟨iff_of_true rfl ⟨hn, hlen, hmapped, frame, hin⟩, fun _ => ⟨?_, ?_⟩, fun i hi => ?_,
      hout, fun hfalse => absurd hfalse.symm Bool.false_ne_true, huser, htouched⟩
    · rw [bytes_of_frame hin]
      refine congrArg (List.map some) (List.map_congr_left fun k hk => ?_)
      rw [List.mem_range] at hk
      rw [Nat.zero_add, ← hdone k hk]
      exact (Function.update_of_ne (by omega) ..).symm
    · exact Function.update_self ..
    · exact (Function.update_of_ne (by omega) ..).trans (htodo i (by omega))

/-! ## Writing to the process -/

/-- What a helper that copies to the process does: the `n` bytes at `a` become `f 0, …`. -/
structure CopiedToUser (admitted : Prop) (a n : Nat) (f : Nat → UInt8) (s : RootTask) (r : Bool)
    (t : RootTask) : Prop where
  success : r = true ↔ admitted
  stored : r = true → t.user.bytes a n = (List.range n).map fun i => some (f i)
  blit : r = true → ∃ frame, InPage s.user a n frame ∧
    t.user = blitFrame s.user frame (a - pageBase a) n f
  /-- Every other byte of every frame is as it was. -/
  others : ∀ frame o, ¬ (s.user.cap (pageBase a) = some frame ∧ a - pageBase a ≤ o ∧
    o < a - pageBase a + n) → t.user.frame frame o = s.user.frame frame o
  cap : t.user.cap = s.user.cap
  kept : r = false → t.user = s.user
  touched : Touched s a n t

theorem CopiedToUser.failed {admitted : Prop} {a n : Nat} {f : Nat → UInt8} {s : RootTask}
    (h : ¬ admitted) : CopiedToUser admitted a n f s false s where
  success := iff_of_false Bool.false_ne_true h
  stored hfalse := absurd hfalse Bool.false_ne_true
  blit hfalse := absurd hfalse Bool.false_ne_true
  others _ _ _ := rfl
  cap := rfl
  kept _ := rfl
  touched _ hp := .inl hp

theorem InPage.blitFrame {a n m frame frame' offset : Nat} {f : Nat → UInt8}
    (h : InPage u a n frame) : InPage (blitFrame u frame' offset m f) a n frame :=
  ⟨h.cap, h.noWrap, h.page⟩

theorem blitFrame_frame {n : Nat} {f : Nat → UInt8} : (blitFrame u frame offset n f).frame =
    Function.update u.frame frame ((u.frame frame).blit offset n f) := rfl

theorem bytes_blitFrame {a n : Nat} {f : Nat → UInt8} (h : InPage u a n frame) :
    (blitFrame u frame (a - pageBase a) n f).bytes a n =
      (List.range n).map fun i => some (f i) := by
  rw [bytes_of_frame h.blitFrame, List.map_map]
  refine List.map_congr_left fun i hi => congrArg some ?_
  rw [List.mem_range] at hi
  rw [blitFrame_frame, Function.update_self]
  exact (Mem.blit_in (by omega) (by omega)).trans (congrArg f (Nat.add_sub_cancel_left ..))

theorem blitFrame_out {frame' o n : Nat} {f : Nat → UInt8}
    (h : ¬ (frame' = frame ∧ offset ≤ o ∧ o < offset + n)) :
    (blitFrame u frame offset n f).frame frame' o = u.frame frame' o := by
  rw [blitFrame_frame]
  by_cases hframe : frame' = frame
  · subst hframe
    rw [Function.update_self]
    exact Mem.blit_out fun hin => h ⟨rfl, hin⟩
  · rw [Function.update_of_ne hframe]

theorem blitFrame_zero {f : Nat → UInt8} : blitFrame u frame offset 0 f = u := by
  rw [blitFrame, Mem.blit_zero, Function.update_eq_self]

/-- A loop stores one byte after the other. -/
theorem blitFrame_succ {n : Nat} {f : Nat → UInt8} :
    blitFrame (blitFrame u frame offset n f) frame (offset + n) 1 (fun _ => f n) =
      blitFrame u frame offset (n + 1) f := by
  simp only [blitFrame, Function.update_self, Function.update_idem, Mem.blit_succ, Mem.blit_zero,
    Nat.add_zero]

theorem CopiedToUser.of_blit {admitted : Prop} {a n : Nat} {f : Nat → UInt8} {s t : RootTask}
    (h : admitted) (hin : InPage s.user a n frame)
    (huser : t.user = Gateway.blitFrame s.user frame (a - pageBase a) n f)
    (htouched : Touched s a n t) : CopiedToUser admitted a n f s true t where
  success := iff_of_true rfl h
  stored _ := by
    rw [huser]
    exact bytes_blitFrame hin
  blit _ := ⟨frame, hin, huser⟩
  others frame' o ho := by
    rw [huser]
    refine blitFrame_out fun hframe => ho ⟨?_, hframe.2⟩
    rw [hframe.1]
    exact hin.cap
  cap := by
    rw [huser]
    rfl
  kept hfalse := absurd hfalse.symm Bool.false_ne_true
  touched := htouched

/-- Stores through the mapping, one of `m` bytes after `i` of them. -/
theorem wp_storeMapping {s t : RootTask} {a n i m : Nat} {g : Nat → UInt8}
    {Q : Unit → RootTask → Prop} (hin : InPage s.user a n frame) (hi : i + m ≤ n)
    (hmapping : t.mapping = some frame) (htouched : Touched s a n t)
    (hQ : ∀ t', t'.user = blitFrame t.user frame (a - pageBase a + i) m g →
      t'.mapping = some frame → Touched s a n t' → Q () t') :
    wp (storeMapping (a - pageBase a + i) m g) Q E t := by
  have hpage := hin.page
  have hstore : (storeMapping (a - pageBase a + i) m g : Prog ε RootTask Unit) t =
      .ok () { t with
        user := blitFrame t.user frame (a - pageBase a + i) m g
        accesses := t.accesses ++ (List.range m).map fun k =>
          (frame, a - pageBase a + i + k) } := by
    rw [storeMapping, hmapping]
    simp only
    rw [if_pos (by omega)]
  refine wp_of_run hstore (hQ _ rfl hmapping ?_)
  intro p hp
  rcases List.mem_append.mp hp with hp | hp
  · exact htouched p hp
  · obtain ⟨k, hk, rfl⟩ := List.mem_map.mp hp
    rw [List.mem_range] at hk
    exact .inr ⟨hin.cap, by omega, by omega, by omega⟩

theorem copyLinuxBytesToUser_wp {source : Option Buf} {s : RootTask}
    (hsource : ∀ b, source = some b → n.toNat ≤ b.size) :
    wp (copyLinuxBytesToUser mapped a source n)
      (fun r t => CopiedToUser
        (source.isSome ∧ 0 < n.toNat ∧ n.toNat ≤ PAGE_SIZE ∧ Admits mapped s.user a.toNat n.toNat)
        a.toNat n.toNat (source.elim (fun _ => 0) (·.byte)) s r t) E s := by
  unfold copyLinuxBytesToUser
  cases source with
  | none => exact wp_pure (.failed fun h => absurd h.1 Bool.false_ne_true)
  | some source =>
    have hlen : n.toNat ≤ source.size := hsource source rfl
    refine wp_userPage (tests_iff PAGE_SIZE (by decide)) (fun hno => .failed ?_) ?_
    · rintro ⟨-, hn, hle, hadmits⟩
      exact hno ⟨⟨hn, hle⟩, hadmits⟩
    rintro ⟨hn, hle⟩ hmapped frame hin
    rw [toNat_offset]
    -- After `i` bytes the page holds the first `i` bytes of the source.
    refine wp_seq (wp_forUp (fun i t => t.user = blitFrame s.user frame
        (a.toNat - pageBase a.toNat) i source.byte ∧ t.mapping = some frame ∧
        Touched s a.toNat n.toNat t) 0 n.toNat _
      ⟨blitFrame_zero.symm, rfl, fun _ hp => .inl hp⟩ ?_) (fun _ _ h => h) ?_
    · rintro i t - hi ⟨huser, hmapping, htouched⟩
      rw [Nat.zero_add] at hi
      refine wp_bind (Buf.wp_read (by omega) ?_)
      refine wp_storeMapping hin hi hmapping htouched fun t' huser' hmapping' htouched' =>
        ⟨?_, hmapping', htouched'⟩
      rw [huser', huser, blitFrame_succ]
    · rintro _ t ⟨huser, -, htouched⟩
      rw [Nat.zero_add] at huser
      exact wp_pure (.of_blit ⟨rfl, hn, hle, hmapped, frame, hin⟩ hin huser htouched)

theorem copyLinuxWordToUser_wp {value : Word} {s : RootTask} :
    wp (copyLinuxWordToUser mapped a value)
      (fun r t => CopiedToUser (Admits mapped s.user a.toNat 8) a.toNat 8 (wordByte value) s r t)
      E s := by
  unfold copyLinuxWordToUser
  refine wp_userPage (n := 8) ((inPage_iff (by decide)).trans (iff_of_eq (true_and _)).symm)
    (fun hno => .failed fun hadmits => hno ⟨trivial, hadmits⟩) fun _ hmapped frame hin => ?_
  rw [toNat_offset]
  have hstart : Touched s a.toNat 8 { s with mapping := some frame } := fun _ hp => .inl hp
  refine wp_bind (wp_storeMapping (i := 0) hin (Nat.le_refl 8) rfl hstart fun t huser _ htouched =>
    wp_pure (.of_blit ⟨hmapped, frame, hin⟩ hin huser htouched))

/-! ## Comparing a string -/

theorem expectedLength_eq (rest : List UInt8) {length : Nat} (h : length ≤ ABI_MAX_WRITE_BYTES) :
    expectedLength length rest = min (length + rest.length) ABI_MAX_WRITE_BYTES := by
  induction rest generalizing length with
  | nil =>
    rw [expectedLength, List.length_nil]
    omega
  | cons c rest ih =>
    rw [expectedLength, List.length_cons]
    split_ifs with hlt
    · rw [ih hlt]
      omega
    · omega

theorem copiedEqualsFrom_run {copied : Buf} {s : RootTask} (rest : List UInt8) {index : Nat}
    (hin : index + rest.length ≤ copied.size) :
    (copiedEqualsFrom copied index rest : Prog ε RootTask Bool) s =
      .ok (decide (copied.slice index rest.length = rest)) s := by
  induction rest generalizing index with
  | nil => rfl
  | cons c rest ih =>
    rw [List.length_cons] at hin
    have hread : (copied.read index : Prog ε RootTask UInt8) s = .ok (copied.byte index) s :=
      if_pos (by omega)
    rw [copiedEqualsFrom, bind_run, hread]
    simp only [List.length_cons, Buf.slice_succ, List.cons.injEq]
    by_cases hc : copied.byte index = c
    · rw [if_neg (not_not.mpr hc), ih (by omega)]
      simp only [hc, true_and]
    · rw [if_pos hc, pure_run]
      simp only [hc, false_and, decide_false]

/-- The bytes of the string with its NUL. -/
def stringSize (expected : Option CStr) : Nat := expected.elim 0 fun e => e.bytes.length + 1

/-- What `copy_linux_exact_string` does. -/
structure StringCompared (mapped : Bool) (a : Nat) (expected : Option CStr) (s : RootTask)
    (r : Bool) (t : RootTask) : Prop where
  equal : r = true ↔ ∃ e, expected = some e ∧ e.bytes.length < ABI_MAX_WRITE_BYTES ∧
    Admits mapped s.user a (e.bytes.length + 1) ∧
    s.user.bytes a (e.bytes.length + 1) = (e.bytes ++ [0]).map some
  user : t.user = s.user
  touched : Touched s a (stringSize expected) t

/-- A string that is too long, or not in the process, is not found equal. -/
theorem StringCompared.refused {a : Nat} {expected : Option CStr} {s t : RootTask}
    (h : ∀ e, expected = some e → e.bytes.length < ABI_MAX_WRITE_BYTES →
      ¬ Admits mapped s.user a (e.bytes.length + 1))
    (huser : t.user = s.user) (htouched : Touched s a (stringSize expected) t) :
    StringCompared mapped a expected s false t where
  equal := iff_of_false Bool.false_ne_true fun ⟨e, he, hlt, hadmits, _⟩ => h e he hlt hadmits
  user := huser
  touched := htouched

theorem copyLinuxExactString_wp {expected : Option CStr} {copied : Buf} {s : RootTask}
    (hsize : ABI_MAX_WRITE_BYTES < copied.size) :
    wp (copyLinuxExactString mapped a expected copied)
      (fun r t => StringCompared mapped a.toNat expected s r t) E s := by
  unfold copyLinuxExactString
  cases expected with
  | none =>
    exact wp_pure (.refused (fun e he => absurd he.symm (Option.some_ne_none e)) rfl
      fun _ hp => .inl hp)
  | some e =>
    have hlength : expectedLength 0 e.bytes = min (0 + e.bytes.length) ABI_MAX_WRITE_BYTES :=
      expectedLength_eq e.bytes (Nat.zero_le _)
    rw [Nat.zero_add] at hlength
    refine wp_ite (fun hlong => wp_pure (.refused ?_ rfl fun _ hp => .inl hp)) fun hshort => ?_
    · rintro _ ⟨⟩ hlt
      omega
    have hlt : e.bytes.length < ABI_MAX_WRITE_BYTES := by omega
    rw [show expectedLength 0 e.bytes = e.bytes.length by omega]
    have hn : (BitVec.ofNat 64 (e.bytes.length + 1)).toNat = e.bytes.length + 1 := by
      simp only [ABI_MAX_WRITE_BYTES] at hlt
      rw [BitVec.toNat_ofNat, Nat.mod_eq_of_lt (by omega)]
    have hlist : (e.bytes ++ [0]).take (e.bytes.length + 1) = e.bytes ++ [0] :=
      List.take_of_length_le (by simp)
    refine wp_seq (copyLinuxWriteBuffer_wp hsize) (fun _ _ h => h) ?_
    rintro ⟨ok, out⟩ t hcopied
    rw [hn] at hcopied
    have hadmits : ok = true ↔ Admits mapped s.user a.toNat (e.bytes.length + 1) :=
      hcopied.success.trans ⟨fun h => h.2.2, fun h => ⟨Nat.succ_pos _, hlt, h⟩⟩
    cases ok with
    | false =>
      refine wp_pure (.refused ?_ hcopied.user hcopied.touched)
      rintro _ ⟨⟩ - hadmitted
      exact absurd (hadmits.mpr hadmitted) Bool.false_ne_true
    | true =>
      have hout := hcopied.size
      have hlen : (e.bytes ++ [0]).length = e.bytes.length + 1 := by simp
      simp only at hout
      rw [hlist]
      show wp (copiedEqualsFrom out 0 (e.bytes ++ [0])) _ _ t
      refine wp_of_run (copiedEqualsFrom_run _ (by omega)) ⟨?_, hcopied.user, hcopied.touched⟩
      rw [decide_eq_true_eq, hlen]
      have hbytes := (hcopied.copied rfl).1
      constructor
      · intro h
        exact ⟨e, rfl, hlt, hadmits.mp rfl, by rw [hbytes, ← h]⟩
      · rintro ⟨e', he, -, -, h⟩
        cases he
        rw [hbytes] at h
        exact (List.map_inj_right fun _ _ => Option.some.inj).mp h

/-! ## The four helpers -/

/-- **The user copy helpers**: each of them returns without an access outside the mapped page of the
address or outside its arrays, and does what its specification says. -/
theorem copies_in_page (mapped : Bool) (s : RootTask) (a n value : Word) (output : Buf)
    (source : Option Buf) (expected : Option CStr)
    (houtput : output.size = ABI_MAX_WRITE_BYTES + 1)
    (hsource : ∀ b, source = some b → n.toNat ≤ b.size) :
    (∃ r t, (copyLinuxWriteBuffer mapped a n output : Prog Empty RootTask (Bool × Buf)) s =
        .ok r t ∧ WriteBufferCopied mapped a.toNat n.toNat output s r t) ∧
    (∃ r t, (copyLinuxBytesToUser mapped a source n : Prog Empty RootTask Bool) s = .ok r t ∧
      CopiedToUser (source.isSome ∧ 0 < n.toNat ∧ n.toNat ≤ PAGE_SIZE ∧
          Admits mapped s.user a.toNat n.toNat)
        a.toNat n.toNat (source.elim (fun _ => 0) (·.byte)) s r t) ∧
    (∃ r t, (copyLinuxWordToUser mapped a value : Prog Empty RootTask Bool) s = .ok r t ∧
      CopiedToUser (Admits mapped s.user a.toNat 8) a.toNat 8 (wordByte value) s r t) ∧
    ∃ r t, (copyLinuxExactString mapped a expected output : Prog Empty RootTask Bool) s = .ok r t ∧
      StringCompared mapped a.toNat expected s r t := by
  have hsize : ABI_MAX_WRITE_BYTES < output.size := by omega
  exact ⟨exists_ok (copyLinuxWriteBuffer_wp hsize), exists_ok (copyLinuxBytesToUser_wp hsource),
    exists_ok copyLinuxWordToUser_wp, exists_ok (copyLinuxExactString_wp hsize)⟩

/-- One page at `0x1000` that starts with `bs`. -/
def onePage (bs : List UInt8) : UserSpace :=
  ⟨fun base => if base = 0x1000 then some 1 else none, fun _ offset => bs.getD offset 0⟩

/-- The array `copied`, and a root task with one page of the process. -/
def sampleOutput : Buf := Buf.zeros 128

def sampleTask (bs : List UInt8) : RootTask := ⟨onePage bs, none, []⟩

/-- `"abc"`, and a page that has it in its last eight bytes. -/
def sampleString : CStr := ⟨[97, 98, 99], by decide⟩

def endOfPage : List UInt8 := List.replicate 0xff8 0 ++ sampleString.bytes

/-- The last eight bytes of a page. -/
theorem copies_in_page_end :
    (∃ r t, (copyLinuxWriteBuffer true 0x1ff8 8 sampleOutput : Prog Empty RootTask (Bool × Buf))
        (sampleTask endOfPage) = .ok r t ∧
      WriteBufferCopied true 0x1ff8 8 sampleOutput (sampleTask endOfPage) r t) ∧
    (∃ r t, (copyLinuxBytesToUser true 0x1ff8 (some (Buf.ofList [1, 2, 3, 4, 5, 6, 7, 8])) 8 :
        Prog Empty RootTask Bool) (sampleTask endOfPage) = .ok r t ∧
      CopiedToUser (true ∧ 0 < 8 ∧ 8 ≤ PAGE_SIZE ∧ Admits true (onePage endOfPage) 0x1ff8 8)
        0x1ff8 8 (Buf.ofList [1, 2, 3, 4, 5, 6, 7, 8]).byte (sampleTask endOfPage) r t) ∧
    (∃ r t, (copyLinuxWordToUser true 0x1ff8 7 : Prog Empty RootTask Bool)
        (sampleTask endOfPage) = .ok r t ∧
      CopiedToUser (Admits true (onePage endOfPage) 0x1ff8 8) 0x1ff8 8 (wordByte 7)
        (sampleTask endOfPage) r t) ∧
    ∃ r t, (copyLinuxExactString true 0x1ff8 (some sampleString) sampleOutput :
        Prog Empty RootTask Bool) (sampleTask endOfPage) = .ok r t ∧
      StringCompared true 0x1ff8 (some sampleString) (sampleTask endOfPage) r t :=
  copies_in_page true (sampleTask endOfPage) 0x1ff8 8 7 sampleOutput
    (some (Buf.ofList [1, 2, 3, 4, 5, 6, 7, 8])) (some sampleString) rfl
    fun _ h => Option.some.inj h ▸ Nat.le_refl 8

/-- 127 bytes. -/
def longString : CStr := ⟨List.replicate 127 65, by decide⟩

/-- A string of 127 bytes that the process has is not found equal. -/
theorem long_string_refused : ¬ ∀ (s : RootTask) (a : Word) (e : CStr) (copied : Buf),
    copied.size = ABI_MAX_WRITE_BYTES + 1 →
    (∃ frame, InPage s.user a.toNat (e.bytes.length + 1) frame) →
    ∃ r t, (copyLinuxExactString true a (some e) copied : Prog Empty RootTask Bool) s = .ok r t ∧
      (r = true ↔ s.user.bytes a.toNat (e.bytes.length + 1) = (e.bytes ++ [0]).map some) := by
  intro hall
  have hin : InPage (sampleTask longString.bytes).user (0x1000 : Word).toNat
      (longString.bytes.length + 1) 1 :=
    ⟨by decide +kernel, by decide +kernel, by decide +kernel⟩
  obtain ⟨r, t, hrun, hequal⟩ :=
    hall (sampleTask longString.bytes) 0x1000 longString sampleOutput rfl ⟨1, hin⟩
  have hspec : StringCompared true 0x1000 (some longString) (sampleTask longString.bytes) r t :=
    wp_ok (copyLinuxExactString_wp (E := fun _ _ => False) (by decide)) hrun
  have hbytes : (sampleTask longString.bytes).user.bytes 0x1000 128 =
      (longString.bytes ++ [0]).map some := by decide +kernel
  obtain ⟨e, he, hlt, -⟩ := hspec.equal.mp (hequal.mpr hbytes)
  cases he
  exact absurd hlt (by decide +kernel)

end SeLinOS.Gateway
