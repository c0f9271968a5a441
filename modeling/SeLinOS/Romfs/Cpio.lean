import SeLinOS.CLogic.Endian
import SeLinOS.Sel4.Ipc

/-!
# The CPIO archive of romfsd

The reader of the embedded `newc` archive (`servers/romfsd.c`): `add_bounded` to
`entry_payload_word`, one definition for each C function. The archive is a `Buf`, so every byte that
the code reads is checked against its size. Sizes and offsets are numbers, taken modulo `2 ^ 64`
where `size_t` can wrap. Pointers are never NULL here.

`cpioLookupRegular_run`: for any bytes, the lookup stays in the archive, and so does an entry that
it finds. `entryPayloadWord_run`: the payload of an entry is its bytes, packed.
-/

namespace SeLinOS.Romfs

open CLogic Prog Sel4

def CPIO_NEWC_HEADER_SIZE : Nat := 110
def CPIO_MAX_ENTRIES : Nat := 16
def CPIO_MODE_REGULAR : Nat := 0o100000
def CPIO_MODE_TYPE_MASK : Nat := 0o170000

/-- `struct selinos_romfs_entry`: the place of its data in the archive, and its size. -/
structure Entry where
  data : Nat
  size : Nat
  deriving Repr, DecidableEq

variable {ε σ : Type}

/-- `add_bounded`: `*result`, or `none` where it returns 0. -/
def addBounded (archive : Buf) (first second : Nat) : Option Nat :=
  if first > archive.size ∨ second > archive.size - first then none
  else some (first + second)

/-- `first - second` in `size_t`. -/
def subSize (first second : Nat) : Nat :=
  if second ≤ first then first - second else first + 2 ^ 64 - second

/-- `align4_bounded`. The subtraction wraps for an archive of fewer than three bytes. -/
def align4Bounded (archive : Buf) (offset : Nat) : Option Nat :=
  if offset > archive.size ∨ offset > subSize archive.size 3 then none
  else addBounded archive 0 ((offset + 3) % 2 ^ 64 / 4 * 4)

/-- The value of a hexadecimal digit. -/
def hexDigit (digit : UInt8) : Option Nat :=
  if 48 ≤ digit ∧ digit ≤ 57 then some (digit - 48).toNat
  else if 97 ≤ digit ∧ digit ≤ 102 then some ((digit - 97).toNat + 10)
  else if 65 ≤ digit ∧ digit ≤ 70 then some ((digit - 65).toNat + 10)
  else none

/-- The digits of `parse_hex8` from `index` on, `n` of them. -/
def parseHexFrom (archive : Buf) (text : Nat) : Nat → Nat → Nat → Prog ε σ (Option Nat)
  | _, 0, parsed => pure (some parsed)
  | index, n + 1, parsed => do
    match hexDigit (← archive.read (text + index)) with
    | none => pure none
    | some nibble => parseHexFrom archive text (index + 1) n (parsed <<< 4 ||| nibble)

/-- `parse_hex8(&archive[text], value)`: `*value`, or `none` where it returns 0. -/
def parseHex8 (archive : Buf) (text : Nat) : Prog ε σ (Option Nat) :=
  parseHexFrom archive text 0 8 0

/-- The loop of `literal_equals` from `index` on, where the bytes `rest` of the literal are left. -/
def literalEqualsFrom (archive : Buf) (name nameSize : Nat) :
    Nat → List UInt8 → Prog ε σ Bool
  | index, [] => pure (index + 1 == nameSize)
  | index, c :: rest => do
    if index + 1 ≥ nameSize then pure false
    else if (← archive.read (name + index)) ≠ c then pure false
    else literalEqualsFrom archive name nameSize (index + 1) rest

/-- `literal_equals(&archive[name], name_size, literal)`. -/
def literalEquals (archive : Buf) (name nameSize : Nat) (literal : CStr) : Prog ε σ Bool := do
  if nameSize = 0 then pure false
  else if (← archive.read (name + (nameSize - 1))) ≠ 0 then pure false
  else literalEqualsFrom archive name nameSize 0 literal.bytes

/-- `cpio_magic_is_newc(&archive[header])`. -/
def cpioMagicIsNewc (archive : Buf) (header : Nat) : Prog ε σ Bool := do
  let magic ← archive.load header 6 (archive.slice header 6)
  pure (magic == [48, 55, 48, 55, 48, 49])

/-- `"TRAILER!!!"`. -/
def TRAILER : CStr := ⟨[84, 82, 65, 73, 76, 69, 82, 33, 33, 33], by decide⟩

/-- `if (!…) return 0;`, for a call that gives its result through a pointer. -/
def require {α β : Type} : Option α → Prog (Option β) σ α
  | none => Prog.ret none
  | some a => pure a

/-- What an iteration of `cpio_lookup_regular` reads in a header: the mode, and the places of the
name and of the data. -/
structure Member where
  mode : Nat
  nameStart : Nat
  nameSize : Nat
  dataStart : Nat
  fileSize : Nat
  dataEnd : Nat
  deriving Repr, DecidableEq

/-- The header part of an iteration of `cpio_lookup_regular`. -/
def readHeader (archive : Buf) : Prog (Option Entry) Nat Member := do
  let offset ← require (align4Bounded archive (← Prog.get))
  let headerEnd ← require (addBounded archive offset CPIO_NEWC_HEADER_SIZE)
  let isNewc ← cpioMagicIsNewc archive offset
  Prog.when (¬ isNewc) (Prog.ret none)
  let mode ← require (← parseHex8 archive (offset + 14))
  let fileSize ← require (← parseHex8 archive (offset + 54))
  let nameSize ← require (← parseHex8 archive (offset + 94))
  Prog.when (nameSize = 0) (Prog.ret none)
  let nameEnd ← require (addBounded archive headerEnd nameSize)
  let dataStart ← require (align4Bounded archive nameEnd)
  let dataEnd ← require (addBounded archive dataStart fileSize)
  pure ⟨mode, headerEnd, nameSize, dataStart, fileSize, dataEnd⟩

/-- One iteration of `cpio_lookup_regular`; its state is `offset`. -/
def lookupMember (archive : Buf) (pathname : CStr) : Prog (Option Entry) Nat Unit := do
  let m ← readHeader archive
  let isTrailer ← literalEquals archive m.nameStart m.nameSize TRAILER
  Prog.when isTrailer (Prog.ret none)
  let isFile ← literalEquals archive m.nameStart m.nameSize pathname
  Prog.when isFile
    (if m.mode &&& CPIO_MODE_TYPE_MASK ≠ CPIO_MODE_REGULAR then Prog.ret none
    else Prog.ret (some ⟨m.dataStart, m.fileSize⟩))
  let offset ← require (align4Bounded archive m.dataEnd)
  Prog.modify fun _ => offset

/-- `cpio_lookup_regular(pathname, entry)`: `*entry`, or `none` where it returns 0. -/
def cpioLookupRegular (archive : Buf) (pathname : CStr) : Prog ε σ (Option Entry) :=
  Prog.callRet (Prog.forUp (fun _ => lookupMember archive pathname) 0 CPIO_MAX_ENTRIES) 0 none

/-- `entry_payload_word(entry, payload)`: `*payload`, or `none` where it returns 0. -/
def entryPayloadWord (archive : Buf) (entry : Entry) : Prog ε σ (Option Word) := do
  if entry.size = 0 ∨ entry.size > 8 then pure none
  else
    let value ← Prog.foldUp (fun index value => do
      pure (pushByte value (← archive.read (entry.data + index)))) 0 entry.size 0
    pure (some value)

/-! ## The lookup stays in the archive -/

variable {archive : Buf} {s : σ} {E : ε → σ → Prop}

theorem addBounded_some {first second n : Nat} (h : addBounded archive first second = some n) :
    n = first + second ∧ n ≤ archive.size := by
  unfold addBounded at h
  split at h
  · cases h
  · cases h
    exact ⟨rfl, by omega⟩

theorem wp_require {α β : Type} {o : Option α} {Q : α → σ → Prop} {E : Option β → σ → Prop}
    (hnone : E none s) (hsome : ∀ a, o = some a → Q a s) : wp (require o) Q E s := by
  cases o with
  | none => exact wp_ret hnone
  | some a => exact wp_pure (hsome a rfl)

/-- `parse_hex8` reads eight bytes. -/
theorem parseHex8_wp {text : Nat} {Q : Option Nat → σ → Prop} (h : text + 8 ≤ archive.size)
    (hQ : ∀ r, Q r s) : wp (parseHex8 archive text : Prog ε σ (Option Nat)) Q E s := by
  suffices hfrom : ∀ n index parsed, index + n = 8 →
      wp (parseHexFrom archive text index n parsed : Prog ε σ (Option Nat)) Q E s from
    hfrom 8 0 0 rfl
  intro n
  induction n with
  | zero => exact fun _ _ _ => wp_pure (hQ _)
  | succ n ih =>
    intro index parsed hn
    refine wp_bind (Buf.wp_read (by omega) ?_)
    cases hexDigit (archive.byte (text + index)) with
    | none => exact wp_pure (hQ _)
    | some nibble => exact ih _ _ (by omega)

/-- `literal_equals` reads bytes of the name only. -/
theorem literalEquals_wp {name nameSize : Nat} {literal : CStr} {Q : Bool → σ → Prop}
    (h : name + nameSize ≤ archive.size) (hQ : ∀ r, Q r s) :
    wp (literalEquals archive name nameSize literal : Prog ε σ Bool) Q E s := by
  unfold literalEquals
  refine wp_ite (fun _ => wp_pure (hQ _)) fun hne => wp_bind (Buf.wp_read (by omega) ?_)
  refine wp_ite (fun _ => wp_pure (hQ _)) fun _ => ?_
  suffices hfrom : ∀ rest index,
      wp (literalEqualsFrom archive name nameSize index rest : Prog ε σ Bool) Q E s from
    hfrom _ _
  intro rest
  induction rest with
  | nil => exact fun _ => wp_pure (hQ _)
  | cons c rest ih =>
    intro index
    refine wp_ite (fun _ => wp_pure (hQ _)) fun hi => wp_bind (Buf.wp_read (by omega) ?_)
    exact wp_ite (fun _ => wp_pure (hQ _)) fun _ => ih _

/-- The name and the data of the member lie in the archive. -/
structure Member.Inside (archive : Buf) (m : Member) : Prop where
  name : m.nameStart + m.nameSize ≤ archive.size
  data : m.dataStart + m.fileSize ≤ archive.size

theorem readHeader_wp {offset : Nat} {E : Option Entry → Nat → Prop}
    (hE : ∀ n, E none n) : wp (readHeader archive) (fun m _ => m.Inside archive) E offset := by
  refine wp_bind (wp_get (wp_bind (wp_require (hE _) fun offset _ => ?_)))
  refine wp_bind (wp_require (hE _) fun headerEnd hend => ?_)
  obtain ⟨rfl, hend⟩ := addBounded_some hend
  simp only [CPIO_NEWC_HEADER_SIZE] at hend
  refine wp_bind (wp_bind (Buf.wp_load (by omega) (wp_pure ?_)))
  refine wp_bind (wp_when (fun _ => wp_ret (hE _)) fun _ => ?_)
  refine wp_bind (parseHex8_wp (by omega) fun _ => wp_bind (wp_require (hE _) fun mode _ => ?_))
  refine wp_bind (parseHex8_wp (by omega) fun _ => wp_bind (wp_require (hE _) fun fileSize _ => ?_))
  refine wp_bind (parseHex8_wp (by omega) fun _ => wp_bind (wp_require (hE _) fun nameSize _ => ?_))
  refine wp_bind (wp_when (fun _ => wp_ret (hE _)) fun _ => ?_)
  refine wp_bind (wp_require (hE _) fun nameEnd hname => ?_)
  refine wp_bind (wp_require (hE _) fun dataStart _ => ?_)
  refine wp_bind (wp_require (hE _) fun dataEnd hdata => wp_pure ⟨?_, ?_⟩)
  · obtain ⟨h1, h2⟩ := addBounded_some hname
    show offset + CPIO_NEWC_HEADER_SIZE + nameSize ≤ archive.size
    omega
  · obtain ⟨h1, h2⟩ := addBounded_some hdata
    show dataStart + fileSize ≤ archive.size
    omega

/-- One iteration stays in the archive, and so does the data of an entry that it returns. -/
theorem lookupMember_wp {pathname : CStr} {offset : Nat} :
    wp (lookupMember archive pathname) (fun _ _ => True)
      (fun r _ => ∀ e, r = some e → e.data + e.size ≤ archive.size) offset := by
  have hnone : ∀ e : Entry, none = some e → e.data + e.size ≤ archive.size :=
    fun _ he => by cases he
  refine wp_seq (readHeader_wp fun _ => hnone) (fun _ _ h => h) fun m _ hm => ?_
  refine wp_bind (literalEquals_wp hm.name fun isTrailer => ?_)
  refine wp_bind (wp_when (fun _ => wp_ret hnone) fun _ => ?_)
  refine wp_bind (literalEquals_wp hm.name fun isFile => ?_)
  refine wp_bind (wp_when (fun _ => ?_) fun _ => ?_)
  · refine wp_ite (fun _ => wp_ret hnone) fun _ => wp_ret fun e he => ?_
    cases he
    exact hm.data
  · exact wp_bind (wp_require hnone fun _ _ => wp_modify trivial)

/-- For any bytes and any pathname, the lookup ends without a read outside the archive, and the data
of an entry that it finds lies in the archive. -/
theorem cpioLookupRegular_run (archive : Buf) (pathname : CStr) : ∃ r : Option Entry,
    (∀ e, r = some e → e.data + e.size ≤ archive.size) ∧
      ∀ {ε σ : Type} (s : σ),
        (cpioLookupRegular archive pathname : Prog ε σ (Option Entry)) s = .ok r s := by
  have hloop : wp (Prog.forUp (fun _ => lookupMember archive pathname) 0 CPIO_MAX_ENTRIES)
      (fun _ _ => True) (fun r _ => ∀ e, r = some e → e.data + e.size ≤ archive.size) 0 :=
    wp_forUp (fun _ _ => True) 0 CPIO_MAX_ENTRIES 0 trivial fun _ _ _ _ _ => lookupMember_wp
  exact callRet_run (wp_mono hloop (fun _ _ _ e he => absurd he (by simp)) fun _ _ h => h)

/-- The payload of an entry: its bytes, packed. -/
def payload (archive : Buf) (entry : Entry) : Option Word :=
  if entry.size = 0 ∨ entry.size > 8 then none else some (be (archive.slice entry.data entry.size))

theorem entryPayloadWord_run {entry : Entry} (hin : entry.data + entry.size ≤ archive.size) :
    (entryPayloadWord archive entry : Prog ε σ (Option Word)) s =
      .ok (payload archive entry) s := by
  refine run_of_wp ?_
  unfold entryPayloadWord payload
  by_cases hsize : entry.size = 0 ∨ entry.size > 8
  · simp only [hsize, ↓reduceIte]
    exact wp_pure ⟨rfl, rfl⟩
  simp only [hsize, ↓reduceIte]
  refine wp_seq (wp_foldUp (fun i value s' => s' = s ∧ value = be (archive.slice entry.data i)) 0
    entry.size 0 s ⟨rfl, rfl⟩ ?_) (fun _ _ h => h) ?_
  · rintro i value s' - hi ⟨rfl, rfl⟩
    refine wp_bind (Buf.wp_read (by omega) (wp_pure ⟨rfl, ?_⟩))
    simp [be, Buf.slice, List.range_succ]
  · rintro value s' ⟨rfl, rfl⟩
    rw [Nat.zero_add]
    exact wp_pure ⟨rfl, rfl⟩

end SeLinOS.Romfs
