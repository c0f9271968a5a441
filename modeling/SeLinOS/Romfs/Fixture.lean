import Mathlib.Data.Nat.Digits.Lemmas
import SeLinOS.Romfs.Cpio

/-!
# The archive of the fixture generator

`tools/generate_romfs_cpio_fixture.py`: the bytes of the archive for a list of files; `none` where
the script raises.

* `align4`, `header`, `appendMember`, `build`: the script.
* `MemberAt archive offset name data mode`: the bytes of a member at its place.
* `appendMember_at`: what `append_member` appends is a member.
* `Members`, `build_members`: an archive of the script is its members, one after the other.
-/

namespace SeLinOS.Romfs

open CLogic Sel4

def MODE_FILE : Nat := 0o100644

/-- A pair of `FILES`. -/
structure FixtureFile where
  name : CStr
  data : List UInt8
  deriving DecidableEq

/-- `align4`. -/
def align4 (data : List UInt8) : List UInt8 :=
  data ++ List.replicate ((4 - data.length % 4) % 4) 0

/-- A digit of the format `x`. -/
def hexChar (digit : Nat) : UInt8 := UInt8.ofNat (if digit < 10 then 48 + digit else 87 + digit)

/-- The digits of `f"{field:08x}"`, the highest first: eight of them, or more. -/
def hexDigits (field : Nat) : List Nat := (Nat.digits 16 field).reverse.leftpad 8 0

/-- `f"{field:08x}".encode("ascii")`. -/
def hex8 (field : Nat) : List UInt8 := (hexDigits field).map hexChar

/-- `header`. -/
def header (ino mode size namesize : Nat) : Option (List UInt8) :=
  let fields := [ino, mode, 0, 0, 1, 0, size, 0, 0, 0, 0, namesize, 0]
  let encoded := [48, 55, 48, 55, 48, 49] ++ fields.flatMap hex8
  if encoded.length ≠ 110 then none else some encoded

/-- `name.encode("ascii") + b"\0"`. -/
def encodeName (name : CStr) : Option (List UInt8) :=
  if name.bytes.all (· < 128) then some (name.bytes ++ [0]) else none

/-- `append_member`. -/
def appendMember (archive : List UInt8) (ino : Nat) (name : CStr) (data : List UInt8)
    (mode : Nat) : Option (List UInt8) := do
  let nameBytes ← encodeName name
  let archive := align4 archive
  let header ← header ino mode data.length nameBytes.length
  pure (align4 (archive ++ header ++ nameBytes) ++ data)

/-- The loop of `main` over the files, from the number `ino` on. -/
def appendFiles : List UInt8 → Nat → List FixtureFile → Option (List UInt8)
  | archive, _, [] => some archive
  | archive, ino, file :: files => do
    let archive ← appendMember archive ino file.name file.data MODE_FILE
    appendFiles archive (ino + 1) files

/-- The archive of `main`. -/
def build (files : List FixtureFile) : Option (List UInt8) := do
  let archive ← appendFiles [] 1 files
  let archive ← appendMember archive (files.length + 1) TRAILER [] 0
  pure (align4 archive)

/-! ## Members in an archive -/

/-- The next multiple of four. -/
def alignUp (offset : Nat) : Nat := (offset + 3) / 4 * 4

/-- The data of a member at `offset` starts here. -/
def dataStart (offset : Nat) (name : CStr) : Nat :=
  alignUp (offset + CPIO_NEWC_HEADER_SIZE + (name.bytes.length + 1))

/-- The bytes of the member at `offset`. The name ends where the reader's alignment still fits. -/
structure MemberAt (archive : Buf) (offset : Nat) (name : CStr) (data : List UInt8)
    (mode : Nat) : Prop where
  aligned : offset % 4 = 0
  magic : archive.slice offset 6 = [48, 55, 48, 55, 48, 49]
  modeField : archive.slice (offset + 14) 8 = hex8 mode
  sizeField : archive.slice (offset + 54) 8 = hex8 data.length
  nameSizeField : archive.slice (offset + 94) 8 = hex8 (name.bytes.length + 1)
  nameBytes :
    archive.slice (offset + CPIO_NEWC_HEADER_SIZE) (name.bytes.length + 1) = name.bytes ++ [0]
  dataBytes : archive.slice (dataStart offset name) data.length = data
  nameEnd : offset + CPIO_NEWC_HEADER_SIZE + (name.bytes.length + 1) + 3 ≤ archive.size
  dataEnd : dataStart offset name + data.length ≤ archive.size

/-- The members from `offset` on: the files in their order, then the trailer. -/
def Members (archive : Buf) : Nat → List FixtureFile → Prop
  | offset, [] => MemberAt archive offset TRAILER [] 0
  | offset, file :: files =>
    MemberAt archive offset file.name file.data MODE_FILE ∧
      dataStart offset file.name + file.data.length + 3 ≤ archive.size ∧
      Members archive (alignUp (dataStart offset file.name + file.data.length)) files

theorem length_align4 (data : List UInt8) : (align4 data).length = alignUp data.length := by
  simp only [align4, alignUp, List.length_append, List.length_replicate]
  omega

theorem prefix_align4 (data : List UInt8) : data <+: align4 data := List.prefix_append _ _

theorem length_hex8 (field : Nat) : 8 ≤ (hex8 field).length := by
  simp [hex8, hexDigits, List.leftpad]
  omega

/-- Eight digits are enough for a number below `2 ^ 32` only. -/
theorem lt_of_length_hex8 {field : Nat} (h : (hex8 field).length = 8) : field < 2 ^ 32 := by
  have hlen : (Nat.digits 16 field).length ≤ 8 := by
    simp [hex8, hexDigits, List.leftpad] at h
    omega
  calc field < 16 ^ (Nat.digits 16 field).length :=
        Nat.lt_base_pow_length_digits (b := 16) (by decide)
    _ ≤ 16 ^ 8 := Nat.pow_le_pow_right (by decide) hlen
    _ = 2 ^ 32 := by decide

theorem length_hex8_of_lt {field : Nat} (h : field < 2 ^ 32) : (hex8 field).length = 8 := by
  have hlen : (Nat.digits 16 field).length ≤ 8 :=
    (Nat.digits_length_le_iff (by decide) field).mpr (by omega)
  simp [hex8, hexDigits, List.leftpad]
  omega

/-- The fields of a header that is written: eight digits each. -/
structure HeaderAt (archive : Buf) (offset mode size namesize : Nat) : Prop where
  magic : archive.slice offset 6 = [48, 55, 48, 55, 48, 49]
  mode : archive.slice (offset + 14) 8 = hex8 mode
  size : archive.slice (offset + 54) 8 = hex8 size
  nameSize : archive.slice (offset + 94) 8 = hex8 namesize

theorem header_at {ino mode size namesize : Nat} {encoded : List UInt8}
    (h : header ino mode size namesize = some encoded) (base rest : List UInt8) :
    HeaderAt (Buf.ofList (base ++ encoded ++ rest)) base.length mode size namesize ∧
      encoded.length = CPIO_NEWC_HEADER_SIZE := by
  unfold header at h
  simp only at h
  split at h
  · cases h
  rename_i hlen
  cases h
  have h0 : (hex8 0).length = 8 := by decide
  have h1 : (hex8 1).length = 8 := by decide
  have hi := length_hex8 ino
  have hm := length_hex8 mode
  have hs := length_hex8 size
  have hn := length_hex8 namesize
  refine ⟨?_, not_not.mp hlen⟩
  simp only [List.flatMap_cons, List.flatMap_nil, List.length_append, List.length_cons,
    List.length_nil, h0, h1, not_not] at hlen
  have hino : (hex8 ino).length = 8 := by omega
  have hmode : (hex8 mode).length = 8 := by omega
  have hsize : (hex8 size).length = 8 := by omega
  have hnamesize : (hex8 namesize).length = 8 := by omega
  -- a field is what stands after the magic and the fields before it
  have hfield : ∀ (before : List Nat) (field : Nat) (after : List Nat),
      [ino, mode, 0, 0, 1, 0, size, 0, 0, 0, 0, namesize, 0] = before ++ field :: after →
      (base ++ [48, 55, 48, 55, 48, 49] ++ before.flatMap hex8) ++ hex8 field <+:
        base ++ ([48, 55, 48, 55, 48, 49] ++
          [ino, mode, 0, 0, 1, 0, size, 0, 0, 0, 0, namesize, 0].flatMap hex8) ++ rest := by
    intro before field after hfields
    refine ⟨after.flatMap hex8 ++ rest, ?_⟩
    rw [hfields]
    simp
  refine ⟨Buf.slice_ofList ?_ rfl rfl, Buf.slice_ofList (hfield [ino] mode _ rfl) ?_ hmode.symm,
    Buf.slice_ofList (hfield [ino, mode, 0, 0, 1, 0] size _ rfl) ?_ hsize.symm,
    Buf.slice_ofList (hfield [ino, mode, 0, 0, 1, 0, size, 0, 0, 0, 0] namesize _ rfl) ?_
      hnamesize.symm⟩
  · rw [← List.append_assoc, List.append_assoc]
    exact List.prefix_append _ _
  all_goals simp [hino, hmode, hsize, h0, h1]

/-- The member that `append_member` appends, whatever follows it. -/
theorem appendMember_at {archive out : List UInt8} {ino mode : Nat} {name : CStr}
    {data : List UInt8} (h : appendMember archive ino name data mode = some out) :
    archive <+: out ∧ out.length = dataStart (alignUp archive.length) name + data.length ∧
      data.length < 2 ^ 32 ∧ name.bytes.length < 2 ^ 32 ∧
      ∀ tail, alignUp archive.length + CPIO_NEWC_HEADER_SIZE + (name.bytes.length + 1) + 3 ≤
          (out ++ tail).length →
        MemberAt (Buf.ofList (out ++ tail)) (alignUp archive.length) name data mode := by
  simp only [appendMember, Option.bind_eq_bind, Option.bind_eq_some_iff, Option.pure_def,
    Option.some.injEq] at h
  obtain ⟨nameBytes, hname, encoded, hheader, hout⟩ := h
  obtain rfl : nameBytes = name.bytes ++ [0] := by
    unfold encodeName at hname
    split at hname <;> cases hname
    rfl
  have hbase := length_align4 archive
  have hstart : (align4 (align4 archive ++ encoded ++ (name.bytes ++ [0]))).length =
      dataStart (alignUp archive.length) name := by
    have hlen := (header_at hheader [] []).2
    rw [length_align4]
    simp only [List.length_append, List.length_singleton, hbase, hlen, dataStart]
  have hlength : out.length = dataStart (alignUp archive.length) name + data.length := by
    rw [← hout, List.length_append, hstart]
  obtain ⟨pad, hpad⟩ := prefix_align4 (align4 archive ++ encoded ++ (name.bytes ++ [0]))
  have hfields := (header_at hheader [] []).1
  refine ⟨?_, hlength, lt_of_length_hex8 ?_, ?_, ?_⟩
  · rw [← hout, ← hpad]
    simp only [List.append_assoc]
    exact (prefix_align4 archive).trans (List.prefix_append _ _)
  · rw [← hfields.size, Buf.length_slice]
  · have hname : (hex8 (name.bytes ++ [0]).length).length = 8 := by
      rw [← hfields.nameSize, Buf.length_slice]
    have := lt_of_length_hex8 hname
    rw [List.length_append, List.length_singleton] at this
    omega
  intro tail hend
  have hsplit : out ++ tail =
      align4 archive ++ encoded ++ (name.bytes ++ [0]) ++ (pad ++ data ++ tail) := by
    rw [← hout, ← hpad]
    simp only [List.append_assoc]
  obtain ⟨hat, hlen⟩ := header_at hheader (align4 archive)
    ((name.bytes ++ [0]) ++ (pad ++ data ++ tail))
  rw [← List.append_assoc, ← hsplit, hbase] at hat
  refine ⟨?_, hat.magic, hat.mode, hat.size, ?_, ?_, ?_, hend, ?_⟩
  · simp only [alignUp]
    omega
  · rw [hat.nameSize, List.length_append, List.length_singleton]
  · refine Buf.slice_ofList (a := align4 archive ++ encoded) ?_ ?_ ?_
    · rw [hsplit]
      exact List.prefix_append _ _
    · rw [List.length_append, hbase, hlen]
    · rw [List.length_append, List.length_singleton]
  · refine Buf.slice_ofList ?_ hstart.symm rfl
    rw [hout]
    exact List.prefix_append _ _
  · show _ ≤ (out ++ tail).length
    rw [List.length_append, hlength]
    omega

/-- The files and the trailer, appended to an archive, are members of what the script writes. -/
theorem appendFiles_members {files : List FixtureFile} {archive before out : List UInt8}
    {ino last : Nat} (h : appendFiles archive ino files = some before)
    (ht : appendMember before last TRAILER [] 0 = some out) :
    archive <+: out ∧ archive.length + 121 ≤ out.length ∧
      out.length ≤ archive.length + (files.length + 1) * 2 ^ 34 ∧
      Members (Buf.ofList (align4 out)) (alignUp archive.length) files := by
  have htrailer : TRAILER.bytes.length = 10 := rfl
  induction files generalizing archive ino with
  | nil =>
    obtain rfl := Option.some.inj h
    obtain ⟨hpre, hlength, -, -, hat⟩ := appendMember_at ht
    obtain ⟨tail, htail⟩ := prefix_align4 out
    have halign := length_align4 out
    simp only [dataStart, alignUp, CPIO_NEWC_HEADER_SIZE, htrailer, List.length_nil] at hlength
    refine ⟨hpre, by omega, by simp only [List.length_nil]; omega, ?_⟩
    rw [← htail]
    refine hat tail ?_
    -- the trailer's name ends three bytes before the end of the archive
    rw [htail, halign]
    simp only [alignUp, CPIO_NEWC_HEADER_SIZE, htrailer]
    omega
  | cons file files ih =>
    simp only [appendFiles, Option.bind_eq_bind, Option.bind_eq_some_iff] at h
    obtain ⟨next, hnext, h⟩ := h
    obtain ⟨hpre, hlength, hdata, hname, hat⟩ := appendMember_at hnext
    obtain ⟨hout, hmore, hle, hmembers⟩ := ih h
    obtain ⟨tail, htail⟩ := hout.trans (prefix_align4 out)
    have halign := length_align4 out
    refine ⟨hpre.trans hout, ?_, ?_, ?_, ?_, ?_⟩
    · have := hpre.length_le
      omega
    · simp only [dataStart, alignUp, CPIO_NEWC_HEADER_SIZE] at hlength
      simp only [List.length_cons]
      omega
    · rw [← htail]
      refine hat tail ?_
      rw [htail, halign]
      simp only [dataStart, alignUp, CPIO_NEWC_HEADER_SIZE] at hlength ⊢
      omega
    · rw [← hlength]
      show _ ≤ (align4 out).length
      rw [halign]
      simp only [alignUp]
      omega
    · rw [← hlength]
      exact hmembers

/-- An archive of the script: its members, from the start on. -/
theorem build_members {files : List FixtureFile} {bytes : List UInt8}
    (h : build files = some bytes) : bytes.length ≤ (files.length + 1) * 2 ^ 34 + 3 ∧
      Members (Buf.ofList bytes) 0 files := by
  simp only [build, Option.bind_eq_bind, Option.bind_eq_some_iff, Option.pure_def,
    Option.some.injEq] at h
  obtain ⟨archive, hfiles, out, hout, rfl⟩ := h
  obtain ⟨-, -, hle, hmembers⟩ := appendFiles_members hfiles hout
  refine ⟨?_, hmembers⟩
  rw [length_align4, alignUp]
  simp only [List.length_nil] at hle
  omega

/-! ## When the script raises -/

theorem header_total {ino mode size namesize : Nat} (hino : ino < 2 ^ 32) (hmode : mode < 2 ^ 32)
    (hsize : size < 2 ^ 32) (hnamesize : namesize < 2 ^ 32) :
    ∃ encoded, header ino mode size namesize = some encoded := by
  have h0 : (hex8 0).length = 8 := by decide
  have h1 : (hex8 1).length = 8 := by decide
  refine ⟨_, if_neg (not_not.mpr ?_)⟩
  simp only [List.flatMap_cons, List.flatMap_nil, List.length_append, List.length_cons,
    List.length_nil, h0, h1, length_hex8_of_lt hino, length_hex8_of_lt hmode,
    length_hex8_of_lt hsize, length_hex8_of_lt hnamesize]

/-- The script writes a file whose name is ASCII and whose lengths have eight digits. -/
def FixtureFile.Writable (file : FixtureFile) : Prop :=
  file.name.bytes.all (· < 128) ∧ file.name.bytes.length + 1 < 2 ^ 32 ∧ file.data.length < 2 ^ 32

theorem appendMember_total (archive : List UInt8) {file : FixtureFile} (h : file.Writable)
    {ino mode : Nat} (hino : ino < 2 ^ 32) (hmode : mode < 2 ^ 32) :
    ∃ out, appendMember archive ino file.name file.data mode = some out := by
  obtain ⟨hascii, hname, hdata⟩ := h
  obtain ⟨encoded, hheader⟩ := header_total hino hmode hdata
    (show (file.name.bytes ++ [0]).length < 2 ^ 32 by simpa using hname)
  refine ⟨align4 (align4 archive ++ encoded ++ (file.name.bytes ++ [0])) ++ file.data, ?_⟩
  rw [appendMember, encodeName, if_pos hascii, Option.bind_eq_bind, Option.bind_some, hheader]
  rfl

/-- The script writes an archive for every list of such files. -/
theorem build_total {files : List FixtureFile} (h : ∀ file ∈ files, file.Writable)
    (hcount : files.length + 1 < 2 ^ 32) : ∃ bytes, build files = some bytes := by
  suffices hfiles : ∀ archive ino, ino + files.length < 2 ^ 32 →
      ∃ before, appendFiles archive ino files = some before by
    obtain ⟨before, hbefore⟩ := hfiles [] 1 (by omega)
    have htrailer : (FixtureFile.mk TRAILER []).Writable := ⟨by decide, by decide, by decide⟩
    obtain ⟨out, hout⟩ := appendMember_total before htrailer hcount (show 0 < 2 ^ 32 by decide)
    refine ⟨align4 out, ?_⟩
    rw [build, hbefore, Option.bind_eq_bind, Option.bind_some, hout]
    rfl
  clear hcount
  induction files with
  | nil => exact fun archive _ _ => ⟨archive, rfl⟩
  | cons file files ih =>
    intro archive ino hino
    rw [List.length_cons] at hino
    obtain ⟨next, hnext⟩ := appendMember_total archive (h file (List.mem_cons_self ..))
      (show ino < 2 ^ 32 by omega) (show MODE_FILE < 2 ^ 32 by decide)
    obtain ⟨before, hbefore⟩ := ih (fun f hf => h f (List.mem_cons_of_mem _ hf)) next (ino + 1)
      (by omega)
    refine ⟨before, ?_⟩
    rw [appendFiles, hnext, Option.bind_eq_bind, Option.bind_some, hbefore]

end SeLinOS.Romfs
