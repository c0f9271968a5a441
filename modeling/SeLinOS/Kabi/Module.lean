import SeLinOS.Kabi.Elf

/-!
# The module parser

`selinos_kabi_parse_module` and the helpers it shares with the relocation stage
(`kabi/src/selinos_kabi_module.c`), one definition for each C function. The image is a `Buf`, and
every access to it is checked; a pointer into the image is the offset of its byte. A C string that
the caller passes (the required vermagic prefix, a literal) is the list of its bytes before the
NUL. Object pointers are never NULL here.
-/

namespace SeLinOS.Kabi

open CLogic

/-- `enum selinos_kabi_module_status`. -/
inductive Status where
  | ok | eArgument | eTruncated | eElf | eArch | eType | eSections | eVermagic | eMetadata
  | eMemory | eRelocation | eSymbol
  deriving Repr, DecidableEq

def MODULE_NAME_MAX : Nat := 64
def VERMAGIC_MAX : Nat := 128

/-- `struct selinos_kabi_module_summary`. -/
structure Summary where
  name : Buf
  vermagic : Buf
  elfMachine : Nat
  relocationSections : Nat
  undefinedSymbols : Nat
  modinfoEntries : Nat
  hasLicense : Bool
  hasVersions : Bool

/-- `zero_bytes(summary, sizeof(*summary))`. -/
def Summary.zero : Summary where
  name := Buf.zeros MODULE_NAME_MAX
  vermagic := Buf.zeros VERMAGIC_MAX
  elfMachine := 0
  relocationSections := 0
  undefinedSymbols := 0
  modinfoEntries := 0
  hasLicense := false
  hasVersions := false

section Helpers

variable {ε σ : Type}

/-- `range_ok`. -/
def rangeOk (imageSize offset length : Nat) : Bool :=
  decide (offset ≤ imageSize) && decide (length ≤ imageSize - offset)

/-- `bytes_equal(&img[left], right, count)` with a literal of `count` bytes on the right. -/
def bytesEqual (img : Buf) (left : Nat) : List UInt8 → Prog ε σ Bool
  | [] => pure true
  | c :: right => do
    let b ← img.read left
    if b ≠ c then pure false else bytesEqual img (left + 1) right

/-- `string_terminated(&img[text], limit)`. -/
def stringTerminated (img : Buf) (text limit : Nat) : Prog ε σ Bool := do
  let found ← Prog.firstUp (fun index => do
    let b ← img.read (text + index)
    pure (if b = 0 then some () else none)) 0 limit
  pure found.isSome

/-- `name_equals(&img[candidate], candidate_limit, expected)` from index `index` on. -/
def nameEqualsFrom (img : Buf) (candidate limit : Nat) : List UInt8 → Nat → Prog ε σ Bool
  | [], index =>
    if index < limit then do
      let b ← img.read (candidate + index)
      pure (b == 0)
    else
      pure false
  | c :: expected, index =>
    if index ≥ limit then
      pure false
    else do
      let b ← img.read (candidate + index)
      if b ≠ c then pure false else nameEqualsFrom img candidate limit expected (index + 1)

/-- `name_equals(&img[candidate], candidate_limit, expected)`. -/
def nameEquals (img : Buf) (candidate limit : Nat) (expected : List UInt8) : Prog ε σ Bool :=
  nameEqualsFrom img candidate limit expected 0

/-- `copy_value(target, sizeof target, &img[value], value_size)`: the array after it. -/
def copyValue (img : Buf) (target : Buf) (value valueSize : Nat) : Prog ε σ Buf :=
  if target.size = 0 then
    pure target
  else do
    let (copied, target) ← Prog.whileM
      (fun (copied, target) =>
        Prog.andThen (copied + 1 < target.size ∧ copied < valueSize) do
          let b ← img.read (value + copied)
          pure (b != 0))
      (fun (copied, target) => do
        let b ← img.read (value + copied)
        let target ← target.write copied b
        pure (copied + 1, target))
      (target.size + 1) (0, target)
    target.write copied 0

/-- `begins_with(text, prefix)` from index `index` of `text` on. -/
def beginsWithFrom (text : Buf) : List UInt8 → Nat → Prog ε σ Bool
  | [], _ => pure true
  | c :: rest, index => do
    let b ← text.read index
    if b ≠ c then pure false else beginsWithFrom text rest (index + 1)

/-- `begins_with(text, prefix)`. -/
def beginsWith (text : Buf) (start : List UInt8) : Prog ε σ Bool := beginsWithFrom text start 0

end Helpers

/-- `"name="`, `"vermagic="`, `"license="`, `".modinfo"` and `"__versions"`. -/
def nameKey : List UInt8 := [0x6e, 0x61, 0x6d, 0x65, 0x3d]
def vermagicKey : List UInt8 := [0x76, 0x65, 0x72, 0x6d, 0x61, 0x67, 0x69, 0x63, 0x3d]
def licenseKey : List UInt8 := [0x6c, 0x69, 0x63, 0x65, 0x6e, 0x73, 0x65, 0x3d]
def modinfoName : List UInt8 := [0x2e, 0x6d, 0x6f, 0x64, 0x69, 0x6e, 0x66, 0x6f]
def versionsName : List UInt8 := [0x5f, 0x5f, 0x76, 0x65, 0x72, 0x73, 0x69, 0x6f, 0x6e, 0x73]

/-- The inner loop of `parse_modinfo`: the length of the entry at `at`. -/
def modinfoEntrySize (img : Buf) (data dataSize at_ : Nat) : Prog Status Summary Nat :=
  Prog.whileM
    (fun entrySize =>
      Prog.andThen (at_ + entrySize < dataSize) do
        let b ← img.read (data + at_ + entrySize)
        pure (b != 0))
    (fun entrySize => pure (entrySize + 1))
    (dataSize + 1) 0

/-- The entry of `entry_size` bytes at `entry`: the three keys that `parse_modinfo` knows. -/
def modinfoEntry (img : Buf) (entry entrySize : Nat) : Prog Status Summary Unit := do
  Prog.modify fun s => { s with modinfoEntries := (s.modinfoEntries + 1) % 2 ^ 32 }
  let isName ← Prog.andThen (entrySize > 5) (bytesEqual img entry nameKey)
  if isName then
    let s ← Prog.get
    let name ← copyValue img s.name (entry + 5) (entrySize - 5)
    Prog.modify fun s => { s with name }
  else
    let isVermagic ← Prog.andThen (entrySize > 9) (bytesEqual img entry vermagicKey)
    if isVermagic then
      let s ← Prog.get
      let vermagic ← copyValue img s.vermagic (entry + 9) (entrySize - 9)
      Prog.modify fun s => { s with vermagic }
    else
      let isLicense ← Prog.andThen (entrySize > 8) (bytesEqual img entry licenseKey)
      Prog.when isLicense (Prog.modify fun s => { s with hasLicense := true })

/-- `parse_modinfo(&img[data], data_size, summary)`. -/
def parseModinfo (img : Buf) (data dataSize : Nat) : Prog Status Summary Unit := do
  let _ ← Prog.whileM (fun at_ => pure (decide (at_ < dataSize)))
    (fun at_ => do
      let entrySize ← modinfoEntrySize img data dataSize at_
      if entrySize = 0 then
        pure (at_ + 1)
      else
        modinfoEntry img (data + at_) entrySize
        pure (at_ + (entrySize + 1)))
    (dataSize + 1) 0

/-- The symbol table of section `sh`: counts the undefined symbols that have a name. -/
def parseSymtab (img : Buf) (sh : Shdr) : Prog Status Summary Unit := do
  if sh.entsize ≠ symSize ∨ sh.size % sh.entsize ≠ 0 then
    Prog.ret .eSections
  else
    Prog.forUp (fun symbolIndex => do
      let o := sh.offset + symSize * symbolIndex
      let symbol ← img.load o symSize (Sym.at img o)
      Prog.when (symbol.shndx = SHN_UNDEF ∧ symbol.name ≠ 0) (Prog.modify fun s =>
        { s with undefinedSymbols := (s.undefinedSymbols + 1) % 2 ^ 32 })) 0 (sh.size / sh.entsize)

/-- `sections[i]`, read from the image. -/
def loadSection {ε σ : Type} (img : Buf) (i : Nat) : Prog ε σ Shdr :=
  img.load (shdrOff img i) shdrSize (sectionAt img i)

/-- One iteration of the section loop of `selinos_kabi_parse_module`. -/
def parseSection (img : Buf) (names : Shdr) (index : Nat) : Prog Status Summary Unit := do
  let sh ← loadSection img index
  if sh.name ≥ names.size ∨ ¬ rangeOk img.size sh.offset sh.size then
    Prog.ret .eSections
  else
    let sectionName := names.offset + sh.name
    let sectionNameLimit := names.size - sh.name
    Prog.when (sh.type = SHT_RELA) (Prog.modify fun s =>
      { s with relocationSections := (s.relocationSections + 1) % 2 ^ 32 })
    Prog.when (sh.type = SHT_SYMTAB) (parseSymtab img sh)
    let isModinfo ← nameEquals img sectionName sectionNameLimit modinfoName
    Prog.when isModinfo (parseModinfo img sh.offset sh.size)
    let isVersions ← nameEquals img sectionName sectionNameLimit versionsName
    Prog.when isVersions (Prog.modify fun s => { s with hasVersions := true })

/-- The `e_ident` check. -/
def parseIdent (img : Buf) : Prog Status Summary Unit := do
  let magic ← bytesEqual img 0 elfMagic
  if !magic then Prog.ret .eElf
  else
    let cls ← img.read EI_CLASS
    let data ← img.read EI_DATA
    let version ← img.read EI_VERSION
    if cls ≠ ELFCLASS64 ∨ data ≠ ELFDATA2LSB ∨ version ≠ EV_CURRENT then Prog.ret .eElf
    else pure ()

/-- The header checks of `selinos_kabi_parse_module`: the section-name table. -/
def parseHeader (img : Buf) : Prog Status Summary Shdr := do
  if img.size < ehdrSize then Prog.ret .eTruncated
  else
    parseIdent img
    let header ← img.load 0 ehdrSize (Ehdr.at img)
    if header.machine ≠ EM_X86_64 then Prog.ret .eArch
    else if header.type ≠ ET_REL then Prog.ret .eType
    else if header.shentsize ≠ shdrSize ∨ header.shnum = 0 ∨ header.shstrndx = SHN_UNDEF ∨
        header.shstrndx ≥ header.shnum then
      Prog.ret .eSections
    else if ¬ rangeOk img.size header.shoff (header.shentsize * header.shnum) then
      Prog.ret .eTruncated
    else
      let names ← loadSection img header.shstrndx
      if ¬ rangeOk img.size names.offset names.size then Prog.ret .eTruncated
      else pure names

/-- The metadata checks at the end of `selinos_kabi_parse_module`. -/
def parseMetadata (img : Buf) (required : CStr) : Prog Status Summary Unit := do
  let s ← Prog.get
  let name0 ← s.name.read 0
  let vermagic0 ← s.vermagic.read 0
  if name0 = 0 ∨ vermagic0 = 0 ∨ ¬ s.hasLicense then Prog.ret .eMetadata
  else
    let matched ← beginsWith s.vermagic required.bytes
    if matched then Prog.modify fun s => { s with elfMachine := (Ehdr.at img).machine }
    else Prog.ret .eVermagic

/-- `selinos_kabi_parse_module`; it falls through where the C function returns
`SELINOS_KABI_MODULE_OK`. -/
def parseModule (img : Buf) (required : CStr) : Prog Status Summary Unit := do
  Prog.modify fun _ => Summary.zero
  let names ← parseHeader img
  Prog.forUp (parseSection img names) 0 (Ehdr.at img).shnum
  parseMetadata img required

end SeLinOS.Kabi
