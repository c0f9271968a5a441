import SeLinOS.Kabi.Module

/-!
# The relocation stage

`selinos_kabi_relocate_module` (`kabi/src/selinos_kabi_module.c`): layout and copy, the search for
the symbol table, the relocation walk and the lookup of the two entry points, each loop of the
source a definition of its own. The locals that live across the loops (`used`,
`section_addresses`), the load memory and the output structure are the state, so that they are
known also after an early return.

Addresses are 64-bit numbers; `+` on them is written with its `% 2 ^ 64`.
-/

namespace SeLinOS.Kabi

open CLogic

/-- `selinos_kabi_symbol_resolver_t` with its context: `none` where it returns 0. -/
abbrev Resolver : Type := CStr → Option (BitVec 64)

/-- `load_memory` and `load_memory_size`. An object ends at or below the end of the address
space. -/
structure LoadBuffer where
  base : Nat
  size : Nat
  fits : base + size ≤ 2 ^ 64

/-- `struct selinos_kabi_loaded_module`. -/
structure Loaded where
  loadBase : Nat
  imageSize : Nat
  initModule : Nat
  cleanupModule : Nat
  relocatedSections : Nat
  appliedRelocations : Nat
  deriving Repr, DecidableEq

def Loaded.zero : Loaded := ⟨0, 0, 0, 0, 0, 0⟩

/-- The state of a call: the memory, the output structure and the locals of the layout. -/
structure LoadState where
  mem : Mem
  loaded : Loaded
  sectionAddresses : Nat → Nat
  used : Nat

/-- What the second loop keeps of the symbol table: its section (`symbol_section - sections`), the
place and number of the symbols, and their names. -/
structure Symtab where
  section_ : Nat
  symbols : Nat
  symbolCount : Nat
  names : Nat
  namesSize : Nat

/-- The symbol table of section `index`. -/
def symtabAt (img : Buf) (index : Nat) : Symtab where
  section_ := index
  symbols := (sectionAt img index).offset
  symbolCount := (sectionAt img index).size / (sectionAt img index).entsize
  names := (sectionAt img (sectionAt img index).link).offset
  namesSize := (sectionAt img (sectionAt img index).link).size

abbrev LoadM : Type → Type := Prog Status LoadState

/-! ## Writes -/

/-- Writes one byte of the load memory. -/
def store (lb : LoadBuffer) (a : Nat) (v : UInt8) : LoadM Unit := fun s =>
  if lb.base ≤ a ∧ a < lb.base + lb.size then .ok () { s with mem := s.mem.set a v }
  else .fault (.write a)

/-- `section_addresses[index] = address`. -/
def setSectionAddress (index address : Nat) : LoadM Unit := fun s =>
  if index < MODULE_MAX_SECTIONS then
    .ok () { s with sectionAddresses := Function.update s.sectionAddresses index address }
  else .fault (.write index)

/-- `section_addresses[index]`. -/
def sectionAddress (index : Nat) : LoadM Nat := fun s =>
  if index < MODULE_MAX_SECTIONS then .ok (s.sectionAddresses index) s else .fault (.read index)

/-- `zero_bytes` on the load memory. -/
def zeroBytes (lb : LoadBuffer) (target size : Nat) : LoadM Unit :=
  Prog.forUp (fun index => store lb (target + index) 0) 0 size

/-- `copy_bytes` from the image to the load memory. -/
def copyBytes (img : Buf) (lb : LoadBuffer) (target source size : Nat) : LoadM Unit :=
  Prog.forUp (fun index => do
    let b ← img.read (source + index)
    store lb (target + index) b) 0 size

/-- `write_u32`. -/
def writeU32 (lb : LoadBuffer) (target value : Nat) : LoadM Unit := do
  store lb target (byteAt value 0)
  store lb (target + 1) (byteAt value 1)
  store lb (target + 2) (byteAt value 2)
  store lb (target + 3) (byteAt value 3)

/-- `write_u64`. -/
def writeU64 (lb : LoadBuffer) (target value : Nat) : LoadM Unit :=
  Prog.forUp (fun index => store lb (target + index) (byteAt value index)) 0 8

/-! ## Layout -/

/-- `is_power_of_two`. -/
def isPowerOfTwo (value : Nat) : Bool := value != 0 && value &&& (value - 1) == 0

/-- `align_offset`: `*result`, or `none` where it returns 0. -/
def alignOffset (value alignment limit : Nat) : Option Nat :=
  let alignment := if alignment = 0 then 1 else alignment
  if ¬ isPowerOfTwo alignment ∨ alignment > limit then none
  else
    let aligned := (value + alignment - 1) % 2 ^ 64 &&& (2 ^ 64 - 1 - (alignment - 1))
    if aligned < value ∨ aligned > limit then none else some aligned

/-- One iteration of the layout loop. -/
def layoutSection (img : Buf) (lb : LoadBuffer) (index : Nat) : LoadM Unit := do
  let sh ← loadSection img index
  Prog.when (sh.alloc) do
    let s ← Prog.get
    match alignOffset s.used sh.addralign lb.size with
    | none => Prog.ret .eMemory
    | some aligned =>
      if sh.size > lb.size - aligned then Prog.ret .eMemory
      else if sh.type ≠ SHT_NOBITS ∧ ¬ rangeOk img.size sh.offset sh.size then
        Prog.ret .eSections
      else
        setSectionAddress index (lb.base + aligned)
        (if sh.type = SHT_NOBITS then zeroBytes lb (lb.base + aligned) sh.size
          else copyBytes img lb (lb.base + aligned) sh.offset sh.size : LoadM Unit)
        Prog.modify fun s => { s with
          used := aligned + sh.size
          loaded.relocatedSections := (s.loaded.relocatedSections + 1) % 2 ^ 32 }

/-! ## The symbol table -/

/-- One iteration of the symbol-table loop, from the table found so far. -/
def findSymtab (img : Buf) (index : Nat) (found : Option Symtab) : LoadM (Option Symtab) := do
  let sh ← loadSection img index
  if sh.type ≠ SHT_SYMTAB then pure found
  else if found.isSome ∨ sh.entsize ≠ symSize ∨ sh.size % sh.entsize ≠ 0 ∨
      sh.link ≥ (Ehdr.at img).shnum ∨ ¬ rangeOk img.size sh.offset sh.size then
    Prog.ret .eSections
  else
    let names ← loadSection img sh.link
    if ¬ rangeOk img.size names.offset names.size then Prog.ret .eSections
    else
      pure (some (symtabAt img index))

/-- `symbol_runtime_address`: `*address`, or `none` where it returns 0. -/
def symbolRuntimeAddress (img : Buf) (symbol : Sym) (tab : Symtab) (sectionCount : Nat)
    (resolve : Option Resolver) : LoadM (Option Nat) := do
  if symbol.shndx ≠ SHN_UNDEF then
    if symbol.shndx ≥ sectionCount then pure none
    else
      let base ← sectionAddress symbol.shndx
      if base = 0 then pure none else pure (some ((base + symbol.value) % 2 ^ 64))
  else
    match resolve with
    | none => pure none
    | some resolve =>
      if symbol.name ≥ tab.namesSize then pure none
      else
        let name := tab.names + symbol.name
        let nameLimit := tab.namesSize - symbol.name
        let terminated ← stringTerminated img name nameLimit
        if !terminated then pure none
        else
          let first ← img.read name
          if first = 0 then pure none
          else
            let text ← img.readCStr name nameLimit
            match resolve text with
            | none => pure none
            | some address => if address = 0 then pure none else pure (some address.toNat)

/-! ## Relocations -/

/-- `signed_32_ok((selinos_s64)value)`. -/
def signed32Ok (value : BitVec 64) : Bool :=
  decide (-2147483648 ≤ value.toInt) && decide (value.toInt ≤ 2147483647)

/-- `width`. -/
def relocWidth (type : Nat) : Nat := if type = R_X86_64_64 then 8 else 4

/-- The four relocation types, applied at the address `place`. The signed sums of the source are
two's complement. -/
def applyType (lb : LoadBuffer) (type symbolAddress addend place : Nat) : LoadM Unit :=
  if type = R_X86_64_64 then
    writeU64 lb place ((symbolAddress + addend) % 2 ^ 64)
  else if type = R_X86_64_PC32 ∨ type = R_X86_64_PLT32 then
    let value := BitVec.ofNat 64 symbolAddress + BitVec.ofNat 64 addend - BitVec.ofNat 64 place
    if ¬ signed32Ok value then Prog.ret .eRelocation
    else writeU32 lb place (value.toNat % 2 ^ 32)
  else if type = R_X86_64_32S then
    let value := BitVec.ofNat 64 symbolAddress + BitVec.ofNat 64 addend
    if ¬ signed32Ok value then Prog.ret .eRelocation
    else writeU32 lb place (value.toNat % 2 ^ 32)
  else
    Prog.ret .eRelocation

/-- One relocation entry of a section whose target is `target`, section `info`. -/
def applyRelocation (img : Buf) (lb : LoadBuffer) (tab : Symtab) (resolve : Option Resolver)
    (info : Nat) (target : Shdr) (relocation : Rela) : LoadM Unit := do
  if relocation.symbolIndex ≥ tab.symbolCount then Prog.ret .eSymbol
  else
    let targetBase ← sectionAddress info
    if targetBase = 0 ∨ relocation.offset > target.size ∨
        relocWidth relocation.type > target.size - relocation.offset then
      Prog.ret .eSymbol
    else
      let o := tab.symbols + symSize * relocation.symbolIndex
      let symbol ← img.load o symSize (Sym.at img o)
      let address ← symbolRuntimeAddress img symbol tab (Ehdr.at img).shnum resolve
      match address with
      | none => Prog.ret .eSymbol
      | some symbolAddress =>
        applyType lb relocation.type symbolAddress relocation.addend
          (targetBase + relocation.offset)
        Prog.modify fun s => { s with
          loaded.appliedRelocations := (s.loaded.appliedRelocations + 1) % 2 ^ 32 }

/-- One iteration of the relocation-section loop. -/
def relocateSection (img : Buf) (lb : LoadBuffer) (tab : Symtab) (resolve : Option Resolver)
    (index : Nat) : LoadM Unit := do
  let sh ← loadSection img index
  Prog.when (sh.type = SHT_RELA) do
    if sh.info ≥ (Ehdr.at img).shnum ∨ sh.link ≥ (Ehdr.at img).shnum ∨ sh.link ≠ tab.section_ ∨
        sh.entsize ≠ relaSize ∨ sh.size % sh.entsize ≠ 0 ∨
        ¬ rangeOk img.size sh.offset sh.size then
      Prog.ret .eRelocation
    else
      let target ← loadSection img sh.info
      Prog.when target.alloc (Prog.forUp (fun relocationIndex => do
        let o := sh.offset + relaSize * relocationIndex
        let relocation ← img.load o relaSize (Rela.at img o)
        applyRelocation img lb tab resolve sh.info target relocation) 0 (sh.size / sh.entsize))

/-! ## Entry points -/

/-- `"init_module"` and `"cleanup_module"`. -/
def initName : List UInt8 := [0x69, 0x6e, 0x69, 0x74, 0x5f, 0x6d, 0x6f, 0x64, 0x75, 0x6c, 0x65]
def cleanupName : List UInt8 :=
  [0x63, 0x6c, 0x65, 0x61, 0x6e, 0x75, 0x70, 0x5f, 0x6d, 0x6f, 0x64, 0x75, 0x6c, 0x65]

/-- One iteration of the entry-point loop. -/
def findEntry (img : Buf) (tab : Symtab) (resolve : Option Resolver) (symbolIndex : Nat) :
    LoadM Unit := do
  let o := tab.symbols + symSize * symbolIndex
  let symbol ← img.load o symSize (Sym.at img o)
  Prog.when (symbol.name < tab.namesSize ∧ symbol.shndx ≠ SHN_UNDEF) do
    let address ← symbolRuntimeAddress img symbol tab (Ehdr.at img).shnum resolve
    match address with
    | none => pure ()
    | some address =>
      let name := tab.names + symbol.name
      let nameLimit := tab.namesSize - symbol.name
      let isInit ← nameEquals img name nameLimit initName
      if isInit then Prog.modify fun s => { s with loaded.initModule := address }
      else
        let isCleanup ← nameEquals img name nameLimit cleanupName
        Prog.when isCleanup (Prog.modify fun s => { s with loaded.cleanupModule := address })

/-! ## The function -/

/-- `selinos_kabi_relocate_module` after its argument checks and the parse. -/
def relocateImage (img : Buf) (lb : LoadBuffer) (resolve : Option Resolver) : LoadM Unit := do
  let header ← img.load 0 ehdrSize (Ehdr.at img)
  if header.shnum > MODULE_MAX_SECTIONS then Prog.ret .eSections
  else
    Prog.modify fun s => { s with sectionAddresses := fun _ => 0, used := 0 }
    Prog.forUp (layoutSection img lb) 0 header.shnum
    let found ← Prog.foldUp (findSymtab img) 0 header.shnum none
    match found with
    | none => Prog.ret .eSections
    | some tab =>
      Prog.forUp (relocateSection img lb tab resolve) 0 header.shnum
      Prog.forUp (findEntry img tab resolve) 0 tab.symbolCount
      let s ← Prog.get
      if s.loaded.initModule = 0 ∨ s.loaded.cleanupModule = 0 then Prog.ret .eSymbol
      else
        Prog.modify fun s => { s with loaded.loadBase := lb.base, loaded.imageSize := s.used }

/-- `selinos_kabi_relocate_module`; it falls through where the C function returns
`SELINOS_KABI_MODULE_OK`. -/
def relocateModule (img : Buf) (required : CStr) (lb : LoadBuffer) (resolve : Option Resolver) :
    LoadM Unit := do
  if lb.base = 0 ∨ lb.size = 0 then Prog.ret .eArgument
  else
    Prog.modify fun s => { s with loaded := Loaded.zero }
    let parsed ← Prog.call (parseModule img required) Summary.zero
    match parsed.1 with
    | .error _ => Prog.ret .eElf
    | .ok _ => relocateImage img lb resolve

end SeLinOS.Kabi
