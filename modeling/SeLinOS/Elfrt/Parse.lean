import SeLinOS.CLogic.Bytes

/-!
# The ELF runtime parser

`selinos_elfrt_parse_image` and `selinos_elfrt_validate_initial_load_policy`
(`elfrt/src/selinos_elfrt.c`), one definition for each C function and each of the three loops of the
parser. The image is a `Buf` with checked accesses, the summary and the locals of the parser are the
state, and its arrays are checked too. Object pointers are never NULL here.
-/

namespace SeLinOS.Elfrt

open CLogic

/-! ## Constants and structures -/

def ELFCLASS64 : UInt8 := 2
def ELFDATA2LSB : UInt8 := 1
def EV_CURRENT : Nat := 1
def ET_EXEC : Nat := 2
def ET_DYN : Nat := 3
def EM_X86_64 : Nat := 62
def PT_LOAD : Nat := 1
def PT_DYNAMIC : Nat := 2
def PT_INTERP : Nat := 3
def PF_W : Nat := 2
def PF_X : Nat := 1
def DT_NULL : Nat := 0
def DT_NEEDED : Nat := 1
def DT_STRTAB : Nat := 5
def DT_RELA : Nat := 7
def DT_STRSZ : Nat := 10
def DT_TEXTREL : Nat := 22
def DT_FLAGS : Nat := 30
def DF_TEXTREL : Nat := 4
def MAX_LOAD_SEGMENTS : Nat := 8
def MAX_NEEDED : Nat := 8
def INTERP_MAX : Nat := 96
def NEEDED_NAME_MAX : Nat := 96

/-- `sizeof(struct elfrt_ehdr)`, `sizeof(struct elfrt_phdr)` and `sizeof(struct elfrt_dyn)`. -/
def ehdrSize : Nat := 64
def phdrSize : Nat := 56
def dynSize : Nat := 16

/-- `enum selinos_elfrt_status`. -/
inductive Status where
  | ok | eArgument | eTruncated | eElf | eArch | eType | eProgramHeaders | eSegment | eDynamic
  | ePolicy
  deriving Repr, DecidableEq

/-- `struct elfrt_ehdr`, the fields that the parser reads. -/
structure Ehdr where
  type : Nat
  machine : Nat
  version : Nat
  entry : Nat
  phoff : Nat
  ehsize : Nat
  phentsize : Nat
  phnum : Nat

def Ehdr.at (img : Buf) : Ehdr where
  type := img.le 16 2
  machine := img.le 18 2
  version := img.le 20 4
  entry := img.le 24 8
  phoff := img.le 32 8
  ehsize := img.le 52 2
  phentsize := img.le 54 2
  phnum := img.le 56 2

/-- `struct elfrt_phdr`. -/
structure Phdr where
  type : Nat
  flags : Nat
  offset : Nat
  vaddr : Nat
  filesz : Nat
  memsz : Nat
  align : Nat
  deriving DecidableEq

def Phdr.at (img : Buf) (o : Nat) : Phdr where
  type := img.le o 4
  flags := img.le (o + 4) 4
  offset := img.le (o + 8) 8
  vaddr := img.le (o + 16) 8
  filesz := img.le (o + 32) 8
  memsz := img.le (o + 40) 8
  align := img.le (o + 48) 8

/-- `struct elfrt_dyn`: the tag as its 64 bits, and the value. -/
structure Dyn where
  tag : Nat
  value : Nat
  deriving DecidableEq

def Dyn.at (img : Buf) (o : Nat) : Dyn where
  tag := img.le o 8
  value := img.le (o + 8) 8

/-- The place of `program_headers[i]`. -/
def phdrOff (img : Buf) (i : Nat) : Nat := (Ehdr.at img).phoff + phdrSize * i

/-- `program_headers[i]`. -/
def programHeader (img : Buf) (i : Nat) : Phdr := Phdr.at img (phdrOff img i)

/-- `struct selinos_elfrt_summary`. -/
structure Summary where
  elfType : Nat
  elfMachine : Nat
  entry : Nat
  loadSegments : Nat
  writableLoadSegments : Nat
  executableLoadSegments : Nat
  writableExecutableLoadSegments : Nat
  neededCount : Nat
  hasDynamic : Bool
  hasInterp : Bool
  hasRela : Bool
  hasTextrel : Bool
  interpreter : Buf
  needed : Nat → Buf

/-- `clear_summary`. -/
def Summary.clear : Summary where
  elfType := 0
  elfMachine := 0
  entry := 0
  loadSegments := 0
  writableLoadSegments := 0
  executableLoadSegments := 0
  writableExecutableLoadSegments := 0
  neededCount := 0
  hasDynamic := false
  hasInterp := false
  hasRela := false
  hasTextrel := false
  interpreter := Buf.zeros INTERP_MAX
  needed := fun _ => Buf.zeros NEEDED_NAME_MAX

/-- The summary and the locals of `selinos_elfrt_parse_image`. -/
structure State where
  summary : Summary
  dynamicHeader : Option Phdr
  stringTableAddress : Nat
  stringTableSize : Nat
  neededOffsets : Nat → Nat
  neededCount : Nat

/-- The locals at the start of the call. -/
def State.enter (summary : Summary) : State := ⟨summary, none, 0, 0, fun _ => 0, 0⟩

abbrev ParseM : Type → Type := Prog Status State

/-! ## Helpers -/

/-- `range_valid`. -/
def rangeValid (total offset length : Nat) : Bool :=
  decide (offset ≤ total) && decide (length ≤ total - offset)

/-- `power_of_two`. -/
def powerOfTwo (value : Nat) : Bool := value != 0 && value &&& (value - 1) == 0

/-- `copy_bounded_string(destination, capacity, &img[source], available)`: its result and the array
after it. -/
def copyBoundedString (img : Buf) (destination : Buf) (source available : Nat) :
    ParseM (Bool × Buf) := do
  if destination.size = 0 ∨ available = 0 then pure (false, destination)
  else
    let (i, destination) ← Prog.whileM
      (fun (i, destination) =>
        Prog.andThen (i + 1 < destination.size ∧ i < available) do
          let b ← img.read (source + i)
          pure (b != 0))
      (fun (i, destination) => do
        let b ← img.read (source + i)
        let destination ← destination.write i b
        pure (i + 1, destination))
      (destination.size + 1) (0, destination)
    if i = available then pure (false, destination)
    else
      let b ← img.read (source + i)
      if b ≠ 0 then pure (false, destination)
      else
        let destination ← destination.write i 0
        pure (true, destination)

/-- `program_headers[i]`, read from the image. -/
def loadPhdr (img : Buf) (i : Nat) : ParseM Phdr :=
  img.load (phdrOff img i) phdrSize (programHeader img i)

/-- `virtual_to_file_offset`: `*file_offset` and `*available`, or `none` where it returns 0. -/
def virtualToFileOffset (img : Buf) (count virtualAddress : Nat) : ParseM (Option (Nat × Nat)) :=
  Prog.firstUp (fun i => do
    let header ← loadPhdr img i
    if header.type ≠ PT_LOAD ∨ virtualAddress < header.vaddr then pure none
    else
      let delta := virtualAddress - header.vaddr
      if delta < header.filesz then
        pure (some ((header.offset + delta) % 2 ^ 64, header.filesz - delta))
      else pure none) 0 count

/-! ## The program headers -/

/-- The `PT_LOAD` checks. -/
def loadOk (img : Buf) (program : Phdr) : Bool :=
  decide (program.filesz ≤ program.memsz) && rangeValid img.size program.offset program.filesz &&
    (decide (program.align ≤ 1) || powerOfTwo program.align &&
      ((program.vaddr + 2 ^ 64 - program.offset) % 2 ^ 64 &&& (program.align - 1)) == 0)

/-- The flag `flag` of the program header. -/
def Phdr.has (program : Phdr) (flag : Nat) : Bool := program.flags &&& flag != 0

/-- The `PT_LOAD` branch. -/
def parseLoad (img : Buf) (program : Phdr) : ParseM Unit := do
  if ¬ loadOk img program then Prog.ret .eSegment
  else
    let s ← Prog.get
    if s.summary.loadSegments = MAX_LOAD_SEGMENTS then Prog.ret .ePolicy
    else
      Prog.modify fun s => { s with summary.loadSegments := s.summary.loadSegments + 1 }
      Prog.when (program.has PF_W) (Prog.modify fun s => { s with
        summary.writableLoadSegments := s.summary.writableLoadSegments + 1 })
      Prog.when (program.has PF_X) (Prog.modify fun s => { s with
        summary.executableLoadSegments := s.summary.executableLoadSegments + 1 })
      Prog.when (program.flags &&& (PF_W ||| PF_X) = PF_W ||| PF_X) (Prog.modify fun s => { s with
        summary.writableExecutableLoadSegments := s.summary.writableExecutableLoadSegments + 1 })

/-- The `PT_INTERP` branch. -/
def parseInterp (img : Buf) (allowInterpreter : Bool) (program : Phdr) : ParseM Unit := do
  let s ← Prog.get
  if s.summary.hasInterp ∨ ¬ allowInterpreter ∨
      ¬ rangeValid img.size program.offset program.filesz then
    Prog.ret .ePolicy
  else
    let (copied, interpreter) ←
      copyBoundedString img s.summary.interpreter program.offset program.filesz
    Prog.modify fun s => { s with summary.interpreter := interpreter }
    if copied then Prog.modify fun s => { s with summary.hasInterp := true }
    else Prog.ret .ePolicy

/-- The `PT_DYNAMIC` branch. -/
def parseDynamicHeader (img : Buf) (program : Phdr) : ParseM Unit := do
  let s ← Prog.get
  if s.dynamicHeader.isSome ∨ ¬ rangeValid img.size program.offset program.filesz ∨
      program.filesz % dynSize ≠ 0 then
    Prog.ret .eDynamic
  else
    Prog.modify fun s => { s with
      dynamicHeader := some program
      summary.hasDynamic := true }

/-- One iteration of the program-header loop. -/
def parseProgramHeader (img : Buf) (allowInterpreter : Bool) (i : Nat) : ParseM Unit := do
  let program ← loadPhdr img i
  if program.type = PT_LOAD then parseLoad img program
  else if program.type = PT_INTERP then parseInterp img allowInterpreter program
  else Prog.when (program.type = PT_DYNAMIC) (parseDynamicHeader img program)

/-! ## The dynamic entries -/

/-- `needed_offsets[needed_count++] = value`. -/
def pushNeeded (value : Nat) : ParseM Unit := fun s =>
  if s.neededCount < MAX_NEEDED then
    .ok () { s with
      neededOffsets := Function.update s.neededOffsets s.neededCount value
      neededCount := s.neededCount + 1 }
  else .fault (.write s.neededCount)

/-- `needed_offsets[i]`; `summary->needed` has as many elements. -/
def neededOffset (i : Nat) : ParseM Nat := fun s =>
  if i < MAX_NEEDED then .ok (s.neededOffsets i) s else .fault (.read i)

/-- One iteration of the dynamic loop; `some` at the `DT_NULL` that ends it. -/
def parseDyn (img : Buf) (dynamic i : Nat) : ParseM (Option Unit) := do
  let o := dynamic + dynSize * i
  let dyn ← img.load o dynSize (Dyn.at img o)
  if dyn.tag = DT_NULL then pure (some ())
  else if dyn.tag = DT_STRTAB then
    Prog.modify fun s => { s with stringTableAddress := dyn.value }
    pure none
  else if dyn.tag = DT_STRSZ then
    Prog.modify fun s => { s with stringTableSize := dyn.value }
    pure none
  else if dyn.tag = DT_NEEDED then
    let s ← Prog.get
    if s.neededCount = MAX_NEEDED then Prog.ret .ePolicy
    else
      pushNeeded dyn.value
      pure none
  else if dyn.tag = DT_RELA then
    Prog.modify fun s => { s with summary.hasRela := true }
    pure none
  else
    Prog.when (dyn.tag = DT_TEXTREL ∨ dyn.tag = DT_FLAGS ∧ dyn.value &&& DF_TEXTREL ≠ 0)
      (Prog.modify fun s => { s with summary.hasTextrel := true })
    pure none

/-- One iteration of the loop over the needed names, with the string table at
`stringTableOffset`. -/
def parseNeeded (img : Buf) (stringTableOffset i : Nat) : ParseM Unit := do
  let offset ← neededOffset i
  let s ← Prog.get
  if offset ≥ s.stringTableSize then Prog.ret .eDynamic
  else
    let (copied, name) ← copyBoundedString img (s.summary.needed i) (stringTableOffset + offset)
      (s.stringTableSize - offset)
    Prog.modify fun s => { s with summary.needed := Function.update s.summary.needed i name }
    if copied then pure () else Prog.ret .eDynamic

/-- The part of `selinos_elfrt_parse_image` after the program headers, for the dynamic header that
they gave. -/
def parseDynamic (img : Buf) (dynamicHeader : Phdr) : ParseM Unit := do
  let foundNull ← Prog.firstUp (parseDyn img dynamicHeader.offset) 0
    (dynamicHeader.filesz / dynSize)
  if foundNull.isNone then Prog.ret .eDynamic
  else
    Prog.modify fun s => { s with summary.neededCount := s.neededCount }
    let s ← Prog.get
    if s.neededCount = 0 then pure ()
    else if s.stringTableAddress = 0 ∨ s.stringTableSize = 0 then Prog.ret .eDynamic
    else
      match ← virtualToFileOffset img (Ehdr.at img).phnum s.stringTableAddress with
      | none => Prog.ret .eDynamic
      | some (stringTableOffset, available) =>
        if s.stringTableSize > available ∨
            ¬ rangeValid img.size stringTableOffset s.stringTableSize then
          Prog.ret .eDynamic
        else
          Prog.forUp (parseNeeded img stringTableOffset) 0 s.neededCount

/-! ## The parser and the policy -/

/-- The header checks of `selinos_elfrt_parse_image`. -/
def parseHeader (img : Buf) : ParseM Unit := do
  if img.size < ehdrSize then Prog.ret .eTruncated
  else
    let header ← img.load 0 ehdrSize (Ehdr.at img)
    let ident ← img.load 0 7 (img.slice 0 7)
    if ident ≠ [0x7f, 0x45, 0x4c, 0x46, ELFCLASS64, ELFDATA2LSB, 1] ∨
        header.version ≠ EV_CURRENT ∨ header.ehsize ≠ ehdrSize then
      Prog.ret .eElf
    else if header.machine ≠ EM_X86_64 then Prog.ret .eArch
    else if header.type ≠ ET_EXEC ∧ header.type ≠ ET_DYN then Prog.ret .eType
    else if header.phnum = 0 ∨ header.phnum > 64 ∨ header.phentsize ≠ phdrSize ∨
        ¬ rangeValid img.size header.phoff (header.phnum * header.phentsize) then
      Prog.ret .eProgramHeaders
    else pure ()

/-- `selinos_elfrt_parse_image`; it falls through where the C function returns
`SELINOS_ELFRT_OK`. -/
def parseImage (img : Buf) (allowInterpreter : Bool) : ParseM Unit := do
  Prog.modify fun s => { s with summary := Summary.clear }
  parseHeader img
  Prog.modify fun s => { s with
    summary.elfType := (Ehdr.at img).type
    summary.elfMachine := (Ehdr.at img).machine
    summary.entry := (Ehdr.at img).entry }
  Prog.forUp (parseProgramHeader img allowInterpreter) 0 (Ehdr.at img).phnum
  let s ← Prog.get
  if s.summary.loadSegments = 0 then Prog.ret .eSegment
  else
    match s.dynamicHeader with
    | none => pure ()
    | some dynamicHeader => parseDynamic img dynamicHeader

/-- `selinos_elfrt_validate_initial_load_policy`. -/
def validateInitialLoadPolicy (summary : Summary) : Status :=
  if summary.hasTextrel ∨ summary.writableExecutableLoadSegments ≠ 0 then .ePolicy else .ok

end SeLinOS.Elfrt
