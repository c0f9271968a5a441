import SeLinOS.Elfrt.Policy

/-!
# What the ELF runtime parser should accept

The images that `selinos_elfrt_parse_image` is for, and what their summary says, read off the
program headers and the dynamic entries as lists, without the parser's loops.

* `HeaderOk`, `LoadOk`, `InterpOk`, `DynamicOk`, `NeededOk`: the conditions; `Accepts` has them all.
* `Select`: how the string table is found. `Selects` takes any `PT_LOAD` that holds it, and
  `SelectsFirst` is the parser's choice.
* `Declared`: the summary.
-/

namespace SeLinOS.Elfrt

open CLogic

/-! ## The tables -/

/-- The first `n` program headers. -/
def headersBelow (img : Buf) (n : Nat) : List Phdr := (List.range n).map (programHeader img)

/-- The program headers, in table order. -/
def programHeaders (img : Buf) : List Phdr := headersBelow img (Ehdr.at img).phnum

def loads (headers : List Phdr) : List Phdr := headers.filter (·.type == PT_LOAD)

def interps (headers : List Phdr) : List Phdr := headers.filter (·.type == PT_INTERP)

def dynamics (headers : List Phdr) : List Phdr := headers.filter (·.type == PT_DYNAMIC)

/-- `dynamic[i]`, for the dynamic section at `dynamic`. -/
def dynEntry (img : Buf) (dynamic i : Nat) : Dyn := Dyn.at img (dynamic + dynSize * i)

/-- The first `n` entries of the dynamic section at `dynamic`. -/
def dynEntriesBelow (img : Buf) (dynamic n : Nat) : List Dyn :=
  (List.range n).map (dynEntry img dynamic)

/-- The dynamic entries of a `PT_DYNAMIC`. -/
def dynEntries (img : Buf) (d : Phdr) : List Dyn :=
  dynEntriesBelow img d.offset (d.filesz / dynSize)

/-- The entries before the first `DT_NULL`. -/
def liveEntries (img : Buf) (d : Phdr) : List Dyn := (dynEntries img d).takeWhile (·.tag != DT_NULL)

/-- The value of the last entry with the tag. -/
def lastValue (tag : Nat) (entries : List Dyn) : Option Nat :=
  (entries.filter (·.tag == tag)).getLast?.map (·.value)

/-- The values of the `DT_NEEDED` entries, in table order. -/
def neededValues (entries : List Dyn) : List Nat :=
  (entries.filter (·.tag == DT_NEEDED)).map (·.value)

/-- The entry says that there are relocations in read-only segments. -/
def Dyn.isTextrel (dyn : Dyn) : Bool :=
  dyn.tag == DT_TEXTREL || dyn.tag == DT_FLAGS && dyn.value &&& DF_TEXTREL != 0

/-! ## The conditions -/

/-- The identity, the type, the machine and the place of the program headers. -/
structure HeaderOk (img : Buf) : Prop where
  size : ehdrSize ≤ img.size
  ident : img.slice 0 7 = [0x7f, 0x45, 0x4c, 0x46, ELFCLASS64, ELFDATA2LSB, 1]
  version : (Ehdr.at img).version = EV_CURRENT
  ehsize : (Ehdr.at img).ehsize = ehdrSize
  machine : (Ehdr.at img).machine = EM_X86_64
  type : (Ehdr.at img).type = ET_EXEC ∨ (Ehdr.at img).type = ET_DYN
  phnum : 1 ≤ (Ehdr.at img).phnum ∧ (Ehdr.at img).phnum ≤ 64
  phentsize : (Ehdr.at img).phentsize = phdrSize
  table : (Ehdr.at img).phoff + phdrSize * (Ehdr.at img).phnum ≤ img.size

/-- The file range of a program header lies in the image. -/
def InFile (img : Buf) (p : Phdr) : Prop := p.offset + p.filesz ≤ img.size

instance {img : Buf} {p : Phdr} : Decidable (InFile img p) := Nat.decLe _ _

/-- A well-formed `PT_LOAD`. -/
def LoadOk (img : Buf) (p : Phdr) : Prop :=
  p.filesz ≤ p.memsz ∧ InFile img p ∧
    (p.align ≤ 1 ∨ (∃ k, p.align = 2 ^ k) ∧ p.vaddr % p.align = p.offset % p.align)

/-- There is a NUL in the first `available` bytes at `source`, and in the first `capacity`. -/
def Terminated (img : Buf) (capacity source available : Nat) : Prop :=
  ∃ k < min capacity available, img.byte (source + k) = 0

instance {img : Buf} {capacity source available : Nat} :
    Decidable (Terminated img capacity source available) :=
  inferInstanceAs (Decidable (∃ k < _, _))

/-- A `PT_INTERP` that is permitted, with a name that ends in it. -/
def InterpOk (img : Buf) (allowInterpreter : Bool) (p : Phdr) : Prop :=
  allowInterpreter ∧ InFile img p ∧ Terminated img INTERP_MAX p.offset p.filesz

/-- A `PT_DYNAMIC` of whole entries in the image. -/
def DynamicOk (img : Buf) (d : Phdr) : Prop := InFile img d ∧ d.filesz % dynSize = 0

instance {img : Buf} {d : Phdr} : Decidable (DynamicOk img d) := instDecidableAnd

/-- The file part of a segment holds the address. -/
def Phdr.holds (p : Phdr) (address : Nat) : Bool :=
  decide (p.vaddr ≤ address) && decide (address - p.vaddr < p.filesz)

/-- The string table that the last `DT_STRTAB` and `DT_STRSZ` select through a `PT_LOAD`: its offset
in the file and its size. -/
def Selects (headers : List Phdr) (live : List Dyn) (offset size : Nat) : Prop :=
  ∃ address, lastValue DT_STRTAB live = some address ∧ lastValue DT_STRSZ live = some size ∧
    ∃ p ∈ loads headers, p.holds address ∧ size ≤ p.filesz - (address - p.vaddr) ∧
      offset = p.offset + (address - p.vaddr)

/-- The same, where the address is not 0 and the `PT_LOAD` is the first one that holds it. -/
def SelectsFirst (headers : List Phdr) (live : List Dyn) (offset size : Nat) : Prop :=
  ∃ address, lastValue DT_STRTAB live = some address ∧ lastValue DT_STRSZ live = some size ∧
    address ≠ 0 ∧ ∃ p, (loads headers).find? (·.holds address) = some p ∧
      size ≤ p.filesz - (address - p.vaddr) ∧ offset = p.offset + (address - p.vaddr)

/-- At most eight needed names, which end in the string table. -/
def NeededOk (Select : List Phdr → List Dyn → Nat → Nat → Prop) (img : Buf) (live : List Dyn) :
    Prop :=
  (neededValues live).length ≤ MAX_NEEDED ∧
    (neededValues live ≠ [] → ∃ offset size, Select (programHeaders img) live offset size ∧
      ∀ v ∈ neededValues live, v < size ∧
        Terminated img NEEDED_NAME_MAX (offset + v) (size - v))

/-- The conditions on the program headers but for the number of `PT_LOAD`s. -/
structure HeadersOk (img : Buf) (allowInterpreter : Bool) (headers : List Phdr) : Prop where
  load : ∀ p ∈ loads headers, LoadOk img p
  loadCount : (loads headers).length ≤ MAX_LOAD_SEGMENTS
  interp : ∀ p ∈ interps headers, InterpOk img allowInterpreter p
  interpOnce : (interps headers).length ≤ 1
  dynamic : ∀ d ∈ dynamics headers, DynamicOk img d
  dynamicOnce : (dynamics headers).length ≤ 1

/-- The images of the grammar. -/
structure Accepts (Select : List Phdr → List Dyn → Nat → Nat → Prop) (img : Buf)
    (allowInterpreter : Bool) : Prop where
  header : HeaderOk img
  headers : HeadersOk img allowInterpreter (programHeaders img)
  loaded : 1 ≤ (loads (programHeaders img)).length
  null : ∀ d ∈ dynamics (programHeaders img), ∃ e ∈ dynEntries img d, e.tag = DT_NULL
  needed : ∀ d ∈ dynamics (programHeaders img), NeededOk Select img (liveEntries img d)

/-! ## The summary -/

/-- The string at `source`, in an array that holds `capacity` bytes of it. -/
def nameBuf (img : Buf) (capacity source available : Nat) : Buf :=
  ⟨capacity, fun j => (img.cstr source (min capacity available)).bytes.getD j 0⟩

/-- The interpreter of the `PT_INTERP`, if there is one. -/
def declaredInterpreter (img : Buf) (headers : List Phdr) : Buf :=
  match interps headers with
  | [] => Buf.zeros INTERP_MAX
  | p :: _ => nameBuf img INTERP_MAX p.offset p.filesz

/-- The summary of the program headers. -/
def headerSummary (img : Buf) (headers : List Phdr) : Summary :=
  { Summary.clear with
    elfType := (Ehdr.at img).type
    elfMachine := (Ehdr.at img).machine
    entry := (Ehdr.at img).entry
    loadSegments := (loads headers).length
    writableLoadSegments := (loads headers).countP (·.has PF_W)
    executableLoadSegments := (loads headers).countP (·.has PF_X)
    writableExecutableLoadSegments :=
      (loads headers).countP (fun p => p.has PF_W && p.has PF_X)
    hasDynamic := !(dynamics headers).isEmpty
    hasInterp := !(interps headers).isEmpty
    interpreter := declaredInterpreter img headers }

/-- The summary of the program headers and the dynamic entries, with the string table at
`stringTableOffset`. -/
def dynamicSummary (img : Buf) (headers : List Phdr) (live : List Dyn)
    (stringTableOffset stringTableSize : Nat) : Summary :=
  { headerSummary img headers with
    neededCount := (neededValues live).length
    hasRela := live.any (·.tag == DT_RELA)
    hasTextrel := live.any (·.isTextrel)
    needed := fun i =>
      match (neededValues live)[i]? with
      | none => Buf.zeros NEEDED_NAME_MAX
      | some v => nameBuf img NEEDED_NAME_MAX (stringTableOffset + v) (stringTableSize - v) }

/-- The summary is the one of the tables of the image. -/
def Declared (img : Buf) (summary : Summary) : Prop :=
  (dynamics (programHeaders img) = [] ∧ summary = headerSummary img (programHeaders img)) ∨
  ∃ d offset size, dynamics (programHeaders img) = [d] ∧
    (neededValues (liveEntries img d) ≠ [] →
      SelectsFirst (programHeaders img) (liveEntries img d) offset size) ∧
    summary = dynamicSummary img (programHeaders img) (liveEntries img d) offset size

end SeLinOS.Elfrt
