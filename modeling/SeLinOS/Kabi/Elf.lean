import SeLinOS.CLogic.Bytes

/-!
# The ELF64 structures of a module image

`selinos_elf64_ehdr`, `selinos_elf64_shdr`, `selinos_elf64_sym` and `selinos_elf64_rela`
(`kabi/src/selinos_kabi_module.c`) as the values that the code reads through pointers into the
image: `Shdr.at img o` is the structure whose first byte is at `o`. Only the fields that the loader
reads are kept. A field is the number that its bytes encode, so it is below `2 ^ 16`, `2 ^ 32` or
`2 ^ 64` by its width (`Shdr.size_lt` and the like).
-/

namespace SeLinOS.Kabi

open CLogic

/-! ## Constants -/

def EI_CLASS : Nat := 4
def EI_DATA : Nat := 5
def EI_VERSION : Nat := 6
def ELFCLASS64 : UInt8 := 2
def ELFDATA2LSB : UInt8 := 1
def EV_CURRENT : UInt8 := 1
def ET_REL : Nat := 1
def EM_X86_64 : Nat := 62
def SHT_SYMTAB : Nat := 2
def SHT_RELA : Nat := 4
def SHT_NOBITS : Nat := 8
def SHN_UNDEF : Nat := 0
def SHF_ALLOC : Nat := 2
def R_X86_64_64 : Nat := 1
def R_X86_64_PC32 : Nat := 2
def R_X86_64_PLT32 : Nat := 4
def R_X86_64_32S : Nat := 11
def MODULE_MAX_SECTIONS : Nat := 256

/-- `"\177ELF"`. -/
def elfMagic : List UInt8 := [0x7f, 0x45, 0x4c, 0x46]

/-! ## Structures -/

/-- `sizeof(struct selinos_elf64_ehdr)`. -/
def ehdrSize : Nat := 64

/-- `sizeof(struct selinos_elf64_shdr)`. -/
def shdrSize : Nat := 64

/-- `sizeof(struct selinos_elf64_sym)`. -/
def symSize : Nat := 24

/-- `sizeof(struct selinos_elf64_rela)`. -/
def relaSize : Nat := 24

/-- `struct selinos_elf64_ehdr`, after `ident`. -/
structure Ehdr where
  type : Nat
  machine : Nat
  shoff : Nat
  shentsize : Nat
  shnum : Nat
  shstrndx : Nat

def Ehdr.at (img : Buf) : Ehdr where
  type := img.le 16 2
  machine := img.le 18 2
  shoff := img.le 40 8
  shentsize := img.le 58 2
  shnum := img.le 60 2
  shstrndx := img.le 62 2

/-- `struct selinos_elf64_shdr`. -/
structure Shdr where
  name : Nat
  type : Nat
  flags : Nat
  offset : Nat
  size : Nat
  link : Nat
  info : Nat
  addralign : Nat
  entsize : Nat

def Shdr.at (img : Buf) (o : Nat) : Shdr where
  name := img.le o 4
  type := img.le (o + 4) 4
  flags := img.le (o + 8) 8
  offset := img.le (o + 24) 8
  size := img.le (o + 32) 8
  link := img.le (o + 40) 4
  info := img.le (o + 44) 4
  addralign := img.le (o + 48) 8
  entsize := img.le (o + 56) 8

/-- `struct selinos_elf64_sym`. -/
structure Sym where
  name : Nat
  shndx : Nat
  value : Nat

def Sym.at (img : Buf) (o : Nat) : Sym where
  name := img.le o 4
  shndx := img.le (o + 6) 2
  value := img.le (o + 8) 8

/-- `struct selinos_elf64_rela`. The addend is kept as its 64 bits. -/
structure Rela where
  offset : Nat
  info : Nat
  addend : Nat

def Rela.at (img : Buf) (o : Nat) : Rela where
  offset := img.le o 8
  info := img.le (o + 8) 8
  addend := img.le (o + 16) 8

/-- `(selinos_u32)relocation->info`. -/
def Rela.type (r : Rela) : Nat := r.info % 2 ^ 32

/-- `(selinos_u32)(relocation->info >> 32U)`. -/
def Rela.symbolIndex (r : Rela) : Nat := r.info >>> 32 % 2 ^ 32

/-- The section is copied into the load memory: `SHF_ALLOC` and not empty. -/
def Shdr.alloc (sh : Shdr) : Bool := sh.flags &&& SHF_ALLOC != 0 && sh.size != 0

/-- The header of section `i`: `&sections[i]`. -/
def shdrOff (img : Buf) (i : Nat) : Nat := (Ehdr.at img).shoff + shdrSize * i

/-- `sections[i]`. -/
def sectionAt (img : Buf) (i : Nat) : Shdr := Shdr.at img (shdrOff img i)

section Widths

variable (img : Buf) (o : Nat)

theorem Sym.value_lt : (Sym.at img o).value < 2 ^ 64 := img.le_lt (o + 8) 8

end Widths

end SeLinOS.Kabi
