import Mathlib.Data.Int.ModEq
import SeLinOS.CLogic.Run
import SeLinOS.Kabi.Layout

/-!
# Relocation as the psABI states it

The reference for the relocation walk, in integers: `S`, `A` and `P` are the symbol value, the
addend and the place, and a stored field is right when its sign extension is congruent to the
formula modulo `2 ^ 64`.

* `RelType`: the four relocation types, their widths and formulas.
* `Stores t S A P m m'`: `m'` is `m` with the field of type `t` at `P` right.
* `SymbolValue`: the `S` of a symbol, from the placed section that defines it or from the resolver.
* `EntryStep`: one entry of a relocation section; `relocEntries img` lists the entries of all
  sections that apply, in section-table then entry order.
-/

namespace SeLinOS.Kabi

open CLogic

/-- The relocation types of the x86-64 psABI that the loader knows. -/
inductive RelType where
  | abs64 | pc32 | plt32 | abs32s
  deriving DecidableEq

namespace RelType

def ofNat? (n : Nat) : Option RelType :=
  if n = R_X86_64_64 then some abs64
  else if n = R_X86_64_PC32 then some pc32
  else if n = R_X86_64_PLT32 then some plt32
  else if n = R_X86_64_32S then some abs32s
  else none

/-- The bytes of the field. -/
def width : RelType → Nat
  | abs64 => 8
  | _ => 4

/-- `S + A` or `S + A - P`. -/
def value (t : RelType) (S A P : Int) : Int :=
  match t with
  | abs64 | abs32s => S + A
  | pc32 | plt32 => S + A - P

/-- Some field of the width of `t` sign-extends to `v` modulo `2 ^ 64`. -/
def Representable (t : RelType) (v : Int) : Prop :=
  t.width = 8 ∨ ∃ w : Int, -2 ^ 31 ≤ w ∧ w < 2 ^ 31 ∧ w ≡ v [ZMOD 2 ^ 64]

end RelType

/-- The signed little-endian number in the `n` bytes at `a`: the sign extension of the field. -/
def signedField (m : Mem) (a n : Nat) : Int := Int.bmod (m.le a n) (256 ^ n)

/-- `m'` is `m` with a right field of type `t` at `P`. -/
structure Stores (t : RelType) (S A : Int) (P : Nat) (m m' : Mem) : Prop where
  frame : ∀ x, ¬ (P ≤ x ∧ x < P + t.width) → m' x = m x
  value : signedField m' P t.width ≡ t.value S A P [ZMOD 2 ^ 64]

theorem Stores.representable {t : RelType} {S A : Int} {P : Nat} {m m' : Mem}
    (h : Stores t S A P m m') : t.Representable (t.value S A P) := by
  -- the stored field itself is the representation
  cases t
  case abs64 => exact .inl rfl
  all_goals
    refine .inr ⟨_, ?_, ?_, h.value⟩
    · exact Int.le_bmod (by decide)
    · exact Int.bmod_lt (by decide)

/-- The addend as the signed number that its 64 bits encode. -/
def Rela.signedAddend (r : Rela) : Int := Int.bmod r.addend (2 ^ 64)

/-- The symbol has a name: its name offset is in the string table, where a NUL follows it, and it is
not empty. -/
def Named (img : Buf) (tab : Symtab) (sym : Sym) : Prop :=
  sym.name < tab.namesSize ∧ 0 ∈ img.slice (tab.names + sym.name) (tab.namesSize - sym.name) ∧
    img.byte (tab.names + sym.name) ≠ 0

instance (img : Buf) (tab : Symtab) (sym : Sym) : Decidable (Named img tab sym) :=
  inferInstanceAs (Decidable (_ ∧ _ ∧ _))

/-- The name of a symbol. -/
def symName (img : Buf) (tab : Symtab) (sym : Sym) : CStr :=
  img.cstr (tab.names + sym.name) (tab.namesSize - sym.name)

/-- The value `S` of a symbol when section `i` is at `addr i`. -/
inductive SymbolValue (img : Buf) (tab : Symtab) (resolve : Option Resolver) (addr : Nat → Nat)
    (sym : Sym) : Int → Prop
  | defined : sym.shndx ≠ SHN_UNDEF → sym.shndx < (Ehdr.at img).shnum →
    (sectionAt img sym.shndx).alloc →
    SymbolValue img tab resolve addr sym ((addr sym.shndx : Int) + sym.value)
  | undefined {r : Resolver} {a : BitVec 64} : sym.shndx = SHN_UNDEF → resolve = some r →
    Named img tab sym → r (symName img tab sym) = some a → a ≠ 0 →
    SymbolValue img tab resolve addr sym a.toNat

/-- `symbols[i]`. -/
def symAt (img : Buf) (tab : Symtab) (i : Nat) : Sym := Sym.at img (tab.symbols + symSize * i)

/-- The place of an entry. -/
def entryPlace (addr : Nat → Nat) (e : Nat × Rela) : Nat := addr e.1 + e.2.offset

/-- One relocation entry, of a section whose target is section `e.1`. -/
structure EntryStep (img : Buf) (tab : Symtab) (resolve : Option Resolver) (addr : Nat → Nat)
    (m : Mem) (e : Nat × Rela) (m' : Mem) : Prop where
  target : e.1 < (Ehdr.at img).shnum ∧ (sectionAt img e.1).alloc
  symbol : e.2.symbolIndex < tab.symbolCount
  stores : ∃ t S, RelType.ofNat? e.2.type = some t ∧
    SymbolValue img tab resolve addr (symAt img tab e.2.symbolIndex) S ∧
    e.2.offset + t.width ≤ (sectionAt img e.1).size ∧
    Stores t S e.2.signedAddend (addr e.1 + e.2.offset) m m'

/-- Entry `k` of the relocation section `sh`. -/
def relaAt (img : Buf) (sh : Shdr) (k : Nat) : Rela := Rela.at img (sh.offset + relaSize * k)

/-- Section `i` is a relocation section whose target is loaded. -/
def Relocates (img : Buf) (i : Nat) : Prop :=
  (sectionAt img i).type = SHT_RELA ∧ (sectionAt img (sectionAt img i).info).alloc

instance (img : Buf) (i : Nat) : Decidable (Relocates img i) :=
  inferInstanceAs (Decidable (_ ∧ _))

/-- The entries of section `i`. -/
def sectionEntries (img : Buf) (i : Nat) : List (Nat × Rela) :=
  if Relocates img i then
    (List.range ((sectionAt img i).size / relaSize)).map fun k =>
      ((sectionAt img i).info, relaAt img (sectionAt img i) k)
  else []

/-- The entries of the sections below `n`. -/
def relocEntriesBelow (img : Buf) (n : Nat) : List (Nat × Rela) :=
  (List.range n).flatMap (sectionEntries img)

/-- All entries of the image that apply. -/
def relocEntries (img : Buf) : List (Nat × Rela) := relocEntriesBelow img (Ehdr.at img).shnum

theorem relocEntriesBelow_succ (img : Buf) (n : Nat) :
    relocEntriesBelow img (n + 1) = relocEntriesBelow img n ++ sectionEntries img n := by
  simp [relocEntriesBelow, List.range_succ]

/-- An entry changes bytes of its target section only. -/
theorem EntryStep.frame {img : Buf} {tab : Symtab} {resolve : Option Resolver} {addr : Nat → Nat}
    {m m' : Mem} {e : Nat × Rela} (h : EntryStep img tab resolve addr m e m') {x : Nat}
    (hx : ¬ InSection img addr e.1 x) : m' x = m x := by
  obtain ⟨t, S, -, -, hle, hst⟩ := h.stores
  refine hst.frame x fun ⟨h1, h2⟩ => hx ⟨?_, ?_⟩ <;> omega

end SeLinOS.Kabi
