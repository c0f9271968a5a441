import SeLinOS.Kabi.Link

/-!
# What a relocated module is

The results about `selinos_kabi_relocate_module`, from any image, load buffer and resolver:

* `relocateModule_contained`: the memory contract, whatever the outcome;
* `relocateModule_meaning`: the placed sections hold what the psABI asks for;
* `entries_inside_iff`: the two entry points lie in the section that defines them exactly when the
  `st_value` of their symbols does.
-/

namespace SeLinOS.Kabi

open CLogic Prog

variable {img : Buf} {required : CStr} {lb : LoadBuffer} {resolve : Option Resolver} {m : Mem}
  {l : Loaded} {s : LoadState}

/-! ## A small image -/

/-- A module with one 16-byte section at `.text`, `init_module` at `initValue` and `cleanup_module`
at 8 in it, an `R_X86_64_64` entry at 8 against the undefined symbol `f`, and one version record
with the CRC 0x77 for the name `recordName`. -/
def sampleImage (initValue recordName : Nat) : Buf := Buf.ofWords [
  -- the header
  0x10102464c457f, 0, 0x1003e0001, 0, 0, 0x40, 0x4000000000, 0x2000700400000,
  -- null, .modinfo, the string table, .text, the symbols, the relocations, __versions
  0, 0, 0, 0, 0, 0, 0, 0,
  0x100000001, 0, 0, 0x238, 0x20, 0, 0, 0,
  0x300000000, 0, 0, 0x200, 0x38, 0, 0, 0,
  0x100000000, 2, 0, 0x258, 0x10, 0, 0x10, 0,
  0x200000000, 0, 0, 0x268, 0x60, 2, 0, 0x18,
  0x400000000, 0, 0, 0x2c8, 0x18, 0x300000004, 0, 0x18,
  0x100000025, 0, 0, 0x2e0, 0x40, 0, 0, 0,
  -- the string table
  0x666e69646f6d2e00, 0x6d5f74696e69006f, 0x6c6300656c75646f, 0x6f6d5f70756e6165,
  0x765f5f00656c7564, 0x736e6f69737265, 0x66,
  -- name=a, vermagic=6, license=c
  0x7600613d656d616e, 0x3d636967616d7265, 0x736e6563696c0036, 0x633d65,
  -- .text
  0xc3c3c3c3c3c3c3c3, 0xc3c3c3c3c3c3c3c3,
  -- null, init_module, cleanup_module, f
  0, 0, 0, 0x300000000000a, initValue, 0, 0x3000000000016, 8, 0, 0x30, 0, 0,
  -- the relocation entry
  8, 0x300000001, 0,
  -- the version record
  0x77, recordName, 0, 0, 0, 0, 0, 0]

/-- The vermagic prefix `"6"`. -/
def samplePrefix : CStr := ⟨[0x36], by decide⟩

def sampleBuffer : LoadBuffer := ⟨0x10000, 64, by decide⟩

/-- The output structure of a successful call. -/
def loadedOf (r : Res Status LoadState Unit) : Option Loaded :=
  match r with
  | .ok _ s => some s.loaded
  | _ => none

theorem ok_of_loadedOf {r : Res Status LoadState Unit} {l : Loaded} (h : loadedOf r = some l) :
    ∃ s, r = .ok () s ∧ s.loaded = l := by
  cases r with
  | ok a s => exact ⟨s, rfl, Option.some.inj h⟩
  | ret e s => cases h
  | fault x => cases h

/-- The call on a sample image, with a resolver that knows every name at 0x20000. -/
def sampleRun (initValue : Nat) : Res Status LoadState Unit :=
  relocateModule (sampleImage initValue 0x66) samplePrefix sampleBuffer (some fun _ => some 0x20000)
    (LoadState.enter (fun _ => 0) Loaded.zero)

/-- A module with one 32-byte section at `.text`, `init_module` at 0 and `cleanup_module` at 8 in
it, and five entries side by side: `R_X86_64_64` against `init_module` at 0, `R_X86_64_PC32` against
`cleanup_module` at 8, `R_X86_64_PLT32` against `init_module` at 12, `R_X86_64_32S` against
`cleanup_module` at 16 and `R_X86_64_64` against the undefined symbol `f` at 24. -/
def linkedImage : Buf := Buf.ofWords [
  -- the header
  0x10102464c457f, 0, 0x1003e0001, 0, 0, 0x40, 0x4000000000, 0x2000700400000,
  -- null, .modinfo, the string table, .text, the symbols, the relocations, __versions
  0, 0, 0, 0, 0, 0, 0, 0,
  0x100000001, 0, 0, 0x238, 0x20, 0, 0, 0,
  0x300000000, 0, 0, 0x200, 0x38, 0, 0, 0,
  0x100000000, 2, 0, 0x258, 0x20, 0, 0x10, 0,
  0x200000000, 0, 0, 0x278, 0x60, 2, 0, 0x18,
  0x400000000, 0, 0, 0x2d8, 0x78, 0x300000004, 0, 0x18,
  0x100000025, 0, 0, 0x350, 0x40, 0, 0, 0,
  -- the string table
  0x666e69646f6d2e00, 0x6d5f74696e69006f, 0x6c6300656c75646f, 0x6f6d5f70756e6165,
  0x765f5f00656c7564, 0x736e6f69737265, 0x66,
  -- name=a, vermagic=6, license=c
  0x7600613d656d616e, 0x3d636967616d7265, 0x736e6563696c0036, 0x633d65,
  -- .text
  0xc3c3c3c3c3c3c3c3, 0xc3c3c3c3c3c3c3c3, 0xc3c3c3c3c3c3c3c3, 0xc3c3c3c3c3c3c3c3,
  -- null, init_module, cleanup_module, f
  0, 0, 0, 0x300000000000a, 0, 0, 0x3000000000016, 8, 0, 0x30, 0, 0,
  -- the relocation entries; the addend of the two relative ones is -4
  0, 0x100000001, 4, 8, 0x200000002, 0xfffffffffffffffc, 12, 0x100000004, 0xfffffffffffffffc,
  16, 0x20000000b, 8, 24, 0x300000001, 0,
  -- the version record
  0x77, 0x66, 0, 0, 0, 0, 0, 0]

/-- The call on it with a load memory at `base`. -/
def linkedRun (base : Nat) (h : base + 64 ≤ 2 ^ 64) : Res Status LoadState Unit :=
  relocateModule linkedImage samplePrefix ⟨base, 64, h⟩ (some fun _ => some 0x20000)
    (LoadState.enter (fun _ => 0) Loaded.zero)

/-! ## Memory -/

/-- The call terminates and stays in the image and the load buffer (no fault), and keeps the memory
contract; a successful call has placed every allocatable section and reports a size that fits. -/
theorem relocateModule_contained (img : Buf) (required : CStr) (lb : LoadBuffer)
    (resolve : Option Resolver) (m : Mem) (l : Loaded) :
    match relocateModule img required lb resolve (LoadState.enter m l) with
    | .fault _ => False
    | .ret _ s => Contained img lb m s
    | .ok _ s => Contained img lb m s ∧ s.loaded.imageSize ≤ lb.size ∧
        ∀ i < (Ehdr.at img).shnum, s.sectionAddresses i ≠ 0 ↔ (sectionAt img i).alloc := by
  have hwp : wp (relocateModule img required lb resolve)
      (fun _ s => ∃ i, Linked img lb resolve m s i)
      (fun _ s => Contained img lb m s) (LoadState.enter m l) := relocateModule_wp m l
  cases hr : relocateModule img required lb resolve (LoadState.enter m l) with
  | fault x => exact wp_noFault hwp x hr
  | ret e s => exact wp_ret_of hwp hr
  | ok a s =>
    obtain ⟨i, hl⟩ := wp_ok hwp hr
    obtain ⟨s₁, haddr, hused, hp, -⟩ := hl.placed
    refine ⟨hl.contained, ?_, fun j hj => ?_⟩
    · rw [hl.imageSize, ← hused]
      exact hp.used
    · rw [← haddr]
      exact ⟨fun hne => (hp.alloc_of_ne_zero hne).2, hp.ne_zero hl.base hj⟩

/-! ## Meaning -/

/-- The symbol table of an image that has exactly one. -/
def imageSymtab (img : Buf) : Symtab :=
  symtabAt img (((List.range (Ehdr.at img).shnum).find? fun i =>
    (sectionAt img i).type = SHT_SYMTAB).getD 0)

theorem SymtabOk.imageSymtab_eq {i : Nat} (h : SymtabOk img (Ehdr.at img).shnum i) :
    imageSymtab img = symtabAt img i := by
  have hfind : (List.range (Ehdr.at img).shnum).find?
      (fun i => (sectionAt img i).type = SHT_SYMTAB) = some i := by
    rw [List.find?_range_eq_some]
    refine ⟨by simpa using h.type, List.mem_range.mpr h.lt, fun j hj => ?_⟩
    have hlt := h.lt
    by_contra hc
    have := h.unique j (by omega) (by simpa using hc)
    omega
  rw [imageSymtab, hfind, Option.getD_some]

/-- The file bytes are in place, and the entries apply to them one by one. -/
theorem Linked.relocated {i : Nat} (h : Linked img lb resolve m s i) : ∃ m₁ : Mem,
    (∀ i < (Ehdr.at img).shnum, (sectionAt img i).alloc → ∀ k < (sectionAt img i).size,
      m₁ (s.sectionAddresses i + k) = fileByte img (sectionAt img i) k) ∧
    Run (EntryStep img (imageSymtab img) resolve s.sectionAddresses) m₁ (relocEntries img)
      s.mem := by
  obtain ⟨s₁, haddr, -, hp, hrun⟩ := h.placed
  rw [h.symtab.imageSymtab_eq]
  refine ⟨s₁.mem, fun j hj ha k hk => ?_, hrun⟩
  rw [← haddr]
  exact hp.content j hj ha k hk

/-- Every entry that applies has a known type and a representable value. -/
theorem Linked.entries {i : Nat} (h : Linked img lb resolve m s i) : ∀ e ∈ relocEntries img,
    ∃ t S, RelType.ofNat? e.2.type = some t ∧
      SymbolValue img (imageSymtab img) resolve s.sectionAddresses
        (symAt img (imageSymtab img) e.2.symbolIndex) S ∧
      t.Representable (t.value S e.2.signedAddend (s.sectionAddresses e.1 + e.2.offset)) := by
  obtain ⟨m₁, -, hrun⟩ := h.relocated
  refine hrun.forall_mem (I := fun _ => True) (fun _ e _ _ hstep => ⟨trivial, ?_⟩) trivial
  obtain ⟨t, S, hty, hS, -, hst⟩ := hstep.stores
  exact ⟨t, S, hty, hS, by exact_mod_cast hst.representable⟩

/-- After a successful call, memory is the file bytes of the placed sections updated by the entries,
in order, as the psABI says; every entry that applies has one of the four types and a representable
value. -/
theorem relocateModule_meaning
    (h : relocateModule img required lb resolve (LoadState.enter m l) = .ok () s) :
    (∃ m₁ : Mem,
      (∀ i < (Ehdr.at img).shnum, (sectionAt img i).alloc → ∀ k < (sectionAt img i).size,
        m₁ (s.sectionAddresses i + k) = fileByte img (sectionAt img i) k) ∧
      Run (EntryStep img (imageSymtab img) resolve s.sectionAddresses) m₁ (relocEntries img)
        s.mem) ∧
    ∀ e ∈ relocEntries img, ∃ t S, RelType.ofNat? e.2.type = some t ∧
      SymbolValue img (imageSymtab img) resolve s.sectionAddresses
        (symAt img (imageSymtab img) e.2.symbolIndex) S ∧
      t.Representable (t.value S e.2.signedAddend (s.sectionAddresses e.1 + e.2.offset)) := by
  obtain ⟨i, hl⟩ := linked_of_ok h
  exact ⟨hl.relocated, hl.entries⟩

set_option maxRecDepth 100000 in
/-- All four types, four of the entries against symbols of the module. -/
theorem relocateModule_meaning_sample : ∃ s, linkedRun 0x10000 (by decide) = .ok () s ∧
    ((relocEntries linkedImage).map fun e => (e.2.type, e.2.offset)) =
      [(R_X86_64_64, 0), (R_X86_64_PC32, 8), (R_X86_64_PLT32, 12), (R_X86_64_32S, 16),
        (R_X86_64_64, 24)] ∧
    (∃ m₁ : Mem,
      (∀ i < (Ehdr.at linkedImage).shnum, (sectionAt linkedImage i).alloc →
        ∀ k < (sectionAt linkedImage i).size,
          m₁ (s.sectionAddresses i + k) = fileByte linkedImage (sectionAt linkedImage i) k) ∧
      Run (EntryStep linkedImage (imageSymtab linkedImage) (some fun _ => some 0x20000)
        s.sectionAddresses) m₁ (relocEntries linkedImage) s.mem) ∧
    ∀ e ∈ relocEntries linkedImage, ∃ t S, RelType.ofNat? e.2.type = some t ∧
      SymbolValue linkedImage (imageSymtab linkedImage) (some fun _ => some 0x20000)
        s.sectionAddresses (symAt linkedImage (imageSymtab linkedImage) e.2.symbolIndex) S ∧
      t.Representable (t.value S e.2.signedAddend (s.sectionAddresses e.1 + e.2.offset)) := by
  have hl : loadedOf (linkedRun 0x10000 (by decide)) =
      some ⟨0x10000, 32, 0x10000, 0x10008, 1, 5⟩ := by
    decide +kernel
  obtain ⟨s, hs, -⟩ := ok_of_loadedOf hl
  exact ⟨s, hs, by decide +kernel, relocateModule_meaning hs⟩

/-! ## Entry points -/

/-- `a` is inside the relocated image, in the placed section that defines the entry point `name`. -/
structure EntryInside (img : Buf) (s : LoadState) (name : List UInt8) (a : Nat) : Prop where
  image : s.loaded.loadBase ≤ a ∧ a < s.loaded.loadBase + s.loaded.imageSize
  defining : ∃ k, lastEntry img (imageSymtab img) name (imageSymtab img).symbolCount = some k ∧
    InSection img s.sectionAddresses (symAt img (imageSymtab img) k).shndx a

/-- The `st_value` of the symbol that gives the entry point `name` is below the size of its
section. -/
def EntryBounded (img : Buf) (name : List UInt8) : Prop :=
  ∀ k, lastEntry img (imageSymtab img) name (imageSymtab img).symbolCount = some k →
    (symAt img (imageSymtab img) k).value <
      (sectionAt img (symAt img (imageSymtab img) k).shndx).size

/-- The wrapping sum of a section base and `st_value` is in the section exactly when `st_value` is
below its size. -/
theorem Placed.inSection_symbolPlace_iff {n k : Nat} {tab : Symtab} {s₁ : LoadState}
    (hp : Placed img lb n m s₁) (hi : (symAt img tab k).shndx < n)
    (ha : (sectionAt img (symAt img tab k).shndx).alloc) :
    InSection img s₁.sectionAddresses (symAt img tab k).shndx
        (symbolPlace img tab s₁.sectionAddresses k) ↔
      (symAt img tab k).value < (sectionAt img (symAt img tab k).shndx).size := by
  have hv : (symAt img tab k).value < 2 ^ 64 := Sym.value_lt _ _
  have hin := (hp.inside _ hi ha).2
  have hused := hp.used
  have hfit := lb.fits
  unfold InSection symbolPlace
  constructor
  · rintro ⟨h1, h2⟩
    by_contra hc
    omega
  · intro hlt
    rw [Nat.mod_eq_of_lt (by omega)]
    omega

theorem Linked.entryInside_iff {i a : Nat} {name : List UInt8} (h : Linked img lb resolve m s i)
    (ha : a = entryValue img (symtabAt img i) s.sectionAddresses name
      (symtabAt img i).symbolCount) (hne : a ≠ 0) :
    EntryInside img s name a ↔ EntryBounded img name := by
  obtain ⟨s₁, haddr, hused, hp, -⟩ := h.placed
  rw [entryValue] at ha
  cases hlast : lastEntry img (symtabAt img i) name (symtabAt img i).symbolCount with
  | none => rw [hlast] at ha; exact absurd ha hne
  | some k =>
    obtain ⟨-, -, hsec, -⟩ := lastEntry_some hlast
    rw [hlast] at ha
    simp only at ha
    have hiff := hp.inSection_symbolPlace_iff hsec.1 hsec.2
    rw [haddr, ← ha] at hiff
    rw [EntryBounded, h.symtab.imageSymtab_eq]
    constructor
    · rintro ⟨-, k', hk', hin⟩ k₁ hk₁
      rw [h.symtab.imageSymtab_eq] at hk' hin
      obtain rfl := Option.some.inj (hlast.symm.trans hk₁)
      obtain rfl := Option.some.inj (hlast.symm.trans hk')
      exact hiff.mp hin
    · intro hb
      have hin := hiff.mpr (hb k hlast)
      refine ⟨?_, k, ?_⟩
      · obtain ⟨h1, h2⟩ := hp.inside _ hsec.1 hsec.2
        rw [haddr] at h1 h2
        obtain ⟨h3, h4⟩ := hin
        rw [h.loadBase, h.imageSize]
        omega
      · rw [h.symtab.imageSymtab_eq]
        exact ⟨hlast, hin⟩

/-- The addresses that the loader calls are inside the image exactly when the symbols of the two
entry points are. -/
theorem entries_inside_iff
    (h : relocateModule img required lb resolve (LoadState.enter m l) = .ok () s) :
    (EntryInside img s initName s.loaded.initModule ∧
      EntryInside img s cleanupName s.loaded.cleanupModule) ↔
    EntryBounded img initName ∧ EntryBounded img cleanupName := by
  obtain ⟨i, hl⟩ := linked_of_ok h
  rw [hl.entryInside_iff hl.init hl.init_ne, hl.entryInside_iff hl.cleanup hl.cleanup_ne]

set_option maxRecDepth 100000 in
theorem entries_inside_iff_sample : ∃ s, sampleRun 0 = .ok () s ∧
    ((EntryInside (sampleImage 0 0x66) s initName s.loaded.initModule ∧
      EntryInside (sampleImage 0 0x66) s cleanupName s.loaded.cleanupModule) ↔
    EntryBounded (sampleImage 0 0x66) initName ∧
      EntryBounded (sampleImage 0 0x66) cleanupName) := by
  have hl : loadedOf (sampleRun 0) = some ⟨0x10000, 16, 0x10000, 0x10008, 1, 1⟩ := by
    decide +kernel
  obtain ⟨s, hs, -⟩ := ok_of_loadedOf hl
  exact ⟨s, hs, entries_inside_iff hs⟩

set_option maxRecDepth 100000 in
/-- The `st_value` 0x1000 of `init_module`, in a section of 16 bytes, is accepted: the address is
4096 bytes after the image. -/
theorem entry_outside_image : ¬ ∀ (img : Buf) (required : CStr) (lb : LoadBuffer)
    (resolve : Option Resolver) (m : Mem) (l : Loaded) (s : LoadState),
    relocateModule img required lb resolve (LoadState.enter m l) = .ok () s →
      EntryInside img s initName s.loaded.initModule ∧
        EntryInside img s cleanupName s.loaded.cleanupModule := by
  intro hall
  have hl : loadedOf (sampleRun 0x1000) = some ⟨0x10000, 16, 0x11000, 0x10008, 1, 1⟩ := by
    decide +kernel
  obtain ⟨s, hs, hsl⟩ := ok_of_loadedOf hl
  obtain ⟨himage, -⟩ := (hall _ _ _ _ _ _ s hs).1
  rw [hsl] at himage
  exact absurd himage.2 (by decide)

end SeLinOS.Kabi
