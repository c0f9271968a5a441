import SeLinOS.CLogic.Footprint
import SeLinOS.Kabi.Offsets

/-!
# The load address

Two successful calls with load memories of one size and one resolver, at two addresses. The sizes,
the counters and the bytes outside the relocation places do not depend on the address, and the
relocation places depend on it as their types say.

* `PlacesDisjoint img`: no byte is in the places of two entries; `RightField` is what an entry then
  leaves in the final memory (`Linked.rightFields`).
* `Moved img s s'`: `s'` is `s` at another address.
* `relocate_moved`: two calls that succeed end in such states.
-/

namespace SeLinOS.Kabi

open CLogic Prog

variable {img : Buf} {lb lb' : LoadBuffer} {s s' : LoadState} {m m' : Mem} {l l' : Loaded}
  {tab : Symtab} {resolve : Option Resolver} {addr : Nat → Nat} {required : CStr}

/-! ## Places -/

/-- Byte `k` of section `i` is in the place of the entry `e`. -/
def InPlace (e : Nat × Rela) (i k : Nat) : Prop :=
  e.1 = i ∧ e.2.offset ≤ k ∧ k < e.2.offset + relocWidth e.2.type

instance (e : Nat × Rela) (i k : Nat) : Decidable (InPlace e i k) :=
  inferInstanceAs (Decidable (_ ∧ _ ∧ _))

/-- The places of the entries that apply are pairwise disjoint. -/
def PlacesDisjoint (img : Buf) : Prop :=
  (relocEntries img).Pairwise fun e e' => e.1 = e'.1 →
    e.2.offset + relocWidth e.2.type ≤ e'.2.offset ∨ e'.2.offset + relocWidth e'.2.type ≤ e.2.offset

/-- The address `x` is in the place of `e`. -/
def AtPlace (addr : Nat → Nat) (e : Nat × Rela) (x : Nat) : Prop :=
  entryPlace addr e ≤ x ∧ x < entryPlace addr e + relocWidth e.2.type

/-- The place of `e` is in the section that it relocates. -/
def PlaceInside (img : Buf) (e : Nat × Rela) : Prop :=
  (e.1 < (Ehdr.at img).shnum ∧ (sectionAt img e.1).alloc) ∧
    e.2.offset + relocWidth e.2.type ≤ (sectionAt img e.1).size

/-- In the memory `m`, the place of `e` holds what the psABI asks for. -/
def RightField (img : Buf) (tab : Symtab) (resolve : Option Resolver) (addr : Nat → Nat)
    (e : Nat × Rela) (m : Mem) : Prop :=
  ∃ t S, RelType.ofNat? e.2.type = some t ∧
    SymbolValue img tab resolve addr (symAt img tab e.2.symbolIndex) S ∧
    signedField m (entryPlace addr e) t.width ≡ t.value S e.2.signedAddend (entryPlace addr e)
      [ZMOD 2 ^ 64]

theorem EntryStep.placeInside {e : Nat × Rela} (h : EntryStep img tab resolve addr m e m') :
    PlaceInside img e := by
  obtain ⟨t, S, hty, -, hle, -⟩ := h.stores
  refine ⟨h.target, ?_⟩
  rwa [RelType.width_of_ofNat? hty]

theorem EntryStep.rightField {e : Nat × Rela} (h : EntryStep img tab resolve addr m e m') :
    RightField img tab resolve addr e m' := by
  obtain ⟨t, S, hty, hS, -, hst⟩ := h.stores
  refine ⟨t, S, hty, hS, ?_⟩
  rw [entryPlace]
  exact_mod_cast hst.value

theorem entryStep_local : Local (AtPlace addr) (EntryStep img tab resolve addr) := by
  intro m e m' h x hx
  obtain ⟨t, S, hty, -, -, hst⟩ := h.stores
  refine hst.frame x ?_
  rwa [← RelType.width_of_ofNat? hty]

theorem RightField.same {e : Nat × Rela} (hx : ∀ x, AtPlace addr e x → m' x = m x)
    (h : RightField img tab resolve addr e m) : RightField img tab resolve addr e m' := by
  obtain ⟨t, S, hty, hS, hvalue⟩ := h
  refine ⟨t, S, hty, hS, ?_⟩
  have hle : m'.le (entryPlace addr e) t.width = m.le (entryPlace addr e) t.width :=
    Mem.le_congr fun k hk => hx _ ⟨by omega, by rw [RelType.width_of_ofNat? hty]; omega⟩
  rwa [signedField, hle]

/-- Two places in loaded sections have no address in common. -/
theorem Placed.apart {n : Nat} {e e' : Nat × Rela} (hp : Placed img lb n m s)
    (hn : n = (Ehdr.at img).shnum) (he : PlaceInside img e) (he' : PlaceInside img e')
    (h : e.1 = e'.1 → e.2.offset + relocWidth e.2.type ≤ e'.2.offset ∨
      e'.2.offset + relocWidth e'.2.type ≤ e.2.offset) :
    Apart (AtPlace s.sectionAddresses) e e' := by
  subst hn
  rintro x ⟨h1, h2⟩ ⟨h3, h4⟩
  rw [entryPlace] at h1 h2 h3 h4
  have hsize := he.2
  have hsize' := he'.2
  have hsec : e.1 = e'.1 := hp.disjoint_of_ne he.1.1 he'.1.1 he.1.2 he'.1.2
    (x := x) ⟨by omega, by omega⟩ ⟨by omega, by omega⟩
  have hoff := h hsec
  rw [hsec] at h1 h2
  omega

theorem Linked.run {i : Nat} (h : Linked img lb resolve m s i) : ∃ s₁,
    s₁.sectionAddresses = s.sectionAddresses ∧ Placed img lb (Ehdr.at img).shnum m s₁ ∧
    Run (EntryStep img (imageSymtab img) resolve s.sectionAddresses) s₁.mem (relocEntries img)
      s.mem := by
  obtain ⟨s₁, haddr, -, hp, hrun⟩ := h.placed
  rw [← h.symtab.imageSymtab_eq] at hrun
  exact ⟨s₁, haddr, hp, hrun⟩

/-- Every place of an entry that applies is inside the section it relocates. -/
theorem Linked.placeInside {i : Nat} (h : Linked img lb resolve m s i) :
    ∀ e ∈ relocEntries img, PlaceInside img e := by
  obtain ⟨s₁, -, -, hrun⟩ := h.run
  exact hrun.forall_mem (I := fun _ => True)
    (fun _ _ _ _ hstep => ⟨trivial, hstep.placeInside⟩) trivial

/-- With disjoint places, every entry is right in the final memory. -/
theorem Linked.rightFields {i : Nat} (h : Linked img lb resolve m s i)
    (hplaces : PlacesDisjoint img) : ∀ e ∈ relocEntries img,
      RightField img (imageSymtab img) resolve s.sectionAddresses e s.mem := by
  have hinside := h.placeInside
  obtain ⟨s₁, haddr, hp, hrun⟩ := h.run
  refine hrun.kept entryStep_local (fun _ _ _ hstep => hstep.rightField)
    (fun _ _ _ hx hf => hf.same hx) ?_
  rw [← haddr]
  exact hplaces.imp_of_mem fun he he' hoff =>
    hp.apart rfl (hinside _ he) (hinside _ he') hoff

/-- A placed byte outside all places is the one of the file. -/
theorem Linked.fileByte {i j k : Nat} (h : Linked img lb resolve m s i)
    (hj : j < (Ehdr.at img).shnum) (ha : (sectionAt img j).alloc) (hk : k < (sectionAt img j).size)
    (hout : ∀ e ∈ relocEntries img, ¬ InPlace e j k) :
    s.mem (s.sectionAddresses j + k) = fileByte img (sectionAt img j) k := by
  have hinside := h.placeInside
  obtain ⟨s₁, haddr, hp, hrun⟩ := h.run
  rw [← hp.content j hj ha k hk, haddr]
  refine hrun.outside entryStep_local fun e he ⟨h1, h2⟩ => hout e he ?_
  rw [entryPlace] at h1 h2
  obtain ⟨⟨hlt, hae⟩, hsize⟩ := hinside e he
  have hsec : e.1 = j := by
    rw [← haddr] at h1 h2
    exact hp.disjoint_of_ne hlt hj hae ha (x := s₁.sectionAddresses j + k)
      ⟨by omega, by omega⟩ ⟨by omega, by omega⟩
  refine ⟨hsec, ?_⟩
  rw [hsec] at h1 h2
  omega

/-! ## Two addresses -/

/-- The symbol of `e` is defined in the module. -/
def DefinedHere (img : Buf) (e : Nat × Rela) : Prop :=
  (symAt img (imageSymtab img) e.2.symbolIndex).shndx ≠ SHN_UNDEF

instance (e : Nat × Rela) : Decidable (DefinedHere img e) := inferInstanceAs (Decidable (_ ≠ _))

/-- `s'` is `s` with the module at another address. -/
structure Moved (img : Buf) (s s' : LoadState) : Prop where
  imageSize : s'.loaded.imageSize = s.loaded.imageSize
  relocatedSections : s'.loaded.relocatedSections = s.loaded.relocatedSections
  appliedRelocations : s'.loaded.appliedRelocations = s.loaded.appliedRelocations
  initModule : (s'.loaded.initModule : Int) - s'.loaded.loadBase ≡
    s.loaded.initModule - s.loaded.loadBase [ZMOD 2 ^ 64]
  cleanupModule : (s'.loaded.cleanupModule : Int) - s'.loaded.loadBase ≡
    s.loaded.cleanupModule - s.loaded.loadBase [ZMOD 2 ^ 64]
  sections : ∀ i < (Ehdr.at img).shnum, (sectionAt img i).alloc →
    (s'.sectionAddresses i : Int) - s'.loaded.loadBase = s.sectionAddresses i - s.loaded.loadBase
  bytes : ∀ i < (Ehdr.at img).shnum, (sectionAt img i).alloc → ∀ k < (sectionAt img i).size,
    (∀ e ∈ relocEntries img, ¬ InPlace e i k) →
      s'.mem (s'.sectionAddresses i + k) = s.mem (s.sectionAddresses i + k)
  relative : ∀ e ∈ relocEntries img, e.2.type = R_X86_64_PC32 ∨ e.2.type = R_X86_64_PLT32 →
    DefinedHere img e → ∀ k < 4,
      s'.mem (entryPlace s'.sectionAddresses e + k) = s.mem (entryPlace s.sectionAddresses e + k)
  absolute : ∀ e ∈ relocEntries img, e.2.type = R_X86_64_64 → DefinedHere img e →
    (s'.mem.le (entryPlace s'.sectionAddresses e) 8 : Int) -
      s.mem.le (entryPlace s.sectionAddresses e) 8 ≡
        s'.loaded.loadBase - s.loaded.loadBase [ZMOD 2 ^ 64]
  absoluteSigned : ∀ e ∈ relocEntries img, e.2.type = R_X86_64_32S → DefinedHere img e →
    (s'.mem.le (entryPlace s'.sectionAddresses e) 4 : Int) -
      s.mem.le (entryPlace s.sectionAddresses e) 4 ≡
        s'.loaded.loadBase - s.loaded.loadBase [ZMOD 2 ^ 32]

section Shift

variable {addr' : Nat → Nat} {d : Int}

/-- The loaded sections are `d` bytes further on. -/
def Shifted (img : Buf) (d : Int) (addr addr' : Nat → Nat) : Prop :=
  ∀ i < (Ehdr.at img).shnum, (sectionAt img i).alloc → (addr' i : Int) = addr i + d

theorem LaidOut.shifted {applied applied' : Nat} (hsize : lb.size = lb'.size)
    (h : LaidOut img lb (Ehdr.at img).shnum applied s)
    (h' : LaidOut img lb' (Ehdr.at img).shnum applied' s') :
    Shifted img (lb'.base - lb.base) s.sectionAddresses s'.sectionAddresses := by
  intro i hi ha
  obtain ⟨offset, hoffset, haddress⟩ := h.address i hi ha
  obtain ⟨offset', hoffset', haddress'⟩ := h'.address i hi ha
  rw [hsize, hoffset'] at hoffset
  obtain rfl := Option.some.inj hoffset
  omega

/-- An entry point is in a loaded section. -/
theorem Shifted.entryValue {name : List UInt8} {n : Nat} (h : Shifted img d addr addr')
    (hne : entryValue img tab addr name n ≠ 0) :
    (entryValue img tab addr' name n : Int) ≡ entryValue img tab addr name n + d
      [ZMOD 2 ^ 64] := by
  unfold Kabi.entryValue at hne ⊢
  cases hlast : lastEntry img tab name n with
  | none =>
    rw [hlast] at hne
    exact absurd rfl hne
  | some k =>
    obtain ⟨-, -, ⟨hlt, ha⟩, -⟩ := lastEntry_some hlast
    have hshift := h _ hlt ha
    simp only [symbolPlace, Int.ModEq]
    omega

theorem Shifted.symbolValue {sym : Sym} {S S' : Int} (h : Shifted img d addr addr')
    (hdef : sym.shndx ≠ SHN_UNDEF) (hS : SymbolValue img tab resolve addr sym S)
    (hS' : SymbolValue img tab resolve addr' sym S') : S' = S + d := by
  cases hS with
  | undefined hundef => exact absurd hundef hdef
  | defined _ hlt ha =>
    cases hS' with
    | undefined hundef => exact absurd hundef hdef
    | defined => rw [h _ hlt ha]; omega

/-- The fields of an entry whose symbol is in the module: the same relocation type, and values
whose difference is that of the formulas. -/
theorem Shifted.fields {e : Nat × Rela} (h : Shifted img d addr addr')
    (hdef : DefinedHere img e) (hplace : PlaceInside img e)
    (hf : RightField img (imageSymtab img) resolve addr e m)
    (hf' : RightField img (imageSymtab img) resolve addr' e m') :
    ∃ t S, RelType.ofNat? e.2.type = some t ∧
      signedField m (entryPlace addr e) t.width ≡ t.value S e.2.signedAddend (entryPlace addr e)
        [ZMOD 2 ^ 64] ∧
      signedField m' (entryPlace addr' e) t.width ≡
        t.value (S + d) e.2.signedAddend (entryPlace addr e + d) [ZMOD 2 ^ 64] := by
  obtain ⟨t, S, hty, hS, hvalue⟩ := hf
  obtain ⟨t', S', hty', hS', hvalue'⟩ := hf'
  obtain rfl := Option.some.inj (hty.symm.trans hty')
  obtain rfl := h.symbolValue hdef hS hS'
  have hat : (entryPlace addr' e : Int) = entryPlace addr e + d := by
    have := h e.1 hplace.1.1 hplace.1.2
    rw [entryPlace, entryPlace]
    omega
  rw [hat] at hvalue'
  exact ⟨t, S, hty, hvalue, hvalue'⟩

theorem signedField_modEq {a n : Nat} {N : Int} (hN : ((256 ^ n : Nat) : Int) = N) :
    signedField m a n ≡ m.le a n [ZMOD N] := by
  rw [signedField]
  exact bmod_modEq _ hN

/-- A field of four bytes is determined by its value modulo `2 ^ 64`. -/
theorem le_eq_of_signedField {a a' : Nat}
    (h : signedField m' a' 4 ≡ signedField m a 4 [ZMOD 2 ^ 64]) : m'.le a' 4 = m.le a 4 := by
  have hlt := m.le_lt a 4
  have hlt' := m'.le_lt a' 4
  simp only [signedField, Int.bmod, Int.ModEq] at h
  split at h <;> split at h <;> omega

theorem Shifted.relative {e : Nat × Rela} (h : Shifted img d addr addr')
    (hdef : DefinedHere img e) (hplace : PlaceInside img e)
    (hf : RightField img (imageSymtab img) resolve addr e m)
    (hf' : RightField img (imageSymtab img) resolve addr' e m')
    (hty : e.2.type = R_X86_64_PC32 ∨ e.2.type = R_X86_64_PLT32) :
    m'.le (entryPlace addr' e) 4 = m.le (entryPlace addr e) 4 := by
  obtain ⟨t, S, ht, hvalue, hvalue'⟩ := h.fields hdef hplace hf hf'
  have hsum : S + d + e.2.signedAddend - (entryPlace addr e + d) =
      S + e.2.signedAddend - entryPlace addr e := by omega
  -- `S` and `P` move together
  rcases hty with hty | hty <;> rw [hty] at ht <;> obtain rfl := Option.some.inj ht
  all_goals
    rw [RelType.value, hsum] at hvalue'
    exact le_eq_of_signedField (hvalue'.trans hvalue.symm)

theorem Shifted.absolute {e : Nat × Rela} {t : RelType} {N : Int} (h : Shifted img d addr addr')
    (hdef : DefinedHere img e) (hplace : PlaceInside img e)
    (hf : RightField img (imageSymtab img) resolve addr e m)
    (hf' : RightField img (imageSymtab img) resolve addr' e m')
    (hty : RelType.ofNat? e.2.type = some t) (habs : t = .abs64 ∨ t = .abs32s)
    (hN : ((256 ^ t.width : Nat) : Int) = N) (hdvd : N ∣ 2 ^ 64) :
    (m'.le (entryPlace addr' e) t.width : Int) - m.le (entryPlace addr e) t.width ≡ d [ZMOD N] := by
  obtain ⟨t', S, ht, hvalue, hvalue'⟩ := h.fields hdef hplace hf hf'
  obtain rfl := Option.some.inj (ht.symm.trans hty)
  have hsum : t'.value (S + d) e.2.signedAddend (entryPlace addr e + d) =
      t'.value S e.2.signedAddend (entryPlace addr e) + d := by
    rcases habs with rfl | rfl <;> simp only [RelType.value] <;> omega
  rw [hsum] at hvalue'
  calc (m'.le (entryPlace addr' e) t'.width : Int) - m.le (entryPlace addr e) t'.width
      ≡ signedField m' (entryPlace addr' e) t'.width - signedField m (entryPlace addr e) t'.width
        [ZMOD N] := (signedField_modEq hN).symm.sub (signedField_modEq hN).symm
    _ ≡ t'.value S e.2.signedAddend (entryPlace addr e) + d -
        t'.value S e.2.signedAddend (entryPlace addr e) [ZMOD N] :=
      (hvalue'.sub hvalue).of_dvd hdvd
    _ ≡ d [ZMOD N] := by rw [add_sub_cancel_left]

end Shift

/-! ## Two calls -/

/-- **Position independence**: two successful calls with load memories of the same size, one
resolver and disjoint relocation places end in the same module, each at its address. -/
theorem relocate_moved (img : Buf) (required : CStr) (lb lb' : LoadBuffer)
    (resolve : Option Resolver) (m m' : Mem) (l l' : Loaded) (s s' : LoadState)
    (hsize : lb.size = lb'.size) (hplaces : PlacesDisjoint img)
    (h : relocateModule img required lb resolve (LoadState.enter m l) = .ok () s)
    (h' : relocateModule img required lb' resolve (LoadState.enter m' l') = .ok () s') :
    Moved img s s' := by
  obtain ⟨i, hl⟩ := linked_of_ok h
  obtain ⟨i', hl'⟩ := linked_of_ok h'
  have hlaid := laidOut_of_ok h
  have hlaid' := laidOut_of_ok h'
  have hshift := hlaid.shifted hsize hlaid'
  have hright := hl.rightFields hplaces
  have hright' := hl'.rightFields hplaces
  have hinside := hl.placeInside
  have htab : symtabAt img i' = symtabAt img i :=
    hl'.symtab.imageSymtab_eq.symm.trans hl.symtab.imageSymtab_eq
  have hbase : (s'.loaded.loadBase : Int) - s.loaded.loadBase = lb'.base - lb.base := by
    rw [hl.loadBase, hl'.loadBase]
  -- the entry points move with their sections
  have entry {a a' : Nat} {name : List UInt8} (hne : a ≠ 0)
      (ha : a = entryValue img (symtabAt img i) s.sectionAddresses name
        (symtabAt img i).symbolCount)
      (ha' : a' = entryValue img (symtabAt img i') s'.sectionAddresses name
        (symtabAt img i').symbolCount) :
      (a' : Int) - s'.loaded.loadBase ≡ a - s.loaded.loadBase [ZMOD 2 ^ 64] := by
    rw [htab] at ha'
    rw [ha] at hne
    have hvalue := hshift.entryValue hne
    rw [← ha, ← ha', ← hbase] at hvalue
    have hsum : (a : Int) + (s'.loaded.loadBase - s.loaded.loadBase) - s'.loaded.loadBase =
        a - s.loaded.loadBase := by omega
    rw [← hsum]
    exact hvalue.sub_right _
  refine ⟨?_, ?_, ?_, entry hl.init_ne hl.init hl'.init,
    entry hl.cleanup_ne hl.cleanup hl'.cleanup, ?_, ?_, ?_, ?_, ?_⟩
  · rw [hl.imageSize, hl'.imageSize, hlaid.used, hlaid'.used, hsize]
  · rw [hlaid.relocated, hlaid'.relocated]
  · rw [hlaid.applied, hlaid'.applied]
  · intro j hj ha
    have := hshift j hj ha
    omega
  · intro j hj ha k hk hout
    rw [hl.fileByte hj ha hk hout, hl'.fileByte hj ha hk hout]
  · intro e he hty hdef
    exact Mem.byte_eq_of_le
      (hshift.relative hdef (hinside e he) (hright e he) (hright' e he) hty)
  · intro e he hty hdef
    rw [hbase]
    exact hshift.absolute (t := .abs64) hdef (hinside e he) (hright e he) (hright' e he)
      (by rw [hty]; rfl) (.inl rfl) (by decide) (by decide)
  · intro e he hty hdef
    rw [hbase]
    exact hshift.absolute (t := .abs32s) hdef (hinside e he) (hright e he) (hright' e he)
      (by rw [hty]; rfl) (.inr rfl) (by decide) (by decide)

instance : Decidable (PlacesDisjoint img) := inferInstanceAs (Decidable (List.Pairwise _ _))

set_option maxRecDepth 100000 in
/-- The two load memories are 0x20000 apart: the fields of the relative entries agree, and the
fields of the `R_X86_64_64` and `R_X86_64_32S` entries against `init_module` and `cleanup_module`
are 0x20000 apart. -/
theorem relocate_moved_sample : ∃ s s', linkedRun 0x10000 (by decide) = .ok () s ∧
    linkedRun 0x30000 (by decide) = .ok () s' ∧ PlacesDisjoint linkedImage ∧
    ((relocEntries linkedImage).filter (DefinedHere linkedImage ·)).map (·.2.type) =
      [R_X86_64_64, R_X86_64_PC32, R_X86_64_PLT32, R_X86_64_32S] ∧
    Moved linkedImage s s' := by
  have hl : loadedOf (linkedRun 0x10000 (by decide)) =
      some ⟨0x10000, 32, 0x10000, 0x10008, 1, 5⟩ := by
    decide +kernel
  have hl' : loadedOf (linkedRun 0x30000 (by decide)) =
      some ⟨0x30000, 32, 0x30000, 0x30008, 1, 5⟩ := by
    decide +kernel
  have hplaces : PlacesDisjoint linkedImage := by decide +kernel
  obtain ⟨s, hs, -⟩ := ok_of_loadedOf hl
  obtain ⟨s', hs', -⟩ := ok_of_loadedOf hl'
  exact ⟨s, s', hs, hs', hplaces, by decide +kernel,
    relocate_moved _ _ ⟨0x10000, 64, by decide⟩ ⟨0x30000, 64, by decide⟩ _ _ _ _ _ s s' rfl
      hplaces hs hs'⟩

end SeLinOS.Kabi
