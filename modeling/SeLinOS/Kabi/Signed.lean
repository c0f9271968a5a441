import SeLinOS.Kabi.Nobits
import SeLinOS.Kabi.Parts

/-!
# The signed sums of the relocation walk

For `PC32`, `PLT32` and `32S` the walk adds signed 64-bit numbers before it tests the range of the
sum. `checkedModule` is the relocation stage where such a sum that is not in the range of its type
is a fault, as C has it; `signed_defined_iff` says when there is none.

* `applyTypeChecked`, `checkedModule`: the checked stage.
* `entrySymbol`, `Passes`, `Reached`: what the walk does with an entry, from the image and the
  addresses of the sections.
* `AddendIn`: the addends for which the sums of an entry are in range.
-/

namespace SeLinOS.Kabi

open CLogic Prog

/-! ## The checked stage -/

/-- The signed number in 64 bits. -/
def s64 (x : Nat) : Int := Int.bmod x (2 ^ 64)

/-- The exact value of a signed 64-bit expression is in the range of its type. -/
def SignedOk (v : Int) : Prop := -2 ^ 63 ≤ v ∧ v < 2 ^ 63

instance (v : Int) : Decidable (SignedOk v) := instDecidableAnd

/-- The signed expressions of an entry are in range: `S + A`, and for `PC32` and `PLT32` also
`(S + A) - P`. -/
def SumsOk (type symbolAddress addend place : Nat) : Prop :=
  (type = R_X86_64_PC32 ∨ type = R_X86_64_PLT32 → SignedOk (s64 symbolAddress + s64 addend) ∧
    SignedOk (s64 symbolAddress + s64 addend - s64 place)) ∧
  (type = R_X86_64_32S → SignedOk (s64 symbolAddress + s64 addend))

instance (type symbolAddress addend place : Nat) :
    Decidable (SumsOk type symbolAddress addend place) :=
  inferInstanceAs (Decidable ((_ → _) ∧ (_ → _)))

/-- `applyType`, where a signed sum that is not in range is a fault. -/
def applyTypeChecked (lb : LoadBuffer) : Apply := fun type symbolAddress addend place =>
  if SumsOk type symbolAddress addend place then applyType lb type symbolAddress addend place
  else fault .overflow

/-- `relocateModule`, where a signed sum that is not in range is a fault. -/
def checkedModule (img : Buf) (required : CStr) (lb : LoadBuffer) (resolve : Option Resolver) :
    LoadM Unit :=
  prepareModule img required lb >>= walkModule (applyTypeChecked lb) img lb resolve

/-! ## What the walk does with an entry -/

section Entries

variable (img : Buf) (tab : Symtab) (resolve : Option Resolver) (addr : Nat → Nat)

/-- The symbol address of an entry; `none` where the walk returns before it uses one. -/
def entrySymbol (e : Nat × Rela) : Option Nat :=
  if e.2.symbolIndex < tab.symbolCount ∧ addr e.1 ≠ 0 ∧
      e.2.offset + relocWidth e.2.type ≤ (sectionAt img e.1).size then
    symbolAddress img tab resolve addr (symAt img tab e.2.symbolIndex)
  else none

/-- The type is one of the four, and its value passes `signed_32_ok`. -/
def TypePasses (type symbolAddress addend place : Nat) : Prop :=
  type = R_X86_64_64 ∨
  ((type = R_X86_64_PC32 ∨ type = R_X86_64_PLT32) ∧ signed32Ok
    (BitVec.ofNat 64 symbolAddress + BitVec.ofNat 64 addend - BitVec.ofNat 64 place)) ∨
  (type = R_X86_64_32S ∧ signed32Ok (BitVec.ofNat 64 symbolAddress + BitVec.ofNat 64 addend))

/-- The walk applies the entry. -/
def Passes (e : Nat × Rela) : Prop := ∃ S, entrySymbol img tab resolve addr e = some S ∧
  TypePasses e.2.type S e.2.addend (entryPlace addr e)

/-- The header of section `i` is one that the walk accepts. -/
def HeaderPasses (i : Nat) : Prop :=
  let sh := sectionAt img i
  sh.type = SHT_RELA → sh.info < (Ehdr.at img).shnum ∧ sh.link < (Ehdr.at img).shnum ∧
    sh.link = tab.section_ ∧ sh.entsize = relaSize ∧ sh.size % sh.entsize = 0 ∧
    sh.offset + sh.size ≤ img.size

/-- Entry `k` of section `i`, with its target. -/
def entryAt (i k : Nat) : Nat × Rela := ((sectionAt img i).info, relaAt img (sectionAt img i) k)

/-- The number of entries of section `i` that apply. -/
def entryCount (i : Nat) : Nat :=
  if Relocates img i then (sectionAt img i).size / relaSize else 0

/-- The walk reaches entry `k` of section `i`: it accepts the headers up to this section, and it
applies the entries before this one. -/
structure Reached (i k : Nat) : Prop where
  section_ : i < (Ehdr.at img).shnum
  entry : k < entryCount img i
  headers : ∀ j ≤ i, HeaderPasses img tab j
  sections : ∀ j < i, ∀ k' < entryCount img j, Passes img tab resolve addr (entryAt img j k')
  entries : ∀ k' < k, Passes img tab resolve addr (entryAt img i k')

end Entries

section Walk

variable {img : Buf} {required : CStr} {lb : LoadBuffer} {tab : Symtab} {resolve : Option Resolver}
  {apply : Apply} {s : LoadState} {addr : Nat → Nat}

/-- An entry: a return, or the function for its type. -/
theorem applyRelocationUsing_run {info : Nat} {relocation : Rela} (ht : TabOk img tab)
    (hmax : (Ehdr.at img).shnum ≤ MODULE_MAX_SECTIONS) (hinfo : info < (Ehdr.at img).shnum) :
    applyRelocationUsing apply img tab resolve info (sectionAt img info) relocation s =
      match entrySymbol img tab resolve s.sectionAddresses (info, relocation) with
      | none => .ret .eSymbol s
      | some S => (do
          apply relocation.type S relocation.addend
            (entryPlace s.sectionAddresses (info, relocation))
          Prog.modify fun s => { s with
            loaded.appliedRelocations := (s.loaded.appliedRelocations + 1) % 2 ^ 32 }) s := by
  unfold applyRelocationUsing entrySymbol
  by_cases hsym : relocation.symbolIndex < tab.symbolCount
  · rw [if_neg (by omega), bind_run]
    have haddress : sectionAddress info s = .ok (s.sectionAddresses info) s :=
      run_of_wp (sectionAddress_wp (by omega) ⟨rfl, rfl⟩)
    rw [haddress]
    by_cases hin : s.sectionAddresses info ≠ 0 ∧
        relocation.offset + relocWidth relocation.type ≤ (sectionAt img info).size
    · have hsymbol : (img.load (tab.symbols + symSize * relocation.symbolIndex) symSize
          (Sym.at img (tab.symbols + symSize * relocation.symbolIndex)) : LoadM Sym) s =
          .ok (symAt img tab relocation.symbolIndex) s :=
        run_of_wp (loadSym_wp ht hsym ⟨rfl, rfl⟩)
      have hvalue : symbolRuntimeAddress img (symAt img tab relocation.symbolIndex) tab
          (Ehdr.at img).shnum resolve s = .ok (symbolAddress img tab resolve s.sectionAddresses
            (symAt img tab relocation.symbolIndex)) s :=
        run_of_wp (symbolRuntimeAddress_wp ht hmax ⟨rfl, rfl⟩)
      have hpass : ¬ (s.sectionAddresses info = 0 ∨
          relocation.offset > (sectionAt img info).size ∨
          relocWidth relocation.type > (sectionAt img info).size - relocation.offset) := by
        omega
      rw [if_pos ⟨hsym, hin⟩]
      simp only [hpass, ↓reduceIte, bind_run, hsymbol, hvalue]
      cases symbolAddress img tab resolve s.sectionAddresses
        (symAt img tab relocation.symbolIndex) <;> rfl
    · have hfail : s.sectionAddresses info = 0 ∨
          relocation.offset > (sectionAt img info).size ∨
          relocWidth relocation.type > (sectionAt img info).size - relocation.offset := by
        omega
      rw [if_neg fun h => hin h.2]
      simp only [hfail, ↓reduceIte, ret_run]
  · rw [if_pos (by omega), if_neg fun h => hsym h.1]
    rfl

theorem loadSection_bind {β : Type} {i : Nat} {f : Shdr → LoadM β}
    (ht : (Ehdr.at img).shoff + shdrSize * (Ehdr.at img).shnum ≤ img.size)
    (hi : i < (Ehdr.at img).shnum) : loadSection img i >>= f = f (sectionAt img i) := by
  refine Buf.load_bind ?_
  simp only [shdrOff, shdrSize] at ht ⊢
  omega

/-- A section whose header passes: its entries, one by one. -/
theorem relocateSectionUsing_eq {i : Nat}
    (ht : (Ehdr.at img).shoff + shdrSize * (Ehdr.at img).shnum ≤ img.size)
    (hi : i < (Ehdr.at img).shnum) (h : HeaderPasses img tab i) :
    relocateSectionUsing apply img tab resolve i =
      Prog.forUp (fun k => applyRelocationUsing apply img tab resolve (entryAt img i k).1
        (sectionAt img (entryAt img i k).1) (entryAt img i k).2) 0 (entryCount img i) := by
  unfold relocateSectionUsing entryCount
  simp only [entryAt]
  rw [loadSection_bind ht hi]
  by_cases hrela : (sectionAt img i).type = SHT_RELA
  · obtain ⟨hinfo, hlink, htab, hentsize, hmultiple, hrange⟩ := h hrela
    have hpass : ¬ ((sectionAt img i).info ≥ (Ehdr.at img).shnum ∨
        (sectionAt img i).link ≥ (Ehdr.at img).shnum ∨ (sectionAt img i).link ≠ tab.section_ ∨
        (sectionAt img i).entsize ≠ relaSize ∨
        (sectionAt img i).size % (sectionAt img i).entsize ≠ 0 ∨
        ¬ rangeOk img.size (sectionAt img i).offset (sectionAt img i).size) := by
      rw [rangeOk_iff]
      omega
    rw [when, if_pos hrela, if_neg hpass, loadSection_bind ht hinfo]
    by_cases halloc : (sectionAt img (sectionAt img i).info).alloc
    · rw [when, if_pos halloc, if_pos ⟨hrela, halloc⟩, hentsize]
      refine forUp_congr fun k _ hk => Buf.load_bind ?_
      exact entry_le hrange (by omega)
    · rw [when, if_neg halloc, if_neg fun hr => halloc hr.2]
      rfl
  · rw [when, if_neg hrela, if_neg fun hr => hrela hr.1]
    rfl

/-- A section whose header does not pass: a return. -/
theorem relocateSectionUsing_ret {i : Nat}
    (ht : (Ehdr.at img).shoff + shdrSize * (Ehdr.at img).shnum ≤ img.size)
    (hi : i < (Ehdr.at img).shnum) (h : ¬ HeaderPasses img tab i) :
    relocateSectionUsing apply img tab resolve i s = .ret .eRelocation s := by
  unfold relocateSectionUsing
  rw [loadSection_bind ht hi]
  by_cases hrela : (sectionAt img i).type = SHT_RELA
  · have hfail : (sectionAt img i).info ≥ (Ehdr.at img).shnum ∨
        (sectionAt img i).link ≥ (Ehdr.at img).shnum ∨ (sectionAt img i).link ≠ tab.section_ ∨
        (sectionAt img i).entsize ≠ relaSize ∨
        (sectionAt img i).size % (sectionAt img i).entsize ≠ 0 ∨
        ¬ rangeOk img.size (sectionAt img i).offset (sectionAt img i).size := by
      by_contra hc
      simp only [not_or, not_not, ge_iff_le, Nat.not_le, Nat.not_lt, rangeOk_iff] at hc
      exact h fun _ => hc
    rw [when, if_pos hrela, if_pos hfail]
    rfl
  · exact absurd (fun hr => absurd hr hrela) h

/-- What the four types do: they return exactly where the type or its value does not pass. -/
theorem applyType_passes {type S addend place : Nat} (hlo : lb.base ≤ place)
    (hhi : place + relocWidth type ≤ lb.base + lb.size) :
    wp (applyType lb type S addend place)
      (fun _ s' => s'.sectionAddresses = s.sectionAddresses ∧ TypePasses type S addend place)
      (fun _ _ => ¬ TypePasses type S addend place) s := by
  unfold applyType TypePasses
  refine wp_ite (fun h64 => ?_) fun h64 => ?_
  · rw [relocWidth, if_pos h64] at hhi
    exact writeU64_wp hlo hhi ⟨rfl, .inl h64⟩
  rw [relocWidth, if_neg h64] at hhi
  refine wp_ite (fun hpc => ?_) fun hpc => wp_ite (fun h32 => ?_) fun h32 => wp_ret ?_
  · have hne : type ≠ R_X86_64_32S := by
      rintro rfl
      exact absurd hpc (by decide)
    refine wp_ite (fun hbad => wp_ret ?_) fun hok => ?_
    · rintro (h | ⟨-, hok⟩ | ⟨h, -⟩)
      · exact h64 h
      · exact hbad hok
      · exact hne h
    · exact writeU32_wp hlo hhi ⟨rfl, .inr (.inl ⟨hpc, not_not.mp hok⟩)⟩
  · refine wp_ite (fun hbad => wp_ret ?_) fun hok => ?_
    · rintro (h | ⟨h, -⟩ | ⟨-, hok⟩)
      · exact h64 h
      · exact hpc h
      · exact hbad hok
    · exact writeU32_wp hlo hhi ⟨rfl, .inr (.inr ⟨h32, not_not.mp hok⟩)⟩
  · rintro (h | ⟨h, -⟩ | ⟨h, -⟩)
    · exact h64 h
    · exact hpc h
    · exact h32 h

/-! ## The walk of the checked stage -/

/-- The sums of an entry that has a symbol address are in range. -/
def SumsPass (img : Buf) (tab : Symtab) (resolve : Option Resolver) (addr : Nat → Nat)
    (e : Nat × Rela) : Prop :=
  ∀ S, entrySymbol img tab resolve addr e = some S →
    SumsOk e.2.type S e.2.addend (entryPlace addr e)

/-- An entry whose sums are in range: no fault, and the walk goes on exactly if it passes. -/
theorem applyEntry_wp {e : Nat × Rela} (ht : TabOk img tab)
    (hmax : (Ehdr.at img).shnum ≤ MODULE_MAX_SECTIONS) (hinfo : e.1 < (Ehdr.at img).shnum)
    (hin : AddressesIn img lb addr) (hs : s.sectionAddresses = addr)
    (h : SumsPass img tab resolve addr e) :
    wp (applyRelocationUsing (applyTypeChecked lb) img tab resolve e.1 (sectionAt img e.1) e.2)
      (fun _ s' => s'.sectionAddresses = addr ∧ Passes img tab resolve addr e)
      (fun _ _ => ¬ Passes img tab resolve addr e) s := by
  have hrun : applyRelocationUsing (applyTypeChecked lb) img tab resolve e.1 (sectionAt img e.1)
      e.2 s = _ := applyRelocationUsing_run ht hmax hinfo
  rw [hs] at hrun
  cases hsymbol : entrySymbol img tab resolve addr e with
  | none =>
    rw [hsymbol] at hrun
    refine wp_of_retRun hrun ?_
    rintro ⟨S, hS, -⟩
    rw [hsymbol] at hS
    cases hS
  | some S =>
    rw [hsymbol] at hrun
    have hbounds : addr e.1 ≠ 0 ∧ e.2.offset + relocWidth e.2.type ≤ (sectionAt img e.1).size := by
      by_contra hc
      rw [entrySymbol, if_neg fun hc' => hc hc'.2] at hsymbol
      cases hsymbol
    obtain ⟨hne, hoffset⟩ := hbounds
    obtain ⟨hlo, hhi⟩ := hin _ hne
    have hpasses : Passes img tab resolve addr e ↔
        TypePasses e.2.type S e.2.addend (entryPlace addr e) := by
      constructor
      · rintro ⟨S', hS', hp⟩
        obtain rfl := Option.some.inj (hsymbol.symm.trans hS')
        exact hp
      · exact fun hp => ⟨S, hsymbol, hp⟩
    have hwp : wp (do
        applyTypeChecked lb e.2.type S e.2.addend (entryPlace addr e)
        Prog.modify fun s => { s with
          loaded.appliedRelocations := (s.loaded.appliedRelocations + 1) % 2 ^ 32 } : LoadM Unit)
        (fun _ s' => s'.sectionAddresses = addr ∧ Passes img tab resolve addr e)
        (fun _ _ => ¬ Passes img tab resolve addr e) s := by
      rw [applyTypeChecked, if_pos (h S hsymbol), hpasses]
      refine wp_seq (applyType_passes ?_ ?_) (fun _ _ h => h) fun _ s' h' =>
        wp_modify ⟨h'.1.trans hs, h'.2⟩
      · rw [entryPlace]
        omega
      · rw [entryPlace]
        omega
    exact wp_congr hrun hwp

/-- An entry whose sums are not in range: a fault. -/
theorem applyEntry_fault {e : Nat × Rela} (ht : TabOk img tab)
    (hmax : (Ehdr.at img).shnum ≤ MODULE_MAX_SECTIONS) (hinfo : e.1 < (Ehdr.at img).shnum)
    (hs : s.sectionAddresses = addr) (h : ¬ SumsPass img tab resolve addr e) :
    applyRelocationUsing (applyTypeChecked lb) img tab resolve e.1 (sectionAt img e.1) e.2 s =
      .fault .overflow := by
  have hrun : applyRelocationUsing (applyTypeChecked lb) img tab resolve e.1 (sectionAt img e.1)
      e.2 s = _ := applyRelocationUsing_run ht hmax hinfo
  simp only [SumsPass, not_forall] at h
  obtain ⟨S, hS, hbad⟩ := h
  have hfault : applyTypeChecked lb e.2.type S e.2.addend (entryPlace addr e) =
      fault .overflow := if_neg hbad
  rw [hs, hS] at hrun
  rw [hrun]
  simp only [bind_run, hfault]
  rfl

theorem HeaderPasses.info_lt {i k : Nat} (h : HeaderPasses img tab i)
    (hk : k < entryCount img i) : (entryAt img i k).1 < (Ehdr.at img).shnum := by
  unfold entryCount at hk
  split at hk
  · rename_i hr
    exact (h hr.1).1
  · exact absurd hk (Nat.not_lt_zero k)

/-- One section, where the sums of every entry that the walk reaches are in range. -/
theorem relocateSectionChecked_wp {i : Nat} (ht : TabOk img tab)
    (htable : (Ehdr.at img).shoff + shdrSize * (Ehdr.at img).shnum ≤ img.size)
    (hmax : (Ehdr.at img).shnum ≤ MODULE_MAX_SECTIONS) (hi : i < (Ehdr.at img).shnum)
    (hin : AddressesIn img lb addr) (hs : s.sectionAddresses = addr)
    (h : HeaderPasses img tab i → ∀ k < entryCount img i,
      (∀ k' < k, Passes img tab resolve addr (entryAt img i k')) →
        SumsPass img tab resolve addr (entryAt img i k)) :
    wp (relocateSectionUsing (applyTypeChecked lb) img tab resolve i)
      (fun _ s' => s'.sectionAddresses = addr ∧ HeaderPasses img tab i ∧
        ∀ k < entryCount img i, Passes img tab resolve addr (entryAt img i k))
      (fun _ _ => True) s := by
  by_cases hheader : HeaderPasses img tab i
  · rw [relocateSectionUsing_eq htable hi hheader]
    refine wp_mono (wp_forUp (fun k s' => s'.sectionAddresses = addr ∧
      ∀ k' < k, Passes img tab resolve addr (entryAt img i k')) 0 _ s
      ⟨hs, fun k' hk' => absurd hk' (Nat.not_lt_zero k')⟩ ?_) ?_ fun _ _ h => h
    · rintro k s' - hk ⟨hs', hbefore⟩
      rw [Nat.zero_add] at hk
      refine wp_mono (applyEntry_wp ht hmax (hheader.info_lt hk) hin hs'
        (h hheader k hk hbefore)) ?_ fun _ _ _ => trivial
      rintro _ s'' ⟨hs'', hpasses⟩
      refine ⟨hs'', fun k' hk' => ?_⟩
      rcases Nat.lt_succ_iff_lt_or_eq.mp hk' with hk' | rfl
      · exact hbefore k' hk'
      · exact hpasses
    · rintro _ s' ⟨hs', hall⟩
      rw [Nat.zero_add] at hall
      exact ⟨hs', hheader, hall⟩
  · exact wp_of_retRun (relocateSectionUsing_ret htable hi hheader) trivial

/-- One section with a header that passes: a run that falls through has met only entries that pass
and whose sums are in range. -/
theorem relocateSectionChecked_stop {i n : Nat} (ht : TabOk img tab)
    (htable : (Ehdr.at img).shoff + shdrSize * (Ehdr.at img).shnum ≤ img.size)
    (hmax : (Ehdr.at img).shnum ≤ MODULE_MAX_SECTIONS) (hi : i < (Ehdr.at img).shnum)
    (hin : AddressesIn img lb addr) (hs : s.sectionAddresses = addr)
    (hheader : HeaderPasses img tab i)
    (hbefore : ∀ k < n, k < entryCount img i → Passes img tab resolve addr (entryAt img i k))
    (hbad : n < entryCount img i → ¬ SumsPass img tab resolve addr (entryAt img i n)) :
    wlp (relocateSectionUsing (applyTypeChecked lb) img tab resolve i)
      (fun _ s' => s'.sectionAddresses = addr ∧ entryCount img i ≤ n) (fun _ _ => False) s := by
  rw [relocateSectionUsing_eq htable hi hheader]
  refine wlp_mono (wlp_forUp (fun k s' => s'.sectionAddresses = addr ∧ k ≤ n) 0 _ s
    ⟨hs, Nat.zero_le n⟩ ?_) (fun _ s' h' => by rwa [Nat.zero_add] at h') fun _ _ h => h
  rintro k s' - hk ⟨hs', hle⟩
  rw [Nat.zero_add] at hk
  by_cases hsums : SumsPass img tab resolve addr (entryAt img i k)
  · have hlt : k < n := by
      rcases Nat.lt_or_eq_of_le hle with hlt | rfl
      · exact hlt
      · exact absurd hsums (hbad hk)
    refine wlp_of_wp (wp_mono (applyEntry_wp ht hmax (hheader.info_lt hk) hin hs' hsums) ?_ ?_)
    · exact fun _ s'' h'' => ⟨h''.1, hlt⟩
    · exact fun _ _ hfail => hfail (hbefore k hlt hk)
  · exact wlp_of_faultRun (applyEntry_fault ht hmax (hheader.info_lt hk) hs' hsums)

/-- The loop over the sections, where the sums of every entry that it reaches are in range. -/
theorem walkSections_wp (ht : TabOk img tab)
    (htable : (Ehdr.at img).shoff + shdrSize * (Ehdr.at img).shnum ≤ img.size)
    (hmax : (Ehdr.at img).shnum ≤ MODULE_MAX_SECTIONS) (hin : AddressesIn img lb addr)
    (hs : s.sectionAddresses = addr)
    (h : ∀ i k, Reached img tab resolve addr i k →
      SumsPass img tab resolve addr (entryAt img i k)) :
    wp (forUp (relocateSectionUsing (applyTypeChecked lb) img tab resolve) 0 (Ehdr.at img).shnum)
      (fun _ _ => True) (fun _ _ => True) s := by
  refine wp_mono (wp_forUp (fun i s' => s'.sectionAddresses = addr ∧ ∀ j < i,
    HeaderPasses img tab j ∧ ∀ k < entryCount img j, Passes img tab resolve addr (entryAt img j k))
    0 _ s ⟨hs, fun j hj => absurd hj (Nat.not_lt_zero j)⟩ ?_) (fun _ _ _ => trivial)
    fun _ _ h => h
  rintro i s' - hi ⟨hs', hbefore⟩
  rw [Nat.zero_add] at hi
  refine wp_mono (relocateSectionChecked_wp ht htable hmax hi hin hs' fun hheader k hk hentries =>
    h i k ⟨hi, hk, fun j hj => ?_, fun j hj => (hbefore j hj).2, hentries⟩) ?_ fun _ _ h => h
  · rcases Nat.lt_or_eq_of_le hj with hj | rfl
    · exact (hbefore j hj).1
    · exact hheader
  · rintro _ s'' ⟨hs'', hpasses⟩
    refine ⟨hs'', fun j hj => ?_⟩
    rcases Nat.lt_succ_iff_lt_or_eq.mp hj with hj | rfl
    · exact hbefore j hj
    · exact hpasses

/-- The loop over the sections faults at the first entry whose sums are not in range. -/
theorem walkSections_stop {i k : Nat} (ht : TabOk img tab)
    (htable : (Ehdr.at img).shoff + shdrSize * (Ehdr.at img).shnum ≤ img.size)
    (hmax : (Ehdr.at img).shnum ≤ MODULE_MAX_SECTIONS) (hin : AddressesIn img lb addr)
    (hs : s.sectionAddresses = addr) (hr : Reached img tab resolve addr i k)
    (hbad : ¬ SumsPass img tab resolve addr (entryAt img i k)) :
    wlp (forUp (relocateSectionUsing (applyTypeChecked lb) img tab resolve) 0 (Ehdr.at img).shnum)
      (fun _ _ => False) (fun _ _ => False) s := by
  refine wlp_mono (wlp_forUp (fun j s' => s'.sectionAddresses = addr ∧ j ≤ i) 0 _ s
    ⟨hs, Nat.zero_le i⟩ ?_) (fun _ s' h' => ?_) fun _ _ h => h
  · rintro j s' - hj ⟨hs', hle⟩
    rw [Nat.zero_add] at hj
    rcases Nat.lt_or_eq_of_le hle with hlt | rfl
    · refine wlp_mono (relocateSectionChecked_stop (n := entryCount img j) ht htable hmax hj hin
        hs' (hr.headers j hle) (fun k' _ hk' => hr.sections j hlt k' hk')
        fun h => absurd h (Nat.lt_irrefl _)) ?_ fun _ _ h => h
      exact fun _ s'' h'' => ⟨h''.1, hlt⟩
    · refine wlp_mono (relocateSectionChecked_stop ht htable hmax hj hin hs' (hr.headers j hle)
        (fun k' hk' _ => hr.entries k' hk') fun _ => hbad) ?_ fun _ _ h => h
      exact fun _ s'' h'' => absurd hr.entry (Nat.not_lt.mpr h''.2)
  · have := hr.section_
    omega

end Walk

/-! ## When there is no overflow -/

section Stage

variable {img : Buf} {required : CStr} {lb : LoadBuffer} {tab : Symtab} {resolve : Option Resolver}

/-- The addends for which the signed sums of an entry are in range. -/
def AddendIn (type symbolAddress addend place : Nat) : Prop :=
  let S := s64 symbolAddress
  let P := s64 place
  (type = R_X86_64_PC32 ∨ type = R_X86_64_PLT32 →
    -2 ^ 63 - min S (S - P) ≤ s64 addend ∧ s64 addend < 2 ^ 63 - max S (S - P)) ∧
  (type = R_X86_64_32S → -2 ^ 63 - S ≤ s64 addend ∧ s64 addend < 2 ^ 63 - S)

theorem sumsOk_iff {type symbolAddress addend place : Nat} :
    SumsOk type symbolAddress addend place ↔ AddendIn type symbolAddress addend place := by
  unfold SumsOk AddendIn SignedOk
  refine and_congr (imp_congr_right fun _ => ?_) (imp_congr_right fun _ => ?_)
  · omega
  · omega

/-- A section of the checked walk is one of the walk, but for the overflow faults. -/
theorem relocateSection_checks (i : Nat) :
    Checks .overflow (relocateSectionUsing (applyTypeChecked lb) img tab resolve i)
      (relocateSectionUsing (applyType lb) img tab resolve i) := by
  refine (Checks.refl _).bind fun sh => .when (.ite (.refl _) ?_)
  refine (Checks.refl _).bind fun target => ?_
  refine .when (.forUp (fun k => (Checks.refl _).bind fun relocation => ?_) _ _)
  refine .ite (.refl _) ((Checks.refl _).bind fun base => .ite (.refl _) ?_)
  refine (Checks.refl _).bind fun symbol => (Checks.refl _).bind fun address => ?_
  cases address with
  | none => exact .refl _
  | some S =>
    refine Checks.bind (fun s => ?_) fun _ => .refl _
    unfold applyTypeChecked
    split
    · exact .inr rfl
    · exact .inl rfl

/-- The checked stage is the stage, but for the overflow faults. -/
theorem checkedModule_checks : Checks .overflow (checkedModule img required lb resolve)
    (relocateModule img required lb resolve) := by
  rw [relocateModule_eq]
  exact (Checks.refl _).bind fun tab =>
    Checks.bind (.forUp (fun i => relocateSection_checks i) _ _) fun _ => .refl _

/-- **Signed overflow**: no signed sum of the relocation walk overflows exactly when, in a call that
gets as far as the walk, every entry that the walk reaches and that has a symbol address has an
addend in its interval. -/
theorem signed_defined_iff (img : Buf) (required : CStr) (lb : LoadBuffer)
    (resolve : Option Resolver) (m : Mem) (l : Loaded) :
    checkedModule img required lb resolve (LoadState.enter m l) ≠ .fault .overflow ↔
    ((∃ tab s, prepareModule img required lb (LoadState.enter m l) = .ok tab s) →
      ∀ i k, Reached img (imageSymtab img) resolve (placedAt img lb) i k →
        ∀ S, entrySymbol img (imageSymtab img) resolve (placedAt img lb) (entryAt img i k) =
          some S → AddendIn (entryAt img i k).2.type S (entryAt img i k).2.addend
            (entryPlace (placedAt img lb) (entryAt img i k))) := by
  have hwp : wp (prepareModule img required lb) (fun tab s' => Prepared img lb tab s')
      (fun _ _ => True) (LoadState.enter m l) := prepareModule_wp
  have htotal : wp (relocateModule img required lb resolve) (fun _ s' => ∃ i, Linked img lb resolve
      m s' i) (fun _ s' => Contained img lb m s') (LoadState.enter m l) := relocateModule_wp m l
  cases hp : prepareModule img required lb (LoadState.enter m l) with
  | fault x => exact absurd hp (wp_noFault hwp x)
  | ret e s₁ =>
    refine iff_of_true ?_ ?_
    · rw [checkedModule, bind_run, hp]
      simp
    · rintro ⟨tab, s, h⟩
      cases h
  | ok tab s₁ =>
    have hprep := wp_ok hwp hp
    obtain rfl := hprep.symtab
    have hrun : checkedModule img required lb resolve (LoadState.enter m l) =
        walkModule (applyTypeChecked lb) img lb resolve (imageSymtab img) s₁ := by
      rw [checkedModule, bind_run, hp]
    constructor
    · intro hno _ i k hr S hS
      by_contra hbad
      have hsums : ¬ SumsPass img (imageSymtab img) resolve (placedAt img lb) (entryAt img i k) :=
        fun h => hbad (sumsOk_iff.mp (h S hS))
      have hstop : wlp (walkModule (applyTypeChecked lb) img lb resolve (imageSymtab img))
          (fun _ _ => False) (fun _ _ => False) s₁ :=
        wlp_seq (walkSections_stop hprep.tabOk hprep.table hprep.sections hprep.inside
          hprep.addresses hr hsums) fun _ _ h => h.elim
      obtain ⟨x, hx⟩ := fault_of_wlp hstop
      rcases checkedModule_checks (LoadState.enter m l) with h | h
      · exact hno h
      · exact wp_noFault htotal x (by rw [← h, hrun, hx])
    · intro hall hover
      have hloop := walkSections_wp (s := s₁) hprep.tabOk hprep.table hprep.sections hprep.inside
        hprep.addresses fun i k hr S hS => sumsOk_iff.mpr (hall ⟨_, s₁, rfl⟩ i k hr S hS)
      have hsame : forUp (relocateSectionUsing (applyTypeChecked lb) img (imageSymtab img) resolve)
          0 (Ehdr.at img).shnum s₁ =
            forUp (relocateSectionUsing (applyType lb) img (imageSymtab img) resolve) 0
              (Ehdr.at img).shnum s₁ := by
        rcases Checks.forUp (fun i => relocateSection_checks i) 0 _ s₁ with h | h
        · exact absurd h (wp_noFault hloop .overflow)
        · exact h
      -- so the call does what the stage does, which has no fault
      refine wp_noFault htotal .overflow ?_
      rw [relocateModule_eq, bind_run, hp, ← hover, hrun]
      simp only [walkModule, bind_run, hsame]

/-- What a run has done that C leaves undefined. -/
def faultOf {ε σ α : Type} : Res ε σ α → Option Fault
  | .fault x => some x
  | _ => none

/-- The sample image with an `R_X86_64_32S` entry against `init_module`, whose address is `2 ^ 63`
at the load address 0x10000; the addend is `-2 ^ 63`. -/
def overflowImage : Buf :=
  patch (patch (sampleImage 0x7fffffffffff0000 0x66) 0x2d0 0x10000000b) 0x2d8 0x8000000000000000

set_option maxRecDepth 100000 in
/-- The exact sum is `-2 ^ 64`; in two's complement it is 0, which passes `signed_32_ok`, and the
module is accepted. -/
theorem overflow_accepted : (¬ ∀ (img : Buf) (required : CStr) (lb : LoadBuffer)
      (resolve : Option Resolver) (m : Mem) (l : Loaded),
      checkedModule img required lb resolve (LoadState.enter m l) ≠ .fault .overflow) ∧
    ∃ s, relocateModule overflowImage samplePrefix sampleBuffer none
      (LoadState.enter (fun _ => 0) Loaded.zero) = .ok () s := by
  constructor
  · intro hall
    have hover : faultOf (checkedModule overflowImage samplePrefix sampleBuffer none
        (LoadState.enter (fun _ => 0) Loaded.zero)) = some .overflow := by
      decide +kernel
    refine hall overflowImage samplePrefix sampleBuffer none (fun _ => 0) Loaded.zero ?_
    generalize checkedModule overflowImage samplePrefix sampleBuffer none
      (LoadState.enter (fun _ => 0) Loaded.zero) = r at hover ⊢
    cases r with
    | ok _ _ => cases hover
    | ret _ _ => cases hover
    | fault x => rw [Option.some.inj hover]
  · exact exists_of_fallsThrough (by decide +kernel)

end Stage

end SeLinOS.Kabi
