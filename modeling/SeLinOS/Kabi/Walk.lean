import Mathlib.Tactic.NormNum
import SeLinOS.Kabi.Psabi

/-!
# The relocation walk meets the psABI

One lemma for each function of the relocation stage after the layout: `findSymtab`,
`symbol_runtime_address`, the four relocation types, one entry, one relocation section. Together:
the walk is a `Run` of `EntryStep` over the entries of the image.
-/

namespace SeLinOS.Kabi

open CLogic Prog

variable {img : Buf} {lb : LoadBuffer} {n : Nat} {s : LoadState} {E : Status → LoadState → Prop}
  {tab : Symtab} {resolve : Option Resolver}

/-! ## The symbol table -/

/-- What the loop checks of the symbol table, section `i`. -/
structure SymtabOk (img : Buf) (n i : Nat) : Prop where
  lt : i < n
  type : (sectionAt img i).type = SHT_SYMTAB
  unique : ∀ j < n, (sectionAt img j).type = SHT_SYMTAB → j = i
  entsize : (sectionAt img i).entsize = symSize
  symbols : (sectionAt img i).offset + (sectionAt img i).size ≤ img.size
  link : (sectionAt img i).link < (Ehdr.at img).shnum
  names : (symtabAt img i).names + (symtabAt img i).namesSize ≤ img.size

/-- The symbol table found in the sections below `n`. -/
def SymtabFound (img : Buf) (n : Nat) (found : Option Symtab) : Prop :=
  match found with
  | none => ∀ j < n, (sectionAt img j).type ≠ SHT_SYMTAB
  | some tab => ∃ i, tab = symtabAt img i ∧ SymtabOk img n i

theorem findSymtab_wp {found : Option Symtab} {m₀ : Mem}
    (ht : (Ehdr.at img).shoff + shdrSize * (Ehdr.at img).shnum ≤ img.size)
    (hn : n < (Ehdr.at img).shnum) (h : SymtabFound img n found) (hs : Contained img lb m₀ s) :
    wp (findSymtab img n found) (fun r s' => s' = s ∧ SymtabFound img (n + 1) r)
      (fun _ s' => Contained img lb m₀ s') s := by
  unfold findSymtab
  refine wp_bind (loadSection_wp ht hn ?_)
  refine wp_ite (fun hty => wp_pure ⟨rfl, ?_⟩) fun hty => ?_
  · cases found with
    | none =>
      intro j hj
      rcases Nat.lt_succ_iff_lt_or_eq.mp hj with hj | rfl
      · exact h j hj
      · exact hty
    | some tab =>
      obtain ⟨i, rfl, hi⟩ := h
      refine ⟨i, rfl, ⟨by have := hi.lt; omega, hi.type, fun j hj hj' => ?_, hi.entsize,
        hi.symbols, hi.link, hi.names⟩⟩
      rcases Nat.lt_succ_iff_lt_or_eq.mp hj with hj | rfl
      · exact hi.unique j hj hj'
      · exact absurd hj' hty
  · rw [not_not] at hty
    refine wp_ite (fun _ => wp_ret hs) fun hc => ?_
    simp only [not_or, not_not, ge_iff_le, Nat.not_le, Bool.not_eq_true,
      Option.isSome_eq_false_iff, Option.isNone_iff_eq_none] at hc
    obtain ⟨rfl, hent, -, hlink, hrange⟩ := hc
    refine wp_bind (loadSection_wp ht hlink ?_)
    refine wp_ite (fun _ => wp_ret hs) fun hnames => wp_pure ⟨rfl, n, rfl, ?_⟩
    rw [Bool.not_eq_false, rangeOk_iff] at hrange
    rw [not_not, rangeOk_iff] at hnames
    refine ⟨by omega, hty, fun j hj hj' => ?_, hent, hrange, hlink, hnames⟩
    rcases Nat.lt_succ_iff_lt_or_eq.mp hj with hj | rfl
    · exact absurd hj' (h j hj)
    · rfl

/-- What the walk needs of the symbol table. -/
structure TabOk (img : Buf) (tab : Symtab) : Prop where
  symbols : tab.symbols + symSize * tab.symbolCount ≤ img.size
  names : tab.names + tab.namesSize ≤ img.size

theorem SymtabOk.tabOk {i : Nat} (h : SymtabOk img n i) : TabOk img (symtabAt img i) := by
  refine ⟨?_, h.names⟩
  simp only [symtabAt]
  rw [h.entsize]
  have := Nat.mul_div_le (sectionAt img i).size symSize
  have := h.symbols
  omega

theorem loadSym_wp {i : Nat} {Q : Sym → LoadState → Prop} (ht : TabOk img tab)
    (hi : i < tab.symbolCount) (h : Q (symAt img tab i) s) :
    wp (img.load (tab.symbols + symSize * i) symSize
      (Sym.at img (tab.symbols + symSize * i))) Q E s := by
  refine Buf.wp_load ?_ h
  have := ht.symbols
  have : symSize * (i + 1) ≤ symSize * tab.symbolCount := Nat.mul_le_mul_left _ hi
  rw [Nat.mul_succ] at this
  omega

/-! ## Symbols -/

/-- The result of `symbol_runtime_address`. -/
def symbolAddress (img : Buf) (tab : Symtab) (resolve : Option Resolver) (addr : Nat → Nat)
    (sym : Sym) : Option Nat :=
  if sym.shndx ≠ SHN_UNDEF then
    if sym.shndx < (Ehdr.at img).shnum ∧ addr sym.shndx ≠ 0 then
      some ((addr sym.shndx + sym.value) % 2 ^ 64)
    else none
  else if Named img tab sym then
    (resolve.bind fun r => r (symName img tab sym)).bind fun a =>
      if a = 0 then none else some a.toNat
  else none

theorem symbolRuntimeAddress_wp {sym : Sym} {Q : Option Nat → LoadState → Prop}
    (ht : TabOk img tab) (hmax : (Ehdr.at img).shnum ≤ MODULE_MAX_SECTIONS)
    (h : Q (symbolAddress img tab resolve s.sectionAddresses sym) s) :
    wp (symbolRuntimeAddress img sym tab (Ehdr.at img).shnum resolve) Q E s := by
  unfold symbolAddress at h
  unfold symbolRuntimeAddress
  refine wp_ite (fun hdef => ?_) fun hundef => ?_
  · rw [if_pos hdef] at h
    refine wp_ite (fun hge => wp_pure ?_) fun hlt => wp_bind (sectionAddress_wp (by omega) ?_)
    · rwa [if_neg (by omega)] at h
    · refine wp_ite (fun hz => wp_pure ?_) fun hz => wp_pure ?_
      · rwa [if_neg (by omega)] at h
      · rwa [if_pos ⟨by omega, hz⟩] at h
  · rw [if_neg hundef] at h
    cases resolve with
    | none =>
      refine wp_pure ?_
      simpa using h
    | some r =>
      refine wp_ite (fun hge => wp_pure ?_) fun hlt => ?_
      · rwa [if_neg fun hn : Named img tab sym => by have := hn.1; omega] at h
      · have hnames := ht.names
        refine wp_bind (wp_of_run (stringTerminated_run (by omega)) ?_)
        by_cases hnul : 0 ∈ img.slice (tab.names + sym.name) (tab.namesSize - sym.name)
        · refine wp_ite (fun hc => by simp [hnul] at hc) fun _ => ?_
          refine wp_bind (Buf.wp_read (by omega) ?_)
          refine wp_ite (fun hz => wp_pure ?_) fun hz => ?_
          · rwa [if_neg fun hn : Named img tab sym => hn.2.2 hz] at h
          · rw [if_pos ⟨by omega, hnul, hz⟩, Option.bind_some] at h
            refine wp_bind (Buf.wp_readCStr (by omega) hnul ?_)
            rw [symName] at h
            cases hr : r (img.cstr (tab.names + sym.name) (tab.namesSize - sym.name)) with
            | none =>
              rw [hr] at h
              exact wp_pure h
            | some a =>
              rw [hr, Option.bind_some] at h
              refine wp_ite (fun hz => wp_pure ?_) fun hz => wp_pure ?_
              · rwa [if_pos hz] at h
              · rwa [if_neg hz] at h
        · refine wp_ite (fun _ => wp_pure ?_) fun hc => by simp [hnul] at hc
          rwa [if_neg fun hn : Named img tab sym => hnul hn.2.1] at h

/-- The address that the code computes is the psABI's `S`, modulo `2 ^ 64`. -/
theorem symbolValue_of_symbolAddress {addr : Nat → Nat} {sym : Sym} {a : Nat}
    (haddr : ∀ i < (Ehdr.at img).shnum, addr i ≠ 0 → (sectionAt img i).alloc)
    (h : symbolAddress img tab resolve addr sym = some a) :
    ∃ S, SymbolValue img tab resolve addr sym S ∧ (a : Int) ≡ S [ZMOD 2 ^ 64] := by
  unfold symbolAddress at h
  split at h
  · rename_i hdef
    split at h
    · rename_i hc
      obtain rfl := Option.some.inj h
      refine ⟨_, .defined hdef hc.1 (haddr _ hc.1 hc.2), ?_⟩
      simp only [Int.ModEq]
      omega
    · cases h
  · rename_i hundef
    rw [not_not] at hundef
    split at h
    · rename_i hnamed
      obtain ⟨b, hb, ha⟩ := Option.bind_eq_some_iff.mp h
      obtain ⟨r, hr, hrb⟩ := Option.bind_eq_some_iff.mp hb
      split at ha
      · cases ha
      · rename_i hz
        obtain rfl := Option.some.inj ha
        exact ⟨_, .undefined hundef hr hnamed hrb hz, rfl⟩
    · cases h

/-! ## The relocation types -/

theorem writeU64_wp {target value : Nat} {Q : Unit → LoadState → Prop} (hlo : lb.base ≤ target)
    (hhi : target + 8 ≤ lb.base + lb.size)
    (h : Q () { s with mem := s.mem.blit target 8 (byteAt value) }) :
    wp (writeU64 lb target value) Q E s :=
  fill_wp hlo hhi (fun _ _ _ _ h => h) h

theorem writeU32_wp {target value : Nat} {Q : Unit → LoadState → Prop} (hlo : lb.base ≤ target)
    (hhi : target + 4 ≤ lb.base + lb.size)
    (h : Q () { s with mem := s.mem.blit target 4 (byteAt value) }) :
    wp (writeU32 lb target value) Q E s := by
  have e : s.mem.blit target 4 (byteAt value) =
      (((s.mem.set target (byteAt value 0)).set (target + 1) (byteAt value 1)).set (target + 2)
        (byteAt value 2)).set (target + 3) (byteAt value 3) := by
    simp only [Mem.blit_succ, Mem.blit_zero, Nat.add_zero]
  rw [e] at h
  unfold writeU32
  refine wp_bind (store_wp (by omega) (wp_bind (store_wp (by omega) ?_)))
  exact wp_bind (store_wp (by omega) (store_wp (by omega) h))

/-- A field of `n` bytes that holds `v`: its sign extension. -/
theorem signedField_blit (m : Mem) (a n v : Nat) :
    signedField (m.blit a n (byteAt v)) a n = Int.bmod v (256 ^ n) := by
  rw [signedField, Mem.le_blit_byteAt, Int.natCast_mod, Int.emod_bmod]

theorem bmod_modEq (x : Int) {n : Nat} {m : Int} (h : (n : Int) = m) :
    Int.bmod x n ≡ x [ZMOD m] := by
  rw [Int.ModEq, ← h, Int.bmod_emod]

theorem stores_abs64 {m : Mem} {S A : Int} {P a b : Nat} (ha : (a : Int) ≡ S [ZMOD 2 ^ 64])
    (hb : (b : Int) ≡ A [ZMOD 2 ^ 64]) :
    Stores .abs64 S A P m (m.blit P 8 (byteAt ((a + b) % 2 ^ 64))) := by
  refine ⟨fun x hx => Mem.blit_out hx, ?_⟩
  rw [show RelType.abs64.width = 8 from rfl, signedField_blit]
  calc Int.bmod ((a + b) % 2 ^ 64 : Nat) (256 ^ 8)
      ≡ ((a + b) % 2 ^ 64 : Nat) [ZMOD 2 ^ 64] := bmod_modEq _ (by norm_num)
    _ ≡ a + b [ZMOD 2 ^ 64] := by push_cast; exact Int.mod_modEq _ _
    _ ≡ S + A [ZMOD 2 ^ 64] := ha.add hb

/-- The signed value of a word that passes `signed_32_ok` survives the store of its low half. -/
theorem bmod_low_of_signed32Ok {v : BitVec 64} (h : signed32Ok v) :
    Int.bmod ((v.toNat % 2 ^ 32 : Nat) : Int) (256 ^ 4) = v.toInt := by
  simp only [signed32Ok, Bool.and_eq_true, decide_eq_true_eq] at h
  rw [BitVec.toInt_eq_toNat_cond] at *
  have := v.isLt
  simp only [Int.bmod]
  split at h <;> rename_i hc <;> simp only [hc, ↓reduceIte] <;> omega

theorem stores_signed32 {m : Mem} {t : RelType} {S A : Int} {P : Nat} {v : BitVec 64}
    (hw : t.width = 4) (hv : v.toInt ≡ t.value S A P [ZMOD 2 ^ 64]) (hok : signed32Ok v) :
    Stores t S A P m (m.blit P 4 (byteAt (v.toNat % 2 ^ 32))) := by
  refine ⟨?_, ?_⟩
  · rw [hw]
    exact fun x hx => Mem.blit_out hx
  · rwa [hw, signedField_blit, bmod_low_of_signed32Ok hok]

theorem toInt_modEq (v : BitVec 64) : v.toInt ≡ v.toNat [ZMOD 2 ^ 64] := by
  rw [BitVec.toInt_eq_toNat_cond, Int.ModEq]
  split <;> omega

theorem toInt_add_modEq {S A : Int} {a b : Nat} (ha : (a : Int) ≡ S [ZMOD 2 ^ 64])
    (hb : (b : Int) ≡ A [ZMOD 2 ^ 64]) :
    (BitVec.ofNat 64 a + BitVec.ofNat 64 b).toInt ≡ S + A [ZMOD 2 ^ 64] := by
  refine (toInt_modEq _).trans (Int.ModEq.trans ?_ (ha.add hb))
  rw [BitVec.toNat_add, BitVec.toNat_ofNat, BitVec.toNat_ofNat, Int.ModEq]
  omega

theorem toInt_sub_modEq {S : Int} {v : BitVec 64} {P : Nat} (hv : v.toInt ≡ S [ZMOD 2 ^ 64]) :
    (v - BitVec.ofNat 64 P).toInt ≡ S - P [ZMOD 2 ^ 64] := by
  refine (toInt_modEq _).trans (Int.ModEq.trans ?_ (hv.sub_right (P : Int)))
  refine Int.ModEq.trans ?_ ((toInt_modEq v).symm.sub_right (P : Int))
  rw [BitVec.toNat_sub, BitVec.toNat_ofNat, Int.ModEq]
  have := v.isLt
  omega

theorem RelType.width_of_ofNat? {n : Nat} {t : RelType} (h : RelType.ofNat? n = some t) :
    relocWidth n = t.width := by
  unfold RelType.ofNat? at h
  unfold relocWidth
  split at h
  · obtain rfl := Option.some.inj h
    rw [if_pos ‹_›]
    rfl
  · rw [if_neg ‹_›]
    repeat' split at h
    all_goals cases h
    all_goals rfl

/-- The four types store the field that the psABI asks for, or fail before the store. -/
theorem applyType_wp {type a addend place : Nat} {S A : Int} (ha : (a : Int) ≡ S [ZMOD 2 ^ 64])
    (hA : (addend : Int) ≡ A [ZMOD 2 ^ 64]) (hlo : lb.base ≤ place)
    (hhi : place + relocWidth type ≤ lb.base + lb.size) (hE : E .eRelocation s) :
    wp (applyType lb type a addend place)
      (fun _ s' => ∃ t m', RelType.ofNat? type = some t ∧ Stores t S A place s.mem m' ∧
        s' = { s with mem := m' }) E s := by
  unfold applyType
  have hadd := toInt_add_modEq ha hA
  refine wp_ite (fun h64 => ?_) fun h64 => ?_
  · rw [relocWidth, if_pos h64] at hhi
    refine writeU64_wp hlo hhi ⟨.abs64, _, ?_, stores_abs64 ha hA, rfl⟩
    rw [RelType.ofNat?, if_pos h64]
  · rw [relocWidth, if_neg h64] at hhi
    refine wp_ite (fun hpc => ?_) fun hpc => wp_ite (fun h32 => ?_) fun _ => wp_ret hE
    · refine wp_ite (fun _ => wp_ret hE) fun hok => ?_
      rw [not_not] at hok
      have hsub := toInt_sub_modEq (P := place) hadd
      rcases hpc with hpc | hpc
      · exact writeU32_wp hlo hhi ⟨.pc32, _, by rw [hpc]; rfl, stores_signed32 rfl hsub hok, rfl⟩
      · exact writeU32_wp hlo hhi ⟨.plt32, _, by rw [hpc]; rfl, stores_signed32 rfl hsub hok, rfl⟩
    · refine wp_ite (fun _ => wp_ret hE) fun hok => ?_
      rw [not_not] at hok
      exact writeU32_wp hlo hhi ⟨.abs32s, _, by rw [h32]; rfl, stores_signed32 rfl hadd hok, rfl⟩

/-! ## Entries and relocation sections -/

/-- From the laid-out state `s₁`, the entries `es` are applied in `s`. -/
structure Walked (img : Buf) (tab : Symtab) (resolve : Option Resolver) (s₁ : LoadState)
    (es : List (Nat × Rela)) (s : LoadState) : Prop where
  addresses : s.sectionAddresses = s₁.sectionAddresses
  used : s.used = s₁.used
  init : s.loaded.initModule = s₁.loaded.initModule
  cleanup : s.loaded.cleanupModule = s₁.loaded.cleanupModule
  run : Run (EntryStep img tab resolve s₁.sectionAddresses) s₁.mem es s.mem

variable {s₁ : LoadState} {m₀ : Mem} {es : List (Nat × Rela)}

/-- The entries change bytes of placed sections only. -/
theorem frame_of_run {addr : Nat → Nat} {m m' : Mem}
    (h : Run (EntryStep img tab resolve addr) m es m') {x : Nat}
    (hx : ∀ i < (Ehdr.at img).shnum, (sectionAt img i).alloc → ¬ InSection img addr i x) :
    m' x = m x :=
  h.invariant (I := fun m' => m' x = m x)
    (fun _ _ _ hm hstep => by rw [hstep.frame (hx _ hstep.target.1 hstep.target.2), hm]) rfl

/-- The memory contract holds after the layout and any number of entries. -/
theorem Placed.contained_of_run (hp : Placed img lb (Ehdr.at img).shnum m₀ s₁) (hb : lb.base ≠ 0)
    (ha : s.sectionAddresses = s₁.sectionAddresses)
    (h : Run (EntryStep img tab resolve s₁.sectionAddresses) s₁.mem es s.mem) :
    Contained img lb m₀ s := by
  have hc := hp.contained hb
  refine ⟨?_, ?_, ?_⟩ <;> rw [ha]
  · exact hc.inside
  · exact hc.disjoint
  · intro x hx
    rw [← hc.frame x hx]
    exact frame_of_run h fun i hi halloc => hx i (hp.ne_zero hb hi halloc)

theorem Walked.contained (h : Walked img tab resolve s₁ es s) (hb : lb.base ≠ 0)
    (hp : Placed img lb (Ehdr.at img).shnum m₀ s₁) : Contained img lb m₀ s :=
  hp.contained_of_run hb h.addresses h.run

theorem applyRelocation_wp {info : Nat} {relocation : Rela} (ht : TabOk img tab)
    (hb : lb.base ≠ 0) (hmax : (Ehdr.at img).shnum ≤ MODULE_MAX_SECTIONS)
    (hp : Placed img lb (Ehdr.at img).shnum m₀ s₁) (hinfo : info < (Ehdr.at img).shnum)
    (halloc : (sectionAt img info).alloc) (h : Walked img tab resolve s₁ es s) :
    wp (applyRelocation img lb tab resolve info (sectionAt img info) relocation)
      (fun _ s' => Walked img tab resolve s₁ (es ++ [(info, relocation)]) s')
      (fun _ s' => Contained img lb m₀ s') s := by
  have hout := h.contained hb hp
  obtain ⟨hin, hend⟩ := hp.inside info hinfo halloc
  have hused := hp.used
  unfold applyRelocation
  refine wp_ite (fun _ => wp_ret hout) fun hsym => wp_bind (sectionAddress_wp (by omega) ?_)
  refine wp_ite (fun _ => wp_ret hout) fun hc => ?_
  simp only [not_or, Nat.not_lt, gt_iff_lt, ge_iff_le, Nat.not_le] at hc hsym
  obtain ⟨-, hoff, hwidth⟩ := hc
  refine wp_bind (loadSym_wp ht (by omega) (wp_bind (symbolRuntimeAddress_wp ht hmax ?_)))
  rw [h.addresses]
  cases ha : symbolAddress img tab resolve s₁.sectionAddresses
      (symAt img tab relocation.symbolIndex) with
  | none => exact wp_ret hout
  | some a =>
    obtain ⟨S, hS, haS⟩ := symbolValue_of_symbolAddress
      (fun i _ hne => (hp.alloc_of_ne_zero hne).2) ha
    have hA : (relocation.addend : Int) ≡ relocation.signedAddend [ZMOD 2 ^ 64] :=
      (bmod_modEq _ (by norm_num)).symm
    have hoff : relocation.offset + relocWidth relocation.type ≤ (sectionAt img info).size := by
      omega
    refine wp_seq (applyType_wp haS hA (by omega) (by omega) hout) (fun _ _ h => h) ?_
    rintro _ s' ⟨t, m', hty, hst, rfl⟩
    refine wp_modify ⟨h.addresses, h.used, h.init, h.cleanup, h.run.snoc
      ⟨⟨hinfo, halloc⟩, hsym, t, S, hty, hS, ?_, hst⟩⟩
    rwa [← RelType.width_of_ofNat? hty]

theorem relocateSection_wp {i : Nat} (ht : TabOk img tab) (hb : lb.base ≠ 0)
    (htab : (Ehdr.at img).shoff + shdrSize * (Ehdr.at img).shnum ≤ img.size)
    (hmax : (Ehdr.at img).shnum ≤ MODULE_MAX_SECTIONS)
    (hp : Placed img lb (Ehdr.at img).shnum m₀ s₁) (hi : i < (Ehdr.at img).shnum)
    (h : Walked img tab resolve s₁ es s) :
    wp (relocateSection img lb tab resolve i)
      (fun _ s' => Walked img tab resolve s₁ (es ++ sectionEntries img i) s')
      (fun _ s' => Contained img lb m₀ s') s := by
  have hout := h.contained hb hp
  -- a section that does not apply has no entries
  have skip (hn : ¬ Relocates img i) :
      Walked img tab resolve s₁ (es ++ sectionEntries img i) s := by
    rwa [sectionEntries, if_neg hn, List.append_nil]
  unfold relocateSection
  refine wp_bind (loadSection_wp htab hi (wp_when (fun hty => ?_) fun hty =>
    skip fun hr => hty hr.1))
  refine wp_ite (fun _ => wp_ret hout) fun hc => ?_
  simp only [not_or, not_not, ge_iff_le, Nat.not_le, Bool.not_eq_true, Bool.not_eq_false] at hc
  obtain ⟨hinfo, -, -, hent, -, hrange⟩ := hc
  rw [rangeOk_iff] at hrange
  refine wp_bind (loadSection_wp htab hinfo (wp_when (fun ha => ?_) fun ha =>
    skip fun hr => ha hr.2))
  rw [sectionEntries, if_pos ⟨hty, ha⟩, hent]
  refine wp_mono (wp_forUp (fun k s' => Walked img tab resolve s₁
    (es ++ (List.range k).map fun k => ((sectionAt img i).info, relaAt img (sectionAt img i) k)) s')
    0 _ s (by simpa using h) ?_) (fun _ s' h' => by rwa [Nat.zero_add] at h') fun _ _ h => h
  intro k s' _ hk hw
  have hle : (sectionAt img i).offset + relaSize * k + relaSize ≤ img.size :=
    entry_le hrange (by omega)
  refine wp_bind (Buf.wp_load hle ?_)
  rw [List.range_succ, List.map_append, ← List.append_assoc]
  exact applyRelocation_wp ht hb hmax hp hinfo ha hw

end SeLinOS.Kabi
