import SeLinOS.CLogic.Aligned
import SeLinOS.CLogic.Liberal
import SeLinOS.Kabi.Contract

/-!
# The offsets of the sections

The layout places the sections at offsets in the load memory that depend on the section table and
on the size of the load memory, and not on its address.

* `layoutUsed`, `layoutOffset`: the offsets, from the image and the size alone.
* `LaidOut`, `laidOut_of_ok`: a successful call has them, and counts sections and entries.
* `sections_aligned_iff`: an offset is a multiple of the alignment of its section; when an address
  is.
-/

namespace SeLinOS.Kabi

open CLogic Prog

variable {img : Buf} {lb : LoadBuffer} {n : Nat} {s : LoadState} {E : Status → LoadState → Prop}
  {tab : Symtab} {resolve : Option Resolver}

/-! ## The offsets -/

/-- `used` before section `n`. -/
def layoutUsed (img : Buf) (size : Nat) : Nat → Nat
  | 0 => 0
  | n + 1 =>
    if (sectionAt img n).alloc then
      (alignOffset (layoutUsed img size n) (sectionAt img n).addralign size).getD 0 +
        (sectionAt img n).size
    else layoutUsed img size n

/-- The offset of section `i` in a load memory of `size` bytes. -/
def layoutOffset (img : Buf) (size i : Nat) : Option Nat :=
  alignOffset (layoutUsed img size i) (sectionAt img i).addralign size

/-- The sections below `n` that are loaded. -/
def loadedBelow (img : Buf) (n : Nat) : List Nat :=
  (List.range n).filter fun i => (sectionAt img i).alloc

/-- The sections below `n` are at their offsets, and `applied` relocation entries are counted. -/
structure LaidOut (img : Buf) (lb : LoadBuffer) (n applied : Nat) (s : LoadState) : Prop where
  used : s.used = layoutUsed img lb.size n
  address : ∀ i < n, (sectionAt img i).alloc →
    ∃ offset, layoutOffset img lb.size i = some offset ∧ s.sectionAddresses i = lb.base + offset
  relocated : s.loaded.relocatedSections = (loadedBelow img n).length % 2 ^ 32
  applied : s.loaded.appliedRelocations = applied % 2 ^ 32

namespace LaidOut

variable {applied : Nat}

/-- What the layout has to do with of a state. -/
theorem same {s' : LoadState} (h : LaidOut img lb n applied s) (hused : s'.used = s.used)
    (haddress : s'.sectionAddresses = s.sectionAddresses)
    (hrelocated : s'.loaded.relocatedSections = s.loaded.relocatedSections)
    (happlied : s'.loaded.appliedRelocations = s.loaded.appliedRelocations) :
    LaidOut img lb n applied s' := by
  refine ⟨hused.trans h.used, ?_, hrelocated.trans h.relocated, happlied.trans h.applied⟩
  rw [haddress]
  exact h.address

theorem zero (hused : s.used = 0) (hl : s.loaded = Loaded.zero) : LaidOut img lb 0 0 s := by
  refine ⟨hused, fun i hi => absurd hi (Nat.not_lt_zero i), ?_, ?_⟩
  · rw [hl]
    rfl
  · rw [hl]
    rfl

theorem skip (h : LaidOut img lb n applied s) (hn : ¬ (sectionAt img n).alloc) :
    LaidOut img lb (n + 1) applied s := by
  refine ⟨?_, fun i hi ha => ?_, ?_, h.applied⟩
  · rw [layoutUsed, if_neg hn]
    exact h.used
  · rcases Nat.lt_succ_iff_lt_or_eq.mp hi with hi | rfl
    · exact h.address i hi ha
    · exact absurd ha hn
  · rw [loadedBelow, List.range_succ, List.filter_append]
    simpa [hn, loadedBelow] using h.relocated

theorem place (h : LaidOut img lb n applied s) (ha : (sectionAt img n).alloc) {aligned : Nat}
    (haligned : alignOffset s.used (sectionAt img n).addralign lb.size = some aligned)
    {s' : LoadState} (hused : s'.used = aligned + (sectionAt img n).size)
    (haddress : s'.sectionAddresses = Function.update s.sectionAddresses n (lb.base + aligned))
    (hrelocated : s'.loaded.relocatedSections = (s.loaded.relocatedSections + 1) % 2 ^ 32)
    (happlied : s'.loaded.appliedRelocations = s.loaded.appliedRelocations) :
    LaidOut img lb (n + 1) applied s' := by
  rw [h.used] at haligned
  refine ⟨?_, fun i hi hai => ?_, ?_, happlied.trans h.applied⟩
  · rw [hused, layoutUsed, if_pos ha, haligned, Option.getD_some]
  · rw [haddress]
    rcases Nat.lt_succ_iff_lt_or_eq.mp hi with hi | rfl
    · rw [Function.update_of_ne (by omega)]
      exact h.address i hi hai
    · exact ⟨aligned, haligned, Function.update_self ..⟩
  · have hlength : (loadedBelow img (n + 1)).length = (loadedBelow img n).length + 1 := by
      rw [loadedBelow, List.range_succ, List.filter_append]
      simp [ha, loadedBelow]
    rw [hrelocated, h.relocated, hlength]
    omega

end LaidOut

/-! ## The loops -/

theorem wlp_store {a : Nat} {v : UInt8} {Q : Unit → LoadState → Prop}
    (h : Q () { s with mem := s.mem.set a v }) : wlp (store lb a v) Q E s := by
  unfold wlp store
  by_cases ha : lb.base ≤ a ∧ a < lb.base + lb.size
  · rw [if_pos ha]; exact h
  · rw [if_neg ha]; trivial

theorem wlp_setSectionAddress {i a : Nat} {Q : Unit → LoadState → Prop}
    (h : Q () { s with sectionAddresses := Function.update s.sectionAddresses i a }) :
    wlp (setSectionAddress i a) Q E s := by
  unfold wlp setSectionAddress
  by_cases hi : i < MODULE_MAX_SECTIONS
  · rw [if_pos hi]; exact h
  · rw [if_neg hi]; trivial

theorem keepsOk_sectionAddress {I : LoadState → Prop} (i : Nat) :
    KeepsOk I (sectionAddress i) := by
  intro s hs
  unfold wlp sectionAddress
  by_cases hi : i < MODULE_MAX_SECTIONS
  · rw [if_pos hi]; exact hs
  · rw [if_neg hi]; trivial

/-- `I` does not depend on the load memory. -/
def MemFree (I : LoadState → Prop) : Prop :=
  ∀ (s : LoadState) (m : Mem), I s → I { s with mem := m }

namespace MemFree

variable {I : LoadState → Prop} (h : MemFree I)

include h

theorem keepsOk_store (a : Nat) (v : UInt8) : KeepsOk I (store lb a v) :=
  fun s hs => wlp_store (h s _ hs)

theorem keepsOk_zeroBytes (target size : Nat) : KeepsOk I (zeroBytes lb target size) :=
  .forUp (fun _ => h.keepsOk_store _ _) 0 size

theorem keepsOk_copyBytes (target source size : Nat) :
    KeepsOk I (copyBytes img lb target source size) :=
  .forUp (fun _ => (KeepsOk.read img _).bind fun _ => h.keepsOk_store _ _) 0 size

theorem keepsOk_writeU32 (target value : Nat) : KeepsOk I (writeU32 lb target value) :=
  (h.keepsOk_store _ _).bind fun _ => (h.keepsOk_store _ _).bind fun _ =>
    (h.keepsOk_store _ _).bind fun _ => h.keepsOk_store _ _

theorem keepsOk_writeU64 (target value : Nat) : KeepsOk I (writeU64 lb target value) :=
  .forUp (fun _ => h.keepsOk_store _ _) 0 8

theorem keepsOk_applyType (type a addend place : Nat) :
    KeepsOk I (applyType lb type a addend place) := by
  refine .ite (h.keepsOk_writeU64 _ _) (.ite ?_ (.ite ?_ (.ret _)))
  · exact .ite (.ret _) (h.keepsOk_writeU32 _ _)
  · exact .ite (.ret _) (h.keepsOk_writeU32 _ _)

end MemFree

theorem layoutSection_wlp {applied : Nat} (h : LaidOut img lb n applied s) :
    wlp (layoutSection img lb n) (fun _ s' => LaidOut img lb (n + 1) applied s')
      (fun _ _ => True) s := by
  unfold layoutSection
  refine wlp_bind (wlp_load (wlp_when (fun ha => wlp_bind (wlp_get ?_)) h.skip))
  split
  · exact wlp_ret trivial
  · rename_i aligned haligned
    refine wlp_ite (fun _ => wlp_ret trivial) fun _ => ?_
    refine wlp_ite (fun _ => wlp_ret trivial) fun _ => ?_
    refine wlp_bind (wlp_setSectionAddress ?_)
    -- the copy writes to the load memory only
    have hfree : MemFree fun s' : LoadState => s'.used = s.used ∧ s'.loaded = s.loaded ∧
        s'.sectionAddresses = Function.update s.sectionAddresses n (lb.base + aligned) :=
      fun _ _ h => h
    refine wlp_seq (KeepsOk.ite (hfree.keepsOk_zeroBytes _ _) (hfree.keepsOk_copyBytes _ _ _) _
      ⟨rfl, rfl, rfl⟩) fun _ s' hs' => wlp_modify ?_
    obtain ⟨-, hloaded, haddress⟩ := hs'
    exact h.place ha haligned rfl haddress (by rw [hloaded]) (by rw [hloaded])

/-- The layout loop. -/
theorem layoutSections_wlp {applied : Nat} (h : LaidOut img lb 0 applied s) :
    wlp (forUp (layoutSection img lb) 0 (Ehdr.at img).shnum)
      (fun _ s' => LaidOut img lb (Ehdr.at img).shnum applied s') (fun _ _ => True) s := by
  refine wlp_mono (wlp_forUp (fun k => LaidOut img lb k applied) 0 _ _ h
    fun k s' _ _ h => layoutSection_wlp h) (fun _ s' h' => ?_) fun _ _ h => h
  rwa [Nat.zero_add] at h'

theorem keepsOk_findSymtab {I : LoadState → Prop} (i : Nat) (found : Option Symtab) :
    KeepsOk I (findSymtab img i found) := by
  refine (KeepsOk.load _ _ _ _).bind fun _ => .ite (.pure _) (.ite (.ret _) ?_)
  exact (KeepsOk.load _ _ _ _).bind fun _ => .ite (.ret _) (.pure _)

theorem keepsOk_stringTerminated {I : LoadState → Prop} (text limit : Nat) :
    KeepsOk I (stringTerminated img text limit : LoadM Bool) :=
  (KeepsOk.firstUp (fun _ => (KeepsOk.read img _).bind fun _ => .pure _) 0 limit).bind fun _ =>
    .pure _

theorem keepsOk_symbolRuntimeAddress {I : LoadState → Prop} (symbol : Sym) (count : Nat) :
    KeepsOk I (symbolRuntimeAddress img symbol tab count resolve) := by
  have hdefined := (keepsOk_sectionAddress (I := I) symbol.shndx).bind fun base =>
    KeepsOk.ite (c := base = 0) (.pure none) (.pure (some ((base + symbol.value) % 2 ^ 64)))
  refine .ite (.ite (.pure _) hdefined) ?_
  cases resolve with
  | none => exact .pure _
  | some resolve =>
    refine .ite (.pure _) ((keepsOk_stringTerminated _ _).bind fun _ => .ite (.pure _) ?_)
    refine (KeepsOk.read img _).bind fun _ => .ite (.pure _) ?_
    refine (KeepsOk.load _ _ _ _).bind fun text => ?_
    cases resolve text with
    | none => exact .pure _
    | some address => exact .ite (.pure _) (.pure _)

theorem applyRelocation_wlp {applied info : Nat} {target : Shdr} {relocation : Rela}
    (h : LaidOut img lb n applied s) :
    wlp (applyRelocation img lb tab resolve info target relocation)
      (fun _ s' => LaidOut img lb n (applied + 1) s') (fun _ _ => True) s := by
  have hfree : MemFree (LaidOut img lb n applied) := fun _ _ h => h.same rfl rfl rfl rfl
  refine wlp_ite (fun _ => wlp_ret trivial) fun _ => wlp_seq (keepsOk_sectionAddress _ s h) ?_
  refine fun _ s₁ h₁ => wlp_ite (fun _ => wlp_ret trivial) fun _ => wlp_bind (wlp_load ?_)
  refine wlp_seq (keepsOk_symbolRuntimeAddress _ _ s₁ h₁) fun address s₂ h₂ => ?_
  cases address with
  | none => exact wlp_ret trivial
  | some symbolAddress =>
    refine wlp_seq (hfree.keepsOk_applyType _ _ _ _ s₂ h₂) fun _ s₃ h₃ => wlp_modify ?_
    refine ⟨h₃.used, h₃.address, h₃.relocated, ?_⟩
    show (s₃.loaded.appliedRelocations + 1) % 2 ^ 32 = _
    rw [h₃.applied]
    omega

theorem relocateSection_wlp {applied i : Nat} (h : LaidOut img lb n applied s) :
    wlp (relocateSection img lb tab resolve i)
      (fun _ s' => LaidOut img lb n (applied + (sectionEntries img i).length) s')
      (fun _ _ => True) s := by
  have hskip (hn : ¬ Relocates img i) :
      LaidOut img lb n (applied + (sectionEntries img i).length) s := by
    rwa [sectionEntries, if_neg hn]
  unfold relocateSection
  refine wlp_bind (wlp_load (wlp_when (fun hty => ?_) fun hty => hskip fun hr => hty hr.1))
  refine wlp_ite (fun _ => wlp_ret trivial) fun hc => ?_
  simp only [not_or, not_not] at hc
  refine wlp_bind (wlp_load (wlp_when (fun ha => ?_) fun ha => hskip fun hr => ha hr.2))
  rw [sectionEntries, if_pos ⟨hty, ha⟩, List.length_map, List.length_range, hc.2.2.2.1]
  refine wlp_mono (wlp_forUp (fun k => LaidOut img lb n (applied + k)) 0 _ s h ?_)
    (fun _ s' h' => by rwa [Nat.zero_add] at h') fun _ _ h => h
  exact fun k s' _ _ h' => wlp_bind (wlp_load (applyRelocation_wlp h'))

theorem keepsOk_nameEqualsFrom {I : LoadState → Prop} (candidate limit : Nat)
    (expected : List UInt8) (index : Nat) :
    KeepsOk I (nameEqualsFrom img candidate limit expected index : LoadM Bool) := by
  induction expected generalizing index with
  | nil => exact .ite ((KeepsOk.read img _).bind fun _ => .pure _) (.pure _)
  | cons c expected ih =>
    exact .ite (.pure _) ((KeepsOk.read img _).bind fun _ => .ite (.pure _) (ih _))

/-- `I` does not depend on the two entry points. -/
theorem keepsOk_findEntry {I : LoadState → Prop}
    (hinit : ∀ (s : LoadState) a, I s → I { s with loaded.initModule := a })
    (hcleanup : ∀ (s : LoadState) a, I s → I { s with loaded.cleanupModule := a }) (i : Nat) :
    KeepsOk I (findEntry img tab resolve i) := by
  refine (KeepsOk.load _ _ _ _).bind fun symbol => .when ?_
  refine (keepsOk_symbolRuntimeAddress _ _).bind fun address => ?_
  cases address with
  | none => exact .pure _
  | some address =>
    refine (keepsOk_nameEqualsFrom _ _ _ _).bind fun _ => .ite (.modify fun s => hinit s _) ?_
    exact (keepsOk_nameEqualsFrom _ _ _ _).bind fun _ => .when (.modify fun s => hcleanup s _)

theorem relocateImage_wlp (hl : s.loaded = Loaded.zero) :
    wlp (relocateImage img lb resolve)
      (fun _ s' => LaidOut img lb (Ehdr.at img).shnum (relocEntries img).length s')
      (fun _ _ => True) s := by
  refine wlp_bind (wlp_load (wlp_ite (fun _ => wlp_ret trivial) fun _ => wlp_bind (wlp_modify ?_)))
  refine wlp_seq (layoutSections_wlp (.zero rfl hl)) fun _ s₁ h₁ => ?_
  refine wlp_seq (KeepsOk.foldUp (fun i found => keepsOk_findSymtab i found) _ _ _ s₁ h₁) ?_
  intro found s₂ h₂
  cases found with
  | none => exact wlp_ret trivial
  | some tab =>
    refine wlp_seq (wlp_forUp (fun k => LaidOut img lb (Ehdr.at img).shnum
      (relocEntriesBelow img k).length) 0 _ s₂ h₂ ?_) fun _ s₃ h₃ => ?_
    · intro k s' _ _ h'
      rw [relocEntriesBelow_succ, List.length_append]
      exact relocateSection_wlp h'
    rw [Nat.zero_add] at h₃
    refine wlp_seq (KeepsOk.forUp (fun i => keepsOk_findEntry (fun _ _ h => h.same rfl rfl rfl rfl)
      (fun _ _ h => h.same rfl rfl rfl rfl) i) _ _ s₃ h₃) fun _ s₄ h₄ => ?_
    exact wlp_bind (wlp_get (wlp_ite (fun _ => wlp_ret trivial) fun _ =>
      wlp_modify (h₄.same rfl rfl rfl rfl)))

/-- A successful call leaves the sections at their offsets. -/
theorem laidOut_of_ok {required : CStr} {m : Mem} {l : Loaded}
    (h : relocateModule img required lb resolve (LoadState.enter m l) = .ok () s) :
    LaidOut img lb (Ehdr.at img).shnum (relocEntries img).length s := by
  have hrun : wlp (relocateModule img required lb resolve)
      (fun _ s' => LaidOut img lb (Ehdr.at img).shnum (relocEntries img).length s')
      (fun _ _ => True) (LoadState.enter m l) := by
    refine wlp_ite (fun _ => wlp_ret trivial) fun _ => wlp_bind (wlp_modify ?_)
    refine wlp_bind (wlp_call fun parsed => ?_)
    cases parsed.1 with
    | error _ => exact wlp_ret trivial
    | ok _ => exact relocateImage_wlp rfl
  have hs := wlp_ok hrun h
  exact hs

/-! ## Alignment -/

/-- `alignment`, after its default. -/
def Shdr.alignment (sh : Shdr) : Nat := max 1 sh.addralign

/-- An offset is a multiple of its alignment. -/
theorem alignOffset_dvd {value alignment limit offset : Nat} (hlimit : limit < 2 ^ 64)
    (h : alignOffset value alignment limit = some offset) : max 1 alignment ∣ offset := by
  have hmax : (if alignment = 0 then 1 else alignment) = max 1 alignment := by
    split <;> omega
  unfold alignOffset at h
  rw [hmax] at h
  simp only at h
  split at h
  · cases h
  · rename_i hpower
    rw [not_or, not_not, isPowerOfTwo, Bool.and_eq_true, bne_iff_ne, beq_iff_eq,
      Nat.ne_zero_and_sub_one_eq_zero_iff_isPowerOfTwo] at hpower
    obtain ⟨⟨k, hk⟩, hle⟩ := hpower
    have hk64 : k < 64 := by
      refine (Nat.pow_lt_pow_iff_right Nat.one_lt_two).mp ?_
      omega
    split at h
    · cases h
    · obtain rfl := Option.some.inj h
      rw [hk]
      -- the mask rounds down
      have hpred : (BitVec.twoPow 64 k - 1).toNat = 2 ^ k - 1 := by
        have hpos := Nat.two_pow_pos k
        have hlt : 2 ^ k < 2 ^ 64 := Nat.pow_lt_pow_right Nat.one_lt_two hk64
        rw [BitVec.toNat_sub_of_le, BitVec.toNat_twoPow, Nat.mod_eq_of_lt hlt]
        · rfl
        · rw [BitVec.le_def, BitVec.toNat_twoPow, Nat.mod_eq_of_lt hlt]
          exact hpos
      have hmask := toNat_andNotPred (x := BitVec.ofNat 64 (value + 2 ^ k - 1)) hk64
      rw [BitVec.toNat_and, BitVec.toNat_not, BitVec.toNat_ofNat, hpred] at hmask
      rw [hmask]
      exact Nat.dvd_mul_left _ _

/-- **Section alignment**: the address of every loaded section is a multiple of its alignment
exactly when the address of the load memory is a multiple of all these alignments. -/
theorem sections_aligned_iff (img : Buf) (required : CStr) (lb : LoadBuffer)
    (resolve : Option Resolver) (m : Mem) (l : Loaded) (s : LoadState)
    (h : relocateModule img required lb resolve (LoadState.enter m l) = .ok () s) :
    (∀ i < (Ehdr.at img).shnum, (sectionAt img i).alloc →
      (sectionAt img i).alignment ∣ s.sectionAddresses i) ↔
    ∀ i < (Ehdr.at img).shnum, (sectionAt img i).alloc →
      (sectionAt img i).alignment ∣ lb.base := by
  obtain ⟨i, hlinked⟩ := linked_of_ok h
  have hlimit : lb.size < 2 ^ 64 := by
    have := lb.fits
    have := hlinked.base
    omega
  refine forall_congr' fun i => forall_congr' fun hi => forall_congr' fun ha => ?_
  obtain ⟨offset, hoffset, haddress⟩ := (laidOut_of_ok h).address i hi ha
  rw [haddress]
  exact (Nat.dvd_add_iff_left (alignOffset_dvd hlimit hoffset)).symm

/-- The call on the sample image with a load memory at `base`. -/
def sampleRunAt (base : Nat) (h : base + 64 ≤ 2 ^ 64) : Res Status LoadState Unit :=
  relocateModule (sampleImage 0 0x66) samplePrefix ⟨base, 64, h⟩ (some fun _ => some 0x20000)
    (LoadState.enter (fun _ => 0) Loaded.zero)

set_option maxRecDepth 100000 in
theorem sections_aligned_iff_sample : ∃ s, sampleRunAt 0x10000 (by decide) = .ok () s ∧
    ∀ i < (Ehdr.at (sampleImage 0 0x66)).shnum, (sectionAt (sampleImage 0 0x66) i).alloc →
      (sectionAt (sampleImage 0 0x66) i).alignment ∣ s.sectionAddresses i := by
  have hl : loadedOf (sampleRunAt 0x10000 (by decide)) =
      some ⟨0x10000, 16, 0x10000, 0x10008, 1, 1⟩ := by
    decide +kernel
  obtain ⟨s, hs, -⟩ := ok_of_loadedOf hl
  exact ⟨s, hs, (sections_aligned_iff _ _ _ _ _ _ s hs).mpr (by decide +kernel)⟩

set_option maxRecDepth 100000 in
/-- The `.text` of the sample has alignment 16; in a load memory at 0x10008 it is placed there. -/
theorem unaligned_section : ¬ ∀ (img : Buf) (required : CStr) (lb : LoadBuffer)
    (resolve : Option Resolver) (m : Mem) (l : Loaded) (s : LoadState),
    relocateModule img required lb resolve (LoadState.enter m l) = .ok () s →
      ∀ i < (Ehdr.at img).shnum, (sectionAt img i).alloc →
        (sectionAt img i).alignment ∣ s.sectionAddresses i := by
  intro hall
  have hl : loadedOf (sampleRunAt 0x10008 (by decide)) =
      some ⟨0x10008, 16, 0x10008, 0x10010, 1, 1⟩ := by
    decide +kernel
  obtain ⟨s, hs, -⟩ := ok_of_loadedOf hl
  have htext : 3 < (Ehdr.at (sampleImage 0 0x66)).shnum ∧
      (sectionAt (sampleImage 0 0x66) 3).alloc ∧ (sectionAt (sampleImage 0 0x66) 3).alignment = 16 ∧
      layoutOffset (sampleImage 0 0x66) 64 3 = some 0 := by
    decide +kernel
  obtain ⟨hlt, halloc, halignment, hzero⟩ := htext
  have hdvd := hall _ _ _ _ _ _ s hs 3 hlt halloc
  obtain ⟨offset, hoffset, haddress⟩ := (laidOut_of_ok hs).address 3 hlt halloc
  obtain rfl := Option.some.inj (hzero.symm.trans hoffset)
  rw [haddress, halignment] at hdvd
  exact absurd hdvd (by decide)

end SeLinOS.Kabi
