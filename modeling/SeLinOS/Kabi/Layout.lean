import SeLinOS.Kabi.ParseSafe
import SeLinOS.Kabi.Relocate

/-!
# The layout loop

* `Placed img lb n m₀ s`: the sections below `n` are laid out in `s`: in the buffer, one after the
  other, with their file bytes in them, and every other byte as it was in `m₀`.
* `layoutSection_wp`: one iteration takes `Placed n` to `Placed (n + 1)`, and writes in the buffer
  only.
* `Contained img lb m₀ s`: what every outcome of the relocation stage keeps.
-/

namespace SeLinOS.Kabi

open CLogic Prog

/-- The byte at `x` is one of section `i`, placed at `addr i`. -/
def InSection (img : Buf) (addr : Nat → Nat) (i x : Nat) : Prop :=
  addr i ≤ x ∧ x < addr i + (sectionAt img i).size

instance (img : Buf) (addr : Nat → Nat) (i x : Nat) : Decidable (InSection img addr i x) :=
  inferInstanceAs (Decidable (_ ∧ _))

/-- Byte `k` of section `sh` as the file gives it: zero for `SHT_NOBITS`. -/
def fileByte (img : Buf) (sh : Shdr) (k : Nat) : UInt8 :=
  if sh.type = SHT_NOBITS then 0 else img.byte (sh.offset + k)

theorem fileByte_of_nobits {img : Buf} {sh : Shdr} (h : sh.type = SHT_NOBITS) :
    fileByte img sh = fun _ => 0 := by
  funext k
  rw [fileByte, if_pos h]

theorem fileByte_of_bits {img : Buf} {sh : Shdr} (h : sh.type ≠ SHT_NOBITS) :
    fileByte img sh = fun k => img.byte (sh.offset + k) := by
  funext k
  rw [fileByte, if_neg h]

/-- The layout of the sections below `n`, before any entry point is known. -/
structure Placed (img : Buf) (lb : LoadBuffer) (n : Nat) (m₀ : Mem) (s : LoadState) : Prop where
  used : s.used ≤ lb.size
  inside : ∀ i < n, (sectionAt img i).alloc → lb.base ≤ s.sectionAddresses i ∧
    s.sectionAddresses i + (sectionAt img i).size ≤ lb.base + s.used
  unplaced : ∀ i, (i < n → ¬ (sectionAt img i).alloc) → s.sectionAddresses i = 0
  ordered : ∀ i j, i < j → j < n → (sectionAt img i).alloc → (sectionAt img j).alloc →
    s.sectionAddresses i + (sectionAt img i).size ≤ s.sectionAddresses j
  content : ∀ i < n, (sectionAt img i).alloc → ∀ k < (sectionAt img i).size,
    s.mem (s.sectionAddresses i + k) = fileByte img (sectionAt img i) k
  frame : ∀ x, (∀ i < n, (sectionAt img i).alloc → ¬ InSection img s.sectionAddresses i x) →
    s.mem x = m₀ x
  noEntry : s.loaded.initModule = 0 ∧ s.loaded.cleanupModule = 0

/-- The memory contract of a call, whatever its outcome: the sections that have an address lie in
the load buffer and are pairwise disjoint, and every byte outside them is as it was in `m₀`. -/
structure Contained (img : Buf) (lb : LoadBuffer) (m₀ : Mem) (s : LoadState) : Prop where
  inside : ∀ i x, s.sectionAddresses i ≠ 0 → InSection img s.sectionAddresses i x →
    lb.base ≤ x ∧ x < lb.base + lb.size
  disjoint : ∀ i j x, s.sectionAddresses i ≠ 0 → s.sectionAddresses j ≠ 0 →
    InSection img s.sectionAddresses i x → InSection img s.sectionAddresses j x → i = j
  frame : ∀ x, (∀ i, s.sectionAddresses i ≠ 0 → ¬ InSection img s.sectionAddresses i x) →
    s.mem x = m₀ x

/-- Before the layout. -/
theorem Contained.start {img : Buf} {lb : LoadBuffer} {s : LoadState}
    (h : s.sectionAddresses = fun _ => 0) : Contained img lb s.mem s where
  inside i _ hi := absurd (congrFun h i) hi
  disjoint i _ _ hi := absurd (congrFun h i) hi
  frame _ _ := rfl

variable {img : Buf} {lb : LoadBuffer} {n : Nat} {m₀ : Mem} {s : LoadState}
  {E : Status → LoadState → Prop}

namespace Placed

/-- Two placed sections have no byte in common. -/
theorem disjoint_of_ne (h : Placed img lb n m₀ s) {i j x : Nat} (hi : i < n) (hj : j < n)
    (hai : (sectionAt img i).alloc) (haj : (sectionAt img j).alloc)
    (hxi : InSection img s.sectionAddresses i x) (hxj : InSection img s.sectionAddresses j x) :
    i = j := by
  obtain ⟨h1, h2⟩ := hxi
  obtain ⟨h3, h4⟩ := hxj
  rcases Nat.lt_trichotomy i j with hlt | rfl | hlt
  · have := h.ordered i j hlt hj hai haj
    omega
  · rfl
  · have := h.ordered j i hlt hi haj hai
    omega

theorem alloc_of_ne_zero (h : Placed img lb n m₀ s) {i : Nat} (hi : s.sectionAddresses i ≠ 0) :
    i < n ∧ (sectionAt img i).alloc := by
  by_contra hc
  exact hi (h.unplaced i fun hlt ha => hc ⟨hlt, ha⟩)

/-- A load memory that does not start at 0 gives every loaded section an address. -/
theorem ne_zero (h : Placed img lb n m₀ s) (hb : lb.base ≠ 0) {i : Nat} (hi : i < n)
    (ha : (sectionAt img i).alloc) : s.sectionAddresses i ≠ 0 := by
  have := (h.inside i hi ha).1
  omega

theorem contained (h : Placed img lb n m₀ s) (hb : lb.base ≠ 0) : Contained img lb m₀ s where
  inside i x hi hx := by
    obtain ⟨hlt, ha⟩ := h.alloc_of_ne_zero hi
    obtain ⟨h1, h2⟩ := h.inside i hlt ha
    obtain ⟨h3, h4⟩ := hx
    have := h.used
    omega
  disjoint i j x hi hj hxi hxj := by
    obtain ⟨hlti, hai⟩ := h.alloc_of_ne_zero hi
    obtain ⟨hltj, haj⟩ := h.alloc_of_ne_zero hj
    exact h.disjoint_of_ne hlti hltj hai haj hxi hxj
  frame x hx := h.frame x fun i hi ha => hx i (h.ne_zero hb hi ha)

/-- Before the first section. -/
theorem zero (hm : s.mem = m₀) (h : s.used = 0) (ha : s.sectionAddresses = fun _ => 0)
    (hl : s.loaded = Loaded.zero) : Placed img lb 0 m₀ s where
  used := by omega
  inside i hi := by omega
  unplaced i _ := by rw [ha]
  ordered i j _ hj := by omega
  content i hi := by omega
  frame x _ := by rw [hm]
  noEntry := by rw [hl]; exact ⟨rfl, rfl⟩

/-- A section that is not allocatable is skipped. -/
theorem skip (h : Placed img lb n m₀ s) (hn : ¬ (sectionAt img n).alloc) :
    Placed img lb (n + 1) m₀ s := by
  -- an allocatable section below `n + 1` is below `n`
  have lt : ∀ i < n + 1, (sectionAt img i).alloc → i < n := fun i hi ha => by
    rcases Nat.lt_succ_iff_lt_or_eq.mp hi with hi | rfl
    · exact hi
    · exact absurd ha hn
  refine ⟨h.used, fun i hi ha => h.inside i (lt i hi ha) ha, fun i hi => h.unplaced i fun hin =>
    hi (by omega), fun i j hij hj hai haj => h.ordered i j hij (lt j hj haj) hai haj,
    fun i hi ha => h.content i (lt i hi ha) ha, fun x hx => h.frame x fun i hi => hx i (by omega),
    h.noEntry⟩

end Placed

/-! ## Writes -/

theorem store_wp {a : Nat} {v : UInt8} {Q : Unit → LoadState → Prop}
    (ha : lb.base ≤ a ∧ a < lb.base + lb.size) (h : Q () { s with mem := s.mem.set a v }) :
    wp (store lb a v) Q E s := by
  have hr : store lb a v s = .ok () { s with mem := s.mem.set a v } := by rw [store, if_pos ha]
  exact wp_of_run hr h

/-- A loop that stores `f i` at `target + i`. -/
theorem fill_wp {body : Nat → LoadM Unit} {target size : Nat} {f : Nat → UInt8}
    {Q : Unit → LoadState → Prop} (hlo : lb.base ≤ target)
    (hhi : target + size ≤ lb.base + lb.size)
    (hbody : ∀ i < size, ∀ (s : LoadState) (P : Unit → LoadState → Prop),
      wp (store lb (target + i) (f i)) P E s → wp (body i) P E s)
    (h : Q () { s with mem := s.mem.blit target size f }) : wp (forUp body 0 size) Q E s := by
  refine wp_mono (wp_forUp (fun i s' => s' = { s with mem := s.mem.blit target i f }) 0 size s
    (by rw [Mem.blit_zero]) ?_) ?_ fun _ _ h => h
  · rintro i s' - hi rfl
    exact hbody i (by omega) _ _ (store_wp (by omega) (by rw [Mem.blit_succ]))
  · rintro _ _ rfl
    rwa [Nat.zero_add]

theorem zeroBytes_wp {target size : Nat} {Q : Unit → LoadState → Prop} (hlo : lb.base ≤ target)
    (hhi : target + size ≤ lb.base + lb.size)
    (h : Q () { s with mem := s.mem.blit target size fun _ => 0 }) :
    wp (zeroBytes lb target size) Q E s :=
  fill_wp hlo hhi (fun _ _ _ _ h => h) h

theorem copyBytes_wp {target source size : Nat} {Q : Unit → LoadState → Prop}
    (hlo : lb.base ≤ target) (hhi : target + size ≤ lb.base + lb.size)
    (hsrc : source + size ≤ img.size)
    (h : Q () { s with mem := s.mem.blit target size fun k => img.byte (source + k) }) :
    wp (copyBytes img lb target source size) Q E s :=
  fill_wp hlo hhi (fun _ hi _ _ h => wp_bind (Buf.wp_read (by omega) h)) h

theorem setSectionAddress_wp {i a : Nat} {Q : Unit → LoadState → Prop}
    (hi : i < MODULE_MAX_SECTIONS)
    (h : Q () { s with sectionAddresses := Function.update s.sectionAddresses i a }) :
    wp (setSectionAddress i a) Q E s := by
  refine wp_of_run (a := ()) ?_ h
  rw [setSectionAddress, if_pos hi]

theorem sectionAddress_wp {i : Nat} {Q : Nat → LoadState → Prop} (hi : i < MODULE_MAX_SECTIONS)
    (h : Q (s.sectionAddresses i) s) : wp (sectionAddress i) Q E s := by
  refine wp_of_run (a := s.sectionAddresses i) ?_ h
  rw [sectionAddress, if_pos hi]

/-! ## One section -/

/-- Rounding up does not go down, not even where the sum wraps, and stays below the limit. -/
theorem alignOffset_le {v a limit r : Nat} (h : alignOffset v a limit = some r) :
    v ≤ r ∧ r ≤ limit := by
  unfold alignOffset at h
  generalize (if a = 0 then 1 else a) = b at h
  simp only at h
  split at h
  · cases h
  · split at h
    · cases h
    · obtain rfl := Option.some.inj h
      omega

/-- The section at `aligned`, after those of `s`. -/
theorem Placed.place (h : Placed img lb n m₀ s) {aligned : Nat} (hlo : s.used ≤ aligned)
    (hhi : aligned + (sectionAt img n).size ≤ lb.size) (ha : (sectionAt img n).alloc)
    {s' : LoadState}
    (hmem : s'.mem = s.mem.blit (lb.base + aligned) (sectionAt img n).size
      (fileByte img (sectionAt img n)))
    (haddr : s'.sectionAddresses = Function.update s.sectionAddresses n (lb.base + aligned))
    (hused : s'.used = aligned + (sectionAt img n).size)
    (hl : s'.loaded.initModule = 0 ∧ s'.loaded.cleanupModule = 0) :
    Placed img lb (n + 1) m₀ s' := by
  have new : s'.sectionAddresses n = lb.base + aligned := by rw [haddr, Function.update_self]
  have old : ∀ i < n, s'.sectionAddresses i = s.sectionAddresses i := fun i hi => by
    rw [haddr, Function.update_of_ne (by omega)]
  refine ⟨by omega, ?_, ?_, ?_, ?_, ?_, hl⟩
  · intro i hi hai
    rcases Nat.lt_succ_iff_lt_or_eq.mp hi with hi | rfl
    · have := h.inside i hi hai
      rw [old i hi]
      omega
    · rw [new]
      omega
  · intro i hi
    by_cases hin : i = n
    · subst hin
      exact absurd ha (hi (by omega))
    · rw [haddr, Function.update_of_ne hin]
      exact h.unplaced i fun hlt => hi (by omega)
  · intro i j hij hj hai haj
    rcases Nat.lt_succ_iff_lt_or_eq.mp hj with hj | rfl
    · rw [old i (by omega), old j hj]
      exact h.ordered i j hij hj hai haj
    · have := h.inside i hij hai
      rw [old i hij, new]
      omega
  · intro i hi hai k hk
    rcases Nat.lt_succ_iff_lt_or_eq.mp hi with hi | rfl
    · have := h.inside i hi hai
      rw [hmem, old i hi, Mem.blit_out (by omega)]
      exact h.content i hi hai k hk
    · rw [hmem, new, Mem.blit_in (by omega) (by omega), Nat.add_sub_cancel_left]
  · intro x hx
    have hxn := hx n (by omega) ha
    rw [InSection, new] at hxn
    rw [hmem, Mem.blit_out hxn]
    refine h.frame x fun i hi hai hin => hx i (by omega) hai ?_
    rwa [InSection, old i hi]

/-- One iteration of the layout loop. -/
theorem layoutSection_wp (ht : (Ehdr.at img).shoff + shdrSize * (Ehdr.at img).shnum ≤ img.size)
    (hn : n < (Ehdr.at img).shnum) (hmax : (Ehdr.at img).shnum ≤ MODULE_MAX_SECTIONS)
    (hb : lb.base ≠ 0) (h : Placed img lb n m₀ s) :
    wp (layoutSection img lb n) (fun _ s' => Placed img lb (n + 1) m₀ s')
      (fun _ s' => Contained img lb m₀ s') s := by
  unfold layoutSection
  refine wp_bind (loadSection_wp ht hn (wp_when (fun ha => wp_bind (wp_get ?_)) h.skip))
  split
  · exact wp_ret (h.contained hb)
  · rename_i aligned halign
    obtain ⟨hlo, hle⟩ := alignOffset_le halign
    refine wp_ite (fun _ => wp_ret (h.contained hb)) fun hsize => ?_
    refine wp_ite (fun _ => wp_ret (h.contained hb)) fun hrange => ?_
    refine wp_bind (setSectionAddress_wp (by omega) (wp_bind ?_))
    by_cases hbits : (sectionAt img n).type = SHT_NOBITS
    · rw [if_pos hbits]
      refine zeroBytes_wp (by omega) (by omega)
        (wp_modify (h.place hlo (by omega) ha ?_ rfl rfl h.noEntry))
      rw [fileByte_of_nobits hbits]
    · rw [if_neg hbits]
      have hr : (sectionAt img n).offset + (sectionAt img n).size ≤ img.size := by
        rw [← rangeOk_iff]
        by_contra hc
        exact hrange ⟨hbits, hc⟩
      refine copyBytes_wp (by omega) (by omega) hr
        (wp_modify (h.place hlo (by omega) ha ?_ rfl rfl h.noEntry))
      rw [fileByte_of_bits hbits]

end SeLinOS.Kabi
