import SeLinOS.Pci.Bar32

/-!
# The outcomes of a BAR assignment

`assignUnconfiguredBar32` on a bus with a 32-bit memory BAR, where any I/O-port operation may fail.

* `Stands`: where a transaction stands, in its registers and its flags.
* `AssignExit`, `assignBar32_wp`: the places where the transaction is left, each with what is then
  in the registers.
* `undoAssignment_wp`: what the end of the function makes of them.
* `assignUnconfiguredBar32_wp`: the whole function.
-/

namespace SeLinOS.Pci

open CLogic Prog Sel4

/-- The address of the command and status register. -/
def commandAddress (device function : BitVec 32) : BitVec 32 :=
  configAddress device function PCI_COMMAND_STATUS_OFF

/-- The address of a BAR. -/
def barAddress (device function barIndex : BitVec 32) : BitVec 32 :=
  configAddress device function (barOffset barIndex)

theorem barAddress_ne {device function barIndex : BitVec 32} (h : barIndex < PCI_BAR_COUNT) :
    barAddress device function barIndex ≠ commandAddress device function :=
  (bar_ne_command h).1

/-- The write that turns memory decoding and bus mastering off. -/
def quiesceWrite (R : BitVec 32 → BitVec 32) (command : BitVec 32) : ConfigWrite :=
  .word command false (quiesced (halfOf false (R command)))

/-- The BAR and the command register hold what they held. -/
def Restored (device function barIndex : BitVec 32) (R R' : BitVec 32 → BitVec 32) : Prop :=
  R' (barAddress device function barIndex) = R (barAddress device function barIndex) ∧
    R' (commandAddress device function) = R (commandAddress device function)

/-- Memory decoding and bus mastering are off, or cannot be turned off. -/
def Quiet (writable R : BitVec 32 → BitVec 32) (device function : BitVec 32) : Prop :=
  R (commandAddress device function) &&& writable (commandAddress device function) &&& 6 = 0

/-- The address that a window gives to the BAR, as the function computes it. -/
def alignedStart (bar : MemoryBar32) (rangeStart : Word) : Word :=
  (rangeStart + BitVec.twoPow 64 bar.order - 1) &&& ~~~(BitVec.twoPow 64 bar.order - 1)

/-- The least multiple of the size from the start of the window on leaves the size in the window. -/
def Fits (bar : MemoryBar32) (rangeStart rangeEnd : Word) : Prop :=
  leastMultiple (2 ^ bar.order) rangeStart.toNat + 2 ^ bar.order ≤ rangeEnd.toNat

instance (bar : MemoryBar32) (rangeStart rangeEnd : Word) :
    Decidable (Fits bar rangeStart rangeEnd) := inferInstanceAs (Decidable (_ ≤ _))

/-- A BAR whose address the function takes for unassigned. -/
def Admitted (x : BitVec 32) : Prop :=
  x &&& PCI_BAR_MEMORY_MASK = 0 ∨ x &&& PCI_BAR_MEMORY_MASK = PCI_BAR_MEMORY_MASK

instance (x : BitVec 32) : Decidable (Admitted x) := inferInstanceAs (Decidable (_ ∨ _))

section Arithmetic

variable {bar : MemoryBar32} {rangeStart rangeEnd : Word}

theorem order_bounds (bar : MemoryBar32) : 2 ^ 4 ≤ 2 ^ bar.order ∧ 2 ^ bar.order ≤ 2 ^ 31 :=
  ⟨Nat.pow_le_pow_right (by omega) bar.order_ge,
    Nat.pow_le_pow_right (by omega) (Nat.le_of_lt_succ bar.order_lt)⟩

theorem toNat_le_limit {x : Word} (h : x ≤ PCI_32BIT_ADDRESS_LIMIT) : x.toNat ≤ 2 ^ 32 := by
  have hlimit : PCI_32BIT_ADDRESS_LIMIT.toNat = 2 ^ 32 := by decide
  rwa [BitVec.le_def, hlimit] at h

theorem toNat_size (bar : MemoryBar32) : (BitVec.twoPow 64 bar.order).toNat = 2 ^ bar.order := by
  have := order_bounds bar
  rw [BitVec.toNat_twoPow, Nat.mod_eq_of_lt (by omega)]

theorem toNat_alignedStart (bar : MemoryBar32) {rangeStart : Word} (h : rangeStart.toNat < 2 ^ 32) :
    (alignedStart bar rangeStart).toNat = leastMultiple (2 ^ bar.order) rangeStart.toNat := by
  have := order_bounds bar
  have := bar.order_lt
  exact toNat_roundUp (by omega) (by omega)

/-- The tests of the function on its window say that the BAR fits. -/
theorem fits_iff (bar : MemoryBar32) (hlt : rangeStart < rangeEnd)
    (hend : rangeEnd ≤ PCI_32BIT_ADDRESS_LIMIT) :
    rangeStart ≤ UINTPTR_MAX - (BitVec.twoPow 64 bar.order - 1) ∧
    (rangeStart ≤ alignedStart bar rangeStart ∧ alignedStart bar rangeStart ≤ rangeEnd ∧
      BitVec.twoPow 64 bar.order ≤ rangeEnd - alignedStart bar rangeStart ∧
      alignedStart bar rangeStart + BitVec.twoPow 64 bar.order ≤ PCI_32BIT_ADDRESS_LIMIT) ↔
    Fits bar rangeStart rangeEnd := by
  have hpow := order_bounds bar
  have hsize := toNat_size bar
  have hlimit : PCI_32BIT_ADDRESS_LIMIT.toNat = 2 ^ 32 := by decide
  have hmax : UINTPTR_MAX.toNat = 2 ^ 64 - 1 := by decide
  have hone : (1 : Word).toNat = 1 := rfl
  have hend' := toNat_le_limit hend
  have hlt' := BitVec.lt_def.mp hlt
  have haligned := toNat_alignedStart bar (show rangeStart.toNat < 2 ^ 32 by omega)
  have hge := leastMultiple_ge (d := 2 ^ bar.order) (by omega) rangeStart.toNat
  have hless := leastMultiple_lt (d := 2 ^ bar.order) (by omega) rangeStart.toNat
  have hmask : (BitVec.twoPow 64 bar.order - 1).toNat = 2 ^ bar.order - 1 := by
    rw [BitVec.toNat_sub, hsize, hone]
    omega
  have hbound : (UINTPTR_MAX - (BitVec.twoPow 64 bar.order - 1)).toNat =
      2 ^ 64 - 2 ^ bar.order := by
    rw [BitVec.toNat_sub, hmask, hmax]
    omega
  have hsum : (alignedStart bar rangeStart + BitVec.twoPow 64 bar.order).toNat =
      leastMultiple (2 ^ bar.order) rangeStart.toNat + 2 ^ bar.order := by
    rw [BitVec.toNat_add, haligned, hsize, Nat.mod_eq_of_lt (by omega)]
  have hspace : alignedStart bar rangeStart ≤ rangeEnd →
      (rangeEnd - alignedStart bar rangeStart).toNat =
        rangeEnd.toNat - leastMultiple (2 ^ bar.order) rangeStart.toNat := by
    intro h
    rw [BitVec.toNat_sub_of_le h, haligned]
  rw [Fits]
  constructor
  · rintro ⟨-, -, hle, hroom, -⟩
    rw [BitVec.le_def, hsize, hspace hle] at hroom
    rw [BitVec.le_def, haligned] at hle
    omega
  · intro h
    have hle : alignedStart bar rangeStart ≤ rangeEnd := by
      rw [BitVec.le_def, haligned]
      omega
    refine ⟨?_, ?_, hle, ?_, ?_⟩
    · rw [BitVec.le_def, hbound]
      omega
    · rw [BitVec.le_def, haligned]
      exact hge
    · rw [BitVec.le_def, hsize, hspace hle]
      omega
    · rw [BitVec.le_def, hsum, hlimit]
      omega

/-- The new address leaves the fixed bits of the BAR alone. -/
theorem alignedStart_and (hfits : Fits bar rangeStart rangeEnd)
    (hend : rangeEnd.toNat ≤ 2 ^ 32) :
    (alignedStart bar rangeStart).setWidth 32 &&& bar.mask =
      (alignedStart bar rangeStart).setWidth 32 := by
  have hpow := order_bounds bar
  have hge := leastMultiple_ge (d := 2 ^ bar.order) (by omega) rangeStart.toNat
  rw [Fits] at hfits
  have haligned := toNat_alignedStart bar (show rangeStart.toNat < 2 ^ 32 by omega)
  refine BitVec.eq_of_toNat_eq ?_
  rw [bar.mask_eq, toNat_andNotPred bar.order_lt, BitVec.toNat_setWidth, haligned,
    Nat.mod_eq_of_lt (by omega)]
  exact Nat.div_mul_cancel (Nat.dvd_mul_left ..)

end Arithmetic

/-! ## The exits -/

/-- The transaction `t` is at operation `n`, with the registers `X` and these flags. `R` are the
registers before it. -/
structure Stands (R : BitVec 32 → BitVec 32) (device function barIndex : BitVec 32) (n : Nat)
    (X : BitVec 32 → BitVec 32) (changed touched success : Bool) (t : BarTransaction Bus) :
    Prop where
  bus : ∃ W, t.machine.At n X W
  commandChanged : t.commandChanged = changed
  barTouched : t.barTouched = touched
  success : t.success = success
  originalCommand : changed = true →
    t.originalCommand = halfOf false (R (commandAddress device function))
  originalBar : touched = true → t.originalBar = R (barAddress device function barIndex)

section Exits

variable (writable R : BitVec 32 → BitVec 32) (env : PortEnv) (device function barIndex : BitVec 32)
  (bar : MemoryBar32) (rangeStart rangeEnd : Word) (n : Nat)

/-- The registers while memory decoding and bus mastering are off. -/
def quietRegisters : BitVec 32 → BitVec 32 :=
  (quiesceWrite R (commandAddress device function)).apply writable R

/-- The registers while the BAR holds what a write of `x` gives. -/
def probedRegisters (x : BitVec 32) : BitVec 32 → BitVec 32 :=
  (ConfigWrite.dword (barAddress device function barIndex) x).apply writable
    (quietRegisters writable R device function)

/-- How the transaction that starts at operation `n` with the registers `R` can be left. -/
inductive AssignExit (t : BarTransaction Bus) : Prop
  /-- Before the first write. -/
  | untouched {m : Nat}
      (h : Stands R device function barIndex (env.after m) R false false false t)
      (hm : m = n ∨ m = n + 2 ∨ m = n + 4) (hfail : env.passes m = false)
  | preassigned
      (h : Stands R device function barIndex (n + 6) (quietRegisters writable R device function)
        true false false t)
      (hbar : ¬ Admitted (R (barAddress device function barIndex)))
  | unprobed
      (h : Stands R device function barIndex (env.after (n + 6))
        (quietRegisters writable R device function) true false false t)
      (hbar : Admitted (R (barAddress device function barIndex)))
      (hfail : env.passes (n + 6) = false)
  /-- The sizing mask is not read, or the BAR is not written back. -/
  | unrestored {m : Nat}
      (h : Stands R device function barIndex (env.after m)
        (probedRegisters writable R device function barIndex 0xffffffff) true false false t)
      (hbar : Admitted (R (barAddress device function barIndex)))
      (hm : m = n + 8 ∨ m = n + 10) (hfail : env.passes m = false)
  | unfit
      (h : Stands R device function barIndex (n + 12) (quietRegisters writable R device function)
        true true false t)
      (hbar : Admitted (R (barAddress device function barIndex)))
      (hsized : env.passes (n + 8) = true ∧ env.passes (n + 10) = true)
      (hfits : ¬ Fits bar rangeStart rangeEnd)
  | unprogrammed
      (h : Stands R device function barIndex (env.after (n + 12))
        (quietRegisters writable R device function) true true false t)
      (hbar : Admitted (R (barAddress device function barIndex)))
      (hsized : env.passes (n + 8) = true ∧ env.passes (n + 10) = true)
      (hfits : Fits bar rangeStart rangeEnd) (hfail : env.passes (n + 12) = false)
  | unread
      (h : Stands R device function barIndex (env.after (n + 14))
        (probedRegisters writable R device function barIndex
          ((alignedStart bar rangeStart).setWidth 32)) true true false t)
      (hbar : Admitted (R (barAddress device function barIndex)))
      (hsized : env.passes (n + 8) = true ∧ env.passes (n + 10) = true)
      (hfits : Fits bar rangeStart rangeEnd) (hfail : env.passes (n + 14) = false)
  /-- The BAR does not read back as it was written. -/
  | mismatch
      (h : Stands R device function barIndex (n + 16)
        (probedRegisters writable R device function barIndex
          ((alignedStart bar rangeStart).setWidth 32)) true true false t)
      (hbar : Admitted (R (barAddress device function barIndex)))
      (hsized : env.passes (n + 8) = true ∧ env.passes (n + 10) = true)
      (hfits : Fits bar rangeStart rangeEnd) (hkind : bar.prefetchable = true)
  | success
      (h : Stands R device function barIndex (n + 16)
        (probedRegisters writable R device function barIndex
          ((alignedStart bar rangeStart).setWidth 32)) true true true t)
      (hbar : Admitted (R (barAddress device function barIndex)))
      (hsized : env.passes (n + 8) = true ∧ env.passes (n + 10) = true)
      (hfits : Fits bar rangeStart rangeEnd) (hkind : bar.prefetchable = false)
      (hresource : t.resource =
        ⟨alignedStart bar rangeStart, BitVec.twoPow 64 bar.order, barIndex⟩)

end Exits

section Runs

variable {writable R : BitVec 32 → BitVec 32} {env : PortEnv} {device function barIndex : BitVec 32}
  {bar : MemoryBar32} {rangeStart rangeEnd slot : Word} {n : Nat}

theorem commandHalf : upperHalf PCI_COMMAND_STATUS_OFF = false := by decide

theorem quietRegisters_bar (writable R : BitVec 32 → BitVec 32) (h : barIndex < PCI_BAR_COUNT) :
    quietRegisters writable R device function (barAddress device function barIndex) =
      R (barAddress device function barIndex) :=
  ConfigWrite.apply_of_ne (barAddress_ne h)

theorem probedRegisters_bar (x : BitVec 32) (h : barIndex < PCI_BAR_COUNT) :
    probedRegisters writable R device function barIndex x (barAddress device function barIndex) =
      maskedWrite (writable (barAddress device function barIndex))
        (R (barAddress device function barIndex)) x := by
  rw [← quietRegisters_bar writable R h]
  exact ConfigWrite.apply_self

/-- A second write to the BAR. -/
theorem probedRegisters_again (x y : BitVec 32) :
    (ConfigWrite.dword (barAddress device function barIndex) y).apply writable
      (probedRegisters writable R device function barIndex x) =
      probedRegisters writable R device function barIndex y :=
  ConfigWrite.dword_dword y x

theorem probedRegisters_original (h : barIndex < PCI_BAR_COUNT) :
    probedRegisters writable R device function barIndex
      (R (barAddress device function barIndex)) = quietRegisters writable R device function := by
  rw [probedRegisters, ← quietRegisters_bar writable R h]
  exact ConfigWrite.dword_restore

/-- The transaction with any machine before its end. -/
theorem assignBar32_wp (hbar : bar.At writable R (barAddress device function barIndex))
    (hindex : barIndex < PCI_BAR_COUNT) (hlt : rangeStart < rangeEnd)
    (hend : rangeEnd ≤ PCI_32BIT_ADDRESS_LIMIT) {s : BarTransaction Bus}
    (hs : Stands R device function barIndex n R false false false s) :
    wp (assignBar32 (busMachine writable env) device function barIndex rangeStart rangeEnd slot)
      (fun _ t => AssignExit writable R env device function barIndex bar rangeStart rangeEnd n t)
      (fun _ t => AssignExit writable R env device function barIndex bar rangeStart rangeEnd n t)
      s := by
  obtain ⟨machine, resource, command, original, changed, touched, success⟩ := s
  obtain ⟨⟨W, hat⟩, rfl, rfl, rfl, -, -⟩ := hs
  have hfits := fits_iff bar hlt hend
  have hend' := toNat_le_limit hend
  unfold assignBar32
  -- The command register and the BAR.
  refine wp_bind (wp_readWord hat rfl (fun hp₀ b hb => ?_) fun hp b hb =>
    .untouched ⟨⟨_, hb⟩, rfl, rfl, rfl, nofun, nofun⟩ (.inl rfl) hp)
  rw [commandHalf]
  refine wp_bind (wp_modify (wp_bind (wp_readDword hb rfl (fun hp₂ b hb => ?_) fun hp b hb =>
    .untouched ⟨⟨_, hb⟩, rfl, rfl, rfl, nofun, nofun⟩ (.inr (.inl rfl)) hp)))
  -- Memory decoding and bus mastering are turned off.
  refine wp_bind (wp_modify (wp_bind (wp_writeWord hb (fun hp₄ b hb => ?_) fun hp b hb =>
    .untouched ⟨⟨_, hb⟩, rfl, rfl, rfl, nofun, nofun⟩ (.inr (.inr rfl)) hp)))
  rw [commandHalf] at hb
  refine wp_bind (wp_modify (wp_bind (wp_unlessOut (fun hadmitted => ?_) fun hadmitted =>
    .preassigned ⟨⟨_, hb⟩, rfl, rfl, rfl, fun _ => rfl, nofun⟩ hadmitted)))
  -- The BAR is sized.
  refine wp_bind (wp_writeDword hb (fun hp₆ b hb => ?_) fun hp b hb' =>
    .unprobed ⟨⟨_, hb'⟩, rfl, rfl, rfl, fun _ => rfl, nofun⟩ hadmitted hp)
  have hsizing : probedRegisters writable R device function barIndex 0xffffffff
      (barAddress device function barIndex) = bar.attributes ||| bar.mask :=
    (probedRegisters_bar _ hindex).trans hbar.sizing
  refine wp_bind (wp_readDword hb hsizing (fun hp₈ b hb => ?_) fun hp b hb =>
    .unrestored ⟨⟨_, hb⟩, rfl, rfl, rfl, fun _ => rfl, nofun⟩ hadmitted (.inl rfl) hp)
  refine wp_bind (wp_writeDword hb (fun hp₁₀ b hb => ?_) fun hp b hb =>
    .unrestored ⟨⟨_, hb⟩, rfl, rfl, rfl, fun _ => rfl, nofun⟩ hadmitted (.inr rfl) hp)
  have hb := hb.of_eq ((probedRegisters_again _ _).trans (probedRegisters_original hindex))
  refine wp_bind (wp_modify ?_)
  obtain ⟨hspace, htype, hmask⟩ := bar.sizing_eq
  obtain ⟨hsize, hne, hpow⟩ := bar.barSize64_mask
  refine wp_bind (wp_unlessOut (fun _ => ?_) fun h => absurd ⟨hspace, htype⟩ h)
  have hne_zero : (bar.attributes ||| bar.mask) &&& PCI_BAR_MEMORY_MASK ≠ 0 := by
    rw [hmask]
    exact bar.mask_ne_zero
  refine wp_bind (wp_unlessOut (fun _ => ?_) fun h => absurd hne_zero h)
  rw [hmask, hsize]
  unfold programBar32
  -- The window.
  refine wp_bind (wp_unlessOut (fun hstart => ?_) fun h =>
    .unfit ⟨⟨_, hb⟩, rfl, rfl, rfl, fun _ => rfl, fun _ => rfl⟩ hadmitted ⟨hp₈, hp₁₀⟩
      fun hyes => h ⟨hne, hpow, (hfits.mpr hyes).1⟩)
  refine wp_bind (wp_unlessOut (fun hwindow => ?_) fun h =>
    .unfit ⟨⟨_, hb⟩, rfl, rfl, rfl, fun _ => rfl, fun _ => rfl⟩ hadmitted ⟨hp₈, hp₁₀⟩
      fun hyes => h (hfits.mpr hyes).2)
  have hyes := hfits.mp ⟨hstart.2.2, hwindow⟩
  -- The new address.
  have hprogrammed : (alignedStart bar rangeStart).setWidth 32 ||| bar.mask &&& 0x0f =
      (alignedStart bar rangeStart).setWidth 32 := by
    rw [bar.mask_and_low]
    exact BitVec.or_zero
  refine wp_bind (wp_writeDword hb (fun hp₁₂ b hb => ?_) fun hp b hb =>
    .unprogrammed ⟨⟨_, hb⟩, rfl, rfl, rfl, fun _ => rfl, fun _ => rfl⟩ hadmitted
      ⟨hp₈, hp₁₀⟩ hyes hp)
  have hb := hb.of_eq (congrArg (probedRegisters writable R device function barIndex) hprogrammed)
  refine wp_bind (wp_readDword hb (probedRegisters_bar _ hindex) (fun hp₁₄ b hb => ?_)
    fun hp b hb =>
    .unread ⟨⟨_, hb⟩, rfl, rfl, rfl, fun _ => rfl, fun _ => rfl⟩ hadmitted
      ⟨hp₈, hp₁₀⟩ hyes hp)
  have hread : maskedWrite (writable (barAddress device function barIndex))
      (R (barAddress device function barIndex)) ((alignedStart bar rangeStart).setWidth 32) =
      (alignedStart bar rangeStart).setWidth 32 ||| bar.mask &&& 0x0f ↔
      bar.prefetchable = false := by
    rw [hprogrammed]
    exact hbar.write_eq_iff (alignedStart_and hyes hend')
  refine wp_bind (wp_unlessOut (fun h => ?_) fun h =>
    .mismatch ⟨⟨_, hb⟩, rfl, rfl, rfl, fun _ => rfl, fun _ => rfl⟩ hadmitted
      ⟨hp₈, hp₁₀⟩ hyes (by simpa using fun hkind => h (hread.mpr hkind)))
  exact wp_modify (.success ⟨⟨_, hb⟩, rfl, rfl, rfl, fun _ => rfl, fun _ => rfl⟩ hadmitted
    ⟨hp₈, hp₁₀⟩ hyes (hread.mp h) rfl)

/-! ## The end of the function -/

/-- Writing the command register back undoes the quiescing. -/
theorem commandBack_quiet : (ConfigWrite.word (commandAddress device function) false
      (halfOf false (R (commandAddress device function)))).apply writable
        (quietRegisters writable R device function) = R := by
  rw [quietRegisters, quiesceWrite, ConfigWrite.word_word]
  exact ConfigWrite.word_restore

theorem commandBack_probed (x : BitVec 32) (h : barIndex < PCI_BAR_COUNT) :
    (ConfigWrite.word (commandAddress device function) false
      (halfOf false (R (commandAddress device function)))).apply writable
        (probedRegisters writable R device function barIndex x) =
      (ConfigWrite.dword (barAddress device function barIndex) x).apply writable R := by
  have hne : (ConfigWrite.word (commandAddress device function) false
      (halfOf false (R (commandAddress device function)))).register ≠
      (ConfigWrite.dword (barAddress device function barIndex) x).register := (barAddress_ne h).symm
  rw [probedRegisters, ConfigWrite.apply_comm hne, commandBack_quiet]

theorem widenHalf_quiesced (x : BitVec 32) :
    widenHalf false (quiesced (halfOf false x)) = x &&& halfMask false &&& ~~~6 := by
  have hbits : ∀ i < 32, (6 : BitVec 32).getLsbD i =
      (PCI_COMMAND_MEMORY ||| PCI_COMMAND_MASTER).getLsbD i := by decide
  refine BitVec.eq_of_getLsbD_eq fun i hi => ?_
  rw [BitVec.getLsbD_and, BitVec.getLsbD_and, BitVec.getLsbD_not, hbits i hi,
    getLsbD_halfMask false i hi]
  by_cases hlow : i < 16
  · simp [widenHalf, halfOf, quiesced, hlow, hi, show ¬ 16 ≤ i by omega]
  · simp [widenHalf, halfOf, quiesced, show 16 ≤ i by omega]

/-- The quiescing changes nothing where memory decoding and bus mastering are off, or fixed. -/
theorem quietRegisters_command_iff :
    quietRegisters writable R device function (commandAddress device function) =
        R (commandAddress device function) ↔ Quiet writable R device function := by
  rw [quietRegisters, quiesceWrite, Quiet]
  generalize commandAddress device function = command
  have hvalue : (ConfigWrite.word command false (quiesced (halfOf false (R command)))).apply
      writable R command = maskedWrite (writable command &&& halfMask false) (R command)
        (widenHalf false (quiesced (halfOf false (R command)))) := ConfigWrite.apply_self
  have hquiet : R command &&& halfMask false &&& ~~~6 &&& (writable command &&& halfMask false) =
      (R command &&& (writable command &&& halfMask false)) &&& ~~~6 := by
    ac_rfl
  have hsix : R command &&& (writable command &&& halfMask false) &&& 6 =
      R command &&& writable command &&& 6 := by
    rw [← BitVec.and_assoc, BitVec.and_assoc (R command &&& writable command)]
    rfl
  rw [hvalue, maskedWrite_eq_old_iff, widenHalf_quiesced, hquiet, and_not_eq_self_iff, hsix]

/-- What the last write makes of a quiet function. -/
theorem restored_quiet_iff (h : barIndex < PCI_BAR_COUNT) {c : Bool} :
    Restored device function barIndex R
      (if c then R else quietRegisters writable R device function) ↔
    c = true ∨ Quiet writable R device function := by
  cases c with
  | true => exact iff_of_true ⟨rfl, rfl⟩ (.inl rfl)
  | false =>
    simp only [Restored, Bool.false_eq_true, if_false, false_or,
      ← quietRegisters_command_iff, quietRegisters_bar _ _ h, true_and]

/-- The registers after the end of the function, from where the transaction stands. -/
def undone (writable R : BitVec 32 → BitVec 32) (env : PortEnv)
    (device function barIndex : BitVec 32) (n : Nat) (X : BitVec 32 → BitVec 32)
    (changed back : Bool) : BitVec 32 → BitVec 32 :=
  let X' := if back && env.passes n then
    (ConfigWrite.dword (barAddress device function barIndex)
      (R (barAddress device function barIndex))).apply writable X else X
  if changed && env.passes (if back then env.after n else n) then
    (ConfigWrite.word (commandAddress device function) false
      (halfOf false (R (commandAddress device function)))).apply writable X' else X'

theorem undoAssignment_wp {X : BitVec 32 → BitVec 32} {changed touched success : Bool}
    {t : BarTransaction Bus} (h : Stands R device function barIndex n X changed touched success t) :
    wp (undoAssignment (busMachine writable env) device function barIndex slot) (fun _ _ => False)
      (fun r t' => r = success ∧ t'.resource = t.resource ∧ t'.machine.registers =
        undone writable R env device function barIndex n X changed (!success && touched)) t := by
  obtain ⟨machine, resource, command, original, changed', touched', success'⟩ := t
  obtain ⟨⟨W, hat⟩, hchanged, htouched, hsuccess, hcommand, horiginal⟩ := h
  subst hchanged htouched hsuccess
  unfold undoAssignment
  refine wp_bind (wp_get ?_)
  refine wp_bind (wp_whenDword (c := !success' && touched') (by simp) hat fun b W hb => ?_)
  refine wp_bind (wp_whenWord Iff.rfl hb fun b W hb => ?_)
  refine wp_bind (wp_modify (wp_ret ⟨rfl, rfl, ?_⟩))
  show (releaseConfigIoport (busMachine writable env) slot b).registers = _
  rw [releaseConfigIoport_bus, hb.registers, commandHalf]
  have hbar : (!success' && touched') = true →
      original = R (configAddress device function (barOffset barIndex)) :=
    fun h => horiginal (Bool.and_eq_true_iff.mp h).2
  have hcommand : changed' = true →
      command = halfOf false (R (configAddress device function PCI_COMMAND_STATUS_OFF)) := hcommand
  simp only [undone, barAddress, commandAddress]
  generalize (!success' && touched') = back at hbar
  cases back with
  | false =>
    cases changed' with
    | false => simp only [Bool.false_and, Bool.false_eq_true, if_false]
    | true => simp only [hcommand, Bool.false_and, Bool.false_eq_true, if_false]
  | true =>
    rw [hbar rfl]
    cases changed' with
    | false => simp only [Bool.false_and, Bool.false_eq_true, if_false]
    | true => simp only [hcommand]

/-- The arguments name a BAR of a function and a window, and the ports are acquired. -/
structure Started (env : PortEnv) (device function barIndex : BitVec 32)
    (rangeStart rangeEnd : Word) (n : Nat) : Prop where
  device : device < 32
  function : function < 8
  barIndex : barIndex < PCI_BAR_COUNT
  window : rangeStart < rangeEnd
  limit : rangeEnd ≤ PCI_32BIT_ADDRESS_LIMIT
  acquires : env.acquires n = true

/-- The function does nothing, or it is left through one of the exits. -/
theorem assignUnconfiguredBar32_wp {P : Bool → BarTransaction Bus → Prop} {s : BarTransaction Bus}
    (hbar : bar.At writable s.machine.registers (barAddress device function barIndex))
    (hrefused : ¬ Started env device function barIndex rangeStart rangeEnd s.machine.operations →
      ∀ t, t.machine = s.machine → P false t)
    (hexit : Started env device function barIndex rangeStart rangeEnd s.machine.operations →
      ∀ slot t, AssignExit writable s.machine.registers env device function barIndex bar rangeStart
        rangeEnd s.machine.operations t →
      wp (undoAssignment (busMachine writable env) device function barIndex slot)
        (fun _ _ => False) P t) :
    wp (assignUnconfiguredBar32 (busMachine writable env) device function barIndex rangeStart
      rangeEnd) (fun _ _ => False) P s := by
  unfold assignUnconfiguredBar32
  refine wp_bind (wp_modify (wp_ite (fun h => wp_ret (hrefused ?_ _ rfl)) fun h => ?_))
  · rintro ⟨h1, h2, h3, h4, h5, -⟩
    simp only [ge_iff_le, ← BitVec.not_lt, h1, h2, h3, h4, gt_iff_lt] at h
    exact absurd (BitVec.not_lt.mpr h5) (by simpa using h)
  simp only [not_or, ge_iff_le, BitVec.not_le, gt_iff_lt, BitVec.not_lt] at h
  obtain ⟨h1, h2, h3, h4, h5⟩ := h
  refine wp_bind (wp_acquire (fun hacquires slot => ?_) fun hacquires => ?_)
  · have hexit := hexit ⟨h1, h2, h3, h4, h5, hacquires⟩ slot
    exact wp_label (wp_mono (assignBar32_wp hbar h3 h4 h5 (s := .enter s.machine s.resource)
      ⟨⟨_, rfl, rfl, rfl⟩, rfl, rfl, rfl, nofun, nofun⟩) (fun _ => hexit) fun _ => hexit)
  · exact wp_ret (hrefused (fun h => nomatch hacquires.symm.trans h.acquires) _ rfl)

end Runs

/-! ## A function with one BAR -/

/-- A BAR of 4096 bytes. -/
def pageBar (prefetchable : Bool) : MemoryBar32 := ⟨12, by omega, by omega, prefetchable⟩

/-- The bits of the BAR 0 and of the command register of device 3 that can be written. -/
def deviceWritable (address : BitVec 32) : BitVec 32 :=
  if address = barAddress 3 0 0 then barMask 12
  else if address = commandAddress 3 0 then 0x0000ffff else 0

/-- The bus with this value in the BAR, where memory decoding and bus mastering are on. -/
def deviceBus (value : BitVec 32) : Bus where
  address := 0
  registers address :=
    if address = barAddress 3 0 0 then value
    else if address = commandAddress 3 0 then 0x00100007 else 0
  operations := 0
  writes := []

def deviceStart (value : BitVec 32) : BarTransaction Bus := .enter (deviceBus value) ⟨0, 0, 0⟩

/-- Ports that are always acquired. -/
def portsWith (fails : Nat → Bool) : PortEnv := ⟨fails, fun _ => some 1, fun _ => true⟩

end SeLinOS.Pci
