import SeLinOS.Pci.Assign

/-!
# What a validation of the common range leaves

`validateCommonRange` on a bus where any I/O-port operations may fail, for BARs of 32 and of 64 bits
with any size. A validation that succeeds has restored the BAR, but its last write, which restores
the command register, is not checked.

* `sizeBar32_registers`, `sizeBar64_registers`: the registers before the last writes.
* `validateCommonRange_registers`: the registers after a validation that succeeds.
* `validateCommonRange_restores_iff`: when they are those before it.
-/

namespace SeLinOS.Pci

open CLogic Prog Sel4

variable {writable R : BitVec 32 → BitVec 32} {env : PortEnv} {capability : CommonCapability}
  {slot : Word} {n : Nat}

/-- The transaction has read the command register and is at operation `n` with memory decoding and
bus mastering off and all BARs as they were. -/
structure Quieted (writable R : BitVec 32 → BitVec 32) (capability : CommonCapability) (n : Nat)
    (t : Sizing Bus) : Prop where
  bus : ∃ W, t.machine.At n
    (quietRegisters writable R capability.identity.device capability.identity.function) W
  commandQuiesced : t.commandQuiesced = true
  originalCommand : t.originalCommand = halfOf false
    (R (commandAddress capability.identity.device capability.identity.function))

theorem sizeBar32_registers {s : Sizing Bus} {W : List ConfigWrite} (hs : s.machine.At n R W)
    (hsuccess : s.success = false) (hindex : capability.barIndex < PCI_BAR_COUNT) :
    wp (sizeBar32 (busMachine writable env) capability slot)
      (fun _ t => Quieted writable R capability (n + 14) t)
      (fun _ t => t.success = false) s := by
  unfold sizeBar32
  refine wp_bind (wp_readWord hs rfl (fun _ b hb => ?_) fun _ _ _ => hsuccess)
  rw [commandHalf]
  refine wp_bind (wp_modify (wp_bind (wp_readDword hb rfl (fun _ b hb => ?_) fun _ _ _ =>
    hsuccess)))
  refine wp_bind (wp_modify (wp_bind (wp_unlessOut (fun _ => ?_) fun _ => hsuccess)))
  refine wp_bind (wp_writeWord hb (fun _ b hb => ?_) fun _ _ _ => hsuccess)
  rw [commandHalf] at hb
  -- The BAR is sized and restored.
  refine wp_bind (wp_modify (wp_bind (wp_writeDword hb (fun _ b hb => ?_) fun _ _ _ => hsuccess)))
  refine wp_bind (wp_modify (wp_bind (wp_readDword hb rfl (fun _ b hb => ?_) fun _ _ _ =>
    hsuccess)))
  refine wp_bind (wp_writeDword hb (fun _ b hb => ?_) fun _ _ _ => hsuccess)
  have hb := hb.of_eq ((probedRegisters_again _ _).trans (probedRegisters_original hindex))
  refine wp_bind (wp_readDword hb rfl (fun _ b hb => ?_) fun _ _ _ => hsuccess)
  -- The tests and the range.
  refine wp_bind (wp_unlessOut (fun _ => ?_) fun _ => hsuccess)
  refine wp_bind (wp_unlessOut (fun _ => ?_) fun _ => hsuccess)
  refine wp_bind (wp_unlessOut (fun _ => ?_) fun _ => hsuccess)
  refine wp_bind (wp_unlessOut (fun _ => ?_) fun _ => hsuccess)
  refine wp_bind (wp_unlessOut (fun _ => ?_) fun _ => hsuccess)
  refine wp_bind (wp_unlessOut (fun _ => ?_) fun _ => hsuccess)
  exact wp_modify ⟨⟨_, hb⟩, rfl, rfl⟩

theorem restoreBar32_registers {t : Sizing Bus} (h : Quieted writable R capability n t) :
    wp (restoreBar32 (busMachine writable env) capability slot) (fun _ _ => False)
      (fun success u => success = true → u.machine.registers = if env.passes n then R else
        quietRegisters writable R capability.identity.device capability.identity.function) t := by
  obtain ⟨⟨W, hb⟩, hquiesced, hcommand⟩ := h
  cases hsuccess : t.success with
  | false =>
    refine wp_mono (restoreBar32_wp slot t) (fun _ _ h => h) ?_
    rintro success u ⟨rfl, -⟩ h
    exact nomatch hsuccess.symm.trans h
  | true =>
    unfold restoreBar32
    refine wp_bind (wp_get (wp_bind (wp_when (fun h => absurd hsuccess h.2) fun _ => ?_)))
    rw [hcommand]
    refine wp_bind (wp_whenWord (c := true) (iff_of_true hquiesced rfl) hb fun b W hb => ?_)
    refine wp_bind (wp_modify (wp_ret fun _ => ?_))
    show (releaseConfigIoport (busMachine writable env) slot b).registers = _
    rw [releaseConfigIoport_bus, hb.registers, commandHalf, ← commandAddress, commandBack_quiet,
      Bool.true_and]

section Wide

variable {device function barIndex : BitVec 32}

/-- The register after a BAR. -/
def nextAddress (device function barIndex : BitVec 32) : BitVec 32 :=
  configAddress device function (barOffset barIndex + 4)

theorem quietRegisters_next (writable R : BitVec 32 → BitVec 32) (h : barIndex < PCI_BAR_COUNT) :
    quietRegisters writable R device function (nextAddress device function barIndex) =
      R (nextAddress device function barIndex) :=
  ConfigWrite.apply_of_ne (bar_ne_command h).2

/-- The two registers of a BAR, overwritten and written back. -/
theorem restored_two (hindex : barIndex < PCI_BAR_COUNT) :
    (ConfigWrite.dword (barAddress device function barIndex)
      (R (barAddress device function barIndex))).apply writable
      ((ConfigWrite.dword (nextAddress device function barIndex)
        (R (nextAddress device function barIndex))).apply writable
        ((ConfigWrite.dword (nextAddress device function barIndex) 0xffffffff).apply writable
          ((ConfigWrite.dword (barAddress device function barIndex) 0xffffffff).apply writable
            (quietRegisters writable R device function)))) =
      quietRegisters writable R device function := by
  rw [← quietRegisters_bar writable R hindex,
    ← quietRegisters_next writable R hindex]
  exact ConfigWrite.dword_restore_two (bar_ne_next hindex)

end Wide

theorem sizeBar64_registers {s : Sizing Bus} {W : List ConfigWrite} (hs : s.machine.At n R W)
    (hsuccess : s.success = false) (hindex : capability.barIndex < PCI_BAR_COUNT) :
    wp (sizeBar64 (busMachine writable env) capability slot)
      (fun _ t => Quieted writable R capability (n + 24) t ∧ t.barTouched = true ∧
        t.originalBarLow = R (configAddress capability.identity.device capability.identity.function
          capability.barOffset) ∧
        t.originalBarHigh = R (configAddress capability.identity.device
          capability.identity.function (capability.barOffset + 4)))
      (fun _ t => t.success = false) s := by
  unfold sizeBar64
  refine wp_bind (wp_readWord hs rfl (fun _ b hb => ?_) fun _ _ _ => hsuccess)
  rw [commandHalf]
  refine wp_bind (wp_modify (wp_bind (wp_readDword hb rfl (fun _ b hb => ?_) fun _ _ _ =>
    hsuccess)))
  refine wp_bind (wp_modify (wp_bind (wp_readDword hb rfl (fun _ b hb => ?_) fun _ _ _ =>
    hsuccess)))
  refine wp_bind (wp_modify (wp_bind (wp_unlessOut (fun _ => ?_) fun _ => hsuccess)))
  refine wp_bind (wp_writeWord hb (fun _ b hb => ?_) fun _ _ _ => hsuccess)
  rw [commandHalf] at hb
  -- Both registers of the BAR are sized and restored.
  refine wp_bind (wp_modify (wp_bind (wp_writeDword hb (fun _ b hb => ?_) fun _ _ _ => hsuccess)))
  refine wp_bind (wp_modify (wp_bind (wp_writeDword hb (fun _ b hb => ?_) fun _ _ _ => hsuccess)))
  refine wp_bind (wp_readDword hb rfl (fun _ b hb => ?_) fun _ _ _ => hsuccess)
  refine wp_bind (wp_readDword hb rfl (fun _ b hb => ?_) fun _ _ _ => hsuccess)
  refine wp_bind (wp_writeDword hb (fun _ b hb => ?_) fun _ _ _ => hsuccess)
  refine wp_bind (wp_writeDword hb (fun _ b hb => ?_) fun _ _ _ => hsuccess)
  have hb := hb.of_eq (restored_two hindex)
  refine wp_bind (wp_readDword hb rfl (fun _ b hb => ?_) fun _ _ _ => hsuccess)
  refine wp_bind (wp_readDword hb rfl (fun _ b hb => ?_) fun _ _ _ => hsuccess)
  -- The tests and the range.
  refine wp_bind (wp_unlessOut (fun _ => ?_) fun _ => hsuccess)
  refine wp_bind (wp_unlessOut (fun _ => ?_) fun _ => hsuccess)
  refine wp_bind (wp_unlessOut (fun _ => ?_) fun _ => hsuccess)
  refine wp_bind (wp_unlessOut (fun _ => ?_) fun _ => hsuccess)
  refine wp_bind (wp_unlessOut (fun _ => ?_) fun _ => hsuccess)
  exact wp_modify ⟨⟨⟨_, hb⟩, rfl, rfl⟩, rfl, rfl, rfl⟩

theorem restoreBar64_registers {t : Sizing Bus} (h : Quieted writable R capability n t)
    (hindex : capability.barIndex < PCI_BAR_COUNT) (htouched : t.barTouched = true)
    (hlow : t.originalBarLow = R (barAddress capability.identity.device
      capability.identity.function capability.barIndex))
    (hhigh : t.originalBarHigh = R (nextAddress capability.identity.device
      capability.identity.function capability.barIndex)) :
    wp (restoreBar64 (busMachine writable env) capability slot) (fun _ _ => False)
      (fun _ u => u.machine.registers = if env.passes (env.after (env.after n)) then R else
        quietRegisters writable R capability.identity.device capability.identity.function) t := by
  obtain ⟨⟨W, hb⟩, hquiesced, hcommand⟩ := h
  unfold restoreBar64
  refine wp_bind (wp_get (wp_bind (wp_when (fun _ => ?_) fun h => absurd htouched h)))
  rw [hlow, hhigh, hcommand]
  have hhigh' : (ConfigWrite.dword (nextAddress capability.identity.device
      capability.identity.function capability.barIndex) (R (nextAddress capability.identity.device
        capability.identity.function capability.barIndex))).apply writable
        (quietRegisters writable R capability.identity.device capability.identity.function) =
      quietRegisters writable R capability.identity.device capability.identity.function := by
    rw [← quietRegisters_next writable R hindex]
    exact ConfigWrite.dword_restore
  refine wp_bind (wp_attemptDword hb fun b W hb => ?_)
  have hb := hb.of_eq ((congrArg (ite _ · _) hhigh').trans (ite_self _))
  refine wp_attemptDword hb fun b W hb => ?_
  have hb := hb.of_eq ((congrArg (ite _ · _) (probedRegisters_original hindex)).trans (ite_self _))
  refine wp_bind (wp_whenWord (c := true) (iff_of_true hquiesced rfl) hb fun b W hb => ?_)
  refine wp_bind (wp_modify (wp_ret ?_))
  show (releaseConfigIoport (busMachine writable env) slot b).registers = _
  rw [releaseConfigIoport_bus, hb.registers, commandHalf, ← commandAddress, commandBack_quiet,
    Bool.true_and]

/-- The operation that starts the last write of a validation that succeeds, from operation `n`. -/
def restoreOperation (env : PortEnv) (bar : BitVec 32) (n : Nat) : Nat :=
  if bar &&& PCI_BAR_MEMORY_TYPE_MASK = PCI_BAR_MEMORY_TYPE_32 then n + 16
  else env.after (env.after (n + 26))

/-- What a validation that succeeds leaves in the registers. -/
def Leaves (writable R : BitVec 32 → BitVec 32) (env : PortEnv) (capability : CommonCapability)
    (n : Nat) (success : Bool) (t : Sizing Bus) : Prop :=
  success = true → capability.barIndex < PCI_BAR_COUNT ∧
    t.machine.registers = if env.passes n then R else
      quietRegisters writable R capability.identity.device capability.identity.function

theorem validateCommonRange32_registers {s : Sizing Bus} {W : List ConfigWrite}
    (hs : s.machine.At n R W) :
    wp (validateCommonRange32 (busMachine writable env) capability) (fun _ _ => False)
      (Leaves writable R env capability (n + 14)) s := by
  unfold validateCommonRange32
  refine wp_bind (wp_modify (wp_ite (fun _ => wp_ret nofun) fun hguard => ?_))
  simp only [not_or, ge_iff_le, BitVec.not_le] at hguard
  have hindex := hguard.2.2.2.1
  refine wp_bind (wp_acquire (fun _ slot => ?_) fun _ => wp_ret nofun)
  refine wp_label (wp_mono (sizeBar32_registers hs rfl hindex) (fun _ t ht => ?_) fun _ t ht => ?_)
  · exact wp_mono (restoreBar32_registers ht) (fun _ _ h => h) fun _ _ h hs => ⟨hindex, h hs⟩
  · refine wp_mono (restoreBar32_wp slot t) (fun _ _ h => h) ?_
    rintro success u ⟨rfl, -⟩ h
    exact nomatch ht.symm.trans h

theorem validateCommonRange64_registers {s : Sizing Bus} {W : List ConfigWrite}
    (hs : s.machine.At n R W) :
    wp (validateCommonRange64 (busMachine writable env) capability) (fun _ _ => False)
      (Leaves writable R env capability (env.after (env.after (n + 24)))) s := by
  unfold validateCommonRange64
  refine wp_bind (wp_modify (wp_ite (fun _ => wp_ret nofun) fun hguard => ?_))
  simp only [not_or, ge_iff_le, BitVec.not_le] at hguard
  have hindex : capability.barIndex < PCI_BAR_COUNT :=
    Nat.lt_of_lt_of_le hguard.2.2.2.1 (by decide)
  refine wp_bind (wp_acquire (fun _ slot => ?_) fun _ => wp_ret nofun)
  refine wp_label (wp_mono (sizeBar64_registers hs rfl hindex) ?_ fun _ t ht => ?_)
  · rintro _ t ⟨ht, htouched, hlow, hhigh⟩
    refine wp_mono (restoreBar64_registers ht hindex htouched hlow hhigh) (fun _ _ h => h) ?_
    exact fun _ _ h _ => ⟨hindex, h⟩
  · refine wp_mono (restoreBar64_wp slot t) (fun _ _ h => h) ?_
    rintro success u ⟨rfl, -⟩ h
    exact nomatch ht.symm.trans h

theorem validateCommonRange_registers {s : Sizing Bus} :
    wp (validateCommonRange (busMachine writable env) capability) (fun _ _ => False)
      (Leaves writable s.machine.registers env capability
        (restoreOperation env (s.machine.registers (barAddress capability.identity.device
          capability.identity.function capability.barIndex)) s.machine.operations)) s := by
  unfold validateCommonRange
  refine wp_ite (fun _ => wp_ret nofun) fun _ => ?_
  refine wp_bind (wp_acquire (fun _ slot => ?_) fun _ => wp_ret nofun)
  refine wp_bind (wp_access readConfigDword_bus (wp_bind (wp_modify ?_)))
  have hat : s.machine.At s.machine.operations s.machine.registers s.machine.writes :=
    ⟨rfl, rfl, rfl⟩
  cases hp : env.passes s.machine.operations with
  | false => exact wp_ret nofun
  | true =>
    have hnext : (releaseConfigIoport (busMachine writable env) slot
        (s.machine.touch env (barAddress capability.identity.device
          capability.identity.function capability.barIndex))).At (s.machine.operations + 2)
        s.machine.registers s.machine.writes := by
      rw [releaseConfigIoport_bus]
      exact PortEnv.after_eq hp ▸ hat.touch
    refine wp_ite (fun _ => wp_ret nofun) fun _ => ?_
    refine wp_ite (fun h32 => ?_) fun h32 => ?_
    · have hlast : restoreOperation env (s.machine.registers (barAddress capability.identity.device
          capability.identity.function capability.barIndex)) s.machine.operations =
          s.machine.operations + 16 := if_pos h32
      rw [hlast]
      exact validateCommonRange32_registers hnext
    · refine wp_ite (fun _ => ?_) fun _ => wp_ret nofun
      have hlast : restoreOperation env (s.machine.registers (barAddress capability.identity.device
          capability.identity.function capability.barIndex)) s.machine.operations =
          env.after (env.after (s.machine.operations + 26)) := if_neg h32
      rw [hlast]
      exact validateCommonRange64_registers hnext

/-- The BAR, with its second register, and the command register hold what they held. -/
def Kept (capability : CommonCapability) (R R' : BitVec 32 → BitVec 32) : Prop :=
  Restored capability.identity.device capability.identity.function capability.barIndex R R' ∧
    R' (nextAddress capability.identity.device capability.identity.function capability.barIndex) =
      R (nextAddress capability.identity.device capability.identity.function capability.barIndex)

/-- **Validation of the common range**, with any I/O-port errors and any BAR: a validation that
succeeds leaves the BAR and the command register as they were exactly when its last write is made,
or memory decoding and bus mastering were off or fixed. -/
theorem validateCommonRange_restores_iff {s t : Sizing Bus}
    (hrun : validateCommonRange (busMachine writable env) capability s = .ret true t) :
    Kept capability s.machine.registers t.machine.registers ↔
      env.passes (restoreOperation env (s.machine.registers (barAddress capability.identity.device
        capability.identity.function capability.barIndex)) s.machine.operations) = true ∨
      Quiet writable s.machine.registers capability.identity.device
        capability.identity.function := by
  obtain ⟨hindex, hregisters⟩ := wp_ret_of validateCommonRange_registers hrun rfl
  rw [hregisters, ← restored_quiet_iff hindex]
  refine and_iff_left_of_imp fun _ => ?_
  split
  · rfl
  · exact quietRegisters_next _ _ hindex

/-- A capability at the start of the BAR 0 of device 3. -/
def deviceCapability : CommonCapability :=
  ⟨⟨3, 0, SELINOS_QEMU_VIRTIO_VENDOR_ID, SELINOS_QEMU_VIRTIO_BLK_MODERN_DEVICE_ID⟩, 0x40, 0, 0,
    0x38⟩

def validationStart : Sizing Bus :=
  .enter (deviceBus 0xfeb80000) ⟨deviceCapability, 0, 0, 0, 0, 0⟩

/-- The validation where operation 16, the first of the last write, fails. -/
def failingValidation : Res Bool (Sizing Bus) Unit :=
  validateCommonRange (busMachine deviceWritable (portsWith (· == 16))) deviceCapability
    validationStart

set_option maxRecDepth 100000 in
/-- It succeeds, and memory decoding and bus mastering stay off. -/
theorem validateCommonRange_keeps_quiet : ∃ t, failingValidation = .ret true t ∧
    ¬ Kept deviceCapability validationStart.machine.registers t.machine.registers := by
  have hcommand : (failingValidation.returned.map fun r =>
      (r.1, r.2.machine.registers (commandAddress 3 0))) = some (true, 0x00100001) := by
    decide +kernel
  cases hrun : failingValidation with
  | ret success t =>
    rw [hrun] at hcommand
    obtain ⟨rfl, hquiet⟩ := Prod.mk.inj (Option.some.inj hcommand)
    exact ⟨t, rfl, fun hkept => absurd (hkept.1.2.symm.trans hquiet) (by decide)⟩
  | ok a t => rw [hrun] at hcommand; cases hcommand
  | fault x => rw [hrun] at hcommand; cases hcommand

set_option maxRecDepth 100000 in
/-- A validation without errors. -/
theorem validateCommonRange_restores_iff_page : ∃ t,
    validateCommonRange (busMachine deviceWritable (portsWith fun _ => false)) deviceCapability
      validationStart = .ret true t ∧
    Kept deviceCapability validationStart.machine.registers t.machine.registers := by
  have htrue : ((validateCommonRange (busMachine deviceWritable (portsWith fun _ => false))
      deviceCapability validationStart).returned.map (·.1)) = some true := by
    decide +kernel
  cases hrun : validateCommonRange (busMachine deviceWritable (portsWith fun _ => false))
      deviceCapability validationStart with
  | ret success t =>
    rw [hrun] at htrue
    cases htrue
    exact ⟨t, rfl, (validateCommonRange_restores_iff hrun).mpr (.inl (by decide))⟩
  | ok a t => rw [hrun] at htrue; cases htrue
  | fault x => rw [hrun] at htrue; cases htrue

end SeLinOS.Pci
