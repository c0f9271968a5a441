import Mathlib.Tactic.MkIffOfInductiveProp
import SeLinOS.CLogic.Part
import SeLinOS.Pci.Config

/-!
# The validated range of the virtio common configuration

`selinos_pci_validate_qemu_virtio_blk_common_range` and its 32-bit and 64-bit paths. A validation
sizes the BAR of the capability and checks that the capability lies in it; `CommonRange` is what it
says to the functions that map the page of the common configuration.

* `CommonRange`, `CommonRange.Sane`: the range, and `virtio_common_range_is_sane`.
* `validateCommonRange32`, `validateCommonRange64`, `validateCommonRange`: the validation.
* `validateCommonRange_wp`: where it returns true, the range is sane and is the one of its
  capability.
-/

namespace SeLinOS.Pci

open CLogic Sel4

def SELINOS_QEMU_VIRTIO_VENDOR_ID : BitVec 16 := 0x1af4
def SELINOS_QEMU_VIRTIO_BLK_MODERN_DEVICE_ID : BitVec 16 := 0x1042
def VIRTIO_COMMON_CFG_MIN_LENGTH : BitVec 32 := 0x38
def VIRTIO_COMMON_DEVICE_FEATURE_OFF : Nat := 0x04

/-- `(uintptr_t)1u << seL4_PageBits`. -/
def pageSize : Word := 4096

/-- `UINTPTR_MAX`, which is also `SIZE_MAX` and `UINT64_MAX`. -/
def UINTPTR_MAX : Word := BitVec.allOnes 64

/-- `struct selinos_qemu_virtio_blk_identity`. -/
structure BlkIdentity where
  device : BitVec 32
  function : BitVec 32
  vendorId : BitVec 16
  deviceId : BitVec 16
  deriving Repr, DecidableEq

/-- `struct selinos_qemu_virtio_common_capability`. -/
structure CommonCapability where
  identity : BlkIdentity
  capabilityOffset : BitVec 32
  barIndex : BitVec 32
  offset : BitVec 32
  length : BitVec 32
  deriving Repr, DecidableEq

/-- `struct selinos_qemu_virtio_common_range`. -/
structure CommonRange where
  capability : CommonCapability
  barPaddr : Word
  barSize : Word
  commonPaddr : Word
  pagePaddr : Word
  pageOffset : Word
  deriving Repr, DecidableEq

/-- The tests of vendor and device. -/
def BlkIdentity.Modern (identity : BlkIdentity) : Prop :=
  identity.vendorId = SELINOS_QEMU_VIRTIO_VENDOR_ID ∧
    identity.deviceId = SELINOS_QEMU_VIRTIO_BLK_MODERN_DEVICE_ID

instance (identity : BlkIdentity) : Decidable identity.Modern := instDecidableAnd

/-- `virtio_common_range_is_sane`. -/
@[mk_iff]
structure CommonRange.Sane (range : CommonRange) : Prop where
  identity : range.capability.identity.Modern
  barIndex : range.capability.barIndex < PCI_BAR_COUNT
  bar : range.barPaddr ≠ 0 ∧ range.barSize ≠ 0
  le : range.barPaddr ≤ range.commonPaddr
  offset : range.commonPaddr - range.barPaddr = range.capability.offset.zeroExtend 64
  offsetIn : range.capability.offset.zeroExtend 64 ≤ range.barSize
  lengthIn : range.capability.length.zeroExtend 64 ≤
    range.barSize - range.capability.offset.zeroExtend 64
  page : range.pagePaddr &&& (pageSize - 1) = 0
  pageOffset : range.commonPaddr - range.pagePaddr = range.pageOffset
  /-- `feature_end`, the end of the registers of the feature observation. -/
  featureEnd : range.pageOffset ≤ pageSize ∧
    BitVec.ofNat 64 (VIRTIO_COMMON_DEVICE_FEATURE_OFF + 4) ≤ pageSize - range.pageOffset

instance (range : CommonRange) : Decidable range.Sane :=
  decidable_of_iff _ (CommonRange.sane_iff range).symm

/-! ## The transaction -/

/-- The machine, the range of the caller and the locals of a validation. The 32-bit path has one
original BAR, the low one. -/
structure Sizing (δ : Type) where
  machine : δ
  range : CommonRange
  originalCommand : BitVec 16
  originalBarLow : BitVec 32
  originalBarHigh : BitVec 32
  commandQuiesced : Bool
  barTouched : Bool
  success : Bool
  deriving DecidableEq

/-- The locals at the start of the call. -/
def Sizing.enter {δ : Type} (machine : δ) (range : CommonRange) : Sizing δ :=
  ⟨machine, range, 0, 0, 0, false, false, false⟩

instance {δ : Type} : Part (Sizing δ) δ where
  part := Sizing.machine
  withPart machine s := { s with machine }
  part_withPart _ _ := rfl
  withPart_part _ := rfl
  withPart_withPart _ _ _ := rfl

variable {δ ε α : Type} (m : Machine δ)

/-- The place of the BAR of a capability in the configuration space. -/
def CommonCapability.barOffset (capability : CommonCapability) : BitVec 32 :=
  PCI_BAR0_OFF + 4 * capability.barIndex

/-- `x & ~(page_size - 1u)`. -/
def pageBase (x : Word) : Word := x &&& ~~~(pageSize - 1)

/-- The last part of both paths: the range of the caller, and its test. -/
def setRange (capability : CommonCapability) (barPaddr barSize commonPaddr : Word) :
    Prog Unit (Sizing δ) Unit :=
  Prog.modify fun s =>
    let range : CommonRange :=
      ⟨capability, barPaddr, barSize, commonPaddr, pageBase commonPaddr,
        commonPaddr - pageBase commonPaddr⟩
    { s with range, success := decide range.Sane }

/-- The part of `selinos_pci_validate_qemu_virtio_blk_common_range_32` before `out`. -/
def sizeBar32 (capability : CommonCapability) (slot : Word) : Prog Unit (Sizing δ) Unit := do
  let device := capability.identity.device
  let function := capability.identity.function
  let barOffset := capability.barOffset
  let originalCommand ← Prog.accessed (readConfigWord m slot device function PCI_COMMAND_STATUS_OFF)
  Prog.modify fun s => { s with originalCommand }
  let originalBar ← Prog.accessed (readConfigDword m slot device function barOffset)
  Prog.modify fun s => { s with originalBarLow := originalBar }
  Prog.unlessOut (originalBar &&& 1 = 0 ∧
    originalBar &&& PCI_BAR_MEMORY_TYPE_MASK = PCI_BAR_MEMORY_TYPE_32 ∧
    originalBar &&& PCI_BAR_MEMORY_MASK ≠ 0)
  Prog.done (writeConfigWord m slot device function PCI_COMMAND_STATUS_OFF
    (originalCommand &&& ~~~(PCI_COMMAND_MEMORY ||| PCI_COMMAND_MASTER)))
  Prog.modify fun s => { s with commandQuiesced := true }
  Prog.done (writeConfigDword m slot device function barOffset 0xffffffff)
  Prog.modify fun s => { s with barTouched := true }
  let sizingMask ← Prog.accessed (readConfigDword m slot device function barOffset)
  Prog.done (writeConfigDword m slot device function barOffset originalBar)
  let restoredBar ← Prog.accessed (readConfigDword m slot device function barOffset)
  Prog.unlessOut (restoredBar = originalBar)
  Prog.unlessOut (sizingMask &&& 1 = 0 ∧
    sizingMask &&& PCI_BAR_MEMORY_TYPE_MASK = PCI_BAR_MEMORY_TYPE_32)
  let sizingMask := sizingMask &&& PCI_BAR_MEMORY_MASK
  Prog.unlessOut (sizingMask ≠ 0)
  let barSize : Word := (~~~(sizingMask.zeroExtend 64) &&& 0xffffffff) + 1
  Prog.unlessOut (barSize ≠ 0 ∧ barSize &&& (barSize - 1) = 0 ∧ barSize ≤ UINTPTR_MAX)
  let barPaddr : Word := (originalBar &&& PCI_BAR_MEMORY_MASK).zeroExtend 64
  let offset : Word := capability.offset.zeroExtend 64
  Prog.unlessOut (barPaddr ≤ UINTPTR_MAX - barSize ∧ offset ≤ barSize ∧
    capability.length.zeroExtend 64 ≤ barSize - offset)
  let commonPaddr := barPaddr + offset
  Prog.unlessOut (barPaddr ≤ commonPaddr ∧
    commonPaddr ≤ UINTPTR_MAX - BitVec.ofNat 64 VIRTIO_COMMON_DEVICE_FEATURE_OFF ∧
    commonPaddr &&& 3 = 0)
  setRange capability barPaddr barSize commonPaddr

/-- The part of `selinos_pci_validate_qemu_virtio_blk_common_range_32` from `out`. -/
def restoreBar32 (capability : CommonCapability) (slot : Word) : Prog Bool (Sizing δ) Unit := do
  let device := capability.identity.device
  let function := capability.identity.function
  let s ← Prog.get
  Prog.when (s.barTouched ∧ ¬ s.success) do
    Prog.attempt (writeConfigDword m slot device function capability.barOffset s.originalBarLow)
  Prog.when s.commandQuiesced do
    Prog.attempt (writeConfigWord m slot device function PCI_COMMAND_STATUS_OFF s.originalCommand)
  Prog.modify fun s => { s with machine := releaseConfigIoport m slot s.machine }
  Prog.ret s.success

/-- `selinos_pci_validate_qemu_virtio_blk_common_range_32`. -/
def validateCommonRange32 (capability : CommonCapability) : Prog Bool (Sizing δ) Unit := do
  Prog.modify fun s => .enter s.machine s.range
  if ¬ capability.identity.Modern ∨ capability.identity.device ≥ 32 ∨
      capability.identity.function ≥ 8 ∨ capability.barIndex ≥ PCI_BAR_COUNT ∨
      capability.length < VIRTIO_COMMON_CFG_MIN_LENGTH ∨ capability.offset &&& 3 ≠ 0 ∨
      capability.length &&& 3 ≠ 0 then
    Prog.ret false
  else
    match ← Prog.access (acquireConfigIoport m) with
    | none => Prog.ret false
    | some slot => Prog.label (sizeBar32 m capability slot) (restoreBar32 m capability slot)

/-- The part of `selinos_pci_validate_qemu_virtio_blk_common_range_64` before `out`. -/
def sizeBar64 (capability : CommonCapability) (slot : Word) : Prog Unit (Sizing δ) Unit := do
  let device := capability.identity.device
  let function := capability.identity.function
  let barOffset := capability.barOffset
  let originalCommand ← Prog.accessed (readConfigWord m slot device function PCI_COMMAND_STATUS_OFF)
  Prog.modify fun s => { s with originalCommand }
  let originalBarLow ← Prog.accessed (readConfigDword m slot device function barOffset)
  Prog.modify fun s => { s with originalBarLow }
  let originalBarHigh ← Prog.accessed (readConfigDword m slot device function (barOffset + 4))
  Prog.modify fun s => { s with originalBarHigh }
  Prog.unlessOut (originalBarLow &&& 1 = 0 ∧ originalBarLow &&& PCI_BAR_MEMORY_TYPE_MASK = 4)
  Prog.done (writeConfigWord m slot device function PCI_COMMAND_STATUS_OFF
    (originalCommand &&& ~~~(PCI_COMMAND_MEMORY ||| PCI_COMMAND_MASTER)))
  Prog.modify fun s => { s with commandQuiesced := true }
  Prog.done (writeConfigDword m slot device function barOffset 0xffffffff)
  Prog.modify fun s => { s with barTouched := true }
  Prog.done (writeConfigDword m slot device function (barOffset + 4) 0xffffffff)
  let sizingLow ← Prog.accessed (readConfigDword m slot device function barOffset)
  let sizingHigh ← Prog.accessed (readConfigDword m slot device function (barOffset + 4))
  Prog.done (writeConfigDword m slot device function (barOffset + 4) originalBarHigh)
  Prog.done (writeConfigDword m slot device function barOffset originalBarLow)
  let restoredBarLow ← Prog.accessed (readConfigDword m slot device function barOffset)
  let restoredBarHigh ← Prog.accessed (readConfigDword m slot device function (barOffset + 4))
  Prog.unlessOut (restoredBarLow = originalBarLow ∧ restoredBarHigh = originalBarHigh)
  let barMask : Word := sizingHigh.zeroExtend 64 <<< 32 |||
    (sizingLow &&& PCI_BAR_MEMORY_MASK).zeroExtend 64
  Prog.unlessOut (barMask ≠ 0)
  let barSize := ~~~barMask + 1
  Prog.unlessOut (barSize ≠ 0 ∧ barSize &&& (barSize - 1) = 0 ∧ barSize ≤ UINTPTR_MAX)
  let barBase : Word := originalBarHigh.zeroExtend 64 <<< 32 |||
    (originalBarLow &&& PCI_BAR_MEMORY_MASK).zeroExtend 64
  let offset : Word := capability.offset.zeroExtend 64
  Prog.unlessOut (barBase ≠ 0 ∧ barBase ≤ UINTPTR_MAX ∧ offset ≤ barSize ∧
    capability.length.zeroExtend 64 ≤ barSize - offset ∧ barBase ≤ UINTPTR_MAX - offset)
  let commonPaddr := barBase + offset
  Prog.unlessOut (commonPaddr ≤ UINTPTR_MAX ∧
    commonPaddr ≤ UINTPTR_MAX - BitVec.ofNat 64 VIRTIO_COMMON_DEVICE_FEATURE_OFF ∧
    commonPaddr &&& 3 = 0)
  setRange capability barBase barSize commonPaddr

/-- The part of `selinos_pci_validate_qemu_virtio_blk_common_range_64` from `out`. -/
def restoreBar64 (capability : CommonCapability) (slot : Word) : Prog Bool (Sizing δ) Unit := do
  let device := capability.identity.device
  let function := capability.identity.function
  let barOffset := capability.barOffset
  let s ← Prog.get
  Prog.when s.barTouched do
    Prog.attempt (writeConfigDword m slot device function (barOffset + 4) s.originalBarHigh)
    Prog.attempt (writeConfigDword m slot device function barOffset s.originalBarLow)
  Prog.when s.commandQuiesced do
    Prog.attempt (writeConfigWord m slot device function PCI_COMMAND_STATUS_OFF s.originalCommand)
  Prog.modify fun s => { s with machine := releaseConfigIoport m slot s.machine }
  Prog.ret s.success

/-- `selinos_pci_validate_qemu_virtio_blk_common_range_64`. -/
def validateCommonRange64 (capability : CommonCapability) : Prog Bool (Sizing δ) Unit := do
  Prog.modify fun s => .enter s.machine s.range
  if ¬ capability.identity.Modern ∨ capability.identity.device ≥ 32 ∨
      capability.identity.function ≥ 8 ∨ capability.barIndex ≥ PCI_BAR_COUNT - 1 ∨
      capability.length < VIRTIO_COMMON_CFG_MIN_LENGTH ∨ capability.offset &&& 3 ≠ 0 ∨
      capability.length &&& 3 ≠ 0 then
    Prog.ret false
  else
    match ← Prog.access (acquireConfigIoport m) with
    | none => Prog.ret false
    | some slot => Prog.label (sizeBar64 m capability slot) (restoreBar64 m capability slot)

/-- `selinos_pci_validate_qemu_virtio_blk_common_range`. -/
def validateCommonRange (capability : CommonCapability) : Prog Bool (Sizing δ) Unit := do
  if capability.identity.device ≥ 32 ∨ capability.identity.function ≥ 8 ∨
      capability.barIndex ≥ PCI_BAR_COUNT then
    Prog.ret false
  else
    match ← Prog.access (acquireConfigIoport m) with
    | none => Prog.ret false
    | some slot =>
      let bar ← Prog.access (readConfigDword m slot capability.identity.device
        capability.identity.function capability.barOffset)
      Prog.modify fun s => { s with machine := releaseConfigIoport m slot s.machine }
      match bar with
      | none => Prog.ret false
      | some bar =>
        if bar &&& 1 ≠ 0 then Prog.ret false
        else if bar &&& PCI_BAR_MEMORY_TYPE_MASK = PCI_BAR_MEMORY_TYPE_32 then
          validateCommonRange32 m capability
        else if bar &&& PCI_BAR_MEMORY_TYPE_MASK = 4 then validateCommonRange64 m capability
        else Prog.ret false

/-! ## What a validation says -/

section Specs

open Prog

variable {m} {capability : CommonCapability}

/-- `I` and `P` follow the result of a validation: `I` is about the flag and the range so far, and
`P` about the value that is returned and the range at the end. -/
structure Settles (capability : CommonCapability) (I : Sizing δ → Prop)
    (P : Bool → Sizing δ → Prop) : Prop where
  start : ∀ s, s.success = false → I s
  same : ∀ s s', s'.success = s.success → s'.range = s.range → I s → I s'
  set : ∀ (s : Sizing δ) (range : CommonRange), range.capability = capability →
    range.barSize ≠ 0 → range.barSize &&& (range.barSize - 1) = 0 →
    I { s with range, success := decide range.Sane }
  fail : ∀ s, P false s
  report : ∀ s t, VIRTIO_COMMON_CFG_MIN_LENGTH ≤ capability.length → I s → t.range = s.range →
    P s.success t

namespace Settles

variable {I : Sizing δ → Prop} {P : Bool → Sizing δ → Prop} (h : Settles capability I P)

include h

theorem keeps_modify {f : Sizing δ → Sizing δ} (hsuccess : ∀ s, (f s).success = s.success)
    (hrange : ∀ s, (f s).range = s.range) : Keeps I (Prog.modify f : Prog ε (Sizing δ) Unit) :=
  .modify fun s hs => h.same s _ (hsuccess s) (hrange s) hs

theorem keeps_access (f : δ → α × δ) : Keeps I (access f : Prog ε (Sizing δ) α) := by
  intro s hs
  exact wp_of_run (show access f s = _ from rfl) (h.same s _ rfl rfl hs)

theorem keeps_accessed (f : δ → Option α × δ) : Keeps I (accessed f) := by
  refine (h.keeps_access f).bind fun a => ?_
  cases a with
  | none => exact .ret ()
  | some a => exact .pure a

theorem keeps_done (f : δ → Bool × δ) : Keeps I (done f) :=
  (h.keeps_access f).bind fun _ => .when (.ret ())

omit h in
theorem keeps_unlessOut (c : Prop) [Decidable c] :
    Keeps I (unlessOut c : Prog Unit (Sizing δ) Unit) := .when (.ret ())

omit h in
/-- A part behind a test needs to keep `I` where the test holds. -/
theorem keeps_unlessOut_bind {c : Prop} [Decidable c] {p : Prog Unit (Sizing δ) α}
    (hp : c → Keeps I p) : Keeps I (unlessOut c >>= fun _ => p) :=
  fun s hs => wp_bind (wp_when (fun _ => wp_ret hs) fun hc => hp (not_not.mp hc) s hs)

theorem keeps_setRange {barPaddr barSize commonPaddr : Word} (hsize : barSize ≠ 0)
    (hpower : barSize &&& (barSize - 1) = 0) :
    Keeps I (setRange capability barPaddr barSize commonPaddr : Prog Unit (Sizing δ) Unit) :=
  .modify fun s _ => h.set s _ rfl hsize hpower

theorem keeps_sizeBar32 (slot : Word) : Keeps I (sizeBar32 m capability slot) := by
  refine (h.keeps_accessed _).bind fun _ => ?_
  refine Keeps.bind (h.keeps_modify (fun _ => rfl) fun _ => rfl) fun _ => ?_
  refine (h.keeps_accessed _).bind fun _ => ?_
  refine Keeps.bind (h.keeps_modify (fun _ => rfl) fun _ => rfl) fun _ => ?_
  refine (keeps_unlessOut _).bind fun _ => (h.keeps_done _).bind fun _ => ?_
  refine Keeps.bind (h.keeps_modify (fun _ => rfl) fun _ => rfl) fun _ => ?_
  refine (h.keeps_done _).bind fun _ => ?_
  refine Keeps.bind (h.keeps_modify (fun _ => rfl) fun _ => rfl) fun _ => ?_
  refine (h.keeps_accessed _).bind fun _ => (h.keeps_done _).bind fun _ => ?_
  refine (h.keeps_accessed _).bind fun _ => ?_
  iterate 3 refine (keeps_unlessOut _).bind fun _ => ?_
  refine keeps_unlessOut_bind fun hsize => ?_
  iterate 2 refine (keeps_unlessOut _).bind fun _ => ?_
  exact h.keeps_setRange hsize.1 hsize.2.1

theorem keeps_sizeBar64 (slot : Word) : Keeps I (sizeBar64 m capability slot) := by
  refine (h.keeps_accessed _).bind fun _ => ?_
  refine Keeps.bind (h.keeps_modify (fun _ => rfl) fun _ => rfl) fun _ => ?_
  iterate 2
    refine (h.keeps_accessed _).bind fun _ => ?_
    refine Keeps.bind (h.keeps_modify (fun _ => rfl) fun _ => rfl) fun _ => ?_
  refine (keeps_unlessOut _).bind fun _ => (h.keeps_done _).bind fun _ => ?_
  refine Keeps.bind (h.keeps_modify (fun _ => rfl) fun _ => rfl) fun _ => ?_
  refine (h.keeps_done _).bind fun _ => ?_
  refine Keeps.bind (h.keeps_modify (fun _ => rfl) fun _ => rfl) fun _ => ?_
  refine (h.keeps_done _).bind fun _ => ?_
  refine (h.keeps_accessed _).bind fun _ => (h.keeps_accessed _).bind fun _ => ?_
  refine (h.keeps_done _).bind fun _ => (h.keeps_done _).bind fun _ => ?_
  refine (h.keeps_accessed _).bind fun _ => (h.keeps_accessed _).bind fun _ => ?_
  iterate 2 refine (keeps_unlessOut _).bind fun _ => ?_
  refine keeps_unlessOut_bind fun hsize => ?_
  iterate 2 refine (keeps_unlessOut _).bind fun _ => ?_
  exact h.keeps_setRange hsize.1 hsize.2.1

end Settles

theorem restoreBar32_wp (slot : Word) (s : Sizing δ) : wp (restoreBar32 m capability slot)
    (fun _ _ => False) (fun success s' => success = s.success ∧ s'.range = s.range) s := by
  have same : ∀ {c : Prop} [Decidable c] (f : δ → Bool × δ) (s' : Sizing δ), s'.range = s.range →
      wp (when c (attempt f) : Prog Bool (Sizing δ) Unit) (fun _ t => t.range = s.range)
        (fun success s' => success = s.success ∧ s'.range = s.range) s' :=
    fun f s' h => wp_when (fun _ => wp_modify h) fun _ => h
  unfold restoreBar32
  refine wp_bind (wp_get ?_)
  refine wp_seq (same _ s rfl) (fun _ _ h => h) fun _ s₁ h₁ => ?_
  refine wp_seq (same _ s₁ h₁) (fun _ _ h => h) fun _ s₂ h₂ => ?_
  exact wp_bind (wp_modify (wp_ret ⟨rfl, h₂⟩))

theorem restoreBar64_wp (slot : Word) (s : Sizing δ) : wp (restoreBar64 m capability slot)
    (fun _ _ => False) (fun success s' => success = s.success ∧ s'.range = s.range) s := by
  unfold restoreBar64
  refine wp_bind (wp_get ?_)
  refine wp_seq (Q := fun _ t => t.range = s.range) (E := fun _ _ => False)
    (wp_when (fun _ => wp_bind (wp_modify (wp_modify rfl))) fun _ => rfl) (fun _ _ h => h.elim) ?_
  intro _ s₁ h₁
  refine wp_seq (Q := fun _ t => t.range = s.range) (E := fun _ _ => False)
    (wp_when (fun _ => wp_modify h₁) fun _ => h₁) (fun _ _ h => h.elim) fun _ s₂ h₂ => ?_
  exact wp_bind (wp_modify (wp_ret ⟨rfl, h₂⟩))

namespace Settles

variable {I : Sizing δ → Prop} {P : Bool → Sizing δ → Prop} (h : Settles capability I P)

include h

/-- A transaction with its end. -/
theorem wp_label {body : Prog Unit (Sizing δ) Unit} {out : Prog Bool (Sizing δ) Unit}
    {s : Sizing δ} (hlength : VIRTIO_COMMON_CFG_MIN_LENGTH ≤ capability.length)
    (hs : s.success = false) (hbody : Keeps I body)
    (hout : ∀ s, wp out (fun _ _ => False)
      (fun success s' => success = s.success ∧ s'.range = s.range) s) :
    wp (label body out) (fun _ _ => False) P s := by
  have hreports : ∀ s', I s' → wp out (fun _ _ => False) P s' := by
    intro s' hs'
    refine wp_mono (hout s') (fun _ _ h => h) ?_
    rintro success t ⟨rfl, hrange⟩
    exact h.report s' t hlength hs' hrange
  exact Prog.wp_label (wp_mono (hbody s (h.start s hs)) (fun _ => hreports) fun _ => hreports)

theorem wp_validate32 (s : Sizing δ) :
    wp (validateCommonRange32 m capability) (fun _ _ => False) P s := by
  unfold validateCommonRange32
  refine wp_bind (wp_modify (wp_ite (fun _ => wp_ret (h.fail _)) fun hc => ?_))
  simp only [not_or, BitVec.not_lt] at hc
  refine wp_bind (wp_of_run (show access _ _ = _ from rfl) ?_)
  cases (acquireConfigIoport m _).1 with
  | none => exact wp_ret (h.fail _)
  | some slot =>
    exact h.wp_label hc.2.2.2.2.1 rfl (h.keeps_sizeBar32 slot) (restoreBar32_wp slot)

theorem wp_validate64 (s : Sizing δ) :
    wp (validateCommonRange64 m capability) (fun _ _ => False) P s := by
  unfold validateCommonRange64
  refine wp_bind (wp_modify (wp_ite (fun _ => wp_ret (h.fail _)) fun hc => ?_))
  simp only [not_or, BitVec.not_lt] at hc
  refine wp_bind (wp_of_run (show access _ _ = _ from rfl) ?_)
  cases (acquireConfigIoport m _).1 with
  | none => exact wp_ret (h.fail _)
  | some slot =>
    exact h.wp_label hc.2.2.2.2.1 rfl (h.keeps_sizeBar64 slot) (restoreBar64_wp slot)

/-- With any machine a validation returns, and `P` holds of what it returns. -/
theorem wp_validate (s : Sizing δ) :
    wp (validateCommonRange m capability) (fun _ _ => False) P s := by
  unfold validateCommonRange
  refine wp_ite (fun _ => wp_ret (h.fail _)) fun _ => ?_
  refine wp_bind (wp_of_run (show access _ _ = _ from rfl) ?_)
  cases (acquireConfigIoport m _).1 with
  | none => exact wp_ret (h.fail _)
  | some slot =>
    refine wp_bind (wp_of_run (show access _ _ = _ from rfl) (wp_bind (wp_modify ?_)))
    cases (readConfigDword m slot _ _ _ _).1 with
    | none => exact wp_ret (h.fail _)
    | some bar =>
      refine wp_ite (fun _ => wp_ret (h.fail _)) fun _ => ?_
      refine wp_ite (fun _ => h.wp_validate32 _) fun _ => ?_
      exact wp_ite (fun _ => h.wp_validate64 _) fun _ => wp_ret (h.fail _)

end Settles

/-- A validation that has succeeded so far has a sane range of its capability. -/
def Validated (capability : CommonCapability) (s : Sizing δ) : Prop :=
  s.success = true → s.range.Sane ∧ s.range.capability = capability

/-- The result of a validation. -/
def Reports (capability : CommonCapability) (success : Bool) (s : Sizing δ) : Prop :=
  success = true → s.range.Sane ∧ s.range.capability = capability ∧
    VIRTIO_COMMON_CFG_MIN_LENGTH ≤ capability.length

theorem settles_validated :
    Settles (δ := δ) capability (Validated capability) (Reports capability) where
  start s hs hsuccess := by
    rw [hs] at hsuccess
    cases hsuccess
  same s s' hsuccess hrange hs := by
    rw [Validated, hsuccess, hrange]
    exact hs
  set s range hcapability _ _ hsane := ⟨of_decide_eq_true hsane, hcapability⟩
  fail _ hsuccess := by cases hsuccess
  report s t hlength hs hrange hsuccess := by
    rw [hrange]
    exact ⟨(hs hsuccess).1, (hs hsuccess).2, hlength⟩

/-- **The validation**: with any machine it returns, and where it returns true, the range of the
caller is sane and the one of the capability, which is long enough. -/
theorem validateCommonRange_wp (s : Sizing δ) :
    wp (validateCommonRange m capability) (fun _ _ => False) (Reports capability) s :=
  settles_validated.wp_validate s

/-- The BAR of a validation that has succeeded so far has a size that is a power of two. -/
def PowerSized (success : Bool) (s : Sizing δ) : Prop :=
  success = true → ∃ k < 64, s.range.barSize.toNat = 2 ^ k

theorem settles_powerSized :
    Settles (δ := δ) capability (fun s => PowerSized s.success s) PowerSized where
  start s hs hsuccess := by
    rw [hs] at hsuccess
    cases hsuccess
  same s s' hsuccess hrange hs := by
    rw [PowerSized, hsuccess, hrange]
    exact hs
  set s range _ hsize hpower _ := by
    have hne : range.barSize.toNat ≠ 0 := fun h => hsize (BitVec.eq_of_toNat_eq h)
    have hone : (1 : Word).toNat = 1 := rfl
    have hpower := congrArg BitVec.toNat hpower
    rw [BitVec.toNat_and, BitVec.toNat_sub_of_le (by rw [BitVec.le_def]; omega), hone] at hpower
    obtain ⟨k, hk⟩ := Nat.ne_zero_and_sub_one_eq_zero_iff_isPowerOfTwo.mp ⟨hne, hpower⟩
    have hlt : 2 ^ k < 2 ^ 64 := by
      rw [← hk]
      exact range.barSize.isLt
    exact ⟨k, (Nat.pow_lt_pow_iff_right Nat.one_lt_two).mp hlt, hk⟩
  fail _ hsuccess := by cases hsuccess
  report s t _ hs hrange hsuccess := by
    rw [hrange]
    exact hs hsuccess

theorem validateCommonRange_powerSized (s : Sizing δ) :
    wp (validateCommonRange m capability) (fun _ _ => False) PowerSized s :=
  settles_powerSized.wp_validate s

end Specs

/-! ## The place in the page -/

/-- The page starts at a multiple of its size. -/
theorem CommonRange.Sane.pagePaddr_mod {range : CommonRange} (h : range.Sane) :
    range.pagePaddr.toNat % pageSize.toNat = 0 := by
  have hpage := congrArg BitVec.toNat h.page
  rw [BitVec.toNat_and] at hpage
  rw [show pageSize.toNat = 2 ^ 12 from rfl, ← Nat.and_two_pow_sub_one_eq_mod _ 12]
  exact hpage

/-- The range starts at the offset of its capability in the BAR, and in the page. -/
theorem CommonRange.Sane.place_eq {range : CommonRange} (h : range.Sane) :
    range.pagePaddr.toNat + range.pageOffset.toNat =
      range.barPaddr.toNat + range.capability.offset.toNat ∧
    range.pageOffset.toNat < pageSize.toNat := by
  have hpage := h.pagePaddr_mod
  have hoffset := congrArg BitVec.toNat h.offset
  have hpageOffset := congrArg BitVec.toNat h.pageOffset
  have hend := h.featureEnd
  have hle := h.le
  have hsize : pageSize.toNat = 4096 := rfl
  simp only [BitVec.le_def, BitVec.toNat_sub, BitVec.toNat_setWidth, hsize, BitVec.toNat_ofNat,
    VIRTIO_COMMON_DEVICE_FEATURE_OFF] at hpage hoffset hpageOffset hend hle ⊢
  omega

/-- The offset in the page is what is left of the place. -/
theorem CommonRange.Sane.pageOffset_eq {range : CommonRange} (h : range.Sane) :
    range.pageOffset.toNat =
      (range.barPaddr.toNat + range.capability.offset.toNat) % pageSize.toNat := by
  obtain ⟨hplace, hlt⟩ := h.place_eq
  rw [← hplace, Nat.add_mod, h.pagePaddr_mod, Nat.zero_add, Nat.mod_mod, Nat.mod_eq_of_lt hlt]

/-- The page is the one that the range starts in. -/
theorem CommonRange.Sane.pagePaddr_eq {range : CommonRange} (h : range.Sane) :
    range.pagePaddr.toNat =
      (range.barPaddr.toNat + range.capability.offset.toNat) / pageSize.toNat * pageSize.toNat := by
  rw [eq_comm, Nat.div_mul_self_eq_mod_sub_self, ← h.pageOffset_eq, ← h.place_eq.1,
    Nat.add_sub_cancel]

end SeLinOS.Pci
