import SeLinOS.CLogic.Aligned
import SeLinOS.Pci.Bus
import SeLinOS.Pci.CommonRange

/-!
# Transactions on a 32-bit memory BAR

`selinos_pci_assign_unconfigured_bar32`, which sizes a BAR and gives it an address, and
`selinos_pci_read_qemu_e1000_bar_range`, which sizes a BAR that has one. The debug texts of the
first are left out.

* `BarTransaction`: the machine, the resource of the caller and the locals.
* `assignUnconfiguredBar32`, `readE1000BarRange`: the functions.
* `MemoryBar32`: a BAR of size `2 ^ order`, and what the arithmetic of the functions gives for it.
-/

namespace SeLinOS.Pci

open CLogic Sel4

def SELINOS_QEMU_E1000_VENDOR_ID : BitVec 16 := 0x8086
def SELINOS_QEMU_E1000_DEVICE_ID : BitVec 16 := 0x100e
def PCI_VENDOR_DEVICE_OFF : BitVec 32 := 0x00
def PCI_32BIT_ADDRESS_LIMIT : Word := 0x100000000

/-- `struct selinos_pci_bar32_resource`. -/
structure Bar32Resource where
  paddr : Word
  size : Word
  barIndex : BitVec 32
  deriving Repr, DecidableEq

/-- `struct selinos_qemu_e1000_identity`. -/
structure E1000Identity where
  device : BitVec 32
  function : BitVec 32
  vendorId : BitVec 16
  deviceId : BitVec 16
  deriving Repr, DecidableEq

/-- The machine, the resource of the caller and the locals of a transaction. `commandChanged` is
`command_quiesced` where a BAR is read. -/
structure BarTransaction (δ : Type) where
  machine : δ
  resource : Bar32Resource
  originalCommand : BitVec 16
  originalBar : BitVec 32
  commandChanged : Bool
  barTouched : Bool
  success : Bool

/-- The locals at the start of the call. -/
def BarTransaction.enter {δ : Type} (machine : δ) (resource : Bar32Resource) : BarTransaction δ :=
  ⟨machine, resource, 0, 0, false, false, false⟩

instance {δ : Type} : Part (BarTransaction δ) δ where
  part := BarTransaction.machine
  withPart machine s := { s with machine }
  part_withPart _ _ := rfl
  withPart_part _ := rfl
  withPart_withPart _ _ _ := rfl

variable {δ ε : Type} (m : Machine δ)

/-- The place of a BAR in the configuration space. -/
def barOffset (barIndex : BitVec 32) : BitVec 32 := PCI_BAR0_OFF + 4 * barIndex

/-- `original_command & ~(PCI_COMMAND_MEMORY | PCI_COMMAND_MASTER)`. -/
def quiesced (originalCommand : BitVec 16) : BitVec 16 :=
  originalCommand &&& ~~~(PCI_COMMAND_MEMORY ||| PCI_COMMAND_MASTER)

/-- `((~(uint64_t)sizing_mask) & 0xffffffffull) + 1ull`. -/
def barSize64 (sizingMask : BitVec 32) : Word := (~~~(sizingMask.zeroExtend 64) &&& 0xffffffff) + 1

/-! ## Assignment -/

/-- The last part of `assignBar32`: the address in the window, and the BAR with it. -/
def programBar32 (device function barIndex : BitVec 32) (rangeStart rangeEnd slot : Word)
    (sizingMask : BitVec 32) (size64 : Word) : Prog Unit (BarTransaction δ) Unit := do
  Prog.unlessOut (size64 ≠ 0 ∧ size64 &&& (size64 - 1) = 0 ∧
    rangeStart ≤ UINTPTR_MAX - (size64 - 1))
  let alignedStart := (rangeStart + size64 - 1) &&& ~~~(size64 - 1)
  Prog.unlessOut (rangeStart ≤ alignedStart ∧ alignedStart ≤ rangeEnd ∧
    size64 ≤ rangeEnd - alignedStart ∧ alignedStart + size64 ≤ PCI_32BIT_ADDRESS_LIMIT)
  let programmedBar := alignedStart.setWidth 32 ||| sizingMask &&& 0x0f
  Prog.done (writeConfigDword m slot device function (barOffset barIndex) programmedBar)
  let readBackBar ← Prog.accessed (readConfigDword m slot device function (barOffset barIndex))
  Prog.unlessOut (readBackBar = programmedBar)
  Prog.modify fun s => { s with resource := ⟨alignedStart, size64, barIndex⟩, success := true }

/-- The part of `selinos_pci_assign_unconfigured_bar32` before `out`. -/
def assignBar32 (device function barIndex : BitVec 32) (rangeStart rangeEnd slot : Word) :
    Prog Unit (BarTransaction δ) Unit := do
  let originalCommand ← Prog.accessed (readConfigWord m slot device function PCI_COMMAND_STATUS_OFF)
  Prog.modify fun s => { s with originalCommand }
  let originalBar ← Prog.accessed (readConfigDword m slot device function (barOffset barIndex))
  Prog.modify fun s => { s with originalBar }
  Prog.done
    (writeConfigWord m slot device function PCI_COMMAND_STATUS_OFF (quiesced originalCommand))
  Prog.modify fun s => { s with commandChanged := true }
  let originalAddress := originalBar &&& PCI_BAR_MEMORY_MASK
  Prog.unlessOut (originalAddress = 0 ∨ originalAddress = PCI_BAR_MEMORY_MASK)
  Prog.done (writeConfigDword m slot device function (barOffset barIndex) 0xffffffff)
  let sizingMask ← Prog.accessed (readConfigDword m slot device function (barOffset barIndex))
  Prog.done (writeConfigDword m slot device function (barOffset barIndex) originalBar)
  Prog.modify fun s => { s with barTouched := true }
  Prog.unlessOut (sizingMask &&& 1 = 0 ∧
    sizingMask &&& PCI_BAR_MEMORY_TYPE_MASK = PCI_BAR_MEMORY_TYPE_32)
  let sizingMask := sizingMask &&& PCI_BAR_MEMORY_MASK
  Prog.unlessOut (sizingMask ≠ 0)
  programBar32 m device function barIndex rangeStart rangeEnd slot sizingMask (barSize64 sizingMask)

/-- The part of `selinos_pci_assign_unconfigured_bar32` from `out`. -/
def undoAssignment (device function barIndex : BitVec 32) (slot : Word) :
    Prog Bool (BarTransaction δ) Unit := do
  let s ← Prog.get
  Prog.when (¬ s.success ∧ s.barTouched) do
    Prog.attempt (writeConfigDword m slot device function (barOffset barIndex) s.originalBar)
  Prog.when s.commandChanged do
    Prog.attempt (writeConfigWord m slot device function PCI_COMMAND_STATUS_OFF s.originalCommand)
  Prog.modify fun s => { s with machine := releaseConfigIoport m slot s.machine }
  Prog.ret s.success

/-- `selinos_pci_assign_unconfigured_bar32`. -/
def assignUnconfiguredBar32 (device function barIndex : BitVec 32) (rangeStart rangeEnd : Word) :
    Prog Bool (BarTransaction δ) Unit := do
  Prog.modify fun s => .enter s.machine s.resource
  if device ≥ 32 ∨ function ≥ 8 ∨ barIndex ≥ PCI_BAR_COUNT ∨ rangeStart ≥ rangeEnd ∨
      rangeEnd > PCI_32BIT_ADDRESS_LIMIT then
    Prog.ret false
  else
    match ← Prog.access (acquireConfigIoport m) with
    | none => Prog.ret false
    | some slot =>
      Prog.label (assignBar32 m device function barIndex rangeStart rangeEnd slot)
        (undoAssignment m device function barIndex slot)

/-! ## Reading the range of an assigned BAR -/

/-- The part of `selinos_pci_read_qemu_e1000_bar_range` before `out`. -/
def sizeE1000Bar (identity : E1000Identity) (slot : Word) :
    Prog Unit (BarTransaction δ) Unit := do
  let device := identity.device
  let function := identity.function
  let observedIdentity ←
    Prog.accessed (readConfigDword m slot device function PCI_VENDOR_DEVICE_OFF)
  Prog.unlessOut ((observedIdentity &&& 0xffff).setWidth 16 = identity.vendorId ∧
    (observedIdentity >>> 16).setWidth 16 = identity.deviceId)
  let originalCommand ← Prog.accessed (readConfigWord m slot device function PCI_COMMAND_STATUS_OFF)
  Prog.modify fun s => { s with originalCommand }
  let originalBar ← Prog.accessed (readConfigDword m slot device function PCI_BAR0_OFF)
  Prog.modify fun s => { s with originalBar }
  Prog.unlessOut (originalBar &&& 1 = 0 ∧
    originalBar &&& PCI_BAR_MEMORY_TYPE_MASK = PCI_BAR_MEMORY_TYPE_32 ∧
    originalBar &&& PCI_BAR_MEMORY_MASK ≠ 0)
  Prog.done
    (writeConfigWord m slot device function PCI_COMMAND_STATUS_OFF (quiesced originalCommand))
  Prog.modify fun s => { s with commandChanged := true }
  Prog.done (writeConfigDword m slot device function PCI_BAR0_OFF 0xffffffff)
  Prog.modify fun s => { s with barTouched := true }
  let sizingMask ← Prog.accessed (readConfigDword m slot device function PCI_BAR0_OFF)
  Prog.done (writeConfigDword m slot device function PCI_BAR0_OFF originalBar)
  let restoredBar ← Prog.accessed (readConfigDword m slot device function PCI_BAR0_OFF)
  Prog.unlessOut (restoredBar = originalBar)
  Prog.modify fun s => { s with barTouched := false }
  Prog.unlessOut (sizingMask &&& 1 = 0 ∧
    sizingMask &&& PCI_BAR_MEMORY_TYPE_MASK = PCI_BAR_MEMORY_TYPE_32)
  let sizingMask := sizingMask &&& PCI_BAR_MEMORY_MASK
  Prog.unlessOut (sizingMask ≠ 0)
  let size64 := barSize64 sizingMask
  let paddr : Word := (originalBar &&& PCI_BAR_MEMORY_MASK).zeroExtend 64
  Prog.unlessOut (size64 ≠ 0 ∧ size64 &&& (size64 - 1) = 0 ∧ size64 ≤ UINTPTR_MAX ∧
    paddr ≤ PCI_32BIT_ADDRESS_LIMIT - size64)
  Prog.modify fun s => { s with resource := ⟨paddr, size64, 0⟩, success := true }

/-- `if (!write() || !read(&restored) || restored != original) success = false;` -/
def restoreVerified {α : Type} [DecidableEq α] (write : δ → Bool × δ) (read : δ → Option α × δ)
    (original : α) : Prog ε (BarTransaction δ) Unit := do
  let written ← Prog.access write
  if written = false then Prog.modify fun s => { s with success := false }
  else
    let restored ← Prog.access read
    Prog.when (restored ≠ some original) (Prog.modify fun s => { s with success := false })

/-- The part of `selinos_pci_read_qemu_e1000_bar_range` from `out`. -/
def restoreE1000Bar (identity : E1000Identity) (slot : Word) :
    Prog Bool (BarTransaction δ) Unit := do
  let device := identity.device
  let function := identity.function
  let s ← Prog.get
  Prog.when s.barTouched
    (restoreVerified (writeConfigDword m slot device function PCI_BAR0_OFF s.originalBar)
      (readConfigDword m slot device function PCI_BAR0_OFF) s.originalBar)
  Prog.when s.commandChanged
    (restoreVerified
      (writeConfigWord m slot device function PCI_COMMAND_STATUS_OFF s.originalCommand)
      (readConfigWord m slot device function PCI_COMMAND_STATUS_OFF) s.originalCommand)
  Prog.modify fun s => { s with machine := releaseConfigIoport m slot s.machine }
  let s ← Prog.get
  Prog.ret s.success

/-- `selinos_pci_read_qemu_e1000_bar_range`. -/
def readE1000BarRange (identity : E1000Identity) : Prog Bool (BarTransaction δ) Unit := do
  Prog.modify fun s => .enter s.machine s.resource
  if identity.device ≥ 32 ∨ identity.function ≥ 8 ∨
      identity.vendorId ≠ SELINOS_QEMU_E1000_VENDOR_ID ∨
      identity.deviceId ≠ SELINOS_QEMU_E1000_DEVICE_ID then
    Prog.ret false
  else
    match ← Prog.access (acquireConfigIoport m) with
    | none => Prog.ret false
    | some slot =>
      Prog.label (sizeE1000Bar m identity slot) (restoreE1000Bar m identity slot)

/-! ## Memory BARs -/

/-- A 32-bit memory BAR of size `2 ^ order`. -/
structure MemoryBar32 where
  order : Nat
  order_ge : 4 ≤ order
  order_lt : order < 32
  prefetchable : Bool

/-- The bits of the address, which are those that can be written. -/
def barMask (order : Nat) : BitVec 32 := BitVec.allOnes 32 <<< order

/-- The fixed bits: a memory BAR, 32 bits wide, prefetchable or not. -/
def barAttributes (prefetchable : Bool) : BitVec 32 := if prefetchable then 8 else 0

namespace MemoryBar32

def mask (bar : MemoryBar32) : BitVec 32 := barMask bar.order

def attributes (bar : MemoryBar32) : BitVec 32 := barAttributes bar.prefetchable

/-- The register at the address is one of this BAR. -/
structure At (bar : MemoryBar32) (writable registers : BitVec 32 → BitVec 32)
    (address : BitVec 32) : Prop where
  writable : writable address = bar.mask
  fixed : registers address &&& ~~~bar.mask = bar.attributes

variable (bar : MemoryBar32)

/-- What holds of each order and kind holds of the BAR. -/
theorem of_all {P : Nat → Bool → Prop} (h : ∀ order < 32, 4 ≤ order → ∀ prefetchable,
    P order prefetchable) : P bar.order bar.prefetchable :=
  h bar.order bar.order_lt bar.order_ge bar.prefetchable

/-- What the functions find in the sizing mask. -/
theorem sizing_eq : (bar.attributes ||| bar.mask) &&& 1 = 0 ∧
    (bar.attributes ||| bar.mask) &&& PCI_BAR_MEMORY_TYPE_MASK = PCI_BAR_MEMORY_TYPE_32 ∧
    (bar.attributes ||| bar.mask) &&& PCI_BAR_MEMORY_MASK = bar.mask := by
  refine bar.of_all (P := fun order prefetchable =>
    (barAttributes prefetchable ||| barMask order) &&& 1 = 0 ∧
    (barAttributes prefetchable ||| barMask order) &&& PCI_BAR_MEMORY_TYPE_MASK =
      PCI_BAR_MEMORY_TYPE_32 ∧
    (barAttributes prefetchable ||| barMask order) &&& PCI_BAR_MEMORY_MASK = barMask order) ?_
  decide

theorem mask_ne_zero : bar.mask ≠ 0 :=
  bar.of_all (P := fun order _ => barMask order ≠ 0) (by decide)

theorem mask_and_low : bar.mask &&& 0x0f = 0 :=
  bar.of_all (P := fun order _ => barMask order &&& 0x0f = 0) (by decide)

theorem mask_eq : bar.mask = ~~~(BitVec.twoPow 32 bar.order - 1) :=
  bar.of_all (P := fun order _ => barMask order = ~~~(BitVec.twoPow 32 order - 1)) (by decide)

theorem mask_and_memory : bar.mask &&& PCI_BAR_MEMORY_MASK = bar.mask :=
  bar.of_all (P := fun order _ => barMask order &&& PCI_BAR_MEMORY_MASK = barMask order) (by decide)

theorem mask_eq_memory : bar.mask = PCI_BAR_MEMORY_MASK ↔ bar.order = 4 :=
  bar.of_all (P := fun order _ => barMask order = PCI_BAR_MEMORY_MASK ↔ order = 4) (by decide)

theorem attributes_and_memory : bar.attributes &&& PCI_BAR_MEMORY_MASK = 0 :=
  bar.of_all (P := fun _ kind => barAttributes kind &&& PCI_BAR_MEMORY_MASK = 0) (by decide)

theorem attributes_eq_zero : bar.attributes = 0 ↔ bar.prefetchable = false :=
  bar.of_all (P := fun _ kind => barAttributes kind = 0 ↔ kind = false) (by decide)

/-- The size that the functions compute is the size of the BAR, a power of two. -/
theorem barSize64_mask : barSize64 bar.mask = BitVec.twoPow 64 bar.order ∧
    BitVec.twoPow 64 bar.order ≠ 0 ∧
    BitVec.twoPow 64 bar.order &&& (BitVec.twoPow 64 bar.order - 1) = 0 := by
  refine bar.of_all (P := fun order _ => barSize64 (barMask order) = BitVec.twoPow 64 order ∧
    BitVec.twoPow 64 order ≠ 0 ∧
    BitVec.twoPow 64 order &&& (BitVec.twoPow 64 order - 1) = 0) ?_
  decide

variable {bar} {writable registers : BitVec 32 → BitVec 32} {address : BitVec 32}

/-- The address part of the register, as the functions take it. -/
theorem At.address_eq (h : bar.At writable registers address) :
    registers address &&& PCI_BAR_MEMORY_MASK = registers address &&& bar.mask := by
  calc registers address &&& PCI_BAR_MEMORY_MASK
      = maskedWrite bar.mask (registers address) (registers address) &&& PCI_BAR_MEMORY_MASK := by
        rw [maskedWrite_self]
    _ = registers address &&& bar.mask := by
        rw [maskedWrite, h.fixed, BitVec.and_or_distrib_right, bar.attributes_and_memory,
          BitVec.and_assoc, bar.mask_and_memory]
        exact BitVec.zero_or

/-- What the BAR holds after a write of `x` to its address bits is `x` unless it is
prefetchable. -/
theorem At.write_eq_iff (h : bar.At writable registers address) {x : BitVec 32}
    (hx : x &&& bar.mask = x) :
    maskedWrite (writable address) (registers address) x = x ↔ bar.prefetchable = false := by
  have hfixed : x &&& ~~~bar.mask = 0 := by
    rw [← hx, BitVec.and_assoc]
    simp
  rw [maskedWrite_eq_iff, h.writable, h.fixed, hfixed, ← bar.attributes_eq_zero]
  exact eq_comm

/-- The all-ones write gives the sizing mask. -/
theorem At.sizing (h : bar.At writable registers address) :
    maskedWrite (writable address) (registers address) 0xffffffff =
      bar.attributes ||| bar.mask := by
  rw [maskedWrite, h.writable, h.fixed]
  congr 1
  exact BitVec.allOnes_and

end MemoryBar32

end SeLinOS.Pci
