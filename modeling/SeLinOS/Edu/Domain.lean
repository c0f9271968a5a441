import Mathlib.Logic.Function.Basic
import SeLinOS.Edu.Process
import SeLinOS.Pci.Bar32

/-!
# The edu domains of the root task

The discovery of the QEMU edu functions (`selinos_pci_enumerate_qemu_edu`), and what the root task
starts for each of them (`selinos_edu_domain.c`): a `deviced` first for every function, then for
every function a `dmad`, an `irqd` and the driver.

The calls of the allocators, of the process library and of the kernel answer with a word each. The
answers are those of an environment that counts the calls: 0 for success, a slot, an address. Of
what it has allocated for a domain the root task frees only a DMA frame at another address than the
one asked for, and it then stops: of an object only what is looked at later is kept.

* `enumerateQemuEdu`: the records of the functions.
* `EduRoot`: the static variables, and the processes that were spawned.
* `startDevicedDomain`, `startEduDriverDomain`, `startEduDomains`: the code. A function that returns
  true falls through; where one returns false, its callers return false.
-/

namespace SeLinOS.Edu

open CLogic Sel4

def QEMU_EDU_VENDOR_ID : BitVec 16 := 0x1234
def QEMU_EDU_DEVICE_ID : BitVec 16 := 0x11e8
def QEMU_EDU_BAR0_SIZE : Word := 1 <<< 20
def PCI_INTERRUPT_LINE_OFF : BitVec 32 := 0x3c
def MAX_QEMU_EDU_INSTANCES : Nat := 2
def EDU_DMA_PADDR : Word := 0x02000000
def DEVICED_REQUEST_ENDPOINT : Word := 8
/-- `struct selinos_qemu_edu_resource`. -/
structure EduResource where
  bar0Paddr : Word
  bar0Size : Word
  irqLine : BitVec 32
  deriving Repr, DecidableEq

/-! ## Discovery -/

section Discovery

variable {δ : Type} (m : Pci.Machine δ)

/-- `discover_qemu_edu_function`. -/
def discoverQemuEduFunction (ioport : Word) (device : BitVec 32) (d : δ) :
    Option EduResource × δ :=
  match Pci.readConfigDword m ioport device 0 Pci.PCI_VENDOR_DEVICE_OFF d with
  | (none, d) => (none, d)
  | (some id, d) =>
    if (id &&& 0xffff).setWidth 16 ≠ QEMU_EDU_VENDOR_ID ∨
        (id >>> 16).setWidth 16 ≠ QEMU_EDU_DEVICE_ID then
      (none, d)
    else
      match Pci.readConfigDword m ioport device 0 Pci.PCI_BAR0_OFF d with
      | (none, d) => (none, d)
      | (some bar0, d) =>
        match Pci.readConfigDword m ioport device 0 PCI_INTERRUPT_LINE_OFF d with
        | (none, d) => (none, d)
        | (some irqLine, d) =>
          match Pci.readConfigDword m ioport device 0 Pci.PCI_COMMAND_STATUS_OFF d with
          | (none, d) => (none, d)
          | (some commandStatus, d) =>
            if bar0 &&& 0x1 ≠ 0 ∨ bar0 &&& 0x6 = 0x4 ∨ irqLine &&& 0xff = 0xff ∨
                bar0 &&& Pci.PCI_BAR_MEMORY_MASK = 0 then
              (none, d)
            else
              match Pci.writeConfigDword m ioport device 0 Pci.PCI_COMMAND_STATUS_OFF
                (commandStatus ||| 0x0006) d with
              | (false, d) => (none, d)
              | (true, d) =>
                (some ⟨(bar0 &&& Pci.PCI_BAR_MEMORY_MASK).setWidth 64, QEMU_EDU_BAR0_SIZE,
                  irqLine &&& 0xff⟩, d)

/-- The loop of `selinos_pci_enumerate_qemu_edu` over the next `n` devices. -/
def discoverFrom (ioport : Word) : Nat → Nat → δ → List EduResource × δ
  | _, 0, d => ([], d)
  | device, n + 1, d =>
    let (candidate, d) := discoverQemuEduFunction m ioport (BitVec.ofNat 32 device) d
    let (rest, d) := discoverFrom ioport (device + 1) n d
    (candidate.toList ++ rest, d)

/-- `selinos_pci_enumerate_qemu_edu`: the records of all functions, of which the caller gets as many
as it has place for. A slot is freed where it stays without the capability. -/
def enumerateQemuEdu (d : δ) : List EduResource × δ :=
  match m.cspaceAlloc d with
  | (none, d) => ([], d)
  | (some slot, d) =>
    match m.ioportIssue slot d with
    | (false, d) => ([], m.cspaceFree slot d)
    | (true, d) => discoverFrom m slot 0 32 d

end Discovery

/-! ## The root task -/

/-- The programs of the domains. -/
inductive Image where
  | deviced | dmad | irqd | driver
  deriving Repr, DecidableEq

/-- A process that was spawned for an instance, with its arguments after the name of the program. -/
structure Spawned where
  image : Image
  instanceIndex : Nat
  arguments : List CStr
  deriving DecidableEq

/-- The static variables by instance, the number of calls so far and the processes. -/
structure EduRoot where
  nextDeviceToken : Word
  deviceToken : Nat → Word
  barArgument : Nat → List UInt8
  barLenArgument : Nat → List UInt8
  irqArgument : Nat → List UInt8
  tokenArgument : Nat → List UInt8
  dmaArgument : Nat → List UInt8
  dmaPaddr : Nat → Word
  devicedRequestEndpoint : Nat → Word
  calls : Nat
  spawned : List Spawned

/-- The variables before the first call. -/
def EduRoot.boot : EduRoot where
  nextDeviceToken := 1
  deviceToken _ := 0
  barArgument _ := List.replicate 17 0
  barLenArgument _ := List.replicate 17 0
  irqArgument _ := List.replicate 3 0
  tokenArgument _ := List.replicate 17 0
  dmaArgument _ := List.replicate 9 0
  dmaPaddr _ := 0
  devicedRequestEndpoint _ := 0
  calls := 0
  spawned := []

section Root

variable (env : Nat → Word)

/-- A call. -/
def ask : Prog Bool EduRoot Word := fun s => .ok (env s.calls) { s with calls := s.calls + 1 }

/-- `if (f() != answer) return false;` -/
def expect (answer : Word) : Prog Bool EduRoot Unit := do
  let given ← ask env
  Prog.when (given ≠ answer) (Prog.ret false)

/-- `if (!c) return false;` -/
def require (c : Prop) [Decidable c] : Prog Bool EduRoot Unit := Prog.when (¬ c) (Prog.ret false)

/-- `sel4utils_spawn_process_v`. The process gets copies of its arguments. -/
def spawn (image : Image) (i : Nat) (arguments : EduRoot → List CStr) :
    Prog Bool EduRoot Unit := do
  expect env 0
  Prog.modify fun s => { s with spawned := s.spawned ++ [⟨image, i, arguments s⟩] }

/-- `requested_paddr`. -/
def requestedPaddr (i : Nat) : Word := EDU_DMA_PADDR + BitVec.ofNat 64 i <<< 24

/-- The token and the arguments of `deviced` for a function. -/
def recordResource (resource : EduResource) (i : Nat) (s : EduRoot) : EduRoot :=
  let token : Word := if s.nextDeviceToken = 0 then 1 else s.nextDeviceToken
  { s with
    nextDeviceToken := token + 1
    deviceToken := Function.update s.deviceToken i token
    barArgument := Function.update s.barArgument i (formatWordHex resource.bar0Paddr)
    barLenArgument := Function.update s.barLenArgument i (formatWordHex resource.bar0Size)
    tokenArgument := Function.update s.tokenArgument i (formatWordHex token)
    irqArgument := Function.update s.irqArgument i (formatByteHex resource.irqLine) }

/-- `active_argv`. -/
def activeArguments (i : Nat) (s : EduRoot) : List CStr :=
  [argument (s.barArgument i), argument (s.barLenArgument i), argument (s.irqArgument i),
    argument (s.tokenArgument i)]

/-- `selinos_start_deviced_domain`; without a resource it starts dormant. -/
def startDevicedDomain (resource : Option EduResource) (i : Nat) : Prog Bool EduRoot Unit := do
  require (i < MAX_QEMU_EDU_INSTANCES)
  match resource with
  | some resource =>
    require (resource.bar0Size = QEMU_EDU_BAR0_SIZE ∧ resource.irqLine ≠ 0xff ∧
      resource.bar0Paddr ≠ 0)
    expect env 0
    let endpoint ← ask env
    Prog.modify fun s => { s with
      devicedRequestEndpoint := Function.update s.devicedRequestEndpoint i endpoint }
    Prog.modify (recordResource resource i)
    expect env 0
    expect env DEVICED_REQUEST_ENDPOINT
    spawn env .deviced i (activeArguments i)
  | none =>
    expect env 0
    spawn env .deviced i fun _ => []

end Root

end SeLinOS.Edu
