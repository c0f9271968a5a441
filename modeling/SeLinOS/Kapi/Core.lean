import SeLinOS.CLogic.Serve
import SeLinOS.Sel4.Ipc

/-!
# The driver KAPI

The functions of `kapi_core.c` over its three static records: the IRQ binding, the DMA lease and the
PCI binding. The functions that only read or write memory of their caller (completions, timers, spin
locks) and those that always fail (`kmalloc`, `ioremap`) are left out.

Four functions run a callback of the driver, and the callback may call any function again. A call
ends where the callback starts, with a `Frame` on the stack of callbacks that have not returned;
`callbackReturn` is the rest of the function that ran the innermost one.

* `State`, `Call`, `Ret`: the state, a call with what the servers answer while it is made, its
  result.
* `call`: what a call does.
-/

namespace SeLinOS.Kapi

open CLogic Sel4

/-- `seL4_CPtr`. -/
abbrev CPtr : Type := Word

def EINVAL : Int := 22
def ENODEV : Int := 19
def PCI_ANY_ID : BitVec 32 := 0xffff
def PCI_FLAG_ENABLED : BitVec 32 := 1
def PCI_FLAG_MASTER : BitVec 32 := 2
def DEVICED_REGISTER_ACCEPTED : Word := 0x53445041
def DEVICED_REGISTER_NO_MATCH : Word := 0x5344504e
def DEVICED_QEMU_EDU_VENDOR : Word := 0x1234
def DEVICED_QEMU_EDU_DEVICE : Word := 0x11e8
def DEVICED_REGISTER_REPLY_WORDS : Nat := 7
def DEVICED_REPLY_MAGIC_INDEX : Nat := 0
def DEVICED_REPLY_TOKEN_INDEX : Nat := 1
def DEVICED_REPLY_VENDOR_INDEX : Nat := 2
def DEVICED_REPLY_DEVICE_INDEX : Nat := 3
def DEVICED_REPLY_IRQ_INDEX : Nat := 4
def DEVICED_REPLY_BAR0_LEN_INDEX : Nat := 6
def IRQD_REGISTER_ACCEPTED : Word := 0x53495241
def IRQD_UNREGISTER_ACCEPTED : Word := 0x53495541
def DMAD_FREE_MAGIC : Word := 0x53444d46
def DMAD_FREE_ACCEPTED : Word := 0x53444d41

/-- A `struct device *`, or a `struct pci_dev *`, whose first member is its `dev`: NULL, the shadow
device of the PCI binding, or a structure of the caller. -/
inductive DevicePtr where
  | null
  | shadow
  | caller (address : Word)
  deriving Repr, DecidableEq

/-- `struct pci_device_id`. -/
structure PciDeviceId where
  vendor : BitVec 32
  device : BitVec 32
  subvendor : BitVec 32
  subdevice : BitVec 32
  «class» : BitVec 32
  classMask : BitVec 32
  driverData : Word
  deriving Repr, DecidableEq

/-- A `struct pci_driver` at its address: its table, and whether it has the two callbacks. -/
structure PciDriver where
  address : Word
  idTable : Option (Nat → PciDeviceId)
  probe : Bool
  remove : Bool

/-- The fields of `struct pci_dev` that a function reads. -/
structure PciDev where
  deviceToken : Word
  flags : BitVec 32
  irq : BitVec 8
  deriving Repr, DecidableEq

/-- `struct selinos_kapi_irq_binding`. A handler is a function pointer. -/
structure IrqBinding where
  irq : BitVec 32
  handler : Word
  devId : Word
  notificationCap : CPtr
  completionEndpoint : CPtr
  requestEndpoint : CPtr
  registerControl : CPtr
  unregisterControl : CPtr
  deviceToken : Word
  deriving Repr, DecidableEq

/-- `struct selinos_kapi_dma_lease`. -/
structure DmaLease where
  device : DevicePtr
  cpuAddress : Word
  dmaAddress : Word
  size : Word
  supportedMask : Word
  selectedMask : Word
  allocatedSize : Word
  freeEndpoint : CPtr
  configured : Bool
  allocated : Bool
  revoked : Bool
  deriving Repr, DecidableEq

/-- `struct selinos_kapi_pci_binding`; of the driver, its address. -/
structure PciBinding where
  requestEndpoint : CPtr
  driver : Option Word
  shadowPdev : PciDev
  probing : Bool
  active : Bool
  deriving Repr, DecidableEq

/-- A callback that has not returned. -/
inductive Frame where
  | probe
  | remove
  | irqHandler
  | work
  deriving Repr, DecidableEq

/-- The static records, and the callbacks in progress, the innermost first. -/
structure State where
  irq : IrqBinding
  dma : DmaLease
  pci : PciBinding
  frames : List Frame
  deriving Repr, DecidableEq

/-- The records before the first call: all zero. -/
def State.boot : State where
  irq := ⟨0, 0, 0, 0, 0, 0, 0, 0, 0⟩
  dma := ⟨.null, 0, 0, 0, 0, 0, 0, 0, false, false, false⟩
  pci := ⟨0, none, ⟨0, 0, 0⟩, false, false⟩
  frames := []

/-- A call, with the replies of the servers that it calls. `none` is a NULL driver. -/
inductive Call where
  | bindDeviced (requestEndpoint : Word)
  | registerDriver (driver : Option PciDriver) (replies : Nat → Message)
  | unregisterDriver (driver : Option PciDriver)
  | enableDevice (pdev : DevicePtr)
  | disableDevice (pdev : DevicePtr)
  | setMaster (pdev : DevicePtr)
  | requestIrq (irq : BitVec 32) (handler devId : Word) (reply : Message)
  | freeIrq (irq : BitVec 32) (devId : Word) (reply : Message)
  | bindIrq (irq : BitVec 32) (notificationCap completionEndpoint requestEndpoint registerControl
      unregisterControl : Word)
  | dispatchOneIrq
  | bindDmaLease (dev : DevicePtr) (cpuAddress dmaAddress size dmaMask freeEndpoint : Word)
  | setMaskAndCoherent (dev : DevicePtr) (mask : Word)
  | allocCoherent (dev : DevicePtr) (size : Word) (dmaHandle : Bool)
  | freeCoherent (dev : DevicePtr) (size cpuAddr dmaHandle callerToken : Word) (reply : Message)
  | scheduleWork (runnable : Bool)
  /-- The innermost callback returns, a probe with its status. -/
  | callbackReturn (status : Int)

/-- What a call gives its caller. -/
inductive Ret where
  | int (status : Int)
  | void
  /-- `dma_alloc_coherent`: NULL, or the pointer and `*dma_handle`. -/
  | memory (allocation : Option (Word × Word))
  /-- `dma_free_coherent`, after its request to dmad. -/
  | asked (request : Message)
  /-- A callback of the driver runs. -/
  | callback
  deriving Repr, DecidableEq

/-! ## PCI drivers -/

/-- `selinos_pci_id_is_sentinel`. -/
def PciDeviceId.IsSentinel (id : PciDeviceId) : Prop :=
  id.vendor = 0 ∧ id.device = 0 ∧ id.subvendor = 0 ∧ id.subdevice = 0 ∧ id.class = 0 ∧
    id.classMask = 0 ∧ id.driverData = 0

instance (id : PciDeviceId) : Decidable id.IsSentinel := inferInstanceAs (Decidable (_ ∧ _))

/-- `selinos_pci_id_is_supported`. -/
def PciDeviceId.IsSupported (id : PciDeviceId) : Prop :=
  (id.subvendor = 0 ∨ id.subvendor = PCI_ANY_ID) ∧ (id.subdevice = 0 ∨ id.subdevice = PCI_ANY_ID) ∧
    id.class = 0 ∧ id.classMask = 0

instance (id : PciDeviceId) : Decidable id.IsSupported := inferInstanceAs (Decidable (_ ∧ _))

/-- `selinos_kapi_bind_deviced`. -/
def bindDeviced (requestEndpoint : Word) (s : State) : Ret × State :=
  if requestEndpoint = 0 ∨ s.pci.requestEndpoint ≠ 0 then (.int (-EINVAL), s)
  else (.int 0, { s with pci := { s.pci with requestEndpoint } })

/-- The checks of a reply of deviced. -/
def ValidReply (reply : Message) : Prop :=
  reply.length = DEVICED_REGISTER_REPLY_WORDS ∧
    reply.mr DEVICED_REPLY_MAGIC_INDEX = DEVICED_REGISTER_ACCEPTED ∧
    reply.mr DEVICED_REPLY_TOKEN_INDEX ≠ 0 ∧
    reply.mr DEVICED_REPLY_VENDOR_INDEX = DEVICED_QEMU_EDU_VENDOR ∧
    reply.mr DEVICED_REPLY_DEVICE_INDEX = DEVICED_QEMU_EDU_DEVICE ∧
    reply.mr DEVICED_REPLY_IRQ_INDEX ≠ 0 ∧ reply.mr DEVICED_REPLY_IRQ_INDEX ≤ 0xff ∧
    reply.mr DEVICED_REPLY_BAR0_LEN_INDEX ≠ 0

instance (reply : Message) : Decidable (ValidReply reply) := inferInstanceAs (Decidable (_ ∧ _))

/-- How the loop of `pci_register_driver` over the table ends. -/
inductive Match where
  | noDevice
  | invalid
  | accepted (reply : Message)
  deriving Repr, DecidableEq

/-- The loop over the table from `index` on, `n` entries; deviced is asked for each supported
one. -/
def matchFrom (idTable : Nat → PciDeviceId) (replies : Nat → Message) : Nat → Nat → Match
  | _, 0 => .noDevice
  | index, n + 1 =>
    if (idTable index).IsSentinel then .noDevice
    else if ¬ (idTable index).IsSupported then matchFrom idTable replies (index + 1) n
    else
      let reply := replies index
      if reply.length = 1 ∧ reply.mr 0 = DEVICED_REGISTER_NO_MATCH then
        matchFrom idTable replies (index + 1) n
      else if ¬ ValidReply reply then .invalid
      else .accepted reply

/-- `pci_register_driver` from an accepted reply to the call of `probe`. -/
def startProbe (driver : PciDriver) (reply : Message) (s : State) : State :=
  let shadowPdev : PciDev := ⟨reply.mr DEVICED_REPLY_TOKEN_INDEX, 0,
    (reply.mr DEVICED_REPLY_IRQ_INDEX).setWidth 8⟩
  { s with
    dma := if s.dma.configured ∧ s.dma.device = .null then { s.dma with device := .shadow }
      else s.dma
    irq := if s.irq.irq = shadowPdev.irq.setWidth 32 then
        { s.irq with deviceToken := shadowPdev.deviceToken }
      else s.irq
    pci := { s.pci with shadowPdev, driver := some driver.address, probing := true }
    frames := .probe :: s.frames }

/-- `pci_register_driver` up to the call of `probe`. -/
def registerDriver (driver : Option PciDriver) (replies : Nat → Message) (s : State) :
    Ret × State :=
  match driver with
  | none => (.int (-EINVAL), s)
  | some driver =>
    match driver.idTable with
    | none => (.int (-EINVAL), s)
    | some idTable =>
      if ¬ driver.probe ∨ s.pci.requestEndpoint = 0 ∨ s.pci.active then (.int (-EINVAL), s)
      else
        match matchFrom idTable replies 0 64 with
        | .noDevice => (.int (-ENODEV), s)
        | .invalid => (.int (-EINVAL), s)
        | .accepted reply => (.callback, startProbe driver reply s)

/-- `pci_register_driver` after `probe`. -/
def finishProbe (probeStatus : Int) (s : State) : Ret × State :=
  let s := { s with pci := { s.pci with probing := false } }
  if probeStatus ≠ 0 then
    (.int probeStatus, { s with
      dma := if ¬ s.dma.allocated then { s.dma with device := .null } else s.dma
      irq := { s.irq with deviceToken := 0 }
      pci := { s.pci with driver := none, shadowPdev := ⟨0, 0, 0⟩ } })
  else (.int 0, { s with pci := { s.pci with active := true } })

/-- `pci_unregister_driver` after `remove`. -/
def finishRemove (s : State) : State :=
  { s with
    dma := if ¬ s.dma.allocated then { s.dma with device := .null, selectedMask := 0 } else s.dma
    irq := { s.irq with deviceToken := 0 }
    pci := { s.pci with driver := none, active := false, shadowPdev := ⟨0, 0, 0⟩ } }

/-- `pci_unregister_driver` up to the call of `remove`, or all of it without one. -/
def unregisterDriver (driver : Option PciDriver) (s : State) : Ret × State :=
  match driver with
  | none => (.void, s)
  | some driver =>
    if s.pci.driver ≠ some driver.address ∨ ¬ s.pci.active then (.void, s)
    else if driver.remove then (.callback, { s with frames := .remove :: s.frames })
    else (.void, finishRemove s)

/-- `pci_enable_device`. -/
def enableDevice (pdev : DevicePtr) (s : State) : Ret × State :=
  if pdev ≠ .shadow ∨ (¬ s.pci.active ∧ ¬ s.pci.probing) ∨ s.pci.shadowPdev.deviceToken = 0 then
    (.int (-EINVAL), s)
  else
    let flags := s.pci.shadowPdev.flags ||| PCI_FLAG_ENABLED
    (.int 0, { s with pci := { s.pci with shadowPdev := { s.pci.shadowPdev with flags } } })

/-- `pci_disable_device`. -/
def disableDevice (pdev : DevicePtr) (s : State) : Ret × State :=
  if pdev ≠ .shadow then (.void, s)
  else
    let flags := s.pci.shadowPdev.flags &&& ~~~ (PCI_FLAG_ENABLED ||| PCI_FLAG_MASTER)
    (.void, { s with pci := { s.pci with shadowPdev := { s.pci.shadowPdev with flags } } })

/-- `pci_set_master`. -/
def setMaster (pdev : DevicePtr) (s : State) : Ret × State :=
  if pdev ≠ .shadow ∨ s.pci.shadowPdev.flags &&& PCI_FLAG_ENABLED = 0 then (.int (-EINVAL), s)
  else
    let flags := s.pci.shadowPdev.flags ||| PCI_FLAG_MASTER
    (.int 0, { s with pci := { s.pci with shadowPdev := { s.pci.shadowPdev with flags } } })

/-! ## IRQs -/

/-- `request_irq`, with the reply of irqd. -/
def requestIrq (irq : BitVec 32) (handler devId : Word) (reply : Message) (s : State) :
    Ret × State :=
  if handler = 0 ∨ s.irq.notificationCap = 0 ∨ s.irq.completionEndpoint = 0 ∨
      s.irq.requestEndpoint = 0 ∨ s.irq.handler ≠ 0 ∨ s.irq.irq ≠ irq ∨ s.irq.deviceToken = 0 then
    (.int (-EINVAL), s)
  else if reply.length ≠ 1 ∨ reply.mr 0 ≠ IRQD_REGISTER_ACCEPTED then (.int (-EINVAL), s)
  else (.int 0, { s with irq := { s.irq with handler, devId } })

/-- `free_irq`, with the reply of irqd. -/
def freeIrq (irq : BitVec 32) (devId : Word) (reply : Message) (s : State) : Ret × State :=
  if s.irq.handler = 0 ∨ s.irq.irq ≠ irq ∨ s.irq.devId ≠ devId then (.void, s)
  else if s.irq.deviceToken = 0 then (.void, s)
  else if reply.length ≠ 1 ∨ reply.mr 0 ≠ IRQD_UNREGISTER_ACCEPTED then (.void, s)
  else (.void, { s with irq := { s.irq with handler := 0, devId := 0 } })

/-- `selinos_kapi_bind_irq`. -/
def bindIrq (irq : BitVec 32) (notificationCap completionEndpoint requestEndpoint registerControl
    unregisterControl : Word) (s : State) : Ret × State :=
  if irq = 0 ∨ notificationCap = 0 ∨ completionEndpoint = 0 ∨ requestEndpoint = 0 ∨
      registerControl = 0 ∨ unregisterControl = 0 ∨ s.irq.notificationCap ≠ 0 ∨
      s.irq.completionEndpoint ≠ 0 ∨ s.irq.requestEndpoint ≠ 0 ∨ s.irq.registerControl ≠ 0 ∨
      s.irq.unregisterControl ≠ 0 then
    (.int (-EINVAL), s)
  else
    (.int 0, { s with irq := { s.irq with
      irq, notificationCap, completionEndpoint, requestEndpoint, registerControl,
      unregisterControl } })

/-- `selinos_kapi_dispatch_one_irq` up to the call of the handler. -/
def dispatchOneIrq (s : State) : Ret × State :=
  if s.irq.handler = 0 ∨ s.irq.notificationCap = 0 ∨ s.irq.completionEndpoint = 0 then
    (.int (-EINVAL), s)
  else (.callback, { s with frames := .irqHandler :: s.frames })

/-! ## The DMA lease -/

/-- `selinos_kapi_bind_dma_lease`. -/
def bindDmaLease (dev : DevicePtr) (cpuAddress dmaAddress size dmaMask freeEndpoint : Word)
    (s : State) : Ret × State :=
  if cpuAddress = 0 ∨ dmaAddress = 0 ∨ size = 0 ∨ dmaMask = 0 ∨ freeEndpoint = 0 ∨
      s.dma.configured ∨ dmaAddress > dmaMask ∨ size - 1 > dmaMask - dmaAddress then
    (.int (-EINVAL), s)
  else
    (.int 0, { s with dma := { s.dma with
      device := dev, cpuAddress, dmaAddress, size, supportedMask := dmaMask, freeEndpoint,
      configured := true } })

/-- `dma_set_mask_and_coherent`. -/
def setMaskAndCoherent (dev : DevicePtr) (mask : Word) (s : State) : Ret × State :=
  if dev = .null ∨ dev ≠ s.dma.device ∨ s.dma.revoked ∨ mask = 0 ∨ mask > s.dma.supportedMask ∨
      s.dma.dmaAddress > mask ∨ s.dma.size - 1 > mask - s.dma.dmaAddress then
    (.int (-EINVAL), s)
  else (.int 0, { s with dma := { s.dma with selectedMask := mask } })

/-- `dma_alloc_coherent`; `dmaHandle`: the pointer to the handle is not NULL. -/
def allocCoherent (dev : DevicePtr) (size : Word) (dmaHandle : Bool) (s : State) : Ret × State :=
  if dev = .null ∨ ¬ dmaHandle ∨ dev ≠ s.dma.device ∨ s.dma.revoked ∨ s.dma.selectedMask = 0 ∨
      s.dma.allocated ∨ size = 0 ∨ size > s.dma.size then
    (.memory none, s)
  else
    (.memory (some (s.dma.cpuAddress, s.dma.dmaAddress)),
      { s with dma := { s.dma with allocatedSize := size, allocated := true } })

/-- `dev->selinos_device_token`, read in a structure of the caller or in the shadow device. -/
def deviceToken (dev : DevicePtr) (callerToken : Word) (s : State) : Word :=
  if dev = .shadow then s.pci.shadowPdev.deviceToken else callerToken

/-- dmad has accepted the free. -/
def FreeAccepted (reply : Message) : Prop := reply.length = 1 ∧ reply.mr 0 = DMAD_FREE_ACCEPTED

instance (reply : Message) : Decidable (FreeAccepted reply) := inferInstanceAs (Decidable (_ ∧ _))

/-- `dma_free_coherent`, with the reply of dmad. -/
def freeCoherent (dev : DevicePtr) (size cpuAddr dmaHandle callerToken : Word) (reply : Message)
    (s : State) : Ret × State :=
  if dev ≠ s.dma.device ∨ ¬ s.dma.allocated ∨ size ≠ s.dma.allocatedSize ∨
      cpuAddr ≠ s.dma.cpuAddress ∨ dmaHandle ≠ s.dma.dmaAddress then
    (.void, s)
  else
    let token := deviceToken dev callerToken s
    if token = 0 then (.void, s)
    else
      let request := Message.ofWords [DMAD_FREE_MAGIC, token, dmaHandle, size]
      if ¬ FreeAccepted reply then (.asked request, s)
      else
        (.asked request, { s with dma := { s.dma with
          allocatedSize := 0, allocated := false, revoked := true } })

/-! ## Calls -/

/-- The rest of the function whose callback returns. -/
def callbackReturn (status : Int) (s : State) : Option (Ret × State) :=
  match s.frames with
  | [] => none
  | .probe :: frames => some (finishProbe status { s with frames })
  | .remove :: frames => some (.void, finishRemove { s with frames })
  | .irqHandler :: frames => some (.int 0, { s with frames })
  | .work :: frames => some (.int 1, { s with frames })

/-- What a call does; only the return of a callback needs one to be running. -/
def call : Call → State → Option (Ret × State)
  | .bindDeviced requestEndpoint, s => some (bindDeviced requestEndpoint s)
  | .registerDriver driver replies, s => some (registerDriver driver replies s)
  | .unregisterDriver driver, s => some (unregisterDriver driver s)
  | .enableDevice pdev, s => some (enableDevice pdev s)
  | .disableDevice pdev, s => some (disableDevice pdev s)
  | .setMaster pdev, s => some (setMaster pdev s)
  | .requestIrq irq handler devId reply, s => some (requestIrq irq handler devId reply s)
  | .freeIrq irq devId reply, s => some (freeIrq irq devId reply s)
  | .bindIrq irq notificationCap completionEndpoint requestEndpoint registerControl
      unregisterControl, s =>
    some (bindIrq irq notificationCap completionEndpoint requestEndpoint registerControl
      unregisterControl s)
  | .dispatchOneIrq, s => some (dispatchOneIrq s)
  | .bindDmaLease dev cpuAddress dmaAddress size dmaMask freeEndpoint, s =>
    some (bindDmaLease dev cpuAddress dmaAddress size dmaMask freeEndpoint s)
  | .setMaskAndCoherent dev mask, s => some (setMaskAndCoherent dev mask s)
  | .allocCoherent dev size dmaHandle, s => some (allocCoherent dev size dmaHandle s)
  | .freeCoherent dev size cpuAddr dmaHandle callerToken reply, s =>
    some (freeCoherent dev size cpuAddr dmaHandle callerToken reply s)
  | .scheduleWork runnable, s =>
    some (if ¬ runnable then (.int 0, s) else (.callback, { s with frames := .work :: s.frames }))
  | .callbackReturn status, s => callbackReturn status s

/-- The calls that are made, with their results. -/
def Calls (s : State) (x : Exchange Call Ret) (s' : State) : Prop :=
  call x.request s = some (x.reply, s')

end SeLinOS.Kapi
