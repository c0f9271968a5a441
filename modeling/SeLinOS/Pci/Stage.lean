import SeLinOS.Pci.CommonRange

/-!
# The virtio stages

The functions of `selinos_pci.c` that map the page of the virtio common configuration and use its
registers. The kernel and the device answer in any way: the answers of a run are a sequence `Env`,
and a run takes the next one at each call of the kernel that can fail and at each read of a mapped
page. The events of a run are in its log. Three of the functions set their pointer `common` only
after the layout page is mapped, and their end stores through it: a run that comes there before ends
with the fault.

* `Event`, `Env`, `Stage`, `Exit`: the events, the answers, the state of a run, its end.
* `allocFrameAt`, `mapPage`, `read`, `write`, `release`: the steps that the functions share.
* `observeFeatures`, `zeroFeatures`, `driverReadyReset`, `queueZero`, `queueLayout`,
  `queueEnableReset`, `queueZeroNotification`, `zeroDescriptorNotificationReset`: the functions.
-/

namespace SeLinOS.Pci

open CLogic Sel4

def VIRTIO_COMMON_DEVICE_FEATURE_SELECT_OFF : Nat := 0x00
def VIRTIO_COMMON_DEVICE_STATUS_OFF : Nat := 0x14
def VIRTIO_STATUS_ACKNOWLEDGE : Nat := 0x01
def VIRTIO_STATUS_DRIVER : Nat := 0x02
def VIRTIO_STATUS_FEATURES_OK : Nat := 0x08
def VIRTIO_STATUS_DRIVER_OK : Nat := 0x04
def VIRTIO_COMMON_QUEUE_SELECT_OFF : Nat := 0x16
def VIRTIO_COMMON_QUEUE_SIZE_OFF : Nat := 0x18
def VIRTIO_COMMON_QUEUE_NOTIFY_OFF : Nat := 0x1e
def VIRTIO_COMMON_QUEUE_ENABLE_OFF : Nat := 0x1c
def VIRTIO_COMMON_QUEUE_DESC_LO_OFF : Nat := 0x20
def VIRTIO_COMMON_QUEUE_DESC_HI_OFF : Nat := 0x24
def VIRTIO_COMMON_QUEUE_DRIVER_LO_OFF : Nat := 0x28
def VIRTIO_COMMON_QUEUE_DRIVER_HI_OFF : Nat := 0x2c
def VIRTIO_COMMON_QUEUE_DEVICE_LO_OFF : Nat := 0x30
def VIRTIO_COMMON_QUEUE_DEVICE_HI_OFF : Nat := 0x34
def VIRTIO_COMMON_QUEUE_ZERO : Nat := 0
def VIRTIO_COMMON_QUEUE_LAYOUT_SIZE : Nat := 1
def VIRTIO_COMMON_QUEUE_LAYOUT_END : Nat := VIRTIO_COMMON_QUEUE_DEVICE_HI_OFF + 4
def VIRTIO_SPLIT_DESC_OFFSET : Word := 0
def VIRTIO_SPLIT_DRIVER_OFFSET : Word := 16
def VIRTIO_SPLIT_DEVICE_OFFSET : Word := 24
def VIRTIO_SPLIT_FLAGS_OFFSET : Nat := 0
def VIRTIO_SPLIT_INDEX_OFFSET : Nat := 2
def VIRTIO_SPLIT_LAYOUT_BYTES : Word := 36
def VIRTIO_NOTIFY_CFG_MIN_LENGTH : BitVec 32 := 0x14

/-- `struct selinos_qemu_virtio_notify_capability`. -/
structure NotifyCapability where
  identity : BlkIdentity
  capabilityOffset : BitVec 32
  barIndex : BitVec 32
  offset : BitVec 32
  length : BitVec 32
  notifyOffMultiplier : BitVec 32
  deriving Repr, DecidableEq

/-- `struct selinos_qemu_virtio_notify_range`. -/
structure NotifyRange where
  capability : NotifyCapability
  barPaddr : Word
  barSize : Word
  notificationCapPaddr : Word
  deriving Repr, DecidableEq

/-- `virtio_notify_range_is_sane`. -/
@[mk_iff]
structure NotifyRange.Sane (range : NotifyRange) : Prop where
  identity : range.capability.identity.Modern
  barIndex : range.capability.barIndex < PCI_BAR_COUNT
  length : VIRTIO_NOTIFY_CFG_MIN_LENGTH ≤ range.capability.length
  multiplier : range.capability.notifyOffMultiplier ≠ 0
  bar : range.barPaddr ≠ 0 ∧ range.barSize ≠ 0
  le : range.barPaddr ≤ range.notificationCapPaddr
  offset : range.notificationCapPaddr - range.barPaddr = range.capability.offset.zeroExtend 64
  offsetIn : range.capability.offset.zeroExtend 64 ≤ range.barSize
  lengthIn : range.capability.length.zeroExtend 64 ≤
    range.barSize - range.capability.offset.zeroExtend 64

instance (range : NotifyRange) : Decidable range.Sane :=
  decidable_of_iff _ (NotifyRange.sane_iff range).symm

/-! ## Runs -/

/-- The pages that a stage maps. -/
inductive Page where
  | common
  | layout
  | notification
  deriving Repr, DecidableEq

/-- The events of a run. Places are bytes of the mapped page. -/
inductive Event where
  | allocFrameAt (page : Page) (paddr : Word) (ok : Bool)
  | allocFrame (page : Page) (ok : Bool)
  | reserve (page : Page) (reserved : Bool)
  | map (page : Page) (ok : Bool)
  | read (page : Page) (place width value : Nat)
  | write (page : Page) (place width value : Nat)
  | unmap (page : Page)
  | freeReservation (page : Page)
  | freeFrame (page : Page)
  deriving Repr, DecidableEq

/-- An answer: the call succeeds, its mapping is not NULL, the value that it gives. -/
structure Answer where
  ok : Bool
  mapping : Bool
  value : Word

/-- The answers of the kernel and of the device, in the order in which a run asks. -/
abbrev Env : Type := Nat → Answer

/-- The result records of the stages. Each function fills in its own fields. -/
structure Record where
  range : Option CommonRange
  deviceFeatureSelect : Nat
  deviceFeature : Nat
  notifyRange : Option NotifyRange
  notifyCapability : Option NotifyCapability
  statusAfterFeaturesOk : Nat
  statusAfterDriverOk : Nat
  statusAfterReset : Nat
  queueIndex : Nat
  queueSize : Nat
  maximumQueueSize : Nat
  programmedQueueSize : Nat
  queueEnableBefore : Nat
  queueEnableAfter : Nat
  queueEnableEnabled : Nat
  queueEnableAfterReset : Nat
  queueNotifyOff : Nat
  framePaddr : Word
  descriptorPaddr : Word
  driverPaddr : Word
  devicePaddr : Word
  notificationBasePaddr : Word
  notificationPaddr : Word
  ringBefore : List Nat
  ringAfter : List Nat
  deriving Inhabited

/-- The record of the caller, the log, and the locals that the end of the function looks at;
`common` says that the pointer `common` is not NULL. -/
structure Stage where
  record : Record
  asked : Nat
  log : List Event
  frameAllocated : Page → Bool
  reserved : Page → Bool
  mapped : Page → Bool
  common : Bool
  success : Bool

/-- The state at the start of the call. -/
def Stage.enter (record : Record) : Stage :=
  ⟨record, 0, [], fun _ => false, fun _ => false, fun _ => false, false, false⟩

/-- The end of a call: it returns, or it stores to `common[VIRTIO_COMMON_DEVICE_STATUS_OFF]` while
`common` is NULL. -/
inductive Exit where
  | returned (success : Bool)
  | nullStore
  deriving Repr, DecidableEq

variable {ε : Type} (env : Env)

/-- The next answer. -/
def ask : Prog ε Stage Answer := fun s => .ok (env s.asked) { s with asked := s.asked + 1 }

def emit (e : Event) : Prog ε Stage Unit := Prog.modify fun s => { s with log := s.log ++ [e] }

def setRecord (f : Record → Record) : Prog ε Stage Unit :=
  Prog.modify fun s => { s with record := f s.record }

/-- `if (!c) goto out;` -/
def orOut (c : Prop) [Decidable c] : Prog Unit Stage Unit := Prog.when (¬ c) (Prog.ret ())

/-- A volatile read of `width` bytes. -/
def read (page : Page) (place width : Nat) : Prog ε Stage Nat := do
  let answer ← ask env
  let value := answer.value.toNat % 2 ^ (8 * width)
  emit (.read page place width value)
  pure value

/-- A volatile write of `width` bytes. -/
def write (page : Page) (place width value : Nat) : Prog ε Stage Unit :=
  emit (.write page place width (value % 2 ^ (8 * width)))

/-- `vka_alloc_frame_at`; `false` where it fails. -/
def allocFrameAt (page : Page) (paddr : Word) : Prog ε Stage Bool := do
  let answer ← ask env
  emit (.allocFrameAt page paddr answer.ok)
  Prog.when answer.ok
    (Prog.modify fun s => { s with frameAllocated := Function.update s.frameAllocated page true })
  pure answer.ok

/-- `vka_alloc_frame`, and `goto out` where it fails. -/
def allocFrame (page : Page) : Prog Unit Stage Unit := do
  let answer ← ask env
  emit (.allocFrame page answer.ok)
  orOut (answer.ok = true)
  Prog.modify fun s => { s with frameAllocated := Function.update s.frameAllocated page true }

/-- `vspace_reserve_range_aligned` and `vspace_map_pages_at_vaddr`, and `goto out` where one of them
fails. -/
def mapPage (page : Page) : Prog Unit Stage Unit := do
  let reservation ← ask env
  emit (.reserve page reservation.ok)
  Prog.modify fun s =>
    { s with reserved := Function.update s.reserved page reservation.ok }
  orOut (reservation.ok = true ∧ reservation.mapping = true)
  let answer ← ask env
  emit (.map page answer.ok)
  orOut (answer.ok = true)
  Prog.modify fun s => { s with mapped := Function.update s.mapped page true }

/-- `vspace_unmap_pages`, where the page is mapped. -/
def unmapPage (page : Page) : Prog ε Stage Unit := do
  let s ← Prog.get
  Prog.when (s.mapped page) (emit (.unmap page))

/-- `vspace_free_reservation`, where there is one. -/
def freeReservation (page : Page) : Prog ε Stage Unit := do
  let s ← Prog.get
  Prog.when (s.reserved page) (emit (.freeReservation page))

/-- `vka_free_object`, where the frame is allocated. -/
def freeFrame (page : Page) : Prog ε Stage Unit := do
  let s ← Prog.get
  Prog.when (s.frameAllocated page) (emit (.freeFrame page))

section Registers

variable (range : CommonRange)

/-- A read of the register at `common + off`. -/
def readCommon (off width : Nat) : Prog ε Stage Nat :=
  read env .common (range.pageOffset.toNat + off) width

/-- A write to the register at `common + off`. -/
def writeCommon (off width value : Nat) : Prog ε Stage Unit :=
  write .common (range.pageOffset.toNat + off) width value

/-- A write of the device status, and a read of it. -/
def putStatus (status : Nat) : Prog ε Stage Nat := do
  writeCommon range VIRTIO_COMMON_DEVICE_STATUS_OFF 1 status
  readCommon env range VIRTIO_COMMON_DEVICE_STATUS_OFF 1

/-- A write of the device status that has to be read back. -/
def setStatus (status : Nat) : Prog Unit Stage Unit := do
  let observed ← putStatus env range status
  orOut (observed = status)

/-- `features_ok` and `driver_ok`. -/
def featuresOk : Nat :=
  VIRTIO_STATUS_ACKNOWLEDGE ||| VIRTIO_STATUS_DRIVER ||| VIRTIO_STATUS_FEATURES_OK
def driverOk : Nat := featuresOk ||| VIRTIO_STATUS_DRIVER_OK

/-- The status writes up to `VIRTIO_STATUS_DRIVER`, the same in each function. -/
def startDriver : Prog Unit Stage Unit := do
  setStatus env range 0
  setStatus env range VIRTIO_STATUS_ACKNOWLEDGE
  setStatus env range (VIRTIO_STATUS_ACKNOWLEDGE ||| VIRTIO_STATUS_DRIVER)

/-- The status writes up to `driver_ok`. -/
def startDevice : Prog Unit Stage Unit := do
  startDriver env range
  setStatus env range featuresOk
  setStatus env range driverOk

/-- `common = (volatile uint8_t *)((char *)mapping + range->page_offset);` -/
def setCommon : Prog ε Stage Unit := Prog.modify fun s => { s with common := true }

/-- The reset before the teardown of a stage that has not succeeded. -/
def resetUnlessSuccess : Prog Exit Stage Unit := do
  let s ← Prog.get
  Prog.when (s.mapped .common ∧ ¬ s.success)
    (if s.common then writeCommon range VIRTIO_COMMON_DEVICE_STATUS_OFF 1 0
    else Prog.ret .nullStore)

/-- The reset at the end of a stage: the status that is read after it. -/
def finishReset : Prog Unit Stage Nat := do
  let statusAfterReset ← putStatus env range 0
  setRecord fun r => { r with statusAfterReset }
  pure statusAfterReset

def succeed (success : Bool) : Prog ε Stage Unit := Prog.modify fun s => { s with success }

/-- `return success;` -/
def returnSuccess : Prog Exit Stage Unit := do
  let s ← Prog.get
  Prog.ret (.returned s.success)

/-! ## Stages of the common page alone -/

/-- The end of the observation of the features, which writes to no register. -/
def releaseFeatures : Prog Exit Stage Unit := do
  unmapPage .common
  freeReservation .common
  freeFrame .common
  returnSuccess

/-- `selinos_pci_observe_qemu_virtio_blk_features`. -/
def observeFeatures : Prog Exit Stage Unit := do
  if ¬ range.Sane then Prog.ret (.returned false)
  else
    let allocated ← allocFrameAt env .common range.pagePaddr
    if ¬ allocated then Prog.ret (.returned false)
    else
      Prog.label
        (do
          mapPage env .common
          setRecord fun r => { r with range := some range }
          let deviceFeatureSelect ← readCommon env range VIRTIO_COMMON_DEVICE_FEATURE_SELECT_OFF 4
          setRecord fun r => { r with deviceFeatureSelect }
          let deviceFeature ← readCommon env range VIRTIO_COMMON_DEVICE_FEATURE_OFF 4
          setRecord fun r => { r with deviceFeature }
          succeed true)
        releaseFeatures

/-- The end of a stage that maps the common page only. -/
def releaseCommon : Prog Exit Stage Unit := do
  resetUnlessSuccess range
  unmapPage .common
  freeReservation .common
  freeFrame .common
  returnSuccess

/-- The frame of a stage that maps the common page only: the test of its arguments, the mapping, and
what it does with the registers. -/
def commonStage (valid : Prop) [Decidable valid] (body : Prog Unit Stage Unit) :
    Prog Exit Stage Unit := do
  if ¬ valid then Prog.ret (.returned false)
  else
    let allocated ← allocFrameAt env .common range.pagePaddr
    if ¬ allocated then Prog.ret (.returned false)
    else
      Prog.label
        (do
          mapPage env .common
          setCommon
          body)
        (releaseCommon range)

/-- `selinos_pci_stage_qemu_virtio_blk_zero_features`. -/
def zeroFeatures : Prog Exit Stage Unit :=
  commonStage env range
    (range.Sane ∧ VIRTIO_COMMON_DEVICE_STATUS_OFF + 1 ≤ range.capability.length.toNat) do
    startDriver env range
    let status ← putStatus env range featuresOk
    orOut (status &&& VIRTIO_STATUS_FEATURES_OK ≠ 0)
    setRecord fun r => { r with range := some range, statusAfterFeaturesOk := status }
    let statusAfterReset ← finishReset env range
    succeed (statusAfterReset == 0)

/-- `selinos_pci_stage_qemu_virtio_blk_driver_ready_reset`. -/
def driverReadyReset : Prog Exit Stage Unit :=
  commonStage env range
    (range.Sane ∧ VIRTIO_COMMON_DEVICE_STATUS_OFF + 1 ≤ range.capability.length.toNat) do
    startDriver env range
    setStatus env range featuresOk
    let statusAfterDriverOk ← putStatus env range driverOk
    setRecord fun r => { r with statusAfterDriverOk }
    orOut (statusAfterDriverOk = driverOk)
    setRecord fun r => { r with range := some range }
    let statusAfterReset ← finishReset env range
    succeed (statusAfterReset == 0)

/-- `selinos_pci_observe_qemu_virtio_blk_queue_zero`. -/
def queueZero : Prog Exit Stage Unit :=
  commonStage env range
    (range.Sane ∧ VIRTIO_COMMON_QUEUE_SIZE_OFF + 2 ≤ range.capability.length.toNat) do
    startDevice env range
    writeCommon range VIRTIO_COMMON_QUEUE_SELECT_OFF 2 VIRTIO_COMMON_QUEUE_ZERO
    let queueIndex ← readCommon env range VIRTIO_COMMON_QUEUE_SELECT_OFF 2
    let queueSize ← readCommon env range VIRTIO_COMMON_QUEUE_SIZE_OFF 2
    setRecord fun r => { r with queueIndex, queueSize }
    orOut (queueIndex = VIRTIO_COMMON_QUEUE_ZERO ∧ queueSize ≠ 0)
    setRecord fun r => { r with range := some range }
    let statusAfterReset ← finishReset env range
    succeed (statusAfterReset == 0)

/-- The test of the notification offset that the device gives, before it is multiplied. -/
def NotifyRange.Multiplies (notifyRange : NotifyRange) (queueNotifyOff : Nat) : Prop :=
  queueNotifyOff ≠ 0 →
    notifyRange.capability.notifyOffMultiplier.zeroExtend 64 ≤
      UINTPTR_MAX / BitVec.ofNat 64 queueNotifyOff

instance (notifyRange : NotifyRange) (queueNotifyOff : Nat) :
    Decidable (notifyRange.Multiplies queueNotifyOff) :=
  inferInstanceAs (Decidable (_ → _))

/-- `notification_relative`. -/
def NotifyRange.relative (notifyRange : NotifyRange) (queueNotifyOff : Nat) : Word :=
  BitVec.ofNat 64 queueNotifyOff * notifyRange.capability.notifyOffMultiplier.zeroExtend 64

/-- The test of `notification_relative`. -/
def NotifyRange.Reaches (notifyRange : NotifyRange) (relative : Word) : Prop :=
  notifyRange.notificationCapPaddr ≤ UINTPTR_MAX - relative ∧
    relative ≤ notifyRange.capability.length.zeroExtend 64 ∧
    2 ≤ notifyRange.capability.length.zeroExtend 64 - relative

instance (notifyRange : NotifyRange) (relative : Word) : Decidable (notifyRange.Reaches relative) :=
  instDecidableAnd

/-- The two ranges are of the same function and BAR. -/
def NotifyRange.Matches (notifyRange : NotifyRange) (range : CommonRange) : Prop :=
  range.capability.identity.device = notifyRange.capability.identity.device ∧
    range.capability.identity.function = notifyRange.capability.identity.function ∧
    range.capability.barIndex = notifyRange.capability.barIndex

instance (notifyRange : NotifyRange) : Decidable (notifyRange.Matches range) := instDecidableAnd

/-- `selinos_pci_observe_qemu_virtio_blk_queue_zero_notification`. -/
def queueZeroNotification (notifyRange : NotifyRange) : Prog Exit Stage Unit :=
  commonStage env range
    (range.Sane ∧ notifyRange.Sane ∧ notifyRange.Matches range ∧
      VIRTIO_COMMON_QUEUE_NOTIFY_OFF + 2 ≤ range.capability.length.toNat) do
    startDevice env range
    writeCommon range VIRTIO_COMMON_QUEUE_SELECT_OFF 2 VIRTIO_COMMON_QUEUE_ZERO
    let queueIndex ← readCommon env range VIRTIO_COMMON_QUEUE_SELECT_OFF 2
    let maximumQueueSize ← readCommon env range VIRTIO_COMMON_QUEUE_SIZE_OFF 2
    let queueNotifyOff ← readCommon env range VIRTIO_COMMON_QUEUE_NOTIFY_OFF 2
    setRecord fun r => { r with queueIndex, maximumQueueSize, queueNotifyOff }
    orOut (queueIndex = VIRTIO_COMMON_QUEUE_ZERO ∧ maximumQueueSize ≠ 0 ∧
      notifyRange.Multiplies queueNotifyOff)
    let notificationRelative := notifyRange.relative queueNotifyOff
    orOut (notifyRange.Reaches notificationRelative)
    let notificationPaddr := notifyRange.notificationCapPaddr + notificationRelative
    setRecord fun r =>
      { r with notificationBasePaddr := notifyRange.notificationCapPaddr, notificationPaddr }
    orOut (notifyRange.notificationCapPaddr ≤ notificationPaddr)
    setRecord fun r =>
      { r with range := some range, notifyCapability := some notifyRange.capability }
    let statusAfterReset ← finishReset env range
    succeed (statusAfterReset == 0)

/-! ## Stages with a layout frame -/

/-- The layout page is filled with zeros. -/
def zeroLayout : Prog ε Stage Unit :=
  Prog.forUp (fun i => write .layout i 1 0) 0 pageSize.toNat

/-- `vka_alloc_frame_at` of the common page, the test of the arguments before it, and `return false`
where one of them fails. -/
def layoutStage (valid : Prop) [Decidable valid] (body : Prog Unit Stage Unit)
    (out : Prog Exit Stage Unit) : Prog Exit Stage Unit := do
  if ¬ valid then Prog.ret (.returned false)
  else
    let allocated ← allocFrameAt env .common range.pagePaddr
    if ¬ allocated then Prog.ret (.returned false)
    else
      Prog.label
        (do
          allocFrame env .layout
          body)
        out

/-- The end of a stage that maps the common page and the layout page. -/
def releaseLayout : Prog Exit Stage Unit := do
  resetUnlessSuccess range
  unmapPage .layout
  freeReservation .layout
  unmapPage .common
  freeReservation .common
  freeFrame .layout
  freeFrame .common
  returnSuccess

/-- The places of the three rings in the layout frame. -/
def setRings (framePaddr : Word) : Prog Unit Stage Unit :=
  setRecord fun r =>
    { r with
      descriptorPaddr := framePaddr + VIRTIO_SPLIT_DESC_OFFSET
      driverPaddr := framePaddr + VIRTIO_SPLIT_DRIVER_OFFSET
      devicePaddr := framePaddr + VIRTIO_SPLIT_DEVICE_OFFSET }

/-- The rings start in the frame. -/
def RingsFollow (framePaddr : Word) : Prop :=
  framePaddr ≤ framePaddr + VIRTIO_SPLIT_DESC_OFFSET ∧
    framePaddr ≤ framePaddr + VIRTIO_SPLIT_DRIVER_OFFSET ∧
    framePaddr ≤ framePaddr + VIRTIO_SPLIT_DEVICE_OFFSET

instance (framePaddr : Word) : Decidable (RingsFollow framePaddr) := instDecidableAnd

/-- `(uint32_t)x` and `(uint32_t)(x >> 32u)`. -/
def lo (x : Word) : Nat := x.toNat % 2 ^ 32
def hi (x : Word) : Nat := (x >>> 32).toNat % 2 ^ 32

/-- The queue size and the addresses of the rings are programmed, and have to be read back. -/
def programQueue (framePaddr : Word) : Prog Unit Stage Unit := do
  let descriptorPaddr := framePaddr + VIRTIO_SPLIT_DESC_OFFSET
  let driverPaddr := framePaddr + VIRTIO_SPLIT_DRIVER_OFFSET
  let devicePaddr := framePaddr + VIRTIO_SPLIT_DEVICE_OFFSET
  writeCommon range VIRTIO_COMMON_QUEUE_SIZE_OFF 2 VIRTIO_COMMON_QUEUE_LAYOUT_SIZE
  let programmedQueueSize ← readCommon env range VIRTIO_COMMON_QUEUE_SIZE_OFF 2
  setRecord fun r => { r with programmedQueueSize }
  orOut (programmedQueueSize = VIRTIO_COMMON_QUEUE_LAYOUT_SIZE)
  writeCommon range VIRTIO_COMMON_QUEUE_DESC_LO_OFF 4 (lo descriptorPaddr)
  writeCommon range VIRTIO_COMMON_QUEUE_DESC_HI_OFF 4 (hi descriptorPaddr)
  writeCommon range VIRTIO_COMMON_QUEUE_DRIVER_LO_OFF 4 (lo driverPaddr)
  writeCommon range VIRTIO_COMMON_QUEUE_DRIVER_HI_OFF 4 (hi driverPaddr)
  writeCommon range VIRTIO_COMMON_QUEUE_DEVICE_LO_OFF 4 (lo devicePaddr)
  writeCommon range VIRTIO_COMMON_QUEUE_DEVICE_HI_OFF 4 (hi devicePaddr)
  let descLo ← readCommon env range VIRTIO_COMMON_QUEUE_DESC_LO_OFF 4
  orOut (descLo = lo descriptorPaddr)
  let descHi ← readCommon env range VIRTIO_COMMON_QUEUE_DESC_HI_OFF 4
  orOut (descHi = hi descriptorPaddr)
  let driverLo ← readCommon env range VIRTIO_COMMON_QUEUE_DRIVER_LO_OFF 4
  orOut (driverLo = lo driverPaddr)
  let driverHi ← readCommon env range VIRTIO_COMMON_QUEUE_DRIVER_HI_OFF 4
  orOut (driverHi = hi driverPaddr)
  let deviceLo ← readCommon env range VIRTIO_COMMON_QUEUE_DEVICE_LO_OFF 4
  orOut (deviceLo = lo devicePaddr)
  let deviceHi ← readCommon env range VIRTIO_COMMON_QUEUE_DEVICE_HI_OFF 4
  orOut (deviceHi = hi devicePaddr)

/-- The tests of the layout frame of the two stages below. -/
def FrameAligned (framePaddr : Word) : Prop :=
  framePaddr ≠ 0 ∧ framePaddr &&& (pageSize - 1) = 0 ∧ framePaddr ≤ UINTPTR_MAX - pageSize

instance (framePaddr : Word) : Decidable (FrameAligned framePaddr) := instDecidableAnd

def RingsInFrame (framePaddr : Word) : Prop :=
  RingsFollow framePaddr ∧ framePaddr + VIRTIO_SPLIT_DEVICE_OFFSET ≤
    framePaddr + pageSize - VIRTIO_SPLIT_LAYOUT_BYTES + VIRTIO_SPLIT_DEVICE_OFFSET

instance (framePaddr : Word) : Decidable (RingsInFrame framePaddr) := instDecidableAnd

/-- The part of the two stages below before the registers: the frame of the rings, the mappings. It
gives the address of the frame. -/
def layoutFrame : Prog Unit Stage Word := do
  let answer ← ask env
  let framePaddr := answer.value
  setRecord fun r => { r with framePaddr }
  orOut (FrameAligned framePaddr)
  setRings framePaddr
  orOut (RingsInFrame framePaddr)
  mapPage env .common
  mapPage env .layout
  zeroLayout
  setCommon
  pure framePaddr

/-- The registers of the two stages below up to the programmed queue. -/
def layoutQueue (framePaddr : Word) : Prog Unit Stage Unit := do
  startDevice env range
  writeCommon range VIRTIO_COMMON_QUEUE_SELECT_OFF 2 VIRTIO_COMMON_QUEUE_ZERO
  let queueIndex ← readCommon env range VIRTIO_COMMON_QUEUE_SELECT_OFF 2
  let maximumQueueSize ← readCommon env range VIRTIO_COMMON_QUEUE_SIZE_OFF 2
  let queueEnableBefore ← readCommon env range VIRTIO_COMMON_QUEUE_ENABLE_OFF 2
  setRecord fun r => { r with queueIndex, maximumQueueSize, queueEnableBefore }
  orOut (queueIndex = VIRTIO_COMMON_QUEUE_ZERO ∧ maximumQueueSize ≠ 0 ∧ queueEnableBefore = 0)
  programQueue env range framePaddr

/-- The test of the arguments of the two stages below. -/
def LayoutValid : Prop :=
  range.Sane ∧ VIRTIO_COMMON_QUEUE_LAYOUT_END ≤ range.capability.length.toNat ∧
    VIRTIO_SPLIT_LAYOUT_BYTES ≤ pageSize

instance : Decidable (LayoutValid range) := instDecidableAnd

/-- `selinos_pci_stage_qemu_virtio_blk_queue_layout`. -/
def queueLayout : Prog Exit Stage Unit :=
  layoutStage env range (LayoutValid range)
    (do
      let framePaddr ← layoutFrame env
      layoutQueue env range framePaddr
      let queueEnableAfter ← readCommon env range VIRTIO_COMMON_QUEUE_ENABLE_OFF 2
      setRecord fun r => { r with queueEnableAfter }
      orOut (queueEnableAfter = 0)
      setRecord fun r => { r with range := some range }
      let statusAfterReset ← finishReset env range
      succeed (statusAfterReset == 0))
    (releaseLayout range)

/-- The queue is enabled, and has to be read back so. -/
def enableQueue : Prog Unit Stage Unit := do
  writeCommon range VIRTIO_COMMON_QUEUE_ENABLE_OFF 2 1
  let queueEnableEnabled ← readCommon env range VIRTIO_COMMON_QUEUE_ENABLE_OFF 2
  setRecord fun r => { r with queueEnableEnabled }
  orOut (queueEnableEnabled = 1)

/-- The reset of a stage that has enabled the queue. -/
def finishEnabled : Prog Unit Stage Unit := do
  let statusAfterReset ← finishReset env range
  let queueEnableAfterReset ← readCommon env range VIRTIO_COMMON_QUEUE_ENABLE_OFF 2
  setRecord fun r => { r with queueEnableAfterReset }
  succeed (statusAfterReset == 0 && queueEnableAfterReset == 0)

/-- `selinos_pci_stage_qemu_virtio_blk_queue_enable_reset`. -/
def queueEnableReset : Prog Exit Stage Unit :=
  layoutStage env range (LayoutValid range)
    (do
      let framePaddr ← layoutFrame env
      layoutQueue env range framePaddr
      enableQueue env range
      setRecord fun r => { r with range := some range }
      finishEnabled env range)
    (releaseLayout range)

/-! ## The notification -/

/-- The flags and the index of the driver ring and of the device ring. -/
def readRings : Prog Unit Stage (List Nat) := do
  let driver := VIRTIO_SPLIT_DRIVER_OFFSET.toNat
  let device := VIRTIO_SPLIT_DEVICE_OFFSET.toNat
  let availFlags ← read env .layout (driver + VIRTIO_SPLIT_FLAGS_OFFSET) 2
  let availIndex ← read env .layout (driver + VIRTIO_SPLIT_INDEX_OFFSET) 2
  let usedFlags ← read env .layout (device + VIRTIO_SPLIT_FLAGS_OFFSET) 2
  let usedIndex ← read env .layout (device + VIRTIO_SPLIT_INDEX_OFFSET) 2
  pure [availFlags, availIndex, usedFlags, usedIndex]

/-- The end of the stage that maps three pages. -/
def releaseNotification : Prog Exit Stage Unit := do
  resetUnlessSuccess range
  unmapPage .notification
  freeReservation .notification
  freeFrame .notification
  unmapPage .layout
  freeReservation .layout
  freeFrame .layout
  unmapPage .common
  freeReservation .common
  freeFrame .common
  returnSuccess

/-- The page of the notification address lies in the notification range. -/
def NotifyRange.PageIn (notifyRange : NotifyRange) (notificationPaddr : Word) : Prop :=
  pageSize ≤ notifyRange.capability.length.zeroExtend 64 ∧
    notifyRange.notificationCapPaddr ≤ pageBase notificationPaddr ∧
    notificationPaddr - pageBase notificationPaddr ≤ pageSize - 2 ∧
    pageBase notificationPaddr - notifyRange.notificationCapPaddr ≤
      notifyRange.capability.length.zeroExtend 64 - pageSize

instance (notifyRange : NotifyRange) (notificationPaddr : Word) :
    Decidable (notifyRange.PageIn notificationPaddr) := instDecidableAnd

/-- The one write to the notification address. -/
def notify (notifyRange : NotifyRange) (queueNotifyOff : Nat) : Prog Unit Stage Unit := do
  let notificationRelative := notifyRange.relative queueNotifyOff
  orOut (notifyRange.Reaches notificationRelative)
  let notificationPaddr := notifyRange.notificationCapPaddr + notificationRelative
  setRecord fun r => { r with notificationPaddr }
  orOut (notifyRange.PageIn notificationPaddr)
  let allocated ← allocFrameAt env .notification (pageBase notificationPaddr)
  orOut (allocated = true)
  mapPage env .notification
  write .notification (notificationPaddr - pageBase notificationPaddr).toNat 2
    VIRTIO_COMMON_QUEUE_ZERO

/-- The test of the arguments of the stage below. -/
def NotificationValid (notifyRange : NotifyRange) : Prop :=
  range.Sane ∧ notifyRange.Sane ∧ notifyRange.Matches range ∧
    VIRTIO_COMMON_QUEUE_LAYOUT_END ≤ range.capability.length.toNat ∧
    VIRTIO_COMMON_QUEUE_NOTIFY_OFF + 2 ≤ range.capability.length.toNat

instance (notifyRange : NotifyRange) : Decidable (NotificationValid range notifyRange) :=
  instDecidableAnd

/-- The test of its layout frame. -/
def FrameFits (framePaddr : Word) : Prop :=
  framePaddr ≠ 0 ∧ framePaddr ≤ UINTPTR_MAX - (pageSize - 1)

instance (framePaddr : Word) : Decidable (FrameFits framePaddr) := instDecidableAnd

/-- The part of the stage before the registers: the frame of the rings, the mappings, and the rings
as the device finds them. It gives the address of the frame. -/
def notificationFrame : Prog Unit Stage Word := do
  let answer ← ask env
  let framePaddr := answer.value
  setRecord fun r => { r with framePaddr }
  orOut (FrameFits framePaddr)
  mapPage env .common
  mapPage env .layout
  zeroLayout
  let ringBefore ← readRings env
  setRecord fun r => { r with ringBefore }
  orOut (ringBefore = [0, 0, 0, 0])
  setCommon
  pure framePaddr

/-- `selinos_pci_stage_qemu_virtio_blk_zero_descriptor_notification_reset`. Here the rings are
placed after the queue is read, and with another bound. -/
def zeroDescriptorNotificationReset (notifyRange : NotifyRange) : Prog Exit Stage Unit :=
  layoutStage env range (NotificationValid range notifyRange)
    (do
      let framePaddr ← notificationFrame env
      startDevice env range
      writeCommon range VIRTIO_COMMON_QUEUE_SELECT_OFF 2 VIRTIO_COMMON_QUEUE_ZERO
      let queueIndex ← readCommon env range VIRTIO_COMMON_QUEUE_SELECT_OFF 2
      let maximumQueueSize ← readCommon env range VIRTIO_COMMON_QUEUE_SIZE_OFF 2
      let queueEnableBefore ← readCommon env range VIRTIO_COMMON_QUEUE_ENABLE_OFF 2
      let queueNotifyOff ← readCommon env range VIRTIO_COMMON_QUEUE_NOTIFY_OFF 2
      setRecord fun r => { r with queueIndex, maximumQueueSize, queueEnableBefore, queueNotifyOff }
      orOut (queueIndex = VIRTIO_COMMON_QUEUE_ZERO ∧ maximumQueueSize ≠ 0 ∧
        queueEnableBefore = 0 ∧ notifyRange.Multiplies queueNotifyOff)
      setRings framePaddr
      orOut (RingsFollow framePaddr ∧ framePaddr + VIRTIO_SPLIT_DEVICE_OFFSET ≤
        framePaddr + pageSize - VIRTIO_SPLIT_LAYOUT_BYTES)
      programQueue env range framePaddr
      enableQueue env range
      notify env notifyRange queueNotifyOff
      let ringAfter ← readRings env
      setRecord fun r => { r with ringAfter }
      orOut (ringAfter = [0, 0, 0, 0])
      finishEnabled env range
      setRecord fun r => { r with range := some range, notifyRange := some notifyRange })
    (releaseNotification range)

end Registers

end SeLinOS.Pci
