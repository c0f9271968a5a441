import SeLinOS.Dma.Server
import SeLinOS.Edu.Argument
import SeLinOS.Irq.Server
import SeLinOS.Kapi.Core

/-!
# The edu processes

What `main` of each process of a QEMU edu device does with its arguments, the name of the program
left out: `deviced` (`servers/deviced.c`), `irqd`, `dmad` and the driver (`edu_kapi_probe.c`).

* `Start`: how a process starts; `Deviced.main`, `Irqd.main`, `Dmad.main`, `Driver.main`.
* `Deviced.reply`: an iteration of the loop of `deviced`.
* `Driver.registerWith`: the registration of a driver, with `deviced` behind its endpoint.
* `shadow_token`: in every run of the KAPI, the shadow device has the token of `deviced` or none.
-/

namespace SeLinOS.Edu

open CLogic Sel4

/-- How a process starts: it was given nothing and does nothing, it refuses its arguments and
returns 1, or it serves. -/
inductive Start (α : Type) where
  | dormant
  | invalid
  | online (a : α)
  deriving Repr, DecidableEq

/-! ## deviced -/

namespace Deviced

def REGISTER_MAGIC : Word := 0x53445052
def REGISTER_REQUEST_WORDS : Nat := 3

/-- The locals of `main` of `deviced`. -/
structure Record where
  bar0Start : Word
  bar0Len : Word
  irq : Word
  deviceToken : Word
  deriving Repr, DecidableEq

/-- The arguments that parse make a record, if it is valid. -/
def Record.check (r : Record) : Start Record :=
  if r.bar0Len = 0 ∨ r.irq = 0 ∨ r.irq > 0xff ∨ r.deviceToken = 0 then .invalid else .online r

/-- `main`, up to its loop. -/
def main : List CStr → Start Record
  | [] => .dormant
  | [bar0Start, bar0Len, irq, deviceToken] =>
    match parseHexWord bar0Start, parseHexWord bar0Len, parseHexWord irq,
      parseHexWord deviceToken with
    | some bar0Start, some bar0Len, some irq, some deviceToken =>
      Record.check ⟨bar0Start, bar0Len, irq, deviceToken⟩
    | _, _, _, _ => .invalid
  | _ => .invalid

/-- `request_matches_qemu_edu`. -/
def RequestMatchesQemuEdu (vendor device : Word) : Prop :=
  (vendor = Kapi.DEVICED_QEMU_EDU_VENDOR ∨ vendor = 0xffff) ∧
    (device = Kapi.DEVICED_QEMU_EDU_DEVICE ∨ device = 0xffff)

instance (vendor device : Word) : Decidable (RequestMatchesQemuEdu vendor device) :=
  inferInstanceAs (Decidable (_ ∧ _))

/-- One iteration of the loop. -/
def reply (r : Record) (request : Message) : Message :=
  if request.length ≠ REGISTER_REQUEST_WORDS ∨ request.mr 0 ≠ REGISTER_MAGIC then
    .ofWords [Kapi.DEVICED_REGISTER_NO_MATCH]
  else if ¬ RequestMatchesQemuEdu (request.mr 1) (request.mr 2) then
    .ofWords [Kapi.DEVICED_REGISTER_NO_MATCH]
  else
    .ofWords [Kapi.DEVICED_REGISTER_ACCEPTED, r.deviceToken, Kapi.DEVICED_QEMU_EDU_VENDOR,
      Kapi.DEVICED_QEMU_EDU_DEVICE, r.irq, r.bar0Start, r.bar0Len]

end Deviced

/-! ## irqd and dmad -/

/-- `main` of `irqd`, up to its loop. -/
def Irqd.main : List CStr → Start Irq.Server
  | [token] =>
    match parseHexWord token with
    | some activeDeviceToken =>
      if activeDeviceToken = 0 then .invalid else .online (.start activeDeviceToken)
    | none => .invalid
  | _ => .invalid

/-- `main` of `dmad`, up to its loop. -/
def Dmad.main : List CStr → Start Dma.Server
  | [token] =>
    match parseHexWord token with
    | some activeDeviceToken =>
      if activeDeviceToken = 0 then .invalid else .online (.start activeDeviceToken)
    | none => .invalid
  | _ => .invalid

/-! ## The driver -/

namespace Driver

def DEVICED_ENDPOINT : Word := 271
def NOTIFICATION_CAP : Word := 265
def COMPLETE_ENDPOINT : Word := 266
def REQUEST_ENDPOINT : Word := 267
def DMA_FREE_ENDPOINT : Word := 268
def REGISTER_CONTROL : Word := 269
def UNREGISTER_CONTROL : Word := 270
def DMA_VADDR : Word := 0x600000100000
def DMA_TEST_LEASE_SIZE : Word := 256
def QEMU_EDU_DMA_MASK : Word := 0x0fffffff

/-- `if (f() != 0) return 1;` -/
def bind (f : Kapi.State → Kapi.Ret × Kapi.State) (s : Kapi.State) : Option Kapi.State :=
  if (f s).1 = .int 0 then some (f s).2 else none

/-- The calls of `main` that bind what the root task issued. -/
def bindIssued (dmaAddress irqLine : BitVec 32) : Option Kapi.State := do
  let s ← bind (Kapi.bindDeviced DEVICED_ENDPOINT) Kapi.State.boot
  let s ← bind (Kapi.bindIrq irqLine NOTIFICATION_CAP COMPLETE_ENDPOINT REQUEST_ENDPOINT
    REGISTER_CONTROL UNREGISTER_CONTROL) s
  bind (Kapi.bindDmaLease .null DMA_VADDR (dmaAddress.setWidth 64) DMA_TEST_LEASE_SIZE
    QEMU_EDU_DMA_MASK DMA_FREE_ENDPOINT) s

/-- `main`, up to `pci_register_driver`. -/
def main : List CStr → Start Kapi.State
  | [] => .dormant
  | [dma, irq] =>
    match parseHexValue dma 8, parseHexValue irq 2 with
    | some dmaAddress, some irqLine =>
      match bindIssued dmaAddress irqLine with
      | some s => .online s
      | none => .invalid
    | _, _ => .invalid
  | _ => .invalid

/-- The request of `pci_register_driver` for an entry of the table. -/
def registerRequest (id : Kapi.PciDeviceId) : Message :=
  .ofWords [Deviced.REGISTER_MAGIC, id.vendor.setWidth 64, id.device.setWidth 64]

/-- What `deviced` replies to the request for each entry of a table. -/
def repliesTo (record : Deviced.Record) (driver : Kapi.PciDriver) : Nat → Message := fun index =>
  match driver.idTable with
  | none => .ofWords []
  | some idTable => Deviced.reply record (registerRequest (idTable index))

/-- `pci_register_driver` with `deviced` behind the endpoint. -/
def registerWith (record : Deviced.Record) (driver : Kapi.PciDriver) :
    Kapi.State → Kapi.Ret × Kapi.State :=
  Kapi.registerDriver (some driver) (repliesTo record driver)

/-- `edu_ids`. -/
def eduIds : Nat → Kapi.PciDeviceId
  | 0 => ⟨0x1234, 0x11e8, Kapi.PCI_ANY_ID, Kapi.PCI_ANY_ID, 0, 0, 0⟩
  | _ => ⟨0, 0, 0, 0, 0, 0, 0⟩

/-- `edu_driver`. -/
def eduDriver (address : Word) : Kapi.PciDriver := ⟨address, some eduIds, true, true⟩

end Driver

/-! ## Registration -/

theorem Deviced.reply_cases (r : Deviced.Record) (request : Message) :
    Deviced.reply r request = .ofWords [Kapi.DEVICED_REGISTER_NO_MATCH] ∨
    Deviced.reply r request = .ofWords [Kapi.DEVICED_REGISTER_ACCEPTED, r.deviceToken,
      Kapi.DEVICED_QEMU_EDU_VENDOR, Kapi.DEVICED_QEMU_EDU_DEVICE, r.irq, r.bar0Start,
      r.bar0Len] := by
  unfold Deviced.reply
  split_ifs
  · exact .inl rfl
  · exact .inr rfl
  · exact .inl rfl

/-- A table ends with one of its replies. -/
theorem matchFrom_accepted {idTable : Nat → Kapi.PciDeviceId} {replies : Nat → Message}
    {reply : Message} {index n : Nat}
    (h : Kapi.matchFrom idTable replies index n = .accepted reply) :
    Kapi.ValidReply reply ∧ ∃ k, reply = replies k := by
  induction n generalizing index with
  | zero => cases h
  | succ n ih =>
    rw [Kapi.matchFrom] at h
    dsimp only at h
    split_ifs at h with hsentinel hsupported hnone hvalid
    · exact ih h
    · cases h
      exact ⟨hvalid, index, rfl⟩
    · exact ih h

/-- A registration: it changes nothing, or it comes to the probe, and the shadow device has the
token and the IRQ of the record. -/
theorem registerWith_cases (record : Deviced.Record) (driver : Kapi.PciDriver) (s : Kapi.State) :
    (Driver.registerWith record driver s).2 = s ∨
    (Driver.registerWith record driver s).2.pci.shadowPdev =
      ⟨record.deviceToken, 0, record.irq.setWidth 8⟩ := by
  unfold Driver.registerWith Kapi.registerDriver
  dsimp only
  cases htable : driver.idTable with
  | none => exact .inl rfl
  | some idTable =>
    dsimp only
    split
    · exact .inl rfl
    cases hmatch : Kapi.matchFrom idTable (Driver.repliesTo record driver) 0 64 with
    | noDevice => exact .inl rfl
    | invalid => exact .inl rfl
    | accepted reply =>
      obtain ⟨hvalid, k, hreply⟩ := matchFrom_accepted hmatch
      rw [Driver.repliesTo, htable] at hreply
      dsimp only at hreply
      rcases Deviced.reply_cases record (Driver.registerRequest (idTable k)) with hno | hyes
      · rw [hno] at hreply
        subst hreply
        exact absurd hvalid.1 (by decide)
      · rw [hyes] at hreply
        subst hreply
        exact .inr rfl

/-- The edu driver comes to its probe with every valid record. -/
theorem registerWith_eduDriver {record : Deviced.Record} {address : Word} {s : Kapi.State}
    (hrecord : record.check = .online record) (hendpoint : s.pci.requestEndpoint ≠ 0)
    (hactive : s.pci.active = false) :
    (Driver.registerWith record (Driver.eduDriver address) s).1 = .callback ∧
    (Driver.registerWith record (Driver.eduDriver address) s).2.pci.shadowPdev =
      ⟨record.deviceToken, 0, record.irq.setWidth 8⟩ := by
  have hvalid : ¬ (record.bar0Len = 0 ∨ record.irq = 0 ∨ record.irq > 0xff ∨
      record.deviceToken = 0) := by
    intro hc
    rw [Deviced.Record.check, if_pos hc] at hrecord
    cases hrecord
  simp only [not_or] at hvalid
  obtain ⟨hlen, hirq, hlimit, htoken⟩ := hvalid
  have hreply : Driver.repliesTo record (Driver.eduDriver address) 0 =
      .ofWords [Kapi.DEVICED_REGISTER_ACCEPTED, record.deviceToken, Kapi.DEVICED_QEMU_EDU_VENDOR,
        Kapi.DEVICED_QEMU_EDU_DEVICE, record.irq, record.bar0Start, record.bar0Len] := by
    show Deviced.reply record _ = _
    rw [Deviced.reply, if_neg (by decide), if_neg (by decide)]
  have hmatch : Kapi.matchFrom Driver.eduIds
      (Driver.repliesTo record (Driver.eduDriver address)) 0 64 =
        .accepted (Driver.repliesTo record (Driver.eduDriver address) 0) := by
    rw [Kapi.matchFrom, if_neg (by decide), if_neg (by decide)]
    dsimp only
    rw [hreply, if_neg (fun h => absurd h.1 (by decide : (7 : Nat) ≠ 1)), if_neg]
    exact not_not.mpr ⟨rfl, rfl, htoken, rfl, rfl, hirq, BitVec.not_lt.mp hlimit, hlen⟩
  have hrun : Driver.registerWith record (Driver.eduDriver address) s = (.callback,
      Kapi.startProbe (Driver.eduDriver address)
        (Driver.repliesTo record (Driver.eduDriver address) 0) s) := by
    have hready : ¬ (¬ (Driver.eduDriver address).probe = true ∨ s.pci.requestEndpoint = 0 ∨
        s.pci.active = true) := by
      rintro (hprobe | hzero | hbound)
      · exact hprobe rfl
      · exact hendpoint hzero
      · exact nomatch hactive.symm.trans hbound
    show (if _ then _ else _) = _
    rw [if_neg hready, show Kapi.matchFrom _ _ 0 64 = _ from hmatch]
  rw [hrun, hreply]
  exact ⟨rfl, rfl⟩

theorem bind_eq_some {f : Kapi.State → Kapi.Ret × Kapi.State} {s s' : Kapi.State}
    (h : Driver.bind f s = some s') : (f s).1 = .int 0 ∧ (f s).2 = s' := by
  rw [Driver.bind] at h
  split at h
  · rename_i hzero
    exact ⟨hzero, Option.some.inj h⟩
  · cases h

/-- What the driver has bound when it registers. -/
theorem bindIssued_eq {dmaAddress irqLine : BitVec 32} {s : Kapi.State}
    (h : Driver.bindIssued dmaAddress irqLine = some s) :
    s.pci.requestEndpoint ≠ 0 ∧ s.pci.active = false ∧ s.irq.irq = irqLine ∧
      s.dma.dmaAddress = dmaAddress.setWidth 64 := by
  have hrefused : Kapi.Ret.int (-Kapi.EINVAL) ≠ .int 0 := by decide
  simp only [Driver.bindIssued, Option.bind_eq_bind, Option.bind_eq_some_iff] at h
  obtain ⟨s₁, hdeviced, s₂, hirq, hdma⟩ := h
  obtain ⟨-, rfl⟩ := bind_eq_some hdeviced
  obtain ⟨hok, rfl⟩ := bind_eq_some hirq
  obtain ⟨hok', rfl⟩ := bind_eq_some hdma
  unfold Kapi.bindIrq at hok hok' ⊢
  split at hok
  · exact absurd hok hrefused
  rename_i hc
  rw [if_neg hc] at hok' ⊢
  unfold Kapi.bindDmaLease at hok' ⊢
  split at hok'
  · exact absurd hok' hrefused
  rename_i hc'
  rw [if_neg hc']
  exact ⟨(by decide : Driver.DEVICED_ENDPOINT ≠ 0), rfl, rfl, rfl⟩

/-! ## The token of the shadow device -/

section Shadow

open Kapi

variable {record : Deviced.Record} {s s' : State}

/-- `deviced` answers the registration. -/
def AnsweredBy (record : Deviced.Record) (x : Exchange Call Ret) : Prop :=
  ∀ driver replies, x.request = .registerDriver (some driver) replies →
    replies = Driver.repliesTo record driver

/-- The token of the shadow device from a call to the next one. -/
def TokenStep (record : Deviced.Record) (s s' : State) : Prop :=
  s'.pci.shadowPdev.deviceToken = s.pci.shadowPdev.deviceToken ∨
    s'.pci.shadowPdev.deviceToken = 0 ∨ s'.pci.shadowPdev.deviceToken = record.deviceToken

theorem finishProbe_token (status : Int) (s : State) :
    TokenStep record s (finishProbe status s).2 := by
  unfold finishProbe
  simp only
  split
  · exact .inr (.inl rfl)
  · exact .inl rfl

theorem finishRemove_token (s : State) : TokenStep record s (finishRemove s) := .inr (.inl rfl)

theorem unregisterDriver_token (driver : Option PciDriver) (s : State) :
    TokenStep record s (unregisterDriver driver s).2 := by
  unfold unregisterDriver
  split
  · exact .inl rfl
  split
  · exact .inl rfl
  split
  · exact .inl rfl
  · exact finishRemove_token s

theorem callbackReturn_token {status : Int} {result : Ret × State}
    (h : callbackReturn status s = some result) : TokenStep record s result.2 := by
  unfold callbackReturn at h
  split at h
  · cases h
  · rename_i frames _
    cases h
    exact finishProbe_token status { s with frames }
  all_goals
    cases h
    first | exact .inl rfl | exact .inr (.inl rfl)

/-- What a call does to the token. -/
theorem call_token {x : Exchange Call Ret} (hanswered : AnsweredBy record x) (h : Calls s x s') :
    TokenStep record s s' := by
  obtain ⟨request, reply⟩ := x
  obtain ⟨result, hresult, rfl⟩ : ∃ result, call request s = some result ∧ result.2 = s' :=
    ⟨_, h, rfl⟩
  cases request with
  | callbackReturn status => exact callbackReturn_token hresult
  | registerDriver driver replies =>
    cases hresult
    cases driver with
    | none => exact .inl rfl
    | some driver =>
      rw [hanswered driver replies rfl]
      rcases registerWith_cases record driver s with hkept | hshadow
      · exact .inl (by rw [show (registerDriver _ _ s).2 = s from hkept])
      · exact .inr (.inr (congrArg PciDev.deviceToken hshadow))
  | unregisterDriver driver =>
    cases hresult
    exact unregisterDriver_token driver s
  | bindDeviced requestEndpoint =>
    cases hresult
    unfold bindDeviced
    split <;> exact .inl rfl
  | enableDevice pdev =>
    cases hresult
    unfold enableDevice
    split <;> exact .inl rfl
  | disableDevice pdev =>
    cases hresult
    unfold disableDevice
    split <;> exact .inl rfl
  | setMaster pdev =>
    cases hresult
    unfold setMaster
    split <;> exact .inl rfl
  | requestIrq irq handler devId answer =>
    cases hresult
    unfold requestIrq
    split_ifs <;> exact .inl rfl
  | freeIrq irq devId answer =>
    cases hresult
    unfold freeIrq
    split_ifs <;> exact .inl rfl
  | bindIrq irq notificationCap completionEndpoint requestEndpoint registerControl
      unregisterControl =>
    cases hresult
    unfold bindIrq
    split <;> exact .inl rfl
  | dispatchOneIrq =>
    cases hresult
    unfold dispatchOneIrq
    split <;> exact .inl rfl
  | bindDmaLease dev cpuAddress dmaAddress size dmaMask freeEndpoint =>
    cases hresult
    unfold bindDmaLease
    split <;> exact .inl rfl
  | setMaskAndCoherent dev mask =>
    cases hresult
    unfold setMaskAndCoherent
    split <;> exact .inl rfl
  | allocCoherent dev size dmaHandle =>
    cases hresult
    unfold allocCoherent
    split <;> exact .inl rfl
  | freeCoherent dev size cpuAddr dmaHandle callerToken answer =>
    cases hresult
    unfold freeCoherent
    dsimp only
    split_ifs <;> exact .inl rfl
  | scheduleWork runnable =>
    cases hresult
    split <;> exact .inl rfl

theorem run_token {es : List (Exchange Call Ret)} (h : Run Calls s es s')
    (hanswered : ∀ x ∈ es, AnsweredBy record x)
    (hs : s.pci.shadowPdev.deviceToken = 0 ∨ s.pci.shadowPdev.deviceToken = record.deviceToken) :
    s'.pci.shadowPdev.deviceToken = 0 ∨ s'.pci.shadowPdev.deviceToken = record.deviceToken := by
  induction h with
  | nil => exact hs
  | cons hstep _ ih =>
    refine ih (fun x hx => hanswered x (List.mem_cons_of_mem _ hx)) ?_
    rcases call_token (hanswered _ List.mem_cons_self) hstep with hkept | hset
    · rwa [hkept]
    · exact hset

/-- In every run from the start, the shadow device has the token that `deviced` serves, or none. -/
theorem shadow_token {es : List (Exchange Call Ret)} (h : Run Calls .boot es s)
    (hanswered : ∀ x ∈ es, AnsweredBy record x) :
    s.pci.shadowPdev.deviceToken = 0 ∨ s.pci.shadowPdev.deviceToken = record.deviceToken :=
  run_token h hanswered (.inl rfl)

end Shadow

end SeLinOS.Edu
