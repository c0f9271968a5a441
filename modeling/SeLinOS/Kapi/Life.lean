import SeLinOS.Kapi.Core

/-!
# The life of a driver

What a call does to the PCI binding, to the IRQ binding and to the callbacks in progress.

* `Matched`, `Bound`: when `pci_register_driver` comes to the probe, and `pci_unregister_driver` to
  the removal.
* `Life`: the cases of a call.
* `Returns`: what the calls besides these leave; `call_life`: every call is one of the cases.
* `idle_of_run`: outside a probe, without an active driver, nothing is left of a registration.
-/

namespace SeLinOS.Kapi

open CLogic Sel4

/-- `pci_register_driver` has a driver with a table and a probe, and deviced accepts an entry of the
table with this reply. -/
def Matched (driver : Option PciDriver) (replies : Nat → Message) (d : PciDriver)
    (reply : Message) : Prop :=
  driver = some d ∧ d.probe = true ∧
    ∃ idTable, d.idTable = some idTable ∧ matchFrom idTable replies 0 64 = .accepted reply

/-- The driver is the one that is bound. -/
def Bound (d : PciDriver) (s : State) : Prop :=
  s.pci.driver = some d.address ∧ s.pci.active = true

instance (d : PciDriver) (s : State) : Decidable (Bound d s) := inferInstanceAs (Decidable (_ ∧ _))

/-- The state after a call. -/
def State.next (s : State) (c : Call) : Option State := (call c s).map Prod.snd

/-- The call is none of `pci_register_driver`, `pci_unregister_driver` and the return of a
callback. -/
def Call.Aside : Call → Prop
  | .registerDriver .. => False
  | .unregisterDriver .. => False
  | .callbackReturn .. => False
  | _ => True

/-- The callback that the call runs, when it runs one. -/
def Call.runs : Call → Option Frame
  | .dispatchOneIrq => some .irqHandler
  | .scheduleWork _ => some .work
  | _ => none

theorem Call.aside_of_runs {c : Call} {f : Frame} (h : c.runs = some f) : c.Aside := by
  cases c <;> trivial

theorem Call.runs_frame {c : Call} {f : Frame} (h : c.runs = some f) :
    f = .irqHandler ∨ f = .work := by
  cases c <;> simp_all [Call.runs]

/-- What the other calls leave: the driver, its flags unless it is bound or being probed, and the
token. A handler is installed only with a token. -/
structure Beside (s s' : State) : Prop where
  driver : s'.pci.driver = s.pci.driver
  active : s'.pci.active = s.pci.active
  probing : s'.pci.probing = s.pci.probing
  shadow : s.pci.active = false → s.pci.probing = false → s.pci.shadowPdev = ⟨0, 0, 0⟩ →
    s'.pci.shadowPdev = ⟨0, 0, 0⟩
  token : s'.irq.deviceToken = s.irq.deviceToken
  handler : s'.irq.handler = s.irq.handler ∨ s'.irq.handler = 0 ∨ s.irq.deviceToken ≠ 0

theorem Beside.refl (s : State) : Beside s s :=
  ⟨rfl, rfl, rfl, fun _ _ h => h, rfl, .inl rfl⟩

/-- A call that changes neither the PCI binding nor the IRQ binding. -/
theorem Beside.of_same {s s' : State} (hpci : s'.pci = s.pci) (hirq : s'.irq = s.irq) :
    Beside s s' := by
  constructor <;> simp [hpci, hirq]

/-- The cases of a call. -/
inductive Life (s : State) : Call → Ret → State → Prop
  | aside {c : Call} {r : Ret} {s' : State} (hc : c.Aside) (hr : r ≠ .callback)
      (hs : Beside s s') (hframes : s'.frames = s.frames) : Life s c r s'
  | calledBack {c : Call} {f : Frame} (hf : c.runs = some f) :
    Life s c .callback { s with frames := f :: s.frames }
  | refused {driver : Option PciDriver} {replies : Nat → Message} {status : Int}
      (h : ∀ d reply, Matched driver replies d reply →
        s.pci.requestEndpoint = 0 ∨ s.pci.active = true) (hstatus : status ≠ 0) :
    Life s (.registerDriver driver replies) (.int status) s
  | started {driver : Option PciDriver} {replies : Nat → Message} {d : PciDriver} {reply : Message}
      (h : Matched driver replies d reply) (hvalid : ValidReply reply)
      (hendpoint : s.pci.requestEndpoint ≠ 0) (hactive : s.pci.active = false) :
    Life s (.registerDriver driver replies) .callback (startProbe d reply s)
  | unbound {driver : Option PciDriver} (h : ∀ d, driver = some d → ¬ Bound d s) :
    Life s (.unregisterDriver driver) .void s
  | removing {d : PciDriver} (h : Bound d s) (hremove : d.remove = true) :
    Life s (.unregisterDriver (some d)) .callback { s with frames := .remove :: s.frames }
  | dropped {d : PciDriver} (h : Bound d s) (hremove : d.remove = false) :
    Life s (.unregisterDriver (some d)) .void (finishRemove s)
  | probed {status : Int} {frames : List Frame} (h : s.frames = .probe :: frames) :
    Life s (.callbackReturn status) (.int status) (finishProbe status { s with frames }).2
  | removed {status : Int} {frames : List Frame} (h : s.frames = .remove :: frames) :
    Life s (.callbackReturn status) .void (finishRemove { s with frames })
  | resumed {status : Int} {f : Frame} {frames : List Frame} {r : Ret} (h : s.frames = f :: frames)
      (hf : f = .irqHandler ∨ f = .work) (hr : r ≠ .callback) :
    Life s (.callbackReturn status) r { s with frames }

/-! ## Every call is a case -/

theorem ValidReply.of_match {idTable : Nat → PciDeviceId} {replies : Nat → Message}
    {reply : Message} {n index : Nat} (h : matchFrom idTable replies index n = .accepted reply) :
    ValidReply reply := by
  induction n generalizing index with
  | zero => cases h
  | succ n ih =>
    simp only [matchFrom] at h
    split at h
    · cases h
    split at h
    · exact ih h
    split at h
    · exact ih h
    split at h
    · cases h
    · rename_i hvalid
      cases h
      exact not_not.mp hvalid

theorem registerDriver_life (driver : Option PciDriver) (replies : Nat → Message) (s : State) :
    Life s (.registerDriver driver replies) (registerDriver driver replies s).1
      (registerDriver driver replies s).2 := by
  unfold registerDriver
  split
  · exact .refused (fun _ _ h => by cases h.1) (by decide)
  rename_i d
  split
  · rename_i hnone
    refine .refused (fun _ _ h => ?_) (by decide)
    obtain ⟨hd, -, idTable, htable, -⟩ := h
    cases hd
    rw [hnone] at htable
    cases htable
  rename_i idTable htable
  have hmatch : ∀ d' reply, Matched (some d) replies d' reply →
      d' = d ∧ d.probe = true ∧ matchFrom idTable replies 0 64 = .accepted reply := by
    rintro d' reply ⟨hd, hprobe, idTable', htable', hm⟩
    cases hd
    rw [htable] at htable'
    cases htable'
    exact ⟨rfl, hprobe, hm⟩
  split
  · rename_i hc
    refine .refused (fun d' reply h => ?_) (by decide)
    exact hc.resolve_left (not_not.mpr (hmatch d' reply h).2.1)
  rename_i hc
  simp only [not_or, not_not] at hc
  split
  · rename_i hm
    refine .refused (fun d' reply h => ?_) (by decide)
    exact absurd ((hmatch d' reply h).2.2.symm.trans hm) nofun
  · rename_i hm
    refine .refused (fun d' reply h => ?_) (by decide)
    exact absurd ((hmatch d' reply h).2.2.symm.trans hm) nofun
  · rename_i reply hm
    exact .started ⟨rfl, hc.1, idTable, htable, hm⟩ (.of_match hm) hc.2.1
      (Bool.eq_false_iff.mpr hc.2.2)

theorem unregisterDriver_life (driver : Option PciDriver) (s : State) :
    Life s (.unregisterDriver driver) (unregisterDriver driver s).1
      (unregisterDriver driver s).2 := by
  unfold unregisterDriver
  split
  · exact .unbound fun _ h => by cases h
  rename_i d
  split
  · rename_i hc
    refine .unbound fun d' hd hbound => ?_
    cases hd
    exact hc.elim (fun h => h hbound.1) fun h => h hbound.2
  rename_i hc
  simp only [not_or, not_not] at hc
  split
  · exact .removing hc ‹_›
  · exact .dropped hc (Bool.eq_false_iff.mpr ‹_›)

theorem finishProbe_ret (status : Int) (s : State) : (finishProbe status s).1 = .int status := by
  unfold finishProbe
  by_cases hs : status = 0 <;> simp [hs]

theorem callbackReturn_life {status : Int} {s s' : State} {r : Ret}
    (h : callbackReturn status s = some (r, s')) : Life s (.callbackReturn status) r s' := by
  unfold callbackReturn at h
  split at h
  · cases h
  · rename_i frames hframes
    have hr : (finishProbe status { s with frames }).1 = r := congrArg Prod.fst (Option.some.inj h)
    have hs : (finishProbe status { s with frames }).2 = s' := congrArg Prod.snd (Option.some.inj h)
    rw [finishProbe_ret] at hr
    subst hr hs
    exact .probed hframes
  · cases h
    exact .removed ‹_›
  · cases h
    exact .resumed ‹_› (.inl rfl) nofun
  · cases h
    exact .resumed ‹_› (.inr rfl) nofun

/-- The call returns to its caller, runs no callback, and leaves what `Beside` says. -/
structure Returns (s : State) (result : Ret × State) : Prop where
  ret : result.1 ≠ .callback
  beside : Beside s result.2
  frames : result.2.frames = s.frames

theorem Returns.life {c : Call} {result : Ret × State} {s s' : State} {r : Ret} (hc : c.Aside)
    (h : Returns s result) (he : some result = some (r, s')) : Life s c r s' := by
  cases he
  exact .aside hc h.ret h.beside h.frames

section Functions

variable (s : State)

theorem Returns.same {r : Ret} (hr : r ≠ .callback) : Returns s (r, s) := ⟨hr, .refl s, rfl⟩

theorem bindDeviced_returns (requestEndpoint : Word) :
    Returns s (bindDeviced requestEndpoint s) := by
  unfold bindDeviced
  split
  · exact .same s nofun
  · exact ⟨nofun, ⟨rfl, rfl, rfl, fun _ _ h => h, rfl, .inl rfl⟩, rfl⟩

theorem enableDevice_returns (pdev : DevicePtr) : Returns s (enableDevice pdev s) := by
  unfold enableDevice
  split
  · exact .same s nofun
  · rename_i hc
    simp only [not_or, not_and, not_not] at hc
    refine ⟨nofun, ⟨rfl, rfl, rfl, fun ha hp _ => ?_, rfl, .inl rfl⟩, rfl⟩
    simp [ha, hp] at hc

theorem disableDevice_returns (pdev : DevicePtr) : Returns s (disableDevice pdev s) := by
  unfold disableDevice
  split
  · exact .same s nofun
  · refine ⟨nofun, ⟨rfl, rfl, rfl, fun _ _ h => ?_, rfl, .inl rfl⟩, rfl⟩
    simp [h]

theorem setMaster_returns (pdev : DevicePtr) : Returns s (setMaster pdev s) := by
  unfold setMaster
  split
  · exact .same s nofun
  · rename_i hc
    simp only [not_or, not_not] at hc
    refine ⟨nofun, ⟨rfl, rfl, rfl, fun _ _ h => absurd ?_ hc.2, rfl, .inl rfl⟩, rfl⟩
    rw [h]
    rfl

theorem requestIrq_returns (irq : BitVec 32) (handler devId : Word) (reply : Message) :
    Returns s (requestIrq irq handler devId reply s) := by
  unfold requestIrq
  split_ifs with hc
  · exact .same s nofun
  · exact .same s nofun
  · simp only [not_or] at hc
    exact ⟨nofun, ⟨rfl, rfl, rfl, fun _ _ h => h, rfl, .inr (.inr hc.2.2.2.2.2.2)⟩, rfl⟩

theorem freeIrq_returns (irq : BitVec 32) (devId : Word) (reply : Message) :
    Returns s (freeIrq irq devId reply s) := by
  unfold freeIrq
  split_ifs
  · exact .same s nofun
  · exact .same s nofun
  · exact .same s nofun
  · exact ⟨nofun, ⟨rfl, rfl, rfl, fun _ _ h => h, rfl, .inr (.inl rfl)⟩, rfl⟩

theorem bindIrq_returns (irq : BitVec 32) (notificationCap completionEndpoint requestEndpoint
    registerControl unregisterControl : Word) :
    Returns s (bindIrq irq notificationCap completionEndpoint requestEndpoint registerControl
      unregisterControl s) := by
  unfold bindIrq
  split
  · exact .same s nofun
  · exact ⟨nofun, ⟨rfl, rfl, rfl, fun _ _ h => h, rfl, .inl rfl⟩, rfl⟩

theorem bindDmaLease_returns (dev : DevicePtr) (cpuAddress dmaAddress size dmaMask
    freeEndpoint : Word) :
    Returns s (bindDmaLease dev cpuAddress dmaAddress size dmaMask freeEndpoint s) := by
  unfold bindDmaLease
  split
  · exact .same s nofun
  · exact ⟨nofun, .of_same rfl rfl, rfl⟩

theorem setMaskAndCoherent_returns (dev : DevicePtr) (mask : Word) :
    Returns s (setMaskAndCoherent dev mask s) := by
  unfold setMaskAndCoherent
  split
  · exact .same s nofun
  · exact ⟨nofun, .of_same rfl rfl, rfl⟩

theorem allocCoherent_returns (dev : DevicePtr) (size : Word) (dmaHandle : Bool) :
    Returns s (allocCoherent dev size dmaHandle s) := by
  unfold allocCoherent
  split
  · exact .same s nofun
  · exact ⟨nofun, .of_same rfl rfl, rfl⟩

theorem freeCoherent_returns (dev : DevicePtr) (size cpuAddr dmaHandle callerToken : Word)
    (reply : Message) :
    Returns s (freeCoherent dev size cpuAddr dmaHandle callerToken reply s) := by
  unfold freeCoherent
  simp only
  split_ifs
  · exact .same s nofun
  · exact .same s nofun
  · exact ⟨nofun, .of_same rfl rfl, rfl⟩
  · exact .same s nofun

end Functions

/-- Every call is one of the cases. -/
theorem call_life {c : Call} {s s' : State} {r : Ret} (h : call c s = some (r, s')) :
    Life s c r s' := by
  cases c with
  | registerDriver driver replies =>
    obtain ⟨rfl, rfl⟩ := Prod.mk.inj (Option.some.inj h)
    exact registerDriver_life driver replies s
  | unregisterDriver driver =>
    obtain ⟨rfl, rfl⟩ := Prod.mk.inj (Option.some.inj h)
    exact unregisterDriver_life driver s
  | callbackReturn status => exact callbackReturn_life h
  | bindDeviced requestEndpoint => exact (bindDeviced_returns s _).life trivial h
  | enableDevice pdev => exact (enableDevice_returns s _).life trivial h
  | disableDevice pdev => exact (disableDevice_returns s _).life trivial h
  | setMaster pdev => exact (setMaster_returns s _).life trivial h
  | requestIrq irq handler devId reply => exact (requestIrq_returns s ..).life trivial h
  | freeIrq irq devId reply => exact (freeIrq_returns s ..).life trivial h
  | bindIrq irq notificationCap completionEndpoint requestEndpoint registerControl
      unregisterControl => exact (bindIrq_returns s ..).life trivial h
  | dispatchOneIrq =>
    simp only [call, dispatchOneIrq] at h
    split at h
    · exact (Returns.same s (by simp)).life trivial h
    · cases h
      exact .calledBack rfl
  | bindDmaLease dev cpuAddress dmaAddress size dmaMask freeEndpoint =>
    exact (bindDmaLease_returns s ..).life trivial h
  | setMaskAndCoherent dev mask => exact (setMaskAndCoherent_returns s ..).life trivial h
  | allocCoherent dev size dmaHandle => exact (allocCoherent_returns s ..).life trivial h
  | freeCoherent dev size cpuAddr dmaHandle callerToken reply =>
    exact (freeCoherent_returns s ..).life trivial h
  | scheduleWork runnable =>
    simp only [call] at h
    split at h
    · exact (Returns.same s (by simp)).life trivial h
    · cases h
      exact .calledBack rfl

/-! ## Nothing is left of a registration -/

/-- No driver, no shadow device and no token. -/
structure Idle (s : State) : Prop where
  driver : s.pci.driver = none
  shadow : s.pci.shadowPdev = ⟨0, 0, 0⟩
  probing : s.pci.probing = false
  token : s.irq.deviceToken = 0

/-- Outside a probe, nothing is being probed, and without an active driver nothing is left. -/
structure Settled (s : State) : Prop where
  probing : .probe ∉ s.frames → s.pci.probing = false
  idle : .probe ∉ s.frames → s.pci.active = false → Idle s

theorem settled_boot : Settled State.boot := ⟨fun _ => rfl, fun _ _ => ⟨rfl, rfl, rfl, rfl⟩⟩

theorem Idle.beside {s s' : State} (h : Idle s) (hb : Beside s s') (ha : s.pci.active = false) :
    Idle s' where
  driver := hb.driver.trans h.driver
  shadow := hb.shadow ha h.probing h.shadow
  probing := hb.probing.trans h.probing
  token := hb.token.trans h.token

theorem Settled.finishRemove {s : State} {frames : List Frame}
    (hprobing : .probe ∉ frames → s.pci.probing = false) :
    Settled (finishRemove { s with frames }) :=
  ⟨hprobing, fun hf _ => ⟨rfl, rfl, hprobing hf, rfl⟩⟩

theorem settled_step {c : Call} {r : Ret} {s s' : State} (h : Life s c r s') (hs : Settled s) :
    Settled s' := by
  cases h with
  | aside _ _ hb hframes =>
    refine ⟨fun hf => ?_, fun hf ha => ?_⟩
    · rw [hframes] at hf
      exact hb.probing.trans (hs.probing hf)
    · rw [hframes] at hf
      have hactive := hb.active.symm.trans ha
      exact (hs.idle hf hactive).beside hb hactive
  | calledBack =>
    have hframes : ∀ {f : Frame}, .probe ∉ f :: s.frames → .probe ∉ s.frames :=
      fun h hm => h (List.mem_cons_of_mem _ hm)
    exact ⟨fun h => hs.probing (hframes h), fun h ha =>
      have hidle := hs.idle (hframes h) ha
      ⟨hidle.driver, hidle.shadow, hidle.probing, hidle.token⟩⟩
  | refused => exact hs
  | started => exact ⟨fun h => absurd List.mem_cons_self h, fun h => absurd List.mem_cons_self h⟩
  | unbound => exact hs
  | removing hbound _ =>
    refine ⟨fun h => hs.probing fun hm => h (List.mem_cons_of_mem _ hm), fun _ ha => ?_⟩
    exact absurd (hbound.2.symm.trans ha) nofun
  | dropped => exact .finishRemove hs.probing
  | removed hframes =>
    refine .finishRemove fun h => hs.probing ?_
    rw [hframes]
    simpa using h
  | @resumed _ f frames _ hframes hf _ =>
    have hmem : .probe ∉ frames → .probe ∉ s.frames := fun hm => by
      rw [hframes]
      rcases hf with rfl | rfl <;> simpa using hm
    exact ⟨fun h => hs.probing (hmem h), fun h ha =>
      have hidle := hs.idle (hmem h) ha
      ⟨hidle.driver, hidle.shadow, hidle.probing, hidle.token⟩⟩
  | probed hframes =>
    unfold finishProbe
    simp only
    split
    · exact ⟨fun _ => rfl, fun _ _ => ⟨rfl, rfl, rfl, rfl⟩⟩
    · exact ⟨fun _ => rfl, fun _ ha => by cases ha⟩

theorem idle_of_run {es : List (Exchange Call Ret)} {s : State} (h : Run Calls State.boot es s)
    (hframes : .probe ∉ s.frames) (hactive : s.pci.active = false) : Idle s :=
  (h.invariant (fun _ _ _ hs hc => settled_step (call_life hc) hs) settled_boot).idle hframes
    hactive

end SeLinOS.Kapi
