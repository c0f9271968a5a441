import SeLinOS.Kapi.Core

/-!
# The DMA lease over every sequence of calls

What holds of the lease record in every run of calls, callbacks and replies.

* `LeaseStep`: what a call can do to the lease, one case for each write; `call_lease`.
* `DmaLease.Sound`: the masks cover the leased memory, and an allocation has a device.
* `Allocates`, `Frees`, `Outstanding`: an allocation that no accepted free has followed.
* `lease_invariant`: outstanding allocations, their masks and device, and the end of the lease.
-/

namespace SeLinOS.Kapi

open CLogic Sel4

/-! ## What a call does to the lease -/

/-- An exchange with the KAPI. -/
abbrev KapiCall : Type := Exchange Call Ret

/-- A mask that was accepted. -/
def Masks (x : KapiCall) : Prop :=
  ∃ dev mask, x.request = .setMaskAndCoherent dev mask ∧ x.reply = .int 0

/-- An allocation of `size` bytes that gave the handle `h`. -/
def Allocates (size h : Word) (x : KapiCall) : Prop :=
  ∃ dev dmaHandle cpu, x.request = .allocCoherent dev size dmaHandle ∧
    x.reply = .memory (some (cpu, h))

/-- A free that was accepted. -/
def Frees (x : KapiCall) : Prop :=
  ∃ dev size cpuAddr dmaHandle callerToken reply request,
    x.request = .freeCoherent dev size cpuAddr dmaHandle callerToken reply ∧
    x.reply = .asked request ∧ FreeAccepted reply

/-- Neither of the three. -/
def Quiet (x : KapiCall) : Prop := ¬ Masks x ∧ (∀ size h, ¬ Allocates size h x) ∧ ¬ Frees x

/-- A binding of the lease that was accepted. -/
def Binds (x : KapiCall) (cpuAddress dmaAddress size dmaMask : Word) : Prop :=
  ∃ dev freeEndpoint,
    x.request = .bindDmaLease dev cpuAddress dmaAddress size dmaMask freeEndpoint ∧
    x.reply = .int 0

/-- The lease from a call to the next one. -/
inductive LeaseStep (x : KapiCall) (l : DmaLease) : DmaLease → Prop
  | kept (hquiet : Quiet x) : LeaseStep x l l
  | bound {dev : DevicePtr} {cpuAddress dmaAddress size dmaMask freeEndpoint : Word}
      (hquiet : Quiet x) (hbinds : Binds x cpuAddress dmaAddress size dmaMask)
      (hsize : size ≠ 0) (hfirst : l.configured = false) (haddress : dmaAddress ≤ dmaMask)
      (hmask : size - 1 ≤ dmaMask - dmaAddress) :
      LeaseStep x l { l with
        device := dev, cpuAddress, dmaAddress, size, supportedMask := dmaMask, freeEndpoint,
        configured := true }
  | attached (hquiet : Quiet x) (hconfigured : l.configured) (hnull : l.device = .null) :
      LeaseStep x l { l with device := .shadow }
  | detached (hquiet : Quiet x) (hfree : l.allocated = false) :
      LeaseStep x l { l with device := .null }
  | cleared (hquiet : Quiet x) (hfree : l.allocated = false) :
      LeaseStep x l { l with device := .null, selectedMask := 0 }
  | masked {mask : Word} (hmasks : Masks x) (hdev : l.device ≠ .null) (hlive : l.revoked = false)
      (hmask : mask ≠ 0) (hsupported : mask ≤ l.supportedMask) (haddress : l.dmaAddress ≤ mask)
      (hsize : l.size - 1 ≤ mask - l.dmaAddress) :
      LeaseStep x l { l with selectedMask := mask }
  | allocated {size : Word} (hallocates : Allocates size l.dmaAddress x) (hdev : l.device ≠ .null)
      (hlive : l.revoked = false) (hmask : l.selectedMask ≠ 0) (hfree : l.allocated = false)
      (hpos : size ≠ 0) (hsize : size ≤ l.size) :
      LeaseStep x l { l with allocatedSize := size, allocated := true }
  | freed (hfrees : Frees x) (hallocated : l.allocated) :
      LeaseStep x l { l with allocatedSize := 0, allocated := false, revoked := true }

/-- The calls of the other functions, whatever they give. -/
theorem quiet_of_request {x : KapiCall}
    (hm : ∀ dev mask, x.request ≠ .setMaskAndCoherent dev mask)
    (ha : ∀ dev size dmaHandle, x.request ≠ .allocCoherent dev size dmaHandle)
    (hf : ∀ dev size cpuAddr dmaHandle callerToken reply,
      x.request ≠ .freeCoherent dev size cpuAddr dmaHandle callerToken reply) : Quiet x := by
  refine ⟨?_, ?_, ?_⟩
  · rintro ⟨dev, mask, h, -⟩
    exact hm dev mask h
  · rintro size h ⟨dev, dmaHandle, cpu, hr, -⟩
    exact ha dev size dmaHandle hr
  · rintro ⟨dev, size, cpuAddr, dmaHandle, callerToken, reply, request, h, -⟩
    exact hf dev size cpuAddr dmaHandle callerToken reply h

/-! ## One lemma a function -/

variable {s s' : State}

theorem bindDeviced_dma (requestEndpoint : Word) (s : State) :
    (bindDeviced requestEndpoint s).2.dma = s.dma := by
  unfold bindDeviced; split <;> rfl

theorem enableDevice_dma (pdev : DevicePtr) (s : State) : (enableDevice pdev s).2.dma = s.dma := by
  unfold enableDevice; split <;> rfl

theorem disableDevice_dma (pdev : DevicePtr) (s : State) :
    (disableDevice pdev s).2.dma = s.dma := by
  unfold disableDevice; split <;> rfl

theorem setMaster_dma (pdev : DevicePtr) (s : State) : (setMaster pdev s).2.dma = s.dma := by
  unfold setMaster; split <;> rfl

theorem requestIrq_dma (irq : BitVec 32) (handler devId : Word) (reply : Message) (s : State) :
    (requestIrq irq handler devId reply s).2.dma = s.dma := by
  unfold requestIrq; split_ifs <;> rfl

theorem freeIrq_dma (irq : BitVec 32) (devId : Word) (reply : Message) (s : State) :
    (freeIrq irq devId reply s).2.dma = s.dma := by
  unfold freeIrq; split_ifs <;> rfl

theorem bindIrq_dma (irq : BitVec 32) (notificationCap completionEndpoint requestEndpoint
    registerControl unregisterControl : Word) (s : State) :
    (bindIrq irq notificationCap completionEndpoint requestEndpoint registerControl
      unregisterControl s).2.dma = s.dma := by
  unfold bindIrq; split <;> rfl

theorem dispatchOneIrq_dma (s : State) : (dispatchOneIrq s).2.dma = s.dma := by
  unfold dispatchOneIrq; split <;> rfl

section Lease

variable {x : KapiCall}

/-- A registration attaches the lease to the shadow device, or leaves it. -/
theorem registerDriver_lease (hquiet : Quiet x) (driver : Option PciDriver)
    (replies : Nat → Message) (s : State) :
    LeaseStep x s.dma (registerDriver driver replies s).2.dma := by
  unfold registerDriver
  split
  · exact .kept hquiet
  split
  · exact .kept hquiet
  split
  · exact .kept hquiet
  split
  · exact .kept hquiet
  · exact .kept hquiet
  · simp only [startProbe]
    split
    · rename_i hc
      exact .attached hquiet hc.1 hc.2
    · exact .kept hquiet

theorem finishProbe_lease (hquiet : Quiet x) (status : Int) (s : State) :
    LeaseStep x s.dma (finishProbe status s).2.dma := by
  unfold finishProbe
  simp only
  split
  · simp only
    split
    · rename_i hc
      exact .detached hquiet (Bool.eq_false_iff.mpr hc)
    · exact .kept hquiet
  · exact .kept hquiet

theorem finishRemove_lease (hquiet : Quiet x) (s : State) :
    LeaseStep x s.dma (finishRemove s).dma := by
  unfold finishRemove
  simp only
  split
  · rename_i hc
    exact .cleared hquiet (Bool.eq_false_iff.mpr hc)
  · exact .kept hquiet

theorem unregisterDriver_lease (hquiet : Quiet x) (driver : Option PciDriver) (s : State) :
    LeaseStep x s.dma (unregisterDriver driver s).2.dma := by
  unfold unregisterDriver
  split
  · exact .kept hquiet
  split
  · exact .kept hquiet
  split
  · exact .kept hquiet
  · exact finishRemove_lease hquiet s

end Lease

theorem bindDmaLease_lease {dev : DevicePtr}
    {cpuAddress dmaAddress size dmaMask freeEndpoint : Word} {reply : Ret}
    (h : bindDmaLease dev cpuAddress dmaAddress size dmaMask freeEndpoint s = (reply, s')) :
    LeaseStep ⟨.bindDmaLease dev cpuAddress dmaAddress size dmaMask freeEndpoint, reply⟩ s.dma
      s'.dma := by
  have hquiet : Quiet ⟨.bindDmaLease dev cpuAddress dmaAddress size dmaMask freeEndpoint, reply⟩ :=
    quiet_of_request (by simp) (by simp) (by simp)
  unfold bindDmaLease at h
  split at h
  · cases h
    exact .kept hquiet
  · rename_i hc
    cases h
    simp only [not_or, Bool.not_eq_true, gt_iff_lt, BitVec.not_lt] at hc
    obtain ⟨-, -, hsize, -, -, hfirst, haddress, hmask⟩ := hc
    exact .bound hquiet ⟨dev, freeEndpoint, rfl, rfl⟩ hsize hfirst haddress hmask

theorem setMaskAndCoherent_lease {dev : DevicePtr} {mask : Word} {reply : Ret}
    (h : setMaskAndCoherent dev mask s = (reply, s')) :
    LeaseStep ⟨.setMaskAndCoherent dev mask, reply⟩ s.dma s'.dma := by
  unfold setMaskAndCoherent at h
  split at h
  · cases h
    refine .kept ⟨?_, ?_, ?_⟩
    · rintro ⟨dev', mask', -, hr⟩
      exact absurd (Ret.int.inj hr) (by decide)
    · rintro size a ⟨_, _, _, hr, -⟩
      cases hr
    · rintro ⟨_, _, _, _, _, _, _, hr, -⟩
      cases hr
  · rename_i hc
    cases h
    simp only [not_or, Bool.not_eq_true, gt_iff_lt, BitVec.not_lt, not_not] at hc
    obtain ⟨hnull, hdev, hlive, hmask, hsupported, haddress, hsize⟩ := hc
    exact .masked ⟨dev, mask, rfl, rfl⟩ (hdev ▸ hnull) hlive hmask hsupported haddress hsize

theorem allocCoherent_lease {dev : DevicePtr} {size : Word} {dmaHandle : Bool} {reply : Ret}
    (h : allocCoherent dev size dmaHandle s = (reply, s')) :
    LeaseStep ⟨.allocCoherent dev size dmaHandle, reply⟩ s.dma s'.dma := by
  unfold allocCoherent at h
  split at h
  · cases h
    refine .kept ⟨?_, ?_, ?_⟩
    · rintro ⟨_, _, hr, -⟩
      cases hr
    · rintro size' a ⟨_, _, _, -, hr⟩
      cases hr
    · rintro ⟨_, _, _, _, _, _, _, hr, -⟩
      cases hr
  · rename_i hc
    cases h
    simp only [not_or, Bool.not_eq_true, gt_iff_lt, BitVec.not_lt, not_not] at hc
    obtain ⟨hnull, -, hdev, hlive, hmask, hfree, hpos, hsize⟩ := hc
    exact .allocated ⟨dev, dmaHandle, _, rfl, rfl⟩ (hdev ▸ hnull) hlive hmask hfree hpos hsize

theorem freeCoherent_lease {dev : DevicePtr} {size cpuAddr dmaHandle callerToken : Word}
    {answer : Message} {reply : Ret}
    (h : freeCoherent dev size cpuAddr dmaHandle callerToken answer s = (reply, s')) :
    LeaseStep ⟨.freeCoherent dev size cpuAddr dmaHandle callerToken answer, reply⟩
      s.dma s'.dma := by
  have hkept : ∀ r, (∀ request, r = .asked request → ¬ FreeAccepted answer) →
      Quiet ⟨.freeCoherent dev size cpuAddr dmaHandle callerToken answer, r⟩ := by
    intro r hr
    refine ⟨?_, ?_, ?_⟩
    · rintro ⟨_, _, hreq, -⟩
      cases hreq
    · rintro size' a ⟨_, _, _, hreq, -⟩
      cases hreq
    · rintro ⟨_, _, _, _, _, _, request, hreq, hret, haccept⟩
      cases hreq
      exact hr request hret haccept
  unfold freeCoherent at h
  split at h
  · cases h
    exact .kept (hkept _ (by simp))
  · rename_i hc
    simp only at h
    split at h
    · cases h
      exact .kept (hkept _ (by simp))
    · split at h
      · rename_i hrefused
        cases h
        exact .kept (hkept _ fun _ _ => hrefused)
      · rename_i haccept
        cases h
        simp only [not_or, not_not] at hc
        exact .freed ⟨_, _, _, _, _, _, _, rfl, rfl, not_not.mp haccept⟩ hc.2.1

/-- A call that leaves the lease. -/
theorem LeaseStep.of_dma {x : KapiCall} {result : Ret × State} (hquiet : Quiet x)
    (hdma : result.2.dma = s.dma) (h : some result = some (x.reply, s')) :
    LeaseStep x s.dma s'.dma := by
  obtain rfl := Option.some.inj h
  rw [show s'.dma = s.dma from hdma]
  exact .kept hquiet

/-- What a call does to the lease. -/
theorem call_lease {x : KapiCall} (h : Calls s x s') : LeaseStep x s.dma s'.dma := by
  obtain ⟨request, reply⟩ := x
  cases request with
  | setMaskAndCoherent dev mask => exact setMaskAndCoherent_lease (Option.some.inj h)
  | allocCoherent dev size dmaHandle => exact allocCoherent_lease (Option.some.inj h)
  | freeCoherent dev size cpuAddr dmaHandle callerToken answer =>
    exact freeCoherent_lease (Option.some.inj h)
  | bindDmaLease dev cpuAddress dmaAddress size dmaMask freeEndpoint =>
    exact bindDmaLease_lease (Option.some.inj h)
  | registerDriver driver replies =>
    have hs : (registerDriver driver replies s).2 = s' := congrArg Prod.snd (Option.some.inj h)
    subst hs
    exact registerDriver_lease (quiet_of_request (by simp) (by simp) (by simp)) driver replies s
  | unregisterDriver driver =>
    have hs : (unregisterDriver driver s).2 = s' := congrArg Prod.snd (Option.some.inj h)
    subst hs
    exact unregisterDriver_lease (quiet_of_request (by simp) (by simp) (by simp)) driver s
  | callbackReturn status =>
    have hquiet : Quiet ⟨.callbackReturn status, reply⟩ :=
      quiet_of_request (by simp) (by simp) (by simp)
    simp only [Calls, call, callbackReturn] at h
    split at h
    · cases h
    · rename_i frames hframes
      have hs : (finishProbe status { s with frames }).2 = s' :=
        congrArg Prod.snd (Option.some.inj h)
      subst hs
      exact finishProbe_lease hquiet status { s with frames }
    · rename_i frames hframes
      cases h
      exact finishRemove_lease hquiet { s with frames }
    · cases h
      exact .kept hquiet
    · cases h
      exact .kept hquiet
  | scheduleWork runnable =>
    refine .of_dma (quiet_of_request (by simp) (by simp) (by simp)) ?_ h
    split <;> rfl
  | bindDeviced requestEndpoint =>
    exact .of_dma (quiet_of_request (by simp) (by simp) (by simp)) (bindDeviced_dma _ s) h
  | enableDevice pdev =>
    exact .of_dma (quiet_of_request (by simp) (by simp) (by simp)) (enableDevice_dma _ s) h
  | disableDevice pdev =>
    exact .of_dma (quiet_of_request (by simp) (by simp) (by simp)) (disableDevice_dma _ s) h
  | setMaster pdev =>
    exact .of_dma (quiet_of_request (by simp) (by simp) (by simp)) (setMaster_dma _ s) h
  | requestIrq irq handler devId answer =>
    exact .of_dma (quiet_of_request (by simp) (by simp) (by simp)) (requestIrq_dma _ _ _ _ s) h
  | freeIrq irq devId answer =>
    exact .of_dma (quiet_of_request (by simp) (by simp) (by simp)) (freeIrq_dma _ _ _ s) h
  | bindIrq irq notificationCap completionEndpoint requestEndpoint registerControl
      unregisterControl =>
    exact .of_dma (quiet_of_request (by simp) (by simp) (by simp)) (bindIrq_dma _ _ _ _ _ _ s) h
  | dispatchOneIrq =>
    exact .of_dma (quiet_of_request (by simp) (by simp) (by simp)) (dispatchOneIrq_dma s) h

/-! ## The lease in every state -/

/-- The memory from `address` on, `size` bytes, lies below the end of `mask`: as numbers, so that
nothing wraps. -/
def Covers (mask address size : Word) : Prop :=
  size ≠ 0 ∧ address.toNat + size.toNat - 1 ≤ mask.toNat

theorem covers_of_le {mask address size : Word} (hsize : size ≠ 0) (haddress : address ≤ mask)
    (h : size - 1 ≤ mask - address) : Covers mask address size :=
  ⟨hsize, by bv_omega⟩

theorem Covers.shrink {mask address size part : Word} (h : Covers mask address size)
    (hpos : part ≠ 0) (hle : part ≤ size) : Covers mask address part :=
  ⟨hpos, by have := h.2; bv_omega⟩

/-- What holds of the lease record. -/
structure DmaLease.Sound (l : DmaLease) : Prop where
  device : l.device ≠ .null → l.configured
  supported : l.configured → Covers l.supportedMask l.dmaAddress l.size
  selected : l.selectedMask ≠ 0 → l.configured ∧ l.selectedMask ≤ l.supportedMask ∧
    Covers l.selectedMask l.dmaAddress l.size
  allocated : l.allocated → l.device ≠ .null ∧ l.selectedMask ≠ 0 ∧ l.allocatedSize ≠ 0 ∧
    l.allocatedSize ≤ l.size

/-- A record that has not been bound has neither a device nor a mask nor an allocation. -/
theorem DmaLease.Sound.unbound {l : DmaLease} (h : l.Sound) (hfirst : l.configured = false) :
    l.selectedMask = 0 ∧ l.allocated = false := by
  have hmask : l.selectedMask = 0 := by
    by_contra hm
    exact absurd (h.selected hm).1 (by simp [hfirst])
  refine ⟨hmask, ?_⟩
  by_contra ha
  exact (h.allocated (by simpa using ha)).2.1 hmask

theorem LeaseStep.sound {x : KapiCall} {l l' : DmaLease} (h : LeaseStep x l l') (hl : l.Sound) :
    l'.Sound := by
  cases h with
  | kept => exact hl
  | bound hquiet hbinds hsize hfirst haddress hmask =>
    obtain ⟨hzero, hfree⟩ := hl.unbound hfirst
    exact ⟨fun _ => rfl, fun _ => covers_of_le hsize haddress hmask, fun hm => absurd hzero hm,
      fun ha => absurd (hfree.symm.trans ha) (by decide)⟩
  | attached hquiet hconfigured hnull =>
    exact ⟨fun _ => hconfigured, hl.supported, hl.selected, fun ha =>
      ⟨by simp, (hl.allocated ha).2⟩⟩
  | detached hquiet hfree =>
    exact ⟨fun hd => absurd rfl hd, hl.supported, hl.selected,
      fun ha => absurd (hfree.symm.trans ha) (by decide)⟩
  | cleared hquiet hfree =>
    exact ⟨fun hd => absurd rfl hd, hl.supported, fun hm => absurd rfl hm,
      fun ha => absurd (hfree.symm.trans ha) (by decide)⟩
  | masked hmasks hdev hlive hmask hsupported haddress hsize =>
    have hconfigured := hl.device hdev
    have hpos := (hl.supported hconfigured).1
    exact ⟨hl.device, hl.supported, fun _ => ⟨hconfigured, hsupported,
      covers_of_le hpos haddress hsize⟩, fun ha => ⟨hdev, hmask, (hl.allocated ha).2.2⟩⟩
  | allocated hallocates hdev hlive hmask hfree hpos hsize =>
    exact ⟨hl.device, hl.supported, hl.selected, fun _ => ⟨hdev, hmask, hpos, hsize⟩⟩
  | freed hfrees hallocated =>
    exact ⟨hl.device, hl.supported, hl.selected, fun ha => by cases ha⟩

/-! ## Runs -/

/-- The allocation of `x` has not been freed: no accepted free is in `since`, which followed it. -/
def Outstanding (es : List KapiCall) (x : KapiCall) (since : List KapiCall) : Prop :=
  Since (fun x => ∃ size h, Allocates size h x) Frees es x since

/-- The lease knows the calls so far. -/
structure Tracks (es : List KapiCall) (l : DmaLease) : Prop where
  sound : l.Sound
  binds : l.configured → ∃ y ∈ es, Binds y l.cpuAddress l.dmaAddress l.size l.supportedMask
  outstanding : ∀ x since, Outstanding es x since →
    l.allocated ∧ Allocates l.allocatedSize l.dmaAddress x
  unique : ∀ x since y since', Outstanding es x since → Outstanding es y since' → since = since'
  revoked : (∃ y ∈ es, Frees y) → l.revoked

section Tracks

variable {es : List KapiCall} {l l' : DmaLease} {x : KapiCall}

/-- A call that neither allocates nor frees keeps what is outstanding. -/
theorem Tracks.neutral (h : Tracks es l) (hsound : l'.Sound)
    (hallocates : ∀ size a, ¬ Allocates size a x) (hfrees : ¬ Frees x)
    (hbinds : l'.configured →
      ∃ y ∈ es ++ [x], Binds y l'.cpuAddress l'.dmaAddress l'.size l'.supportedMask)
    (hout : l.allocated → l'.allocated ∧ l'.allocatedSize = l.allocatedSize ∧
      l'.dmaAddress = l.dmaAddress)
    (hrevoked : l.revoked → l'.revoked) : Tracks (es ++ [x]) l' := by
  have hsince : ∀ y since, Outstanding (es ++ [x]) y since →
      ∃ earlier, Outstanding es y earlier ∧ since = earlier ++ [x] := by
    intro y since hs
    rcases Since.snoc_iff.mp hs with ⟨⟨size, a, ha⟩, -⟩ | ⟨-, hs⟩
    · exact absurd ha (hallocates size a)
    · exact hs
  refine ⟨hsound, hbinds, fun y since hs => ?_, fun y since z since' hy hz => ?_, ?_⟩
  · obtain ⟨earlier, hs, -⟩ := hsince y since hs
    obtain ⟨hallocated, hy⟩ := h.outstanding y earlier hs
    obtain ⟨ha, hsize, haddress⟩ := hout hallocated
    rw [hsize, haddress]
    exact ⟨ha, hy⟩
  · obtain ⟨earlier, hy₁, rfl⟩ := hsince y since hy
    obtain ⟨earlier', hz₁, rfl⟩ := hsince z since' hz
    rw [h.unique y earlier z earlier' hy₁ hz₁]
  · rintro ⟨y, hy, hf⟩
    rcases List.mem_append.mp hy with hy | hy
    · exact hrevoked (h.revoked ⟨y, hy, hf⟩)
    · obtain rfl := List.mem_singleton.mp hy
      exact absurd hf hfrees

/-- The binding of the lease stays among the calls. -/
theorem Tracks.binds_snoc (h : Tracks es l) (x : KapiCall) (hc : l.configured) :
    ∃ y ∈ es ++ [x], Binds y l.cpuAddress l.dmaAddress l.size l.supportedMask := by
  obtain ⟨y, hy, hb⟩ := h.binds hc
  exact ⟨y, List.mem_append_left _ hy, hb⟩

theorem not_allocates_of_masks (h : Masks x) (size a : Word) : ¬ Allocates size a x := by
  rintro ⟨_, _, _, hr, -⟩
  obtain ⟨_, _, hr', -⟩ := h
  exact absurd (hr.symm.trans hr') (by simp)

theorem not_frees_of_masks (h : Masks x) : ¬ Frees x := by
  rintro ⟨_, _, _, _, _, _, _, hr, -⟩
  obtain ⟨_, _, hr', -⟩ := h
  exact absurd (hr.symm.trans hr') (by simp)

theorem not_frees_of_allocates {size a : Word} (h : Allocates size a x) : ¬ Frees x := by
  rintro ⟨_, _, _, _, _, _, _, hr, -⟩
  obtain ⟨_, _, _, hr', -⟩ := h
  exact absurd (hr.symm.trans hr') (by simp)

theorem tracks_step (h : Tracks es l) (hstep : LeaseStep x l l') : Tracks (es ++ [x]) l' := by
  have hsound := hstep.sound h.sound
  cases hstep with
  | kept hquiet =>
    exact h.neutral hsound hquiet.2.1 hquiet.2.2 (h.binds_snoc x) (fun ha => ⟨ha, rfl, rfl⟩) id
  | bound hquiet hbinds hsize hfirst haddress hmask =>
    have hfree := (h.sound.unbound hfirst).2
    exact h.neutral hsound hquiet.2.1 hquiet.2.2
      (fun _ => ⟨x, List.mem_append_right _ (List.mem_singleton.mpr rfl), hbinds⟩)
      (fun ha => absurd (hfree.symm.trans ha) (by decide)) id
  | attached hquiet hconfigured hnull =>
    exact h.neutral hsound hquiet.2.1 hquiet.2.2 (h.binds_snoc x) (fun ha => ⟨ha, rfl, rfl⟩) id
  | detached hquiet hfree =>
    exact h.neutral hsound hquiet.2.1 hquiet.2.2 (h.binds_snoc x) (fun ha => ⟨ha, rfl, rfl⟩) id
  | cleared hquiet hfree =>
    exact h.neutral hsound hquiet.2.1 hquiet.2.2 (h.binds_snoc x) (fun ha => ⟨ha, rfl, rfl⟩) id
  | masked hmasks =>
    exact h.neutral hsound (not_allocates_of_masks hmasks) (not_frees_of_masks hmasks)
      (h.binds_snoc x) (fun ha => ⟨ha, rfl, rfl⟩) id
  | allocated hallocates hdev hlive hmask hfree hpos hsize =>
    have hnone : ∀ y since, ¬ Outstanding es y since := fun y since hs =>
      absurd (hfree.symm.trans (h.outstanding y since hs).1) (by decide)
    have hnew : ∀ y since, Outstanding (es ++ [x]) y since → y = x ∧ since = [] := by
      intro y since hs
      rcases Since.snoc_iff.mp hs with ⟨-, rfl, rfl⟩ | ⟨-, earlier, hs, -⟩
      · exact ⟨rfl, rfl⟩
      · exact absurd hs (hnone y earlier)
    refine ⟨hsound, h.binds_snoc x, fun y since hs => ?_, fun y since z since' hy hz => ?_, ?_⟩
    · obtain ⟨rfl, -⟩ := hnew y since hs
      exact ⟨rfl, hallocates⟩
    · rw [(hnew y since hy).2, (hnew z since' hz).2]
    · rintro ⟨y, hy, hf⟩
      rcases List.mem_append.mp hy with hy | hy
      · exact h.revoked ⟨y, hy, hf⟩
      · obtain rfl := List.mem_singleton.mp hy
        exact absurd hf (not_frees_of_allocates hallocates)
  | freed hfrees hallocated =>
    have hnone : ∀ y since, ¬ Outstanding (es ++ [x]) y since := by
      intro y since hs
      rcases Since.snoc_iff.mp hs with ⟨⟨size, a, ha⟩, -⟩ | ⟨hn, -⟩
      · exact not_frees_of_allocates ha hfrees
      · exact hn hfrees
    exact ⟨hsound, h.binds_snoc x, fun y since hs => absurd hs (hnone y since),
      fun y since _ _ hy => absurd hy (hnone y since), fun _ => rfl⟩

end Tracks

theorem sound_boot : State.boot.dma.Sound where
  device h := absurd rfl h
  supported h := absurd h (by decide)
  selected h := absurd rfl h
  allocated h := absurd h (by decide)

theorem tracks_boot : Tracks [] State.boot.dma where
  sound := sound_boot
  binds h := absurd h (by decide)
  outstanding _ _ hs := absurd hs Since.not_nil
  unique _ _ _ _ hs := absurd hs Since.not_nil
  revoked h := by simp at h

theorem tracks_run {es : List KapiCall} {s : State} (h : Run Calls State.boot es s) :
    Tracks es s.dma :=
  Run.history (I := fun es (s : State) => Tracks es s.dma)
    (fun _ _ _ _ ht hx => tracks_step ht (call_lease hx)) h tracks_boot

/-- **The DMA lease**, in every run of calls with any arguments, replies and callbacks: at most one
allocation is outstanding; it has the address of the lease as its handle, the selected mask covers
it and is not above the supported one, and the lease has a device; and after an accepted free
neither a mask nor an allocation is accepted. -/
theorem lease_invariant {es : List KapiCall} {s : State} (h : Run Calls State.boot es s) :
    (∀ x since y since', Outstanding es x since → Outstanding es y since' → since = since') ∧
    (∀ x since size a, Outstanding es x since → Allocates size a x →
      s.dma.device ≠ .null ∧ Covers s.dma.selectedMask a size ∧
      s.dma.selectedMask.toNat ≤ s.dma.supportedMask.toNat ∧
      ∃ y ∈ es, ∃ cpuAddress leased, Binds y cpuAddress a leased s.dma.supportedMask) ∧
    ∀ before x, before ++ [x] <+: es → (∃ y ∈ before, Frees y) →
      ¬ Masks x ∧ ∀ size a, ¬ Allocates size a x := by
  have ht := tracks_run h
  refine ⟨ht.unique, fun x since size a hs ha => ?_, fun before x hp hf => ?_⟩
  · obtain ⟨hallocated, hx⟩ := ht.outstanding x since hs
    obtain ⟨dev, dmaHandle, cpu, hreq, hret⟩ := ha
    obtain ⟨dev', dmaHandle', cpu', hreq', hret'⟩ := hx
    have hsize := hreq.symm.trans hreq'
    have haddress := hret.symm.trans hret'
    simp only [Call.allocCoherent.injEq] at hsize
    simp only [Ret.memory.injEq, Option.some.injEq, Prod.mk.injEq] at haddress
    obtain ⟨hdev, hmask, hpos, hle⟩ := ht.sound.allocated hallocated
    obtain ⟨hconfigured, hsupported, hcovers⟩ := ht.sound.selected hmask
    obtain ⟨y, hy, hb⟩ := ht.binds hconfigured
    rw [hsize.2.1, haddress.2]
    exact ⟨hdev, hcovers.shrink hpos hle, hsupported, y, hy, _, _, hb⟩
  · obtain ⟨s₁, s₂, hb, hx⟩ := h.at_label hp
    have hrevoked := (tracks_run hb).revoked hf
    have hstep := call_lease hx
    generalize s₂.dma = l' at hstep
    cases hstep with
    | masked _ _ hlive => exact absurd (hlive.symm.trans hrevoked) (by decide)
    | allocated _ _ hlive => exact absurd (hlive.symm.trans hrevoked) (by decide)
    | freed hfrees =>
      exact ⟨fun hm => not_frees_of_masks hm hfrees,
        fun _ _ ha => not_frees_of_allocates ha hfrees⟩
    | kept hquiet => exact ⟨hquiet.1, hquiet.2.1⟩
    | bound hquiet => exact ⟨hquiet.1, hquiet.2.1⟩
    | attached hquiet => exact ⟨hquiet.1, hquiet.2.1⟩
    | detached hquiet => exact ⟨hquiet.1, hquiet.2.1⟩
    | cleared hquiet => exact ⟨hquiet.1, hquiet.2.1⟩

/-- The driver of the edu device: one entry in its table. -/
def eduDriver : PciDriver where
  address := 0x400000
  idTable := some fun index =>
    if index = 0 then ⟨0x1234, 0x11e8, PCI_ANY_ID, PCI_ANY_ID, 0, 0, 0⟩ else ⟨0, 0, 0, 0, 0, 0, 0⟩
  probe := true
  remove := true

/-- What deviced answers to its registration. -/
def eduReply : Nat → Message := fun _ =>
  .ofWords [DEVICED_REGISTER_ACCEPTED, 7, 0x1234, 0x11e8, 11, 0xfe000000, 0x100000]

/-- The calls of its probe, up to the allocation. -/
def eduCalls : List KapiCall :=
  [⟨.bindDeviced 271, .int 0⟩,
    ⟨.bindDmaLease .null 0x600000100000 0x1000 0x1000 0xffffffff 260, .int 0⟩,
    ⟨.registerDriver (some eduDriver) fun _ =>
      .ofWords [DEVICED_REGISTER_ACCEPTED, 7, 0x1234, 0x11e8, 11, 0xfe000000, 0x100000], .callback⟩,
    ⟨.setMaskAndCoherent .shadow 0xfffffff, .int 0⟩,
    ⟨.allocCoherent .shadow 256 true, .memory (some (0x600000100000, 0x1000))⟩]

/-- The allocation of the edu probe. -/
theorem lease_invariant_edu : ∃ s, Run Calls State.boot eduCalls s ∧ s.dma.device ≠ .null ∧
    Covers s.dma.selectedMask 0x1000 256 := by
  have hrun : ∃ s, Run Calls State.boot eduCalls s :=
    ⟨_, .cons rfl (.cons rfl (.cons rfl (.cons rfl (.cons rfl .nil))))⟩
  obtain ⟨s, hrun⟩ := hrun
  have hallocates : Allocates 256 0x1000
      ⟨.allocCoherent .shadow 256 true, .memory (some (0x600000100000, 0x1000))⟩ :=
    ⟨_, _, _, rfl, rfl⟩
  have hout : Outstanding eduCalls
      ⟨.allocCoherent .shadow 256 true, .memory (some (0x600000100000, 0x1000))⟩ [] :=
    ⟨⟨_, _, hallocates⟩, by simp, eduCalls.take 4, rfl⟩
  have hinv := (lease_invariant hrun).2.1 _ _ _ _ hout hallocates
  exact ⟨s, hrun, hinv.1, hinv.2.1⟩

end SeLinOS.Kapi
