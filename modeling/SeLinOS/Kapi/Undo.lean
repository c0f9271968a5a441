import SeLinOS.Kapi.DmaLease
import SeLinOS.Kapi.Life

/-!
# Undoing a failed registration

`pci_register_driver` writes the three records before the probe, and where the probe fails it writes
fixed values into some of their fields. The probe here enables the device, makes it a master and
selects DMA masks.

* `FailedRegistration`: a registration that returns an error.
* `acceptedMasks`: the masks that the probe selects.
* `Restores`: when the fixed values are those from before the call.
* `failed_registration_iff`: a failed registration is undone exactly then.
-/

namespace SeLinOS.Kapi

open CLogic Sel4

/-- The calls of the probe. -/
def Call.InProbe : Call → Prop
  | .enableDevice _ => True
  | .setMaster _ => True
  | .setMaskAndCoherent .. => True
  | _ => False

/-- `pci_register_driver` returns an error: before the probe, or after a probe with these calls. -/
inductive FailedRegistration (driver : Option PciDriver) (replies : Nat → Message) (s : State) :
    List Call → State → Prop
  | refused {status : Int} {s' : State} (h : registerDriver driver replies s = (.int status, s')) :
    FailedRegistration driver replies s [] s'
  | failed {calls : List Call} {status : Int} {s₁ s₂ s' : State}
      (hstart : registerDriver driver replies s = (.callback, s₁))
      (hprobe : Run (Next State.next) s₁ calls s₂) (hcalls : ∀ c ∈ calls, c.InProbe)
      (hstatus : status ≠ 0) (hreturn : callbackReturn status s₂ = some (.int status, s')) :
    FailedRegistration driver replies s calls s'

/-- The checks of `dma_set_mask_and_coherent`. -/
def MaskAccepted (l : DmaLease) (dev : DevicePtr) (mask : Word) : Prop :=
  ¬ (dev = .null ∨ dev ≠ l.device ∨ l.revoked ∨ mask = 0 ∨ mask > l.supportedMask ∨
    l.dmaAddress > mask ∨ l.size - 1 > mask - l.dmaAddress)

instance (l : DmaLease) (dev : DevicePtr) (mask : Word) : Decidable (MaskAccepted l dev mask) :=
  inferInstanceAs (Decidable (¬ _))

/-- The mask that the call selects in the lease. -/
def selectedBy (l : DmaLease) : Call → Option Word
  | .setMaskAndCoherent dev mask => if MaskAccepted l dev mask then some mask else none
  | _ => none

/-- The masks that the calls select, in order. -/
def acceptedMasks (l : DmaLease) (calls : List Call) : List Word := calls.filterMap (selectedBy l)

/-- The lease that the probe sees: one without a device gets the shadow device. -/
def attached (l : DmaLease) : DmaLease :=
  if l.configured ∧ l.device = .null then { l with device := .shadow } else l

/-- The values that a failed registration writes are those from before it. -/
structure Restores (s : State) (calls : List Call) : Prop where
  idle : Idle s
  /-- The device of a lease is cleared unless the memory is allocated. -/
  device : if s.dma.allocated then ¬ (s.dma.configured ∧ s.dma.device = .null)
    else s.dma.device = .null
  /-- The selected mask stays. -/
  mask : ∀ mask ∈ (acceptedMasks (attached s.dma) calls).getLast?, mask = s.dma.selectedMask

section Probe

variable {s t t' : State} {calls : List Call}

/-- What the probe has done: flags, and the last mask. -/
structure Probed (calls : List Call) (t t' : State) : Prop where
  irq : t'.irq = t.irq
  dma : t'.dma = { t.dma with
    selectedMask := (acceptedMasks t.dma calls).getLast?.getD t.dma.selectedMask }
  frames : t'.frames = t.frames
  pci : t'.pci = { t.pci with shadowPdev := t'.pci.shadowPdev }

theorem Probed.start (t : State) : Probed [] t t := ⟨rfl, rfl, rfl, rfl⟩

theorem selectedBy_selectedMask (l : DmaLease) (mask : Word) (c : Call) :
    selectedBy { l with selectedMask := mask } c = selectedBy l c := by
  cases c <;> rfl

theorem acceptedMasks_snoc (l : DmaLease) (calls : List Call) (c : Call) :
    acceptedMasks l (calls ++ [c]) = acceptedMasks l calls ++ (selectedBy l c).toList := by
  cases h : selectedBy l c <;> simp [acceptedMasks, h]

/-- A call that selects no mask. -/
theorem Probed.flags {t'' : State} {c : Call} (h : Probed calls t t')
    (hmask : selectedBy t.dma c = none) (hirq : t''.irq = t'.irq) (hdma : t''.dma = t'.dma)
    (hframes : t''.frames = t'.frames)
    (hpci : t''.pci = { t'.pci with shadowPdev := t''.pci.shadowPdev }) :
    Probed (calls ++ [c]) t t'' where
  irq := hirq.trans h.irq
  dma := by
    rw [acceptedMasks_snoc, hmask, hdma, h.dma]
    simp
  frames := hframes.trans h.frames
  pci := by
    rw [hpci, h.pci]

theorem Probed.setMask {dev : DevicePtr} {mask : Word} (h : Probed calls t t') :
    Probed (calls ++ [.setMaskAndCoherent dev mask]) t (setMaskAndCoherent dev mask t').2 := by
  have hsame := selectedBy_selectedMask t.dma
    ((acceptedMasks t.dma calls).getLast?.getD t.dma.selectedMask) (.setMaskAndCoherent dev mask)
  rw [← h.dma] at hsame
  by_cases hc : MaskAccepted t'.dma dev mask
  · have hselected : selectedBy t.dma (.setMaskAndCoherent dev mask) = some mask :=
      hsame.symm.trans (if_pos hc)
    have hset : setMaskAndCoherent dev mask t' =
        (.int 0, { t' with dma := { t'.dma with selectedMask := mask } }) := if_neg hc
    rw [hset]
    refine ⟨h.irq, ?_, h.frames, h.pci⟩
    rw [acceptedMasks_snoc, hselected]
    simp [h.dma]
  · have hselected : selectedBy t.dma (.setMaskAndCoherent dev mask) = none :=
      hsame.symm.trans (if_neg hc)
    have hset : setMaskAndCoherent dev mask t' = (.int (-EINVAL), t') :=
      if_pos (not_not.mp hc)
    rw [hset]
    exact h.flags hselected rfl rfl rfl rfl

/-- One call of the probe. -/
theorem probed_step {t'' : State} {c : Call} (h : Probed calls t t') (hc : c.InProbe)
    (hn : t'.next c = some t'') : Probed (calls ++ [c]) t t'' := by
  cases c with
  | enableDevice pdev =>
    obtain rfl : (enableDevice pdev t').2 = t'' := Option.some.inj hn
    unfold enableDevice
    split
    · exact h.flags rfl rfl rfl rfl rfl
    · exact h.flags rfl rfl rfl rfl rfl
  | setMaster pdev =>
    obtain rfl : (setMaster pdev t').2 = t'' := Option.some.inj hn
    unfold setMaster
    split
    · exact h.flags rfl rfl rfl rfl rfl
    · exact h.flags rfl rfl rfl rfl rfl
  | setMaskAndCoherent dev mask =>
    obtain rfl : (setMaskAndCoherent dev mask t').2 = t'' := Option.some.inj hn
    exact h.setMask
  | _ => exact hc.elim

/-- All of it. -/
theorem probed_run (hrun : Run (Next State.next) t calls t') (hcalls : ∀ c ∈ calls, c.InProbe) :
    Probed calls t t' := by
  suffices hall : (∀ c ∈ calls, c.InProbe) → Probed calls t t' from hall hcalls
  refine hrun.history (I := fun cs u => (∀ c ∈ cs, c.InProbe) → Probed cs t u) ?_
    fun _ => .start t
  intro cs u c u' hu hn hin
  exact probed_step (hu fun c hc => hin c (List.mem_append_left _ hc))
    (hin c (List.mem_append_right _ (List.mem_singleton_self c))) hn

end Probe

/-! ## What a failed registration leaves -/

/-- The records after a failed probe, in terms of those before the registration. -/
structure Left (s : State) (calls : List Call) (s' : State) : Prop where
  dma : s'.dma = { s.dma with
    device := if s.dma.allocated then (attached s.dma).device else .null
    selectedMask := (acceptedMasks (attached s.dma) calls).getLast?.getD s.dma.selectedMask }
  irq : s'.irq = { s.irq with deviceToken := 0 }
  pci : s'.pci = ⟨s.pci.requestEndpoint, none, ⟨0, 0, 0⟩, false, s.pci.active⟩

theorem attached_with (l : DmaLease) (mask : Word) :
    { attached l with selectedMask := mask } =
      { l with device := (attached l).device, selectedMask := mask } := by
  unfold attached
  split <;> rfl

theorem attached_selectedMask (l : DmaLease) : (attached l).selectedMask = l.selectedMask := by
  unfold attached
  split <;> rfl

/-- A lease without a device gets one. -/
theorem attached_device_iff {l : DmaLease} :
    (attached l).device = l.device ↔ ¬ (l.configured ∧ l.device = .null) := by
  unfold attached
  by_cases hc : l.configured ∧ l.device = .null
  · simp [hc.1, hc.2]
  · simp [hc]

theorem with_device_mask_iff {l : DmaLease} {device : DevicePtr} {mask : Word} :
    { l with device, selectedMask := mask } = l ↔ device = l.device ∧ mask = l.selectedMask := by
  cases l
  simp

/-- The rest of `pci_register_driver` after the probe. -/
theorem left_of_probed {s s₂ : State} {calls : List Call} {status : Int} {frames : List Frame}
    {d : PciDriver} {reply : Message} (h : Probed calls (startProbe d reply s) s₂)
    (hstatus : status ≠ 0) : Left s calls (finishProbe status { s₂ with frames }).2 := by
  have hdma : s₂.dma = { attached s.dma with
      selectedMask := (acceptedMasks (attached s.dma) calls).getLast?.getD
        (attached s.dma).selectedMask } := h.dma
  rw [attached_with, attached_selectedMask] at hdma
  have hirq : { s₂.irq with deviceToken := 0 } = { s.irq with deviceToken := 0 } := by
    rw [h.irq]
    unfold startProbe
    simp only
    split <;> rfl
  have hactive : s₂.pci.active = s.pci.active := congrArg (·.active) h.pci
  have hendpoint : s₂.pci.requestEndpoint = s.pci.requestEndpoint :=
    congrArg (·.requestEndpoint) h.pci
  unfold finishProbe
  rw [if_pos hstatus]
  constructor
  · cases ha : s.dma.allocated <;> simp [hdma, ha]
  · exact hirq
  · simp only [hactive, hendpoint]

/-- The three records are those from before exactly when the values written are. -/
theorem Left.undone_iff {s s' : State} {calls : List Call} (h : Left s calls s') :
    (s'.dma = s.dma ∧ s'.irq = s.irq ∧ s'.pci = s.pci) ↔ Restores s calls := by
  have hpci : s'.pci = s.pci ↔ s.pci.driver = none ∧ s.pci.shadowPdev = ⟨0, 0, 0⟩ ∧
      s.pci.probing = false := by
    rw [h.pci]
    constructor
    · intro he
      rw [← he]
      exact ⟨rfl, rfl, rfl⟩
    · rintro ⟨h1, h2, h3⟩
      rw [← h1, ← h2, ← h3]
  have hirq : s'.irq = s.irq ↔ s.irq.deviceToken = 0 := by
    rw [h.irq]
    constructor
    · intro he
      rw [← he]
    · intro he
      rw [← he]
  have hdma : s'.dma = s.dma ↔
      (if s.dma.allocated then ¬ (s.dma.configured ∧ s.dma.device = .null)
        else s.dma.device = .null) ∧
      ∀ mask ∈ (acceptedMasks (attached s.dma) calls).getLast?, mask = s.dma.selectedMask := by
    have hdevice : (if s.dma.allocated then (attached s.dma).device else .null) = s.dma.device ↔
        if s.dma.allocated then ¬ (s.dma.configured ∧ s.dma.device = .null)
          else s.dma.device = .null := by
      cases s.dma.allocated
      · exact eq_comm
      · exact attached_device_iff
    have hmask : ∀ o : Option Word, o.getD s.dma.selectedMask = s.dma.selectedMask ↔
        ∀ mask ∈ o, mask = s.dma.selectedMask := fun o => by cases o <;> simp
    rw [h.dma, with_device_mask_iff, hdevice, hmask]
  rw [hdma, hirq, hpci]
  exact ⟨fun ⟨⟨h1, h2⟩, h3, h4, h5, h6⟩ => ⟨⟨h4, h5, h6, h3⟩, h1, h2⟩,
    fun ⟨⟨h4, h5, h6, h3⟩, h1, h2⟩ => ⟨⟨h1, h2⟩, h3, h4, h5, h6⟩⟩

/-- **Failed registrations**: with no active driver, a registration that returns an error, with any
driver, any replies of deviced and any such probe, leaves the DMA lease, the IRQ binding and the PCI
binding as they were exactly when it does not come to the probe, or the values that it writes after
the probe are those from before the call. -/
theorem failed_registration_iff {driver : Option PciDriver} {replies : Nat → Message}
    {s s' : State} {calls : List Call} (hactive : s.pci.active = false)
    (h : FailedRegistration driver replies s calls s') :
    (s'.dma = s.dma ∧ s'.irq = s.irq ∧ s'.pci = s.pci) ↔
      ((∃ d reply, Matched driver replies d reply) → s.pci.requestEndpoint ≠ 0 →
        Restores s calls) := by
  have hl := registerDriver_life driver replies s
  cases h with
  | refused hr =>
    rw [hr] at hl
    cases hl with
    | refused hno _ =>
      refine iff_of_true ⟨rfl, rfl, rfl⟩ fun ⟨d, reply, hm⟩ hendpoint => ?_
      rcases hno d reply hm with h0 | h1
      · exact absurd h0 hendpoint
      · exact absurd (hactive.symm.trans h1) Bool.false_ne_true
    | aside hc _ _ _ => exact hc.elim
  | @failed _ status s₁ s₂ _ hstart hprobe hcalls hstatus hreturn =>
    rw [hstart] at hl
    cases hl with
    | @started _ _ d reply hm _ hendpoint _ =>
      have hp := probed_run hprobe hcalls
      have hframes : s₂.frames = .probe :: s.frames := hp.frames
      have hs : (finishProbe status { s₂ with frames := s.frames }).2 = s' := by
        unfold callbackReturn at hreturn
        rw [hframes] at hreturn
        exact congrArg Prod.snd (Option.some.inj hreturn)
      subst hs
      rw [(left_of_probed hp hstatus).undone_iff]
      exact ⟨fun hr _ _ => hr, fun hr => hr ⟨d, reply, hm⟩ hendpoint⟩
    | aside hc _ _ _ => exact hc.elim
    | calledBack hf => cases hf

/-- The state before the edu driver is registered: deviced is bound, and a lease. -/
def beforeProbe : State :=
  { State.boot with
    dma := ⟨.null, 0x600000100000, 0x1000, 0x1000, 0xffffffff, 0, 0, 260, true, false, false⟩
    pci := { State.boot.pci with requestEndpoint := 271 } }

/-- A probe that enables the device and fails. -/
theorem failed_registration_iff_enable : ∃ s', FailedRegistration (some eduDriver) eduReply
      beforeProbe [.enableDevice .shadow] s' ∧
    s'.dma = beforeProbe.dma ∧ s'.irq = beforeProbe.irq ∧ s'.pci = beforeProbe.pci := by
  have hfailed : ∃ s', FailedRegistration (some eduDriver) eduReply beforeProbe
      [.enableDevice .shadow] s' :=
    ⟨_, .failed rfl (.single rfl) (by simp [Call.InProbe]) (by decide : (-5 : Int) ≠ 0) rfl⟩
  obtain ⟨s', h⟩ := hfailed
  exact ⟨s', h, (failed_registration_iff rfl h).mpr fun _ _ =>
    ⟨⟨rfl, rfl, rfl, rfl⟩, by decide, by simp [acceptedMasks, selectedBy]⟩⟩

/-- A probe that selects a mask and fails: the mask stays selected. -/
theorem selected_mask_left : ¬ ∀ (es : List KapiCall) (driver : Option PciDriver)
    (replies : Nat → Message) (s s' : State) (calls : List Call), Run Calls State.boot es s →
    s.pci.active = false → FailedRegistration driver replies s calls s' →
      s'.dma.selectedMask = s.dma.selectedMask := by
  intro hall
  have hrun : Run Calls State.boot (eduCalls.take 2) beforeProbe := .cons rfl (.single rfl)
  have hfailed : ∃ s', FailedRegistration (some eduDriver) eduReply beforeProbe
      [.setMaskAndCoherent .shadow 0xfffffff] s' ∧ s'.dma.selectedMask = 0xfffffff :=
    ⟨_, .failed rfl (.single rfl) (by simp [Call.InProbe]) (by decide : (-5 : Int) ≠ 0) rfl, rfl⟩
  obtain ⟨s', h, hmask⟩ := hfailed
  exact absurd (hmask.symm.trans (hall _ _ _ _ _ _ hrun rfl h)) (by decide)

end SeLinOS.Kapi
