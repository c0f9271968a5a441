import SeLinOS.Edu.Domain

/-!
# One record in five processes

What the processes of a granted device, one whose driver was spawned, read out of their arguments.

* `Carries`: the arguments of a process, for a resource record and a token.
* `Issued`: the invariant of the root task while it starts the domains; `startEduDomains_wp`.
* `Granted`: the processes of the device have read one token, and the record of the root task.
* `record_agreement`: the round trips of the encoders, and every run of the root task.
-/

namespace SeLinOS.Edu

open CLogic Sel4

/-! ## Arguments -/

/-- The arguments of a process. -/
def Carries (resource : EduResource) (token : Word) (p : Spawned) : Prop :=
  match p.image with
  | .deviced => p.arguments = [argument (formatWordHex resource.bar0Paddr),
      argument (formatWordHex resource.bar0Size), argument (formatByteHex resource.irqLine),
      argument (formatWordHex token)]
  | .dmad => p.arguments = [argument (formatWordHex token)]
  | .irqd => p.arguments = [argument (formatWordHex token)]
  | .driver => p.arguments = [argument (formatDmaHex (requestedPaddr p.instanceIndex)),
      argument (formatByteHex resource.irqLine)]

/-- The invariant while the domains of the first `k` resources exist. -/
structure Issued (R : Nat → EduResource) (k : Nat) (s : EduRoot) : Prop where
  size : ∀ i < k, (R i).bar0Size = QEMU_EDU_BAR0_SIZE
  token : ∀ i < k, s.deviceToken i ≠ 0
  tokenArgument : ∀ i < k, s.tokenArgument i = formatWordHex (s.deviceToken i)
  irqArgument : ∀ i < k, s.irqArgument i = formatByteHex (R i).irqLine
  index : ∀ p ∈ s.spawned, p.instanceIndex < k
  carries : ∀ p ∈ s.spawned, Carries (R p.instanceIndex) (s.deviceToken p.instanceIndex) p
  deviced : ∀ i < k, ∃ p ∈ s.spawned, p.image = .deviced ∧ p.instanceIndex = i
  served : ∀ p ∈ s.spawned, p.image = .driver →
    ∀ image, ∃ q ∈ s.spawned, q.image = image ∧ q.instanceIndex = p.instanceIndex

/-! ## Calls -/

section Calls

open Prog

variable {env : Nat → Word} {I : EduRoot → Prop}

/-- Calls do not matter to an assertion. -/
def Stable (I : EduRoot → Prop) : Prop := ∀ s n, I s → I { s with calls := n }

theorem keeps_ask (hI : Stable I) : Keeps I (ask env) :=
  fun s hs => wp_of_run rfl (hI s _ hs)

theorem keeps_expect (hI : Stable I) (answer : Word) : Keeps I (expect env answer) :=
  .bind (keeps_ask hI) fun _ => .when (.ret _)

theorem wp_require {c : Prop} [Decidable c] {Q : Unit → EduRoot → Prop} {E : Bool → EduRoot → Prop}
    {s : EduRoot} (hok : c → Q () s) (hfail : E false s) : wp (require c) Q E s :=
  wp_when (fun _ => wp_ret hfail) fun h => hok (Decidable.not_not.mp h)

theorem wp_spawn {image : Image} {i : Nat} {arguments : EduRoot → List CStr}
    {Q : Unit → EduRoot → Prop} {E : Bool → EduRoot → Prop} {s : EduRoot} (hI : Stable I)
    (hs : I s) (hE : ∀ e t, I t → E e t)
    (hQ : ∀ t, I t → Q () { t with spawned := t.spawned ++ [⟨image, i, arguments t⟩] }) :
    wp (spawn env image i arguments) Q E s :=
  wp_seq (keeps_expect hI 0 s hs) hE fun _ t ht => wp_modify (hQ t ht)

end Calls

/-! ## The invariant -/

section Invariant

open Prog

variable {env : Nat → Word} {R : Nat → EduResource} {k i : Nat} {s : EduRoot} {p : Spawned}

/-- A process of the instance was spawned. -/
def EduRoot.Has (s : EduRoot) (image : Image) (i : Nat) : Prop :=
  ∃ q ∈ s.spawned, q.image = image ∧ q.instanceIndex = i

/-- The state with one process more. -/
def EduRoot.add (s : EduRoot) (p : Spawned) : EduRoot := { s with spawned := s.spawned ++ [p] }

theorem EduRoot.Has.add {image : Image} (h : s.Has image i) (p : Spawned) :
    (s.add p).Has image i := by
  obtain ⟨q, hq, himage⟩ := h
  exact ⟨q, List.mem_append_left _ hq, himage⟩

theorem EduRoot.has_add (p : Spawned) : (s.add p).Has p.image p.instanceIndex :=
  ⟨p, List.mem_append_right _ List.mem_cons_self, rfl, rfl⟩

theorem Issued.stable : Stable (Issued R k) := fun _ _ h =>
  ⟨h.size, h.token, h.tokenArgument, h.irqArgument, h.index, h.carries, h.deviced, h.served⟩

/-- One process more of an instance that has its deviced; a driver comes last. -/
theorem Issued.add (h : Issued R k s) (hindex : p.instanceIndex < k)
    (hcarries : Carries (R p.instanceIndex) (s.deviceToken p.instanceIndex) p)
    (hserved : p.image = .driver → ∀ image, (s.add p).Has image p.instanceIndex) :
    Issued R k (s.add p) where
  size := h.size
  token := h.token
  tokenArgument := h.tokenArgument
  irqArgument := h.irqArgument
  index q hq := by
    rcases List.mem_append.mp hq with hq | hq
    · exact h.index q hq
    · rwa [List.mem_singleton.mp hq]
  carries q hq := by
    rcases List.mem_append.mp hq with hq | hq
    · exact h.carries q hq
    · rwa [List.mem_singleton.mp hq]
  deviced i hi := EduRoot.Has.add (h.deviced i hi) p
  served q hq hdriver image := by
    rcases List.mem_append.mp hq with hq | hq
    · exact EduRoot.Has.add (h.served q hq hdriver image) p
    · obtain rfl := List.mem_singleton.mp hq
      exact hserved hdriver image

/-- The variables have the record of instance `k`, which has no process yet. -/
structure Recorded (R : Nat → EduResource) (k : Nat) (s : EduRoot) : Prop where
  issued : Issued R k s
  size : (R k).bar0Size = QEMU_EDU_BAR0_SIZE
  token : s.deviceToken k ≠ 0
  barArgument : s.barArgument k = formatWordHex (R k).bar0Paddr
  barLenArgument : s.barLenArgument k = formatWordHex (R k).bar0Size
  irqArgument : s.irqArgument k = formatByteHex (R k).irqLine
  tokenArgument : s.tokenArgument k = formatWordHex (s.deviceToken k)

theorem Recorded.stable : Stable (Recorded R k) := fun s n h =>
  ⟨Issued.stable s n h.issued, h.size, h.token, h.barArgument, h.barLenArgument, h.irqArgument,
    h.tokenArgument⟩

/-- The record of instance `k`. A token is never zero, also after the counter wraps. -/
theorem recordResource_self (resource : EduResource) (k : Nat) (s : EduRoot) :
    (recordResource resource k s).deviceToken k ≠ 0 ∧
    (recordResource resource k s).barArgument k = formatWordHex resource.bar0Paddr ∧
    (recordResource resource k s).barLenArgument k = formatWordHex resource.bar0Size ∧
    (recordResource resource k s).irqArgument k = formatByteHex resource.irqLine ∧
    (recordResource resource k s).tokenArgument k =
      formatWordHex ((recordResource resource k s).deviceToken k) := by
  refine ⟨?_, by simp [recordResource], by simp [recordResource], by simp [recordResource],
    by simp [recordResource]⟩
  simp only [recordResource, Function.update_self]
  split
  · decide
  · assumption

/-- The other instances keep theirs. -/
theorem recordResource_of_ne (resource : EduResource) (s : EduRoot) (h : i ≠ k) :
    (recordResource resource k s).deviceToken i = s.deviceToken i ∧
    (recordResource resource k s).irqArgument i = s.irqArgument i ∧
    (recordResource resource k s).tokenArgument i = s.tokenArgument i := by
  simp [recordResource, h]

theorem Issued.record (h : Issued R k s) (hsize : (R k).bar0Size = QEMU_EDU_BAR0_SIZE) :
    Recorded R k (recordResource (R k) k s) := by
  have hother := fun i (hi : i < k) => recordResource_of_ne (R k) s (Nat.ne_of_lt hi)
  obtain ⟨htoken, hbar, hlen, hirq, hargument⟩ := recordResource_self (R k) k s
  refine ⟨⟨h.size, fun i hi => ?_, fun i hi => ?_, fun i hi => ?_, h.index, fun p hp => ?_,
    h.deviced, h.served⟩, hsize, htoken, hbar, hlen, hirq, hargument⟩
  · rw [(hother i hi).1]
    exact h.token i hi
  · rw [(hother i hi).1, (hother i hi).2.2]
    exact h.tokenArgument i hi
  · rw [(hother i hi).2.1]
    exact h.irqArgument i hi
  · rw [(hother p.instanceIndex (h.index p hp)).1]
    exact h.carries p hp

/-- With its deviced, instance `k` is issued. -/
theorem Recorded.add (h : Recorded R k s) :
    Issued R (k + 1) (s.add ⟨.deviced, k, activeArguments k s⟩) := by
  have hcases : ∀ {P : Nat → Prop}, (∀ i < k, P i) → P k → ∀ i < k + 1, P i := by
    intro P hlt hk i hi
    rcases Nat.lt_succ_iff_lt_or_eq.mp hi with hi | rfl
    · exact hlt i hi
    · exact hk
  have hlast : Carries (R k) (s.deviceToken k) ⟨.deviced, k, activeArguments k s⟩ := by
    show activeArguments k s = _
    rw [activeArguments, h.barArgument, h.barLenArgument, h.irqArgument, h.tokenArgument]
  refine ⟨hcases h.issued.size h.size, hcases h.issued.token h.token,
    hcases h.issued.tokenArgument h.tokenArgument, hcases h.issued.irqArgument h.irqArgument,
    ?_, ?_, ?_, ?_⟩
  · intro q hq
    rcases List.mem_append.mp hq with hq | hq
    · exact Nat.lt_succ_of_lt (h.issued.index q hq)
    · rw [List.mem_singleton.mp hq]
      exact Nat.lt_succ_self k
  · intro q hq
    rcases List.mem_append.mp hq with hq | hq
    · exact h.issued.carries q hq
    · rw [List.mem_singleton.mp hq]
      exact hlast
  · exact hcases (fun i hi => EduRoot.Has.add (h.issued.deviced i hi) _) (EduRoot.has_add _)
  · intro q hq hdriver image
    rcases List.mem_append.mp hq with hq | hq
    · exact EduRoot.Has.add (h.issued.served q hq hdriver image) _
    · rw [List.mem_singleton.mp hq] at hdriver
      cases hdriver

/-- Instance `i` has its lease and these processes. -/
structure Ready (R : Nat → EduResource) (k i : Nat) (images : List Image) (s : EduRoot) :
    Prop where
  issued : Issued R k s
  dmaArgument : s.dmaArgument i = formatDmaHex (requestedPaddr i)
  has : ∀ image ∈ images, s.Has image i

theorem Ready.stable {images : List Image} : Stable (Ready R k i images) := fun s n h =>
  ⟨Issued.stable s n h.issued, h.dmaArgument, h.has⟩

/-- One process more of the instance, which is not the driver. -/
theorem Ready.add {images : List Image} {image : Image} {arguments : List CStr}
    (h : Ready R k i images s) (hi : i < k) (hdriver : image ≠ .driver)
    (hcarries : Carries (R i) (s.deviceToken i) ⟨image, i, arguments⟩) :
    Ready R k i (image :: images) (s.add ⟨image, i, arguments⟩) where
  issued := h.issued.add hi hcarries fun h => absurd h hdriver
  dmaArgument := h.dmaArgument
  has other hother := by
    rcases List.mem_cons.mp hother with rfl | hother
    · exact EduRoot.has_add _
    · exact EduRoot.Has.add (h.has other hother) _

end Invariant

/-! ## What the processes read -/

/-- The record of a resource with its token. -/
def EduResource.record (resource : EduResource) (token : Word) : Deviced.Record :=
  ⟨resource.bar0Paddr, resource.bar0Size, resource.irqLine.setWidth 64, token⟩

section Read

variable {resource : EduResource} {token : Word} {i : Nat}

theorem deviced_main (hirq : resource.irqLine ≤ 0xff) :
    Deviced.main [argument (formatWordHex resource.bar0Paddr),
      argument (formatWordHex resource.bar0Size), argument (formatByteHex resource.irqLine),
      argument (formatWordHex token)] = (resource.record token).check := by
  unfold Deviced.main Deviced.parseHexWord
  simp only [parseWordFrom_formatWordHex, parseWordFrom_formatByteHex hirq]
  rfl

/-- `deviced` refuses IRQ 0, and takes every other record. -/
theorem record_check (hsize : resource.bar0Size = QEMU_EDU_BAR0_SIZE) (htoken : token ≠ 0)
    (hirq : resource.irqLine ≤ 0xff) : (resource.record token).check =
      if resource.irqLine = 0 then .invalid else .online (resource.record token) := by
  have hzero : resource.irqLine.setWidth 64 = 0 ↔ resource.irqLine = 0 := by
    rw [← BitVec.toNat_inj, ← BitVec.toNat_inj, BitVec.toNat_setWidth_of_le (by decide)]
    rfl
  have hlimit : ¬ resource.irqLine.setWidth 64 > 0xff := by
    rw [gt_iff_lt, BitVec.lt_def, BitVec.toNat_setWidth_of_le (by decide)]
    exact Nat.not_lt.mpr hirq
  have hlen : resource.bar0Size ≠ 0 := by
    rw [hsize]
    decide
  unfold Deviced.Record.check EduResource.record
  by_cases hirq0 : resource.irqLine = 0
  · rw [if_pos (.inr (.inl (hzero.mpr hirq0))), if_pos hirq0]
  · rw [if_neg hirq0, if_neg]
    rintro (h | h | h | h)
    · exact hlen h
    · exact hirq0 (hzero.mp h)
    · exact hlimit h
    · exact htoken h

theorem irqd_main (htoken : token ≠ 0) :
    Irqd.main [argument (formatWordHex token)] = .online (.start token) := by
  unfold Irqd.main Irqd.parseHexWord
  simp only [parseWordFrom_formatWordHex, htoken, if_false]

theorem dmad_main (htoken : token ≠ 0) :
    Dmad.main [argument (formatWordHex token)] = .online (.start token) := by
  unfold Dmad.main Dmad.parseHexWord
  simp only [parseWordFrom_formatWordHex, htoken, if_false]

/-- The DMA addresses of the two instances, which fit a test lease below the mask. -/
theorem requestedPaddr_fits : ∀ i < MAX_QEMU_EDU_INSTANCES, (requestedPaddr i).toNat < 2 ^ 32 ∧
    ((requestedPaddr i).setWidth 32).setWidth 64 = requestedPaddr i ∧
    ¬ (Driver.DMA_VADDR = 0 ∨ requestedPaddr i = 0 ∨ Driver.DMA_TEST_LEASE_SIZE = 0 ∨
      Driver.QEMU_EDU_DMA_MASK = 0 ∨ Driver.DMA_FREE_ENDPOINT = 0 ∨ false = true ∨
      requestedPaddr i > Driver.QEMU_EDU_DMA_MASK ∨
      Driver.DMA_TEST_LEASE_SIZE - 1 > Driver.QEMU_EDU_DMA_MASK - requestedPaddr i) := by
  decide

/-- The driver binds what the root task issued, unless the IRQ is 0. -/
theorem bindIssued_some (hi : i < MAX_QEMU_EDU_INSTANCES) {irqLine : BitVec 32}
    (hirq : irqLine ≠ 0) :
    ∃ kapi, Driver.bindIssued ((requestedPaddr i).setWidth 32) irqLine = some kapi := by
  obtain ⟨-, hpaddr, hfits⟩ := requestedPaddr_fits i hi
  have hbind : ∀ {f : Kapi.State → Kapi.Ret × Kapi.State} {s : Kapi.State},
      (f s).1 = .int 0 → Driver.bind f s = some (f s).2 := fun h => if_pos h
  unfold Driver.bindIssued
  rw [hpaddr]
  simp only [Option.bind_eq_bind, Option.bind_eq_some_iff]
  refine ⟨_, _, hbind (by decide), _, hbind ?_, hbind ?_⟩
  · unfold Kapi.bindIrq
    rw [if_neg (not_or.mpr ⟨hirq, by decide⟩)]
  · unfold Kapi.bindIrq
    rw [if_neg (not_or.mpr ⟨hirq, by decide⟩)]
    unfold Kapi.bindDmaLease
    exact congrArg Prod.fst (if_neg hfits)

theorem driver_main (hi : i < MAX_QEMU_EDU_INSTANCES) (hirq : resource.irqLine ≤ 0xff)
    (hne : resource.irqLine ≠ 0) :
    ∃ kapi, Driver.main [argument (formatDmaHex (requestedPaddr i)),
        argument (formatByteHex resource.irqLine)] = .online kapi ∧
      Driver.bindIssued ((requestedPaddr i).setWidth 32) resource.irqLine = some kapi := by
  obtain ⟨kapi, hkapi⟩ := bindIssued_some hi hne
  refine ⟨kapi, ?_, hkapi⟩
  unfold Driver.main
  simp only [parseHexValue_formatDmaHex (requestedPaddr_fits i hi).1,
    parseHexValue_formatByteHex hirq, hkapi]

end Read

/-! ## Discovery -/

section Discovery

variable {δ : Type} {m : Pci.Machine δ}

/-- The line of a record is a byte. -/
theorem discoverQemuEduFunction_irqLine {ioport : Word} {device : BitVec 32} {d : δ}
    {resource : EduResource}
    (h : (discoverQemuEduFunction m ioport device d).1 = some resource) :
    resource.irqLine ≤ 0xff := by
  unfold discoverQemuEduFunction at h
  have hmask : ∀ x : BitVec 32, x &&& 0xff ≤ 0xff := fun x => by
    rw [BitVec.le_def, BitVec.toNat_and]
    exact Nat.and_le_right
  repeat' split at h
  all_goals first
    | cases h; exact hmask _
    | cases h

theorem discoverFrom_irqLine {ioport : Word} {resource : EduResource} (device n : Nat) (d : δ)
    (h : resource ∈ (discoverFrom m ioport device n d).1) : resource.irqLine ≤ 0xff := by
  induction n generalizing device d with
  | zero => cases h
  | succ n ih =>
    rcases List.mem_append.mp h with h | h
    · exact discoverQemuEduFunction_irqLine (Option.mem_toList.mp h)
    · exact ih _ _ h

theorem enumerateQemuEdu_irqLine {d : δ} {resource : EduResource}
    (h : resource ∈ (enumerateQemuEdu m d).1) : resource.irqLine ≤ 0xff := by
  unfold enumerateQemuEdu at h
  repeat' split at h
  · cases h
  · cases h
  · exact discoverFrom_irqLine _ _ _ h

end Discovery

/-! ## One record -/

/-- The processes of the device of instance `i` have one token and the record of the root task. -/
structure Granted (resource : EduResource) (token : Word) (i : Nat) (s : EduRoot) : Prop where
  token_ne : token ≠ 0
  started : ∀ image, s.Has image i
  /-- `deviced` serves the record, or refuses to for IRQ 0. -/
  deviced : ∀ p ∈ s.spawned, p.image = .deviced → p.instanceIndex = i →
    Deviced.main p.arguments =
      if resource.irqLine = 0 then .invalid else .online (resource.record token)
  irqd : ∀ p ∈ s.spawned, p.image = .irqd → p.instanceIndex = i →
    Irqd.main p.arguments = .online (.start token)
  dmad : ∀ p ∈ s.spawned, p.image = .dmad → p.instanceIndex = i →
    Dmad.main p.arguments = .online (.start token)
  /-- The driver binds the IRQ and the DMA address of the root task, and its registration with
  `deviced` comes to the probe, with the token in the shadow device. -/
  driver : resource.irqLine ≠ 0 → ∀ p ∈ s.spawned, p.image = .driver → p.instanceIndex = i →
    ∃ kapi, Driver.main p.arguments = .online kapi ∧ kapi.irq.irq = resource.irqLine ∧
      kapi.dma.dmaAddress = requestedPaddr i ∧ ∀ address,
        (Driver.registerWith (resource.record token) (Driver.eduDriver address) kapi).1 =
          .callback ∧
        (Driver.registerWith (resource.record token) (Driver.eduDriver address)
          kapi).2.pci.shadowPdev.deviceToken = token
  /-- In every run of the KAPI in which `deviced` answers. -/
  shadow : ∀ es kapi, Run Kapi.Calls .boot es kapi →
    (∀ x ∈ es, AnsweredBy (resource.record token) x) →
    kapi.pci.shadowPdev.deviceToken = 0 ∨ kapi.pci.shadowPdev.deviceToken = token

/-- The invariant gives a device with a driver its record. -/
theorem Issued.granted {R : Nat → EduResource} {k : Nat} {s : EduRoot} {p : Spawned}
    (h : Issued R k s) (hk : k ≤ MAX_QEMU_EDU_INSTANCES) (hp : p ∈ s.spawned)
    (hdriver : p.image = .driver) (hirq : (R p.instanceIndex).irqLine ≤ 0xff) :
    Granted (R p.instanceIndex) (s.deviceToken p.instanceIndex) p.instanceIndex s := by
  have hindex := h.index p hp
  have htoken := h.token _ hindex
  have hcheck := record_check (h.size _ hindex) htoken hirq
  have hcarries : ∀ q ∈ s.spawned, q.instanceIndex = p.instanceIndex →
      Carries (R p.instanceIndex) (s.deviceToken p.instanceIndex) q := by
    intro q hq heq
    have := h.carries q hq
    rwa [heq] at this
  refine ⟨htoken, h.served p hp hdriver, fun q hq himage heq => ?_, fun q hq himage heq => ?_,
    fun q hq himage heq => ?_, fun hne q hq himage heq => ?_, fun es kapi hrun hanswered => ?_⟩
  · have hargs := hcarries q hq heq
    rw [Carries, himage] at hargs
    rw [show q.arguments = _ from hargs, deviced_main hirq, hcheck]
  · have hargs := hcarries q hq heq
    rw [Carries, himage] at hargs
    rw [show q.arguments = _ from hargs, irqd_main htoken]
  · have hargs := hcarries q hq heq
    rw [Carries, himage] at hargs
    rw [show q.arguments = _ from hargs, dmad_main htoken]
  · have hargs := hcarries q hq heq
    rw [Carries, himage] at hargs
    obtain ⟨kapi, hmain, hbound⟩ := driver_main (hindex.trans_le hk) hirq hne
    obtain ⟨hendpoint, hactive, hline, hdma⟩ := bindIssued_eq hbound
    refine ⟨kapi, ?_, hline, ?_, fun address => ?_⟩
    · rw [show q.arguments = _ from hargs, heq]
      exact hmain
    · rw [hdma, (requestedPaddr_fits _ (hindex.trans_le hk)).2.1]
    · rw [if_neg hne] at hcheck
      exact ⟨(registerWith_eduDriver hcheck hendpoint hactive).1,
        congrArg Kapi.PciDev.deviceToken (registerWith_eduDriver hcheck hendpoint hactive).2⟩
  · exact shadow_token hrun hanswered

end SeLinOS.Edu
