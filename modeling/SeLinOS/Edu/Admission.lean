import SeLinOS.Edu.Grant

/-!
# The checks of a device record

A record of a QEMU edu function is checked four times: where the root task finds the function, where
it starts the `deviced` of it, by `deviced` itself, and by the driver when it binds the IRQ and when
it gets the reply of `deviced`.

* `Arguments`: what a domain start that succeeds leaves for `deviced` and for the driver.
* `Admitted`: the later checks take the record.
* `record_admitted_iff`: they do exactly where the interrupt line is not 0.
-/

namespace SeLinOS.Edu

open CLogic Sel4 Prog

/-! ## The start of a domain -/

/-- The arguments of the instance, as the root task wrote them for this token. -/
structure Arguments (resource : EduResource) (i : Nat) (token : Word) (s : EduRoot) : Prop where
  token_ne : token ≠ 0
  bar : s.barArgument i = formatWordHex resource.bar0Paddr
  barLen : s.barLenArgument i = formatWordHex resource.bar0Size
  irq : s.irqArgument i = formatByteHex resource.irqLine
  token : s.tokenArgument i = formatWordHex token

theorem arguments_record (resource : EduResource) (i : Nat) (s : EduRoot) :
    ∃ token, Arguments resource i token (recordResource resource i s) := by
  refine ⟨if s.nextDeviceToken = 0 then 1 else s.nextDeviceToken, ?_, Function.update_self ..,
    Function.update_self .., Function.update_self .., Function.update_self ..⟩
  split_ifs with hzero
  · decide
  · exact hzero

/-- A `deviced` was started: the size that was checked, its arguments and those of the driver. -/
structure Served (resource : EduResource) (i : Nat) (s t : EduRoot) : Prop where
  size : resource.bar0Size = QEMU_EDU_BAR0_SIZE
  arguments : ∃ token, Arguments resource i token t
  spawned : t.spawned = s.spawned ++ [⟨.deviced, i, activeArguments i t⟩]

variable {env : Nat → Word} {resource : EduResource} {i : Nat} {s t : EduRoot}

theorem Served.eq_of_spawned {p : Spawned} (h : Served resource i s t)
    (hp : t.spawned = s.spawned ++ [p]) : p = ⟨.deviced, i, activeArguments i t⟩ :=
  List.head_eq_of_cons_eq (List.append_cancel_left (hp.symm.trans h.spawned))

theorem startDevicedDomain_served :
    wp (startDevicedDomain env (some resource) i) (fun _ t => Served resource i s t)
      (fun _ _ => True) s := by
  have hstart : Stable fun t => t.spawned = s.spawned := fun _ _ h => h
  have hrecord : Stable fun t => t.spawned = s.spawned ∧ ∃ token, Arguments resource i token t :=
    fun _ _ ⟨h, token, ht⟩ => ⟨h, token, ht.token_ne, ht.bar, ht.barLen, ht.irq, ht.token⟩
  refine wp_bind (wp_require (fun _ => ?_) trivial)
  dsimp only
  refine wp_bind (wp_require (fun hresource => ?_) trivial)
  refine wp_seq (keeps_expect hstart 0 s rfl) (fun _ _ _ => trivial) fun _ t ht => ?_
  refine wp_seq (keeps_ask hstart t ht) (fun _ _ _ => trivial) fun endpoint t ht => ?_
  refine wp_bind (wp_modify (wp_bind (wp_modify ?_)))
  refine wp_seq (keeps_expect hrecord 0 _ ⟨ht, arguments_record ..⟩) (fun _ _ _ => trivial)
    fun _ t ht => ?_
  refine wp_seq (keeps_expect hrecord _ t ht) (fun _ _ _ => trivial) fun _ t ht => ?_
  refine wp_spawn hrecord ht (fun _ _ _ => trivial) fun t ⟨hspawned, token, ht⟩ => ?_
  refine ⟨hresource.1, ⟨token, ht.token_ne, ht.bar, ht.barLen, ht.irq, ht.token⟩, ?_⟩
  exact congrArg (· ++ _) hspawned

/-! ## The later checks -/

/-- A request that `deviced` answers with its record. -/
def Asks (request : Message) : Prop :=
  request.length = Deviced.REGISTER_REQUEST_WORDS ∧ request.mr 0 = Deviced.REGISTER_MAGIC ∧
    Deviced.RequestMatchesQemuEdu (request.mr 1) (request.mr 2)

/-- No IRQ is bound. -/
def Unbound (b : Kapi.IrqBinding) : Prop :=
  b.notificationCap = 0 ∧ b.completionEndpoint = 0 ∧ b.requestEndpoint = 0 ∧
    b.registerControl = 0 ∧ b.unregisterControl = 0

/-- The record of a `deviced` that serves: each reply with it passes the checks of
`pci_register_driver`, and has the IRQ and the BAR length of the resource. -/
def Replies (resource : EduResource) (record : Deviced.Record) : Prop :=
  ∀ request, Asks request → Kapi.ValidReply (Deviced.reply record request) ∧
    (Deviced.reply record request).mr Kapi.DEVICED_REPLY_IRQ_INDEX =
      resource.irqLine.setWidth 64 ∧
    (Deviced.reply record request).mr Kapi.DEVICED_REPLY_BAR0_LEN_INDEX = resource.bar0Size

/-- The driver reads this line in its argument, and can bind it. -/
def Binds (text : CStr) (irqLine : BitVec 32) : Prop :=
  Driver.parseHexValue text 2 = some irqLine ∧
    ∀ (kapi : Kapi.State) (notification completion request register unregister : Word),
      Unbound kapi.irq → notification ≠ 0 → completion ≠ 0 → request ≠ 0 → register ≠ 0 →
      unregister ≠ 0 →
      (Kapi.bindIrq irqLine notification completion request register unregister kapi).1 = .int 0

/-- The checks after those of the root task take the record: `deviced` reaches its loop, its replies
are valid, and the driver binds the IRQ. -/
def Admitted (resource : EduResource) (i : Nat) (s t : EduRoot) : Prop :=
  ∃ p record, t.spawned = s.spawned ++ [p] ∧ p.image = .deviced ∧ p.instanceIndex = i ∧
    Deviced.main p.arguments = .online record ∧ Replies resource record ∧
    Binds (argument (t.irqArgument i)) resource.irqLine

theorem Served.main (h : Served resource i s t) (hirq : resource.irqLine ≤ 0xff) :
    ∃ token, token ≠ 0 ∧ Deviced.main (activeArguments i t) =
      if resource.irqLine = 0 then .invalid else .online (resource.record token) := by
  obtain ⟨token, ha⟩ := h.arguments
  refine ⟨token, ha.token_ne, ?_⟩
  rw [activeArguments, ha.bar, ha.barLen, ha.irq, ha.token, deviced_main hirq,
    record_check h.size ha.token_ne hirq]

theorem replies_record {token : Word} (hsize : resource.bar0Size = QEMU_EDU_BAR0_SIZE)
    (htoken : token ≠ 0) (hirq : resource.irqLine ≤ 0xff) (hne : resource.irqLine ≠ 0) :
    Replies resource (resource.record token) := by
  have hcheck := record_check hsize htoken hirq
  rw [if_neg hne, Deviced.Record.check] at hcheck
  have hvalid : ¬ ((resource.record token).bar0Len = 0 ∨ (resource.record token).irq = 0 ∨
      (resource.record token).irq > 0xff ∨ (resource.record token).deviceToken = 0) := by
    intro hc
    rw [if_pos hc] at hcheck
    cases hcheck
  simp only [not_or] at hvalid
  obtain ⟨hlen, hline, hlimit, -⟩ := hvalid
  rintro request ⟨hlength, hmagic, hmatches⟩
  rw [Deviced.reply, if_neg (not_or.mpr ⟨not_not.mpr hlength, not_not.mpr hmagic⟩),
    if_neg (not_not.mpr hmatches)]
  exact ⟨⟨rfl, rfl, htoken, rfl, rfl, hline, BitVec.not_lt.mp hlimit, hlen⟩, rfl, rfl⟩

theorem binds_irqLine (hirq : resource.irqLine ≤ 0xff) (hne : resource.irqLine ≠ 0) :
    Binds (argument (formatByteHex resource.irqLine)) resource.irqLine := by
  refine ⟨parseHexValue_formatByteHex hirq, ?_⟩
  rintro kapi notification completion request register unregister ⟨h1, h2, h3, h4, h5⟩ k1 k2 k3 k4
    k5
  unfold Kapi.bindIrq
  rw [if_neg]
  simp only [not_or, not_not, ne_eq]
  exact ⟨hne, k1, k2, k3, k4, k5, h1, h2, h3, h4, h5⟩

/-- **The four checks of a record**: for a resource that the root task finds on a bus, whatever is
on it, and starts a `deviced` for, the checks of `deviced` and of the driver take the record if and
only if its interrupt line is not 0. -/
theorem record_admitted_iff {δ : Type} (m : Pci.Machine δ) (d : δ)
    (hfound : resource ∈ (enumerateQemuEdu m d).1)
    (hstarted : startDevicedDomain env (some resource) i s = .ok () t) :
    Admitted resource i s t ↔ resource.irqLine ≠ 0 := by
  have hirq := enumerateQemuEdu_irqLine hfound
  have hserved : Served resource i s t := wp_ok startDevicedDomain_served hstarted
  obtain ⟨token, htoken, hmain⟩ := hserved.main hirq
  constructor
  · rintro ⟨p, record, hspawned, -, -, honline, -⟩ hzero
    obtain rfl := hserved.eq_of_spawned hspawned
    rw [hmain, if_pos hzero] at honline
    cases honline
  · intro hne
    obtain ⟨token', ha⟩ := hserved.arguments
    rw [if_neg hne] at hmain
    refine ⟨_, _, hserved.spawned, rfl, rfl, hmain,
      replies_record hserved.size htoken hirq hne, ?_⟩
    rw [ha.irq]
    exact binds_irqLine hirq hne

/-- An edu function of device 3 with this interrupt line. -/
def lineRegisters (line address : BitVec 32) : BitVec 32 :=
  if address &&& 0xffffff00 = Pci.configAddress 3 0 0 then
    match (address.setWidth 8).toNat with
    | 0x00 => 0x11e81234
    | 0x10 => 0xfebf0000
    | 0x3c => line
    | _ => 0
  else 0xffffffff

/-- A bus with that function, on which no operation fails. -/
def lineMachine : Pci.Machine Pci.Bus :=
  Pci.busMachine (fun _ => 0xffff) ⟨fun _ => false, fun _ => some 1, fun _ => true⟩

def lineBus (line : BitVec 32) : Pci.Bus := ⟨0, lineRegisters line, 0, []⟩

/-- The answers to the calls of a domain start that succeeds. -/
def startAnswers (call : Nat) : Word := if call = 3 then DEVICED_REQUEST_ENDPOINT else 0

set_option maxRecDepth 100000 in
/-- Line 11. -/
theorem record_admitted_iff_line : ∃ t, startDevicedDomain startAnswers
    (some ⟨0xfebf0000, QEMU_EDU_BAR0_SIZE, 0x0b⟩) 0 .boot = .ok () t ∧
    Admitted ⟨0xfebf0000, QEMU_EDU_BAR0_SIZE, 0x0b⟩ 0 .boot t := by
  have hfound : ⟨0xfebf0000, QEMU_EDU_BAR0_SIZE, 0x0b⟩ ∈
      (enumerateQemuEdu lineMachine (lineBus 0x0b)).1 := by decide +kernel
  obtain ⟨t, ht⟩ : ∃ t, startDevicedDomain startAnswers
      (some ⟨0xfebf0000, QEMU_EDU_BAR0_SIZE, 0x0b⟩) 0 .boot = .ok () t := ⟨_, rfl⟩
  exact ⟨t, ht, (record_admitted_iff lineMachine (lineBus 0x0b) hfound ht).mpr (by decide)⟩

set_option maxRecDepth 100000 in
/-- Line 0: the root task finds the function and starts its `deviced`, which refuses its
arguments. -/
theorem line_zero_refused :
    ⟨0xfebf0000, QEMU_EDU_BAR0_SIZE, 0⟩ ∈ (enumerateQemuEdu lineMachine (lineBus 0)).1 ∧
    ∃ t, startDevicedDomain startAnswers (some ⟨0xfebf0000, QEMU_EDU_BAR0_SIZE, 0⟩) 0 .boot =
        .ok () t ∧
      t.spawned.map (fun p => (p.image, Deviced.main p.arguments)) = [(.deviced, .invalid)] ∧
      ¬ Admitted ⟨0xfebf0000, QEMU_EDU_BAR0_SIZE, 0⟩ 0 .boot t := by
  have hfound : ⟨0xfebf0000, QEMU_EDU_BAR0_SIZE, 0⟩ ∈
      (enumerateQemuEdu lineMachine (lineBus 0)).1 := by decide +kernel
  obtain ⟨t, ht⟩ : ∃ t, startDevicedDomain startAnswers
      (some ⟨0xfebf0000, QEMU_EDU_BAR0_SIZE, 0⟩) 0 .boot = .ok () t := ⟨_, rfl⟩
  have hserved := wp_ok startDevicedDomain_served ht
  obtain ⟨token, -, hmain⟩ := hserved.main (by decide)
  rw [if_pos rfl] at hmain
  refine ⟨hfound, t, ht, ?_, ?_⟩
  · rw [hserved.spawned]
    simp [EduRoot.boot, hmain]
  · rintro ⟨p, record, hspawned, -, -, honline, -⟩
    obtain rfl := hserved.eq_of_spawned hspawned
    cases honline.symm.trans hmain

end SeLinOS.Edu
