import SeLinOS.Pci.StatusBits

/-!
# Discovery of the EDU functions

`selinos_pci_enumerate_qemu_edu`, which looks at function 0 of each device of bus 0. The probe of a
device, `discover_qemu_edu_function`, ends with a write to the command and status register, whose
upper half has bits that are cleared by writing one.

* `discoverEduFunction`, `enumerateEdu`: the functions.
* `Enumerated`: what the loop has done to the registers and to the array of the caller.
* `enumerate_frame_iff`: when only the devices in the array of the caller are changed.
-/

namespace SeLinOS.Pci

open CLogic Sel4 CLogic.Part

def SELINOS_QEMU_EDU_VENDOR_ID : BitVec 16 := 0x1234
def SELINOS_QEMU_EDU_DEVICE_ID : BitVec 16 := 0x11e8
def SELINOS_QEMU_EDU_BAR0_SIZE : Word := 1 <<< 20
def PCI_INTERRUPT_LINE_OFF : BitVec 32 := 0x3c

/-! ## The functions -/

/-- `struct selinos_qemu_edu_resource`. -/
structure EduResource where
  bar0Paddr : Word
  bar0Size : Word
  irqLine : BitVec 32
  deriving Repr, DecidableEq

/-- The machine and the array of the caller: the entries that the call has stored, each with the
device that it is about. -/
structure Enumeration (δ : Type) where
  machine : δ
  resources : Nat → Option (BitVec 32 × EduResource)

instance {δ : Type} : Part (Enumeration δ) δ where
  part := Enumeration.machine
  withPart machine s := { s with machine }
  part_withPart _ _ := rfl
  withPart_part _ := rfl
  withPart_withPart _ _ _ := rfl

/-- The identity of an EDU function. -/
def IsEdu (id : BitVec 32) : Prop :=
  (id &&& 0xffff).setWidth 16 = SELINOS_QEMU_EDU_VENDOR_ID ∧
    (id >>> 16).setWidth 16 = SELINOS_QEMU_EDU_DEVICE_ID

instance (id : BitVec 32) : Decidable (IsEdu id) := instDecidableAnd

/-- The tests of BAR 0 and of the interrupt line. -/
def EduProfile (bar0 irqLine : BitVec 32) : Prop :=
  ¬ (bar0 &&& 0x1 ≠ 0 ∨ bar0 &&& 0x6 = 0x4 ∨ irqLine &&& 0xff = 0xff ∨
    bar0 &&& PCI_BAR_MEMORY_MASK = 0)

instance (bar0 irqLine : BitVec 32) : Decidable (EduProfile bar0 irqLine) := by
  unfold EduProfile
  infer_instance

/-- `PCI_COMMAND_MEMORY | PCI_COMMAND_MASTER`. -/
def commandBits : BitVec 32 := (PCI_COMMAND_MEMORY ||| PCI_COMMAND_MASTER).zeroExtend 32

section Model

variable {δ ε α β : Type} (m : Machine δ)

/-- `if (!f(&value)) return false;`, in a function that gives an option. -/
def readElse (f : δ → Option α × δ) (rest : α → Prog ε (Enumeration δ) (Option β)) :
    Prog ε (Enumeration δ) (Option β) := do
  match ← Prog.access f with
  | none => pure none
  | some a => rest a

/-- `discover_qemu_edu_function`: the resource, or `none` where it returns false. -/
def discoverEduFunction (ioport : Word) (device : BitVec 32) :
    Prog ε (Enumeration δ) (Option EduResource) :=
  readElse (readConfigDword m ioport device 0 PCI_VENDOR_DEVICE_OFF) fun id =>
  if ¬ IsEdu id then pure none
  else
    readElse (readConfigDword m ioport device 0 PCI_BAR0_OFF) fun bar0 =>
    readElse (readConfigDword m ioport device 0 PCI_INTERRUPT_LINE_OFF) fun irqLine =>
    readElse (readConfigDword m ioport device 0 PCI_COMMAND_STATUS_OFF) fun commandStatus =>
    if ¬ EduProfile bar0 irqLine then pure none
    else do
      let written ← Prog.access
        (writeConfigDword m ioport device 0 PCI_COMMAND_STATUS_OFF (commandStatus ||| commandBits))
      if written = false then pure none
      else
        pure (some ⟨(bar0 &&& PCI_BAR_MEMORY_MASK).zeroExtend 64, SELINOS_QEMU_EDU_BAR0_SIZE,
          irqLine &&& 0xff⟩)

/-- One iteration of the loop, from the number of functions discovered so far. -/
def enumerateStep (ioport : Word) (capacity k discovered : Nat) :
    Prog ε (Enumeration δ) Nat := do
  let candidate ← discoverEduFunction m ioport (BitVec.ofNat 32 k)
  match candidate with
  | none => pure discovered
  | some candidate =>
    Prog.when (discovered < capacity) (Prog.modify fun s => { s with
      resources := Function.update s.resources discovered (some (BitVec.ofNat 32 k, candidate)) })
    pure (discovered + 1)

/-- `selinos_pci_enumerate_qemu_edu`. -/
def enumerateEdu (capacity : Nat) : Prog Nat (Enumeration δ) Unit := do
  match ← Prog.access m.cspaceAlloc with
  | none => Prog.ret 0
  | some slot =>
    let issued ← Prog.access (m.ioportIssue slot)
    if issued = false then
      Prog.modify fun s => { s with machine := m.cspaceFree slot s.machine }
      Prog.ret 0
    else
      -- The capability stays.
      let discovered ← Prog.foldUp (enumerateStep m slot capacity) 0 32 0
      Prog.ret discovered

end Model

/-! ## What the probe writes -/

section Written

variable (bits : StatusBits) (R : BitVec 32 → BitVec 32)

/-- The command and status register of a device. -/
def commandRegister (k : Nat) : BitVec 32 :=
  configAddress (BitVec.ofNat 32 k) 0 PCI_COMMAND_STATUS_OFF

/-- A register after the probe has written back what it held, with the two command bits. -/
def probed (address : BitVec 32) : BitVec 32 :=
  maskedWrite (bits.writable address) (R address) (R address ||| commandBits) &&&
    ~~~(bits.clears address &&& (R address ||| commandBits))

/-- A register with the two command bits set, where they can be written. -/
def withCommandBits (address : BitVec 32) : BitVec 32 :=
  R address ||| bits.writable address &&& commandBits

theorem commandBits_low : ∀ i < 32, commandBits.getLsbD i = true →
    (0x0000ffff : BitVec 32).getLsbD i = true := by
  decide

theorem commandBits_clears (address : BitVec 32) : commandBits &&& bits.clears address = 0 := by
  refine BitVec.eq_of_getLsbD_eq fun i hi => ?_
  have hs := congrArg (·.getLsbD i) (bits.status address)
  have hlow := commandBits_low i hi
  simp only [BitVec.getLsbD_and] at hs ⊢
  revert hs hlow
  cases commandBits.getLsbD i <;> cases (bits.clears address).getLsbD i <;>
    cases (0x0000ffff : BitVec 32).getLsbD i <;> simp

/-- The write sets the two command bits and clears every status bit that is set. -/
theorem probed_eq (address : BitVec 32) :
    probed bits R address = withCommandBits bits R address &&& ~~~bits.clears address := by
  have hcommand := commandBits_clears bits address
  have hdisjoint := bits.disjoint address
  unfold probed withCommandBits maskedWrite
  generalize R address = r, bits.writable address = w, bits.clears address = c at *
  refine BitVec.eq_of_getLsbD_eq fun i hi => ?_
  have hb := congrArg (·.getLsbD i) hcommand
  have hd := congrArg (·.getLsbD i) hdisjoint
  simp only [BitVec.getLsbD_and, BitVec.getLsbD_or, BitVec.getLsbD_not, hi, decide_true,
    Bool.true_and, BitVec.ofNat_eq_ofNat, BitVec.getLsbD_zero] at hb hd ⊢
  revert hb hd
  cases r.getLsbD i <;> cases w.getLsbD i <;> cases c.getLsbD i <;>
    cases commandBits.getLsbD i <;> simp

theorem withCommandBits_clears (address : BitVec 32) :
    withCommandBits bits R address &&& bits.clears address =
      R address &&& bits.clears address := by
  have hcommand : bits.writable address &&& commandBits &&& bits.clears address = 0 := by
    rw [BitVec.and_assoc, commandBits_clears]
    simp
  rw [withCommandBits, BitVec.and_comm, BitVec.and_or_distrib_left,
    BitVec.and_comm _ (R address), BitVec.and_comm (bits.clears address), hcommand]
  simp

/-- The probe sets the two command bits and changes nothing else: no status bit is set. -/
theorem probed_eq_with_iff (address : BitVec 32) :
    probed bits R address = withCommandBits bits R address ↔
      R address &&& bits.clears address = 0 := by
  rw [probed_eq, and_not_eq_self_iff, withCommandBits_clears]

/-- The probe changes nothing: no status bit is set, and the two command bits are. -/
theorem probed_eq_self_iff (address : BitVec 32) :
    probed bits R address = R address ↔
      R address &&& bits.clears address = 0 ∧ withCommandBits bits R address = R address := by
  constructor
  · intro h
    have hclear : R address &&& bits.clears address = 0 := by
      rw [← h, probed_eq, BitVec.and_assoc]
      simp
    exact ⟨hclear, ((probed_eq_with_iff bits R address).mpr hclear).symm.trans h⟩
  · rintro ⟨hclear, hwith⟩
    exact ((probed_eq_with_iff bits R address).mpr hclear).trans hwith

end Written

/-! ## One device -/

/-- Function 0 of device `k` is one that the probe accepts. -/
def IsEduDevice (R : BitVec 32 → BitVec 32) (k : Nat) : Prop :=
  IsEdu (R (configAddress (BitVec.ofNat 32 k) 0 PCI_VENDOR_DEVICE_OFF)) ∧
    EduProfile (R (configAddress (BitVec.ofNat 32 k) 0 PCI_BAR0_OFF))
      (R (configAddress (BitVec.ofNat 32 k) 0 PCI_INTERRUPT_LINE_OFF))

instance (R : BitVec 32 → BitVec 32) (k : Nat) : Decidable (IsEduDevice R k) := instDecidableAnd

/-- The registers that the probe of device `k` reads. -/
def probeRegisters (k : Nat) : List (BitVec 32) :=
  [configAddress (BitVec.ofNat 32 k) 0 PCI_VENDOR_DEVICE_OFF,
    configAddress (BitVec.ofNat 32 k) 0 PCI_BAR0_OFF,
    configAddress (BitVec.ofNat 32 k) 0 PCI_INTERRUPT_LINE_OFF, commandRegister k]

/-- The probe of a device reads no command register of another one. -/
theorem commandRegister_notMem : ∀ k < 32, ∀ j < 32, j ≠ k →
    commandRegister j ∉ probeRegisters k := by
  decide +kernel

section Device

open Prog

variable {bits : StatusBits} {env : PortEnv} {slot : Word} {R R' : BitVec 32 → BitVec 32} {k : Nat}
  {s : Enumeration Bus} {ε β : Type}

/-- An operation on the ports fails. -/
def PortEnv.Disturbed (env : PortEnv) : Prop := ∃ n, env.fails n = true

theorem PortEnv.disturbed_of_not {n : Nat} (h : env.passes n = false) : env.Disturbed := by
  obtain ⟨i, -, -, hi⟩ := PortEnv.exists_fails h
  exact ⟨i, hi⟩

/-- A read of the probe. -/
theorem wp_readElse {rest : BitVec 32 → Prog ε (Enumeration Bus) (Option β)}
    {Q : Option β → Enumeration Bus → Prop} {E : ε → Enumeration Bus → Prop}
    {device offset : BitVec 32} (hs : s.machine.registers = R')
    (hok : ∀ b : Bus, b.registers = R' →
      wp (rest (R' (configAddress device 0 offset))) Q E { s with machine := b })
    (hfail : env.Disturbed → ∀ b : Bus, b.registers = R' → Q none { s with machine := b }) :
    wp (readElse (readConfigDword (statusMachine bits env) slot device 0 offset) rest) Q E s := by
  refine wp_bind (wp_access readConfigDword_status ?_)
  cases hpasses : env.passes (part s : Bus).operations with
  | true =>
    subst hs
    exact hok _ rfl
  | false => exact wp_pure (hfail (PortEnv.disturbed_of_not hpasses) _ hs)

/-- The probe of a device: nothing, or it is an EDU function and its command register is written. -/
theorem discover_wp {E : ε → Enumeration Bus → Prop} (hs : s.machine.registers = R')
    (hsame : ∀ a ∈ probeRegisters k, R' a = R a) :
    wp (discoverEduFunction (statusMachine bits env) slot (BitVec.ofNat 32 k))
      (fun r t => t.resources = s.resources ∧ match r with
        | none => t.machine.registers = R' ∧ (IsEduDevice R k → env.Disturbed)
        | some _ => IsEduDevice R k ∧ t.machine.registers =
            Function.update R' (commandRegister k) (probed bits R (commandRegister k))) E s := by
  simp only [probeRegisters, List.forall_mem_cons] at hsame
  obtain ⟨hid, hbar, hirq, hcommand, -⟩ := hsame
  refine wp_readElse hs (fun b hb => ?_) fun hfail b hb => ⟨rfl, hb, fun _ => hfail⟩
  refine wp_ite (fun hno => wp_pure ⟨rfl, hb, fun hedu => ?_⟩) fun hyes => ?_
  · rw [hid] at hno
    exact absurd hedu.1 hno
  refine wp_readElse hb (fun b hb => ?_) fun hfail b hb => ⟨rfl, hb, fun _ => hfail⟩
  refine wp_readElse hb (fun b hb => ?_) fun hfail b hb => ⟨rfl, hb, fun _ => hfail⟩
  refine wp_readElse hb (fun b hb => ?_) fun hfail b hb => ⟨rfl, hb, fun _ => hfail⟩
  rw [hbar, hirq]
  refine wp_ite (fun hno => wp_pure ⟨rfl, hb, fun hedu => absurd hedu.2 hno⟩) fun hprofile => ?_
  rw [hid, not_not] at hyes
  refine wp_bind (wp_access writeConfigDword_status ?_)
  cases hpasses : env.passes (part ({ s with machine := b } : Enumeration Bus)).operations with
  | false =>
    refine wp_ite (fun _ => wp_pure ⟨rfl, hb, fun _ => ?_⟩) fun h => absurd rfl h
    exact PortEnv.disturbed_of_not hpasses
  | true =>
    refine wp_ite (fun h => nomatch h) fun _ => wp_pure ⟨rfl, ⟨hyes, not_not.mp hprofile⟩, ?_⟩
    show ((b.touch env (commandRegister k)).acknowledge bits _).registers = _
    rw [Bus.acknowledge_dword, Bus.touch_registers, hb, probed, ← hcommand]
    rfl

end Device

/-! ## The loop -/

/-- The EDU functions of the devices below `k`. -/
def eduBelow (R : BitVec 32 → BitVec 32) (k : Nat) : List Nat :=
  (List.range k).filter (IsEduDevice R ·)

/-- The registers after the probe of the devices `found`. -/
def registersAfter (bits : StatusBits) (R : BitVec 32 → BitVec 32) (found : List Nat)
    (address : BitVec 32) : BitVec 32 :=
  if ∃ j ∈ found, address = commandRegister j then probed bits R address else R address

/-- The devices below `k` are probed, of which `found` were discovered: their command registers are
written, and the first of them are in the array. -/
structure Enumerated (bits : StatusBits) (R : BitVec 32 → BitVec 32) (capacity k : Nat)
    (found : List Nat) (t : Enumeration Bus) : Prop where
  registers : t.machine.registers = registersAfter bits R found
  resources : ∀ i, (t.resources i).map Prod.fst =
    (found.take capacity)[i]?.map (BitVec.ofNat 32)
  sublist : found.Sublist (eduBelow R k)
  beyond : ∀ j ∈ found.drop capacity, capacity ≤ (eduBelow R j).length

section Loop

open Prog

variable {bits : StatusBits} {env : PortEnv} {slot : Word} {R : BitVec 32 → BitVec 32}
  {capacity k : Nat} {found : List Nat} {s t : Enumeration Bus} {ε : Type}

theorem eduBelow_succ (R : BitVec 32 → BitVec 32) (k : Nat) :
    eduBelow R (k + 1) = eduBelow R k ++ if IsEduDevice R k then [k] else [] := by
  rw [eduBelow, List.range_succ, List.filter_append, ← eduBelow]
  by_cases hedu : IsEduDevice R k <;> simp [hedu]

theorem mem_eduBelow {j : Nat} : j ∈ eduBelow R k ↔ j < k ∧ IsEduDevice R j := by
  simp [eduBelow]

theorem Enumerated.lt (h : Enumerated bits R capacity k found t) {j : Nat} (hj : j ∈ found) :
    j < k :=
  (mem_eduBelow.mp (h.sublist.subset hj)).1

theorem Enumerated.nil (hregisters : t.machine.registers = R)
    (hresources : t.resources = fun _ => none) : Enumerated bits R capacity k [] t where
  registers := by
    rw [hregisters]
    funext a
    simp [registersAfter]
  resources i := by
    rw [hresources]
    simp
  sublist := List.nil_sublist _
  beyond j hj := by simp at hj

/-- A device that is not discovered. -/
theorem Enumerated.skip (h : Enumerated bits R capacity k found s)
    (hregisters : t.machine.registers = s.machine.registers)
    (hresources : t.resources = s.resources) : Enumerated bits R capacity (k + 1) found t where
  registers := hregisters.trans h.registers
  resources := by
    rw [hresources]
    exact h.resources
  sublist := by
    rw [eduBelow_succ]
    exact h.sublist.trans (List.sublist_append_left _ _)
  beyond := h.beyond

/-- A device that is discovered. -/
theorem Enumerated.discover (h : Enumerated bits R capacity k found s) (hedu : IsEduDevice R k)
    (hregisters : t.machine.registers = Function.update s.machine.registers (commandRegister k)
      (probed bits R (commandRegister k)))
    (hresources : (t.resources = s.resources ∧ capacity ≤ found.length) ∨
      ∃ candidate, found.length < capacity ∧ t.resources =
        Function.update s.resources found.length (some (BitVec.ofNat 32 k, candidate))) :
    Enumerated bits R capacity (k + 1) (found ++ [k]) t where
  registers := by
    rw [hregisters, h.registers]
    funext a
    by_cases ha : a = commandRegister k
    · subst ha
      rw [Function.update_self, registersAfter, if_pos ⟨k, by simp, rfl⟩]
    · rw [Function.update_of_ne ha, registersAfter, registersAfter]
      simp [ha, or_and_right, exists_or]
  resources i := by
    have hi := h.resources i
    rcases hresources with ⟨hsame, hfull⟩ | ⟨candidate, hroom, hstore⟩
    · rw [hsame, hi, List.take_append_of_le_length hfull]
    · rw [List.take_of_length_le (by omega)] at hi
      rw [hstore, List.take_of_length_le (by simp; omega)]
      by_cases hend : i = found.length
      · subst hend
        simp
      · rw [Function.update_of_ne hend, hi]
        rcases Nat.lt_or_gt_of_ne hend with hlt | hgt
        · rw [List.getElem?_append_left hlt]
        · rw [List.getElem?_eq_none (by omega), List.getElem?_eq_none (by simp; omega)]
  sublist := by
    rw [eduBelow_succ, if_pos hedu]
    exact h.sublist.append_right _
  beyond j hj := by
    rw [List.drop_append, List.mem_append] at hj
    rcases hj with hj | hj
    · exact h.beyond j hj
    · have hfull : capacity - found.length = 0 := by
        by_contra hroom
        rw [List.drop_of_length_le (by simp; omega)] at hj
        cases hj
      rw [hfull, List.drop_zero, List.mem_singleton] at hj
      have hlength := h.sublist.length_le
      subst hj
      omega

/-- One iteration. -/
theorem enumerateStep_wp {E : ε → Enumeration Bus → Prop} (hk : k < 32)
    (h : Enumerated bits R capacity k found s) :
    wp (enumerateStep (statusMachine bits env) slot capacity k found.length)
      (fun discovered t => ∃ found', discovered = found'.length ∧
        Enumerated bits R capacity (k + 1) found' t ∧
        (¬ env.Disturbed → found = eduBelow R k → found' = eduBelow R (k + 1))) E s := by
  have hsame : ∀ a ∈ probeRegisters k, registersAfter bits R found a = R a := by
    intro a ha
    rw [registersAfter, if_neg]
    rintro ⟨j, hj, rfl⟩
    have hlt := h.lt hj
    exact commandRegister_notMem k hk j (by omega) (by omega) ha
  refine wp_seq (discover_wp h.registers hsame) (fun _ _ h => h) fun r t ⟨hresources, hr⟩ => ?_
  cases r with
  | none =>
    obtain ⟨hregisters, hmissed⟩ := hr
    refine wp_pure ⟨found, rfl, h.skip (hregisters.trans h.registers.symm) hresources, ?_⟩
    intro hquiet hfound
    rw [eduBelow_succ, if_neg fun hedu => hquiet (hmissed hedu), List.append_nil]
    exact hfound
  | some candidate =>
    obtain ⟨hedu, hregisters⟩ := hr
    rw [← h.registers] at hregisters
    have hall : ¬ env.Disturbed → found = eduBelow R k → found ++ [k] = eduBelow R (k + 1) := by
      intro _ hfound
      rw [eduBelow_succ, if_pos hedu, hfound]
    refine wp_bind (wp_when (fun hroom => wp_modify ?_) fun hfull => ?_)
    · refine wp_pure ⟨found ++ [k], by simp,
        h.discover hedu hregisters (.inr ⟨candidate, hroom, ?_⟩), hall⟩
      rw [← hresources]
    · exact wp_pure ⟨found ++ [k], by simp,
        h.discover hedu hregisters (.inl ⟨hresources, by omega⟩), hall⟩

variable (bits env capacity) in
/-- What a call does to the registers and to the array. -/
theorem enumerateEdu_wp (hs : s.machine.registers = R) (hresources : s.resources = fun _ => none) :
    wp (enumerateEdu (statusMachine bits env) capacity) (fun _ _ => False)
      (fun _ t => ∃ found, Enumerated bits R capacity 32 found t ∧
        (¬ env.Disturbed → env.acquires s.machine.operations = true →
          found = eduBelow R 32)) s := by
  have hearly : env.acquires s.machine.operations = false → ∃ found,
      Enumerated bits R capacity 32 found s ∧
        (¬ env.Disturbed → env.acquires s.machine.operations = true → found = eduBelow R 32) :=
    fun hno => ⟨[], .nil hs hresources, fun _ hyes => nomatch hno.symm.trans hyes⟩
  unfold enumerateEdu
  refine wp_bind (wp_access rfl ?_)
  cases hslot : env.slot s.machine.operations with
  | none => exact wp_ret (hearly (by rw [PortEnv.acquires, hslot]; rfl))
  | some slot =>
    refine wp_bind (wp_access rfl (wp_ite (fun hissued => wp_bind (wp_modify (wp_ret ?_)))
      fun hissued => ?_))
    · exact hearly (by rw [PortEnv.acquires, show env.issued s.machine.operations = false from
        hissued, Bool.and_false])
    · refine wp_seq (wp_foldUp (fun k discovered t => ∃ found, discovered = found.length ∧
        Enumerated bits R capacity k found t ∧ (¬ env.Disturbed → found = eduBelow R k)) 0 32 0 _
        ⟨[], rfl, .nil hs hresources, fun _ => rfl⟩ ?_) (fun _ _ h => h) ?_
      · rintro k _ t - hk ⟨found, rfl, hfound, hall⟩
        refine wp_mono (enumerateStep_wp (by omega) hfound) ?_ fun _ _ h => h
        rintro _ t' ⟨found', rfl, hfound', hall'⟩
        exact ⟨found', rfl, hfound', fun hquiet => hall' hquiet (hall hquiet)⟩
      · rintro _ t ⟨found, rfl, hfound, hall⟩
        exact wp_ret ⟨found, hfound, fun hquiet _ => hall hquiet⟩

theorem mem_take_eduBelow {c j n : Nat} : j ∈ (eduBelow R n).take c ↔
    j < n ∧ IsEduDevice R j ∧ (eduBelow R j).length < c := by
  induction n with
  | zero => simp [eduBelow]
  | succ n ih =>
    have hlast : j ∈ (if IsEduDevice R n then [n] else []).take (c - (eduBelow R n).length) ↔
        j = n ∧ IsEduDevice R n ∧ (eduBelow R n).length < c := by
      rcases Nat.eq_zero_or_pos (c - (eduBelow R n).length) with hzero | hpos
      · rw [hzero, List.take_zero]
        exact iff_of_false List.not_mem_nil fun h => by omega
      · rw [List.take_of_length_le (by split <;> (simp; try omega))]
        by_cases hedu : IsEduDevice R n <;> simp [hedu]
        omega
    rw [eduBelow_succ, List.take_append, List.mem_append, ih, hlast]
    constructor
    · rintro (⟨hlt, h⟩ | ⟨rfl, h⟩)
      · exact ⟨by omega, h⟩
      · exact ⟨by omega, h⟩
    · rintro ⟨hlt, h⟩
      rcases Nat.lt_succ_iff_lt_or_eq.mp hlt with hlt | rfl
      · exact .inl ⟨hlt, h⟩
      · exact .inr ⟨rfl, h⟩

theorem commandRegister_inj {i j : Nat} (hi : i < 32) (hj : j < 32)
    (h : commandRegister i = commandRegister j) : i = j := by
  by_contra hne
  exact commandRegister_notMem j hj i hi hne (by simp [probeRegisters, h])

end Loop

/-! ## The frame -/

/-- The device is in the first `capacity` entries of the array. -/
def Stored (capacity : Nat) (t : Enumeration Bus) (device : BitVec 32) : Prop :=
  ∃ i < capacity, ∃ resource, t.resources i = some (device, resource)

/-- The registers are those of `R`, but for the two command bits of the devices in the array. -/
structure Framed (bits : StatusBits) (R : BitVec 32 → BitVec 32) (capacity : Nat)
    (t : Enumeration Bus) : Prop where
  stored : ∀ device, Stored capacity t device →
    t.machine.registers (configAddress device 0 PCI_COMMAND_STATUS_OFF) =
      withCommandBits bits R (configAddress device 0 PCI_COMMAND_STATUS_OFF)
  others : ∀ address, (∀ device, Stored capacity t device →
    address ≠ configAddress device 0 PCI_COMMAND_STATUS_OFF) →
    t.machine.registers address = R address

section Frame

variable {bits : StatusBits} {R : BitVec 32 → BitVec 32} {capacity : Nat} {found : List Nat}
  {t : Enumeration Bus}

theorem Enumerated.stored_iff (h : Enumerated bits R capacity 32 found t) {device : BitVec 32} :
    Stored capacity t device ↔ ∃ j ∈ found.take capacity, device = BitVec.ofNat 32 j := by
  constructor
  · rintro ⟨i, hi, resource, hr⟩
    have hfst := h.resources i
    rw [hr, Option.map_some] at hfst
    obtain ⟨j, hj, hd⟩ := Option.map_eq_some_iff.mp hfst.symm
    exact ⟨j, List.mem_of_getElem? hj, hd.symm⟩
  · rintro ⟨j, hj, rfl⟩
    obtain ⟨i, hi⟩ := List.getElem?_of_mem hj
    have hfst := h.resources i
    rw [hi, Option.map_some] at hfst
    obtain ⟨⟨device, resource⟩, hr, rfl⟩ := Option.map_eq_some_iff.mp hfst
    have hlt := (List.getElem?_eq_some_iff.mp hi).1
    rw [List.length_take] at hlt
    exact ⟨i, by omega, resource, hr⟩

/-- The condition under which only the devices in the array are changed: no EDU function has a
status bit set, and those behind the end of the array have the two command bits set already. -/
def Undisturbed (bits : StatusBits) (R : BitVec 32 → BitVec 32) (capacity : Nat) : Prop :=
  ∀ k < 32, IsEduDevice R k →
    R (commandRegister k) &&& bits.clears (commandRegister k) = 0 ∧
    (capacity ≤ (eduBelow R k).length →
      withCommandBits bits R (commandRegister k) = R (commandRegister k))

theorem Enumerated.framed (h : Enumerated bits R capacity 32 found t)
    (hquiet : Undisturbed bits R capacity) : Framed bits R capacity t := by
  refine ⟨fun device hd => ?_, fun address ha => ?_⟩
  · obtain ⟨j, hj, rfl⟩ := h.stored_iff.mp hd
    have hfound := List.mem_of_mem_take hj
    obtain ⟨hlt, hedu⟩ := mem_eduBelow.mp (h.sublist.subset hfound)
    show t.machine.registers (commandRegister j) = withCommandBits bits R (commandRegister j)
    rw [h.registers, registersAfter, if_pos ⟨j, hfound, rfl⟩, probed_eq_with_iff]
    exact (hquiet j hlt hedu).1
  · rw [h.registers, registersAfter]
    split
    · rename_i hex
      obtain ⟨j, hj, rfl⟩ := hex
      obtain ⟨hlt, hedu⟩ := mem_eduBelow.mp (h.sublist.subset hj)
      rw [← List.take_append_drop capacity found, List.mem_append] at hj
      rcases hj with hj | hj
      · exact absurd rfl (ha _ (h.stored_iff.mpr ⟨j, hj, rfl⟩))
      · obtain ⟨hclear, hbits⟩ := hquiet j hlt hedu
        exact (probed_eq_self_iff bits R _).mpr ⟨hclear, hbits (h.beyond j hj)⟩
    · rfl

theorem Enumerated.undisturbed (h : Enumerated bits R capacity 32 (eduBelow R 32) t)
    (hframed : Framed bits R capacity t) : Undisturbed bits R capacity := by
  intro k hk hedu
  have hregister : t.machine.registers (commandRegister k) = probed bits R (commandRegister k) := by
    rw [h.registers, registersAfter, if_pos ⟨k, mem_eduBelow.mpr ⟨hk, hedu⟩, rfl⟩]
  by_cases hroom : (eduBelow R k).length < capacity
  · have hstored := hframed.stored _
      (h.stored_iff.mpr ⟨k, mem_take_eduBelow.mpr ⟨hk, hedu, hroom⟩, rfl⟩)
    refine ⟨(probed_eq_with_iff bits R _).mp (hregister.symm.trans hstored), fun hfull => ?_⟩
    omega
  · have hother := hframed.others (commandRegister k) fun device hd heq => by
      obtain ⟨j, hj, rfl⟩ := h.stored_iff.mp hd
      obtain ⟨hlt, -, hbefore⟩ := mem_take_eduBelow.mp hj
      obtain rfl := commandRegister_inj hk hlt heq
      exact hroom hbefore
    obtain ⟨hclear, hbits⟩ := (probed_eq_self_iff bits R _).mp (hregister.symm.trans hother)
    exact ⟨hclear, fun _ => hbits⟩

end Frame

/-- **The frame of the enumeration**: for the configuration registers `R`, whatever operations on
the ports fail, a call sets the two command bits of the devices in the array and changes nothing
else, if and only if no EDU function has a status bit set and those behind the end of the array have
the two command bits set already. -/
theorem enumerate_frame_iff (bits : StatusBits) (R : BitVec 32 → BitVec 32) (capacity : Nat) :
    (∀ (env : PortEnv) (s t : Enumeration Bus) (n : Nat), s.machine.registers = R →
      s.resources = (fun _ => none) →
      enumerateEdu (statusMachine bits env) capacity s = .ret n t → Framed bits R capacity t) ↔
    Undisturbed bits R capacity := by
  constructor
  · intro hall
    have hwp := enumerateEdu_wp (R := R) bits (portsWith fun _ => false) capacity
      (s := ⟨⟨0, R, 0, []⟩, fun _ => none⟩) rfl rfl
    obtain ⟨n, t, hrun, found, hfound, heq⟩ := Prog.exists_returns hwp
    obtain rfl := heq (fun ⟨_, hfails⟩ => nomatch hfails) rfl
    exact hfound.undisturbed (hall _ _ t n rfl rfl hrun)
  · intro hquiet env s t n hs hresources hrun
    obtain ⟨found, hfound, -⟩ :=
      Prog.wp_ret_of (enumerateEdu_wp bits env capacity hs hresources) hrun
    exact hfound.framed hquiet

/-- Status bits as of a type 0 header: the command half can be written, and five bits of the status
half are cleared by a one. -/
def eduBits : StatusBits where
  writable _ := 0x0000ffff
  clears _ := 0xf9000000
  status _ := by decide
  disjoint _ := by decide

/-- Two EDU functions, of the devices 3 and 4, with both command bits clear. -/
def eduRegisters (address : BitVec 32) : BitVec 32 :=
  if address &&& 0xffffff00 = configAddress 3 0 0 ∨
      address &&& 0xffffff00 = configAddress 4 0 0 then
    match (address.setWidth 8).toNat with
    | 0x00 => 0x11e81234
    | 0x10 => 0xfebf0000
    | 0x3c => 0x0b
    | _ => 0
  else 0xffffffff

def eduStart : Enumeration Bus := ⟨⟨0, eduRegisters, 0, []⟩, fun _ => none⟩

/-- The result, the command register of device 4, and the devices of the array. -/
def eduOutcome (r : Res Nat (Enumeration Bus) Unit) :
    Option (Nat × BitVec 32 × Option (BitVec 32)) :=
  r.returned.map fun r =>
    (r.1, r.2.machine.registers (commandRegister 4), (r.2.resources 0).map Prod.fst)

set_option maxRecDepth 100000 in
/-- With room for one function, the second one gets bus mastering and is not in the array. -/
theorem second_edu_changed : ¬ ∀ (bits : StatusBits) (R : BitVec 32 → BitVec 32) (capacity : Nat)
    (env : PortEnv) (s t : Enumeration Bus) (n : Nat), s.machine.registers = R →
    s.resources = (fun _ => none) →
    enumerateEdu (statusMachine bits env) capacity s = .ret n t → Framed bits R capacity t := by
  intro hall
  have hrun : eduOutcome (enumerateEdu (statusMachine eduBits (portsWith fun _ => false)) 1
      eduStart) = some (2, 6, some 3) := by
    decide +kernel
  obtain ⟨⟨n, t⟩, hreturned, hvalue⟩ := Option.map_eq_some_iff.mp hrun
  simp only [Prod.mk.injEq] at hvalue
  obtain ⟨-, hregister, hstored⟩ := hvalue
  have hframed := hall _ _ _ _ _ t n rfl rfl (Res.eq_of_returned hreturned)
  have hother := hframed.others (commandRegister 4) ?_
  · rw [hregister] at hother
    exact absurd hother (by decide)
  · rintro device ⟨i, hi, resource, hr⟩
    obtain rfl : i = 0 := by omega
    rw [hr, Option.map_some, Option.some_inj] at hstored
    subst hstored
    decide

end SeLinOS.Pci
