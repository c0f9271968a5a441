import SeLinOS.Pci.Capability
import SeLinOS.Pci.Stage

/-!
# The notification capability

`selinos_pci_inspect_qemu_virtio_blk_notify_capability`, the walk over the capability list that
looks for the notification capability, with its multiplier behind the 16 bytes of a capability. Any
operation on the ports may fail.

* `inspectNotifyCapability`: the function.
* `functionSpace`: the configuration space that the registers of a function are.
* `Reads`, `wp_reads`: an access to it, and what the two outcomes leave.
* `notifyStep_wp`, `notifyStep_skips`, `notifyStep_reads`: one iteration of the walk, for any
  failures, for one that hides the capability and for none.
-/

namespace SeLinOS.Pci

open CLogic Sel4 CLogic.Part

def VIRTIO_PCI_CAP_NOTIFY_CFG : BitVec 8 := 0x02
def VIRTIO_NOTIFY_CFG_MULTIPLIER_OFF : BitVec 32 := 0x10

/-- The machine and the capability of the caller. -/
structure NotifyInspection (δ : Type) where
  machine : δ
  capability : NotifyCapability

instance {δ : Type} : Part (NotifyInspection δ) δ where
  part := NotifyInspection.machine
  withPart machine s := { s with machine }
  part_withPart _ _ := rfl
  withPart_part _ := rfl
  withPart_withPart _ _ _ := rfl

section Model

variable {δ ε α β : Type} (m : Machine δ)

/-- `f(&value) && rest`. -/
def readAnd (f : δ → Option α × δ) (rest : α → Prog ε (NotifyInspection δ) (Option β)) :
    Prog ε (NotifyInspection δ) (Option β) := do
  match ← Prog.access f with
  | none => pure none
  | some a => rest a

/-- The tests of a notification capability on its type, BAR, offset, length and multiplier. -/
def NotifyFields (cfgType bar : BitVec 8) (offset length multiplier : BitVec 32) : Prop :=
  cfgType = VIRTIO_PCI_CAP_NOTIFY_CFG ∧ bar.zeroExtend 32 < PCI_BAR_COUNT ∧ offset &&& 3 = 0 ∧
    length ≥ VIRTIO_NOTIFY_CFG_MIN_LENGTH ∧ length &&& 3 = 0 ∧ multiplier ≠ 0

instance (cfgType bar : BitVec 8) (offset length multiplier : BitVec 32) :
    Decidable (NotifyFields cfgType bar offset length multiplier) := by
  unfold NotifyFields
  infer_instance

/-- The BAR, offset, length and multiplier of a capability. -/
abbrev NotifyParts : Type := BitVec 8 × BitVec 32 × BitVec 32 × BitVec 32

/-- The condition of the capability at `current`: the tests that read are made one after the other,
and a read that fails is a test that fails. -/
def readNotifyFields (slot : Word) (device : BitVec 32) (current capId capLength : BitVec 8) :
    Prog ε (NotifyInspection δ) (Option NotifyParts) :=
  let place : BitVec 32 := current.zeroExtend 32
  if capId = PCI_CAP_ID_VENDOR_SPECIFIC ∧
      capLength.zeroExtend 32 ≥ VIRTIO_NOTIFY_CFG_MIN_LENGTH then
    readAnd (readConfigByte m slot device 0 (place + 3)) fun cfgType =>
    readAnd (readConfigByte m slot device 0 (place + 4)) fun bar =>
    readAnd (readConfigDword m slot device 0 (place + 8)) fun offset =>
    readAnd (readConfigDword m slot device 0 (place + 12)) fun length =>
    readAnd (readConfigDword m slot device 0 (place + VIRTIO_NOTIFY_CFG_MULTIPLIER_OFF))
      fun multiplier =>
        if NotifyFields cfgType bar offset length multiplier then
          pure (some (bar, offset, length, multiplier))
        else pure none
  else pure none

/-- One iteration of the walk, from `current` to the next offset. -/
def notifyStep (slot : Word) (device : BitVec 32) (current : BitVec 8) :
    Prog Bool (NotifyInspection δ) (BitVec 8) := do
  let place : BitVec 32 := current.zeroExtend 32
  unlessRelease m slot (PCI_CAPABILITY_FIRST ≤ current ∧ current ≤ PCI_CAPABILITY_LAST ∧
    current &&& 3 = 0)
  let capId ← readOrRelease m slot (readConfigByte m slot device 0 place)
  let next ← readOrRelease m slot (readConfigByte m slot device 0 (place + 1))
  let capLength ← readOrRelease m slot (readConfigByte m slot device 0 (place + 2))
  let found ← readNotifyFields m slot device current capId capLength
  match found with
  | some parts =>
    Prog.modify fun s => { s with capability :=
      ⟨⟨device, 0, SELINOS_QEMU_VIRTIO_VENDOR_ID, SELINOS_QEMU_VIRTIO_BLK_MODERN_DEVICE_ID⟩,
        place, parts.1.zeroExtend 32, parts.2.1, parts.2.2.1, parts.2.2.2⟩ }
    releaseReturn m slot true
  | none =>
    -- `break`, which leads to the same end as the limit.
    if next = 0 then releaseReturn m slot false else pure next

/-- The function from the device on. -/
def walkDevice (slot : Word) (device : BitVec 32) : Prog Bool (NotifyInspection δ) Unit := do
  let status ← readOrRelease m slot (readConfigWord m slot device 0 (PCI_COMMAND_STATUS_OFF + 2))
  let header ← readOrRelease m slot (readConfigDword m slot device 0 PCI_HEADER_TYPE_OFF)
  unlessRelease m slot (status &&& PCI_STATUS_CAPABILITIES ≠ 0 ∧ header >>> 16 &&& 0x7f = 0)
  let current ← readOrRelease m slot (readConfigByte m slot device 0 PCI_CAPABILITY_LIST_OFF)
  let _ ← Prog.foldUp (fun _ current => notifyStep m slot device current) 0
    PCI_CAPABILITY_LIMIT current
  releaseReturn m slot false

/-- `selinos_pci_inspect_qemu_virtio_blk_notify_capability`. -/
def inspectNotifyCapability : Prog Bool (NotifyInspection δ) Unit := do
  match ← Prog.access (acquireConfigIoport m) with
  | none => Prog.ret false
  | some slot =>
    let matched ← Prog.firstUp (matchDevice m slot) 0 32
    match matched with
    | none => releaseReturn m slot false
    | some device => walkDevice m slot device

end Model

/-! ## The configuration space of a function -/

/-- The 256 bytes of function 0 of a device. -/
def functionSpace (R : BitVec 32 → BitVec 32) (device : BitVec 32) : ConfigSpace := fun o =>
  (R (configAddress device 0 (o.zeroExtend 32)) >>> (8 * (o.toNat % 4))).setWidth 8

/-- A dword is made of its bytes. -/
theorem dword_of_bytes (d : BitVec 32) :
    (d.setWidth 8).zeroExtend 32 ||| ((d >>> 8).setWidth 8).zeroExtend 32 <<< 8 |||
      ((d >>> 16).setWidth 8).zeroExtend 32 <<< 16 |||
      ((d >>> 24).setWidth 8).zeroExtend 32 <<< 24 = d := by
  refine BitVec.eq_of_getLsbD_eq fun i hi => ?_
  simp only [BitVec.truncate_eq_setWidth, BitVec.getLsbD_or, BitVec.getLsbD_setWidth,
    BitVec.getLsbD_shiftLeft, BitVec.getLsbD_ushiftRight, hi, decide_true, Bool.true_and]
  by_cases h8 : i < 8
  · simp [h8, show i < 16 by omega, show i < 24 by omega]
  by_cases h16 : i < 16
  · simp [h8, h16, show i < 24 by omega, show i - 8 < 8 by omega, show 8 + (i - 8) = i by omega]
    omega
  by_cases h24 : i < 24
  · simp [h8, h16, h24, show ¬ i - 8 < 8 by omega, show i - 16 < 8 by omega,
      show 16 + (i - 16) = i by omega]
    omega
  · simp [h8, h16, h24, show ¬ i - 8 < 8 by omega, show ¬ i - 16 < 8 by omega,
      show i - 24 < 8 by omega, show 24 + (i - 24) = i by omega]
    omega

theorem offset_in_dword : ∀ o : BitVec 8, o &&& 3 = 0 → ∀ r < 4,
    (o + BitVec.ofNat 8 r).zeroExtend 32 &&& 0xfc = o.zeroExtend 32 &&& (0xfc : BitVec 32) ∧
      (o + BitVec.ofNat 8 r).toNat % 4 = r := by
  decide

theorem configAddress_congr {device offset offset' : BitVec 32}
    (h : offset &&& 0xfc = offset' &&& 0xfc) :
    configAddress device 0 offset = configAddress device 0 offset' := by
  rw [configAddress, configAddress, h]

theorem functionSpace_shows (R : BitVec 32 → BitVec 32) (device : BitVec 32) :
    (functionSpace R device).Shows R device := by
  intro o ho
  have hbyte : ∀ r < 4, functionSpace R device (o + BitVec.ofNat 8 r) =
      (R (configAddress device 0 (o.zeroExtend 32)) >>> (8 * r)).setWidth 8 := fun r hr => by
    obtain ⟨haddress, hrest⟩ := offset_in_dword o ho r hr
    rw [functionSpace, configAddress_congr haddress, hrest]
  obtain ⟨h0, h1, h2, h3⟩ : _ ∧ _ ∧ _ ∧ _ :=
    ⟨hbyte 0 (by omega), hbyte 1 (by omega), hbyte 2 (by omega), hbyte 3 (by omega)⟩
  simp only [BitVec.ofNat_eq_ofNat, BitVec.add_zero, Nat.mul_zero, BitVec.ushiftRight_zero,
    Nat.mul_one, Nat.reduceMul] at h0 h1 h2 h3
  rw [ConfigSpace.dword]
  simp only [BitVec.ofNat_eq_ofNat, h0, h1, h2, h3]
  exact (dword_of_bytes _).symm

namespace ConfigSpace

variable (space : ConfigSpace)

/-- The capability at `p` is one whose reads the function goes on with. -/
def IsCandidate (p : BitVec 8) : Prop :=
  space p = PCI_CAP_ID_VENDOR_SPECIFIC ∧
    (space (p + 2)).zeroExtend 32 ≥ VIRTIO_NOTIFY_CFG_MIN_LENGTH

instance (p : BitVec 8) : Decidable (space.IsCandidate p) := instDecidableAnd

/-- The capability at `p` is a notification capability. Offsets that leave the space start again
at 0, as in the address register. -/
def IsNotify (p : BitVec 8) : Prop :=
  space.IsCandidate p ∧ NotifyFields (space (p + 3)) (space (p + 4)) (space.dword (p + 8))
    (space.dword (p + 12)) (space.dword (p + 16))

instance (p : BitVec 8) : Decidable (space.IsNotify p) := instDecidableAnd

/-- The notification capability at `p`, as the caller gets it. -/
def notifyCapability (device : BitVec 32) (p : BitVec 8) : NotifyCapability :=
  ⟨⟨device, 0, SELINOS_QEMU_VIRTIO_VENDOR_ID, SELINOS_QEMU_VIRTIO_BLK_MODERN_DEVICE_ID⟩,
    p.zeroExtend 32, (space (p + 4)).zeroExtend 32, space.dword (p + 8), space.dword (p + 12),
    space.dword (p + 16)⟩

/-- The chain comes to `p`. -/
def Reaches (p : BitVec 8) : Prop := ∃ i, follow space.next (pointer (space 0x34)) i = some p

/-- The first notification capability of the chain is at `p`. -/
def FirstNotify (p : BitVec 8) : Prop :=
  First space.next (pointer (space 0x34)) space.IsNotify p

end ConfigSpace

/-! ## Reads that may fail -/

section Walk

open Prog ConfigSpace

variable {writable R : BitVec 32 → BitVec 32} {env : PortEnv} {device : BitVec 32} {slot : Word}
  {s : NotifyInspection Bus} {α β ε : Type} {n : Nat}

/-- The registers are `R`, and the next operation is number `n`. -/
structure AtOperation (R : BitVec 32 → BitVec 32) (n : Nat) (s : NotifyInspection Bus) : Prop where
  registers : s.machine.registers = R
  operations : s.machine.operations = n

/-- `f` is an access that gives `a` if it succeeds. -/
def Reads (env : PortEnv) (R : BitVec 32 → BitVec 32) (f : Bus → Option α × Bus) (a : α) : Prop :=
  ∀ b : Bus, b.registers = R → ∃ b' : Bus, b'.registers = R ∧
    b'.operations = env.after b.operations ∧
    f b = (if env.passes b.operations then some a else none, b')

theorem reads_dword (dev offset : BitVec 32) :
    Reads env R (readConfigDword (busMachine writable env) slot dev 0 offset)
      (R (configAddress dev 0 offset)) := by
  rintro b rfl
  exact ⟨b.touch env (configAddress dev 0 offset), rfl, rfl, readConfigDword_bus⟩

theorem reads_word (offset : BitVec 32) :
    Reads env R (readConfigWord (busMachine writable env) slot device 0 offset)
      (halfOf (upperHalf offset) (R (configAddress device 0 offset))) := by
  rintro b rfl
  exact ⟨b.touch env (configAddress device 0 offset), rfl, rfl, readConfigWord_bus⟩

theorem reads_byte {offset : BitVec 32} (o : BitVec 8) (ho : offset = o.zeroExtend 32) :
    Reads env R (readConfigByte (busMachine writable env) slot device 0 offset)
      (functionSpace R device o) := by
  rintro b rfl
  refine ⟨b.touch env (configAddress device 0 (offset &&& 0xfc)), rfl, rfl, ?_⟩
  have hbyte := (functionSpace_shows b.registers device).byte o
  rw [readConfigByte, readConfigDword_bus, ho]
  cases env.passes b.operations with
  | true => exact congrArg (fun v => (some v, _)) hbyte
  | false => rfl

variable {f : Bus → Option α × Bus} {a : α}

theorem wp_reads {Q : Option α → NotifyInspection Bus → Prop} {E : ε → NotifyInspection Bus → Prop}
    (h : Reads env R f a) (hs : AtOperation R n s)
    (hok : env.passes n = true → ∀ t, AtOperation R (n + 2) t → Q (some a) t)
    (hfail : env.passes n = false → ∀ t, AtOperation R (env.after n) t → Q none t) :
    wp (Prog.access f : Prog ε (NotifyInspection Bus) (Option α)) Q E s := by
  obtain ⟨b, hregisters, hoperations, hf⟩ := h s.machine hs.registers
  refine wp_access hf ?_
  rw [hs.operations] at hoperations ⊢
  cases hpasses : env.passes n with
  | true =>
    rw [PortEnv.after_eq hpasses] at hoperations
    exact hok hpasses _ ⟨hregisters, hoperations⟩
  | false => exact hfail hpasses _ ⟨hregisters, hoperations⟩

theorem wp_readsOrRelease {Q : α → NotifyInspection Bus → Prop}
    {E : Bool → NotifyInspection Bus → Prop} (h : Reads env R f a) (hs : AtOperation R n s)
    (hok : env.passes n = true → ∀ t, AtOperation R (n + 2) t → Q a t)
    (hfail : env.passes n = false → ∀ t, E false t) :
    wp (readOrRelease (busMachine writable env) slot f) Q E s :=
  wp_readOrRelease (wp_reads h hs hok fun hpasses t _ => hfail hpasses t)

theorem wp_readAnd {rest : α → Prog ε (NotifyInspection Bus) (Option β)}
    {Q : Option β → NotifyInspection Bus → Prop} {E : ε → NotifyInspection Bus → Prop}
    (h : Reads env R f a) (hs : AtOperation R n s)
    (hok : env.passes n = true → ∀ t, AtOperation R (n + 2) t → wp (rest a) Q E t)
    (hfail : env.passes n = false → ∀ t, AtOperation R (env.after n) t → Q none t) :
    wp (readAnd f rest) Q E s :=
  wp_bind (wp_reads h hs hok fun hpasses t ht => wp_pure (hfail hpasses t ht))

/-! ## One capability -/

/-- The offsets in a capability, as the address register has them. -/
theorem notify_offsets : ∀ p : BitVec 8,
    PCI_CAPABILITY_FIRST ≤ p ∧ p ≤ PCI_CAPABILITY_LAST ∧ p &&& 3 = 0 →
    (p.zeroExtend 32 + 1 = (p + 1).zeroExtend 32 ∧ p.zeroExtend 32 + 2 = (p + 2).zeroExtend 32 ∧
      p.zeroExtend 32 + 3 = (p + 3).zeroExtend 32 ∧
      p.zeroExtend 32 + 4 = (p + 4).zeroExtend 32) ∧
    ((p + 8) &&& 3 = 0 ∧ (p.zeroExtend 32 + 8) &&& 0xfc = (p + 8).zeroExtend 32 &&& 0xfc) ∧
    ((p + 12) &&& 3 = 0 ∧ (p.zeroExtend 32 + 12) &&& 0xfc = (p + 12).zeroExtend 32 &&& 0xfc) ∧
    ((p + 16) &&& 3 = 0 ∧ (p.zeroExtend 32 + VIRTIO_NOTIFY_CFG_MULTIPLIER_OFF) &&& 0xfc =
      (p + 16).zeroExtend 32 &&& (0xfc : BitVec 32)) := by
  decide

/-- A dword of a capability. -/
theorem reads_field {offset : BitVec 32} {o : BitVec 8} (ho : o &&& 3 = 0)
    (h : offset &&& 0xfc = o.zeroExtend 32 &&& 0xfc) :
    Reads env R (readConfigDword (busMachine writable env) slot device 0 offset)
      ((functionSpace R device).dword o) := by
  rw [← functionSpace_shows R device o ho, ← configAddress_congr h]
  exact reads_dword device offset

/-- The BAR, offset, length and multiplier of the capability at `p`. -/
def notifyParts (space : ConfigSpace) (p : BitVec 8) : NotifyParts :=
  (space (p + 4), space.dword (p + 8), space.dword (p + 12), space.dword (p + 16))

section Fields

variable {p : BitVec 8} {E : ε → NotifyInspection Bus → Prop}
  (hp : PCI_CAPABILITY_FIRST ≤ p ∧ p ≤ PCI_CAPABILITY_LAST ∧ p &&& 3 = 0)

include hp

/-- The fields that the function goes on with are those of a notification capability. -/
theorem readNotifyFields_wp (hs : AtOperation R n s) :
    wp (readNotifyFields (busMachine writable env) slot device p (functionSpace R device p)
        (functionSpace R device (p + 2)))
      (fun r t => (∃ n', AtOperation R n' t) ∧ ∀ parts, r = some parts →
        (functionSpace R device).IsNotify p ∧ parts = notifyParts (functionSpace R device) p)
      E s := by
  obtain ⟨⟨-, -, h3, h4⟩, ⟨ha8, h8⟩, ⟨ha12, h12⟩, ha16, h16⟩ := notify_offsets p hp
  have hnone : ∀ t m, AtOperation R m t → (∃ n', AtOperation R n' t) ∧
      ∀ parts, (none : Option NotifyParts) = some parts →
        (functionSpace R device).IsNotify p ∧ parts = notifyParts (functionSpace R device) p :=
    fun t m ht => ⟨⟨m, ht⟩, fun _ h => nomatch h⟩
  refine wp_ite (fun hcandidate => ?_) fun _ => wp_pure (hnone s n hs)
  refine wp_readAnd (reads_byte _ h3) hs (fun _ t ht => ?_) fun _ t ht => hnone t _ ht
  refine wp_readAnd (reads_byte _ h4) ht (fun _ t ht => ?_) fun _ t ht => hnone t _ ht
  refine wp_readAnd (reads_field ha8 h8) ht (fun _ t ht => ?_) fun _ t ht => hnone t _ ht
  refine wp_readAnd (reads_field ha12 h12) ht (fun _ t ht => ?_) fun _ t ht => hnone t _ ht
  refine wp_readAnd (reads_field ha16 h16) ht (fun _ t ht => ?_) fun _ t ht => hnone t _ ht
  refine wp_ite (fun hfields => wp_pure ⟨⟨_, ht⟩, fun parts h => ?_⟩) fun _ =>
    wp_pure (hnone t _ ht)
  cases h
  exact ⟨⟨hcandidate, hfields⟩, rfl⟩

/-- A candidate whose first read fails is passed over. -/
theorem readNotifyFields_skips (hs : AtOperation R n s)
    (h : (functionSpace R device).IsCandidate p → env.fails n = true) :
    wp (readNotifyFields (busMachine writable env) slot device p (functionSpace R device p)
        (functionSpace R device (p + 2)))
      (fun r t => r = none ∧
        AtOperation R (if (functionSpace R device).IsCandidate p then n + 1 else n) t) E s := by
  obtain ⟨⟨-, -, h3, -⟩, -⟩ := notify_offsets p hp
  refine wp_ite (fun hcandidate => ?_) fun hno => wp_pure ⟨rfl, ?_⟩
  · have hfails := h hcandidate
    have hpasses : env.passes n = false := by rw [PortEnv.passes, hfails]; rfl
    refine wp_readAnd (reads_byte _ h3) hs (fun hc => absurd hc (by rw [hpasses]; decide)) ?_
    intro _ t ht
    rw [PortEnv.after, if_pos hfails] at ht
    have hif : (if (functionSpace R device).IsCandidate p then n + 1 else n) = n + 1 :=
      if_pos hcandidate
    rw [hif]
    exact ⟨rfl, ht⟩
  · have hif : (if (functionSpace R device).IsCandidate p then n + 1 else n) = n := if_neg hno
    rw [hif]
    exact hs

/-- Reads that succeed find a notification capability, and nothing else. -/
theorem readNotifyFields_reads (hs : AtOperation R n s) (h : ∀ m, n ≤ m → env.passes m = true) :
    wp (readNotifyFields (busMachine writable env) slot device p (functionSpace R device p)
        (functionSpace R device (p + 2)))
      (fun r t => (∃ n', n ≤ n' ∧ AtOperation R n' t) ∧
        r = if (functionSpace R device).IsNotify p then
          some (notifyParts (functionSpace R device) p) else none) E s := by
  obtain ⟨⟨-, -, h3, h4⟩, ⟨ha8, h8⟩, ⟨ha12, h12⟩, ha16, h16⟩ := notify_offsets p hp
  have hpass : ∀ m, n ≤ m → env.passes m ≠ false := fun m hm => by
    rw [h m hm]
    decide
  refine wp_ite (fun hcandidate => ?_) fun hno =>
    wp_pure ⟨⟨n, le_rfl, hs⟩, (if_neg fun hnotify => hno hnotify.1).symm⟩
  refine wp_readAnd (reads_byte _ h3) hs (fun _ t ht => ?_) fun hc => absurd hc (hpass _ (by omega))
  refine wp_readAnd (reads_byte _ h4) ht (fun _ t ht => ?_) fun hc => absurd hc (hpass _ (by omega))
  refine wp_readAnd (reads_field ha8 h8) ht (fun _ t ht => ?_) fun hc =>
    absurd hc (hpass _ (by omega))
  refine wp_readAnd (reads_field ha12 h12) ht (fun _ t ht => ?_) fun hc =>
    absurd hc (hpass _ (by omega))
  refine wp_readAnd (reads_field ha16 h16) ht (fun _ t ht => ?_) fun hc =>
    absurd hc (hpass _ (by omega))
  refine wp_ite (fun hfields => wp_pure ⟨⟨_, by omega, ht⟩, ?_⟩) fun hno =>
    wp_pure ⟨⟨_, by omega, ht⟩, ?_⟩
  · exact (if_pos ⟨hcandidate, hfields⟩).symm
  · exact (if_neg fun hnotify => hno hnotify.2).symm

end Fields

theorem pointer_eq_some {p q : BitVec 8} : pointer p = some q ↔
    p = q ∧ PCI_CAPABILITY_FIRST ≤ p ∧ p ≤ PCI_CAPABILITY_LAST ∧ p &&& 3 = 0 := by
  rw [pointer]
  split
  · rename_i hvalid
    rw [Option.some_inj]
    exact ⟨fun h => ⟨h, hvalid⟩, fun h => h.1⟩
  · rename_i hinvalid
    exact ⟨fun h => absurd h (Option.some_ne_none q).symm, fun h => absurd h.2 hinvalid⟩

/-- One iteration, whatever fails: what it finds is a notification capability, and it goes on with
the next pointer. -/
theorem notifyStep_wp {p : BitVec 8} (hs : AtOperation R n s) :
    wp (notifyStep (busMachine writable env) slot device p)
      (fun q t => (∃ n', AtOperation R n' t) ∧ pointer p = some p ∧
        q = functionSpace R device (p + 1))
      (fun success t => success = true → pointer p = some p ∧
        (functionSpace R device).IsNotify p ∧
        t.capability = (functionSpace R device).notifyCapability device p) s := by
  refine wp_bind (wp_unlessRelease (fun hvalid => ?_) fun _ => nofun)
  obtain ⟨⟨h1, h2, -, -⟩, -⟩ := notify_offsets p hvalid
  have hpointer : pointer p = some p := pointer_eq_some.mpr ⟨rfl, hvalid⟩
  refine wp_bind (wp_readsOrRelease (reads_byte p rfl) hs (fun _ t ht => ?_) fun _ _ => nofun)
  refine wp_bind (wp_readsOrRelease (reads_byte _ h1) ht (fun _ t ht => ?_) fun _ _ => nofun)
  refine wp_bind (wp_readsOrRelease (reads_byte _ h2) ht (fun _ t ht => ?_) fun _ _ => nofun)
  refine wp_seq (readNotifyFields_wp hvalid ht) (fun _ _ h => h) fun r t ⟨⟨n', ht⟩, hr⟩ => ?_
  cases r with
  | some parts =>
    obtain ⟨hnotify, rfl⟩ := hr parts rfl
    exact wp_bind (wp_modify (wp_releaseReturn fun _ => ⟨hpointer, hnotify, rfl⟩))
  | none =>
    exact wp_ite (fun _ => wp_releaseReturn nofun) fun _ => wp_pure ⟨⟨n', ht⟩, hpointer, rfl⟩

/-- The header reads of the iteration that starts at operation `n` succeed. -/
def HeaderPasses (env : PortEnv) (n : Nat) : Prop :=
  env.passes n = true ∧ env.passes (n + 2) = true ∧ env.passes (n + 4) = true

/-- An iteration over a capability whose fields cannot be read. -/
theorem notifyStep_skips {p : BitVec 8} (hs : AtOperation R n s) (hpointer : pointer p = some p)
    (hnext : functionSpace R device (p + 1) ≠ 0) (hheader : HeaderPasses env n)
    (h : (functionSpace R device).IsCandidate p → env.fails (n + 6) = true) :
    wp (notifyStep (busMachine writable env) slot device p)
      (fun q t => q = functionSpace R device (p + 1) ∧
        AtOperation R (if (functionSpace R device).IsCandidate p then n + 6 + 1 else n + 6) t)
      (fun _ _ => False) s := by
  have hvalid := (pointer_eq_some.mp hpointer).2
  obtain ⟨⟨h1, h2, -, -⟩, -⟩ := notify_offsets p hvalid
  obtain ⟨hpass0, hpass2, hpass4⟩ := hheader
  refine wp_bind (wp_unlessRelease (fun _ => ?_) fun hc => absurd hvalid hc)
  refine wp_bind (wp_readsOrRelease (reads_byte p rfl) hs (fun _ t ht => ?_) fun hc => ?_)
  · refine wp_bind (wp_readsOrRelease (reads_byte _ h1) ht (fun _ t ht => ?_) fun hc => ?_)
    · refine wp_bind (wp_readsOrRelease (reads_byte _ h2) ht (fun _ t ht => ?_) fun hc => ?_)
      · refine wp_seq (readNotifyFields_skips hvalid ht h) (fun _ _ h => h) ?_
        rintro _ t ⟨rfl, ht⟩
        exact wp_ite (fun hzero => absurd hzero hnext) fun _ => wp_pure ⟨rfl, ht⟩
      · exact nomatch hpass4.symm.trans hc
    · exact nomatch hpass2.symm.trans hc
  · exact nomatch hpass0.symm.trans hc

/-- An iteration whose reads succeed finds a notification capability, or it ends the walk or goes
on with the next pointer. -/
theorem notifyStep_reads {p : BitVec 8} (hs : AtOperation R n s)
    (h : ∀ m, n ≤ m → env.passes m = true) :
    wp (notifyStep (busMachine writable env) slot device p)
      (fun q t => (∃ n', n ≤ n' ∧ AtOperation R n' t) ∧ pointer p = some p ∧
        ¬ (functionSpace R device).IsNotify p ∧ q = functionSpace R device (p + 1))
      (fun success t =>
        (pointer p = some p ∧ (functionSpace R device).IsNotify p ∧ success = true ∧
          t.capability = (functionSpace R device).notifyCapability device p) ∨
        ((pointer p = none ∨ pointer p = some p ∧ ¬ (functionSpace R device).IsNotify p ∧
          functionSpace R device (p + 1) = 0) ∧ success = false)) s := by
  have hpass : ∀ m, n ≤ m → env.passes m ≠ false := fun m hm => by
    rw [h m hm]
    decide
  refine wp_bind (wp_unlessRelease (fun hvalid => ?_) fun hinvalid => ?_)
  · obtain ⟨⟨h1, h2, -, -⟩, -⟩ := notify_offsets p hvalid
    have hpointer : pointer p = some p := pointer_eq_some.mpr ⟨rfl, hvalid⟩
    refine wp_bind (wp_readsOrRelease (reads_byte p rfl) hs (fun _ t ht => ?_) fun hc =>
      absurd hc (hpass _ (by omega)))
    refine wp_bind (wp_readsOrRelease (reads_byte _ h1) ht (fun _ t ht => ?_) fun hc =>
      absurd hc (hpass _ (by omega)))
    refine wp_bind (wp_readsOrRelease (reads_byte _ h2) ht (fun _ t ht => ?_) fun hc =>
      absurd hc (hpass _ (by omega)))
    refine wp_seq (readNotifyFields_reads hvalid ht fun m hm => h m (by omega))
      (fun _ _ h => h) ?_
    rintro r t ⟨⟨n', hn', ht⟩, rfl⟩
    by_cases hnotify : (functionSpace R device).IsNotify p
    · rw [if_pos hnotify]
      exact wp_bind (wp_modify (wp_releaseReturn (.inl ⟨hpointer, hnotify, rfl, rfl⟩)))
    · rw [if_neg hnotify]
      refine wp_ite (fun hzero => wp_releaseReturn (.inr ⟨.inr ⟨hpointer, hnotify, hzero⟩, rfl⟩))
        fun _ => wp_pure ⟨⟨n', by omega, ht⟩, hpointer, hnotify, rfl⟩
  · exact .inr ⟨.inl (if_neg hinvalid), rfl⟩

end Walk

end SeLinOS.Pci
