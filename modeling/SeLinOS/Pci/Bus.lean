import Mathlib.Logic.Function.Basic
import Mathlib.Tactic.IntervalCases
import SeLinOS.CLogic.Masked
import SeLinOS.CLogic.Part
import SeLinOS.Pci.Config

/-!
# A bus behind the configuration ports

The configuration mechanism that the accessors of `selinos_pci.c` use: an address register and a
data port, in front of the configuration registers of all functions. An I/O-port operation may fail
at any place of a run, and then has no effect.

* `PortEnv`: which operations fail, and what the calls before them answer.
* `Bus`, `busMachine`: the registers, and the machine.
* `configAddress_ne`: different registers have different addresses.
* `readConfigDword_bus` and its siblings: an access, in terms of `passes` and `after`.
* `wp_readDword` and its siblings: the rules of an access, for a bus of which `Bus.At` holds.
-/

namespace SeLinOS.Pci

open CLogic Sel4

/-- What the environment decides in a run. The operations on I/O ports are counted. -/
structure PortEnv where
  /-- The operation fails. -/
  fails : Nat → Bool
  /-- What `vka_cspace_alloc` answers before the operation. -/
  slot : Nat → Option Word
  /-- What `seL4_X86_IOPortControl_Issue` answers before the operation. -/
  issued : Nat → Bool

/-- A write to a configuration register, the dword at an address or one of its halves. -/
inductive ConfigWrite where
  | dword (register value : BitVec 32)
  | word (register : BitVec 32) (upper : Bool) (value : BitVec 16)
  deriving Repr, DecidableEq

/-- The bits of the upper or of the lower half of a dword. -/
def halfMask (upper : Bool) : BitVec 32 := if upper then 0xffff0000 else 0x0000ffff

/-- The upper or the lower half of a dword. -/
def halfOf (upper : Bool) (x : BitVec 32) : BitVec 16 :=
  if upper then (x >>> 16).setWidth 16 else x.setWidth 16

/-- A half of a dword, in its place. -/
def widenHalf (upper : Bool) (x : BitVec 16) : BitVec 32 :=
  if upper then x.zeroExtend 32 <<< 16 else x.zeroExtend 32

namespace ConfigWrite

variable (writable registers : BitVec 32 → BitVec 32)

def register : ConfigWrite → BitVec 32
  | dword register _ => register
  | word register _ _ => register

/-- The bits that the write changes. -/
def mask : ConfigWrite → BitVec 32
  | dword register _ => writable register
  | word register upper _ => writable register &&& halfMask upper

def value : ConfigWrite → BitVec 32
  | dword _ value => value
  | word _ upper value => widenHalf upper value

/-- The registers after a write, with the bits of each that can be written. -/
def apply (write : ConfigWrite) : BitVec 32 → BitVec 32 :=
  Function.update registers write.register
    (maskedWrite (write.mask writable) (registers write.register) write.value)

end ConfigWrite

/-- The state of the bus: the address register, the dwords of the configuration space at their
addresses, the number of operations so far and the writes. -/
structure Bus where
  address : BitVec 32
  registers : BitVec 32 → BitVec 32
  operations : Nat
  writes : List ConfigWrite

/-- A write to a configuration register. -/
def Bus.store (writable : BitVec 32 → BitVec 32) (write : ConfigWrite) (b : Bus) : Bus :=
  { b with registers := write.apply writable b.registers, writes := b.writes ++ [write] }

/-- The next operation. -/
def Bus.tick (b : Bus) : Bus := { b with operations := b.operations + 1 }

/-- The bus as a machine. Its data port is two ports wide for a word, and the ports besides these
have no effect and give 0. -/
def busMachine (writable : BitVec 32 → BitVec 32) (env : PortEnv) : Machine Bus where
  cspaceAlloc b := (env.slot b.operations, b)
  cspaceFree _ b := b
  ioportIssue _ b := (env.issued b.operations, b)
  cnodeDelete _ b := b
  out32 _ port value b :=
    if env.fails b.operations then (false, b.tick)
    else if port = PCI_CONFIG_ADDRESS_PORT then (true, { b.tick with address := value })
    else if port = PCI_CONFIG_DATA_PORT then (true, b.tick.store writable (.dword b.address value))
    else (true, b.tick)
  out16 _ port value b :=
    if env.fails b.operations then (false, b.tick)
    else if port = PCI_CONFIG_DATA_PORT then
      (true, b.tick.store writable (.word b.address false value))
    else if port = PCI_CONFIG_DATA_PORT + 2 then
      (true, b.tick.store writable (.word b.address true value))
    else (true, b.tick)
  in32 _ port b :=
    if env.fails b.operations then (none, b.tick)
    else if port = PCI_CONFIG_DATA_PORT then (some (b.registers b.address), b.tick)
    else (some 0, b.tick)
  in16 _ port b :=
    if env.fails b.operations then (none, b.tick)
    else if port = PCI_CONFIG_DATA_PORT then
      (some (halfOf false (b.registers b.address)), b.tick)
    else if port = PCI_CONFIG_DATA_PORT + 2 then
      (some (halfOf true (b.registers b.address)), b.tick)
    else (some 0, b.tick)

/-! ## Writes -/

theorem getLsbD_halfMask (upper : Bool) :
    ∀ i < 32, (halfMask upper).getLsbD i = (decide (16 ≤ i) == upper) := by
  cases upper <;> decide

theorem widenHalf_halfOf (upper : Bool) (x : BitVec 32) :
    widenHalf upper (halfOf upper x) = x &&& halfMask upper := by
  refine BitVec.eq_of_getLsbD_eq fun i hi => ?_
  rw [BitVec.getLsbD_and, getLsbD_halfMask upper i hi]
  cases upper with
  | false =>
    by_cases hlow : i < 16
    · simp [widenHalf, halfOf, hlow, hi]
    · simp [widenHalf, halfOf, show 16 ≤ i by omega]
  | true =>
    by_cases hlow : i < 16
    · simp [widenHalf, halfOf, hlow, hi]
    · simp [widenHalf, halfOf, hlow, hi, show 16 + (i - 16) = i by omega,
        show i - 16 < 16 by omega, show 16 ≤ i by omega]

namespace ConfigWrite

variable {writable registers : BitVec 32 → BitVec 32} {write write' : ConfigWrite}
  {address : BitVec 32}

theorem apply_self : write.apply writable registers write.register =
    maskedWrite (write.mask writable) (registers write.register) write.value :=
  Function.update_self ..

theorem apply_of_ne (h : address ≠ write.register) :
    write.apply writable registers address = registers address :=
  Function.update_of_ne h ..

/-- A second write to the same place replaces the first one. -/
theorem apply_apply (hregister : write.register = write'.register)
    (hmask : write.mask writable = write'.mask writable) :
    write.apply writable (write'.apply writable registers) = write.apply writable registers := by
  rw [apply, apply, hregister, Function.update_self, Function.update_idem, hmask,
    maskedWrite_maskedWrite, apply, hregister, hmask]

theorem apply_comm (h : write.register ≠ write'.register) :
    write.apply writable (write'.apply writable registers) =
      write'.apply writable (write.apply writable registers) := by
  rw [apply, apply_of_ne h, apply, Function.update_comm h.symm, apply, apply_of_ne h.symm, apply]

theorem dword_dword (x y : BitVec 32) : (dword address x).apply writable
    ((dword address y).apply writable registers) = (dword address x).apply writable registers :=
  apply_apply rfl rfl

theorem word_word {upper : Bool} (x y : BitVec 16) : (word address upper x).apply writable
    ((word address upper y).apply writable registers) =
      (word address upper x).apply writable registers :=
  apply_apply rfl rfl

/-- A write of what is there. -/
theorem dword_restore :
    (dword address (registers address)).apply writable registers = registers := by
  rw [apply]
  exact (congrArg _ maskedWrite_self).trans (Function.update_eq_self ..)

/-- Two registers that are overwritten and written back, the last one first. -/
theorem dword_restore_two {l h x y : BitVec 32} (hne : h ≠ l) :
    (dword l (registers l)).apply writable ((dword h (registers h)).apply writable
      ((dword h x).apply writable ((dword l y).apply writable registers))) = registers := by
  have hcomm : (dword h (registers h)).register ≠ (dword l y).register := hne
  rw [dword_dword, apply_comm hcomm, dword_restore, dword_dword, dword_restore]

theorem word_restore {upper : Bool} :
    (word address upper (halfOf upper (registers address))).apply writable registers =
      registers := by
  have hvalue : maskedWrite (writable address &&& halfMask upper) (registers address)
      (widenHalf upper (halfOf upper (registers address))) = registers address := by
    rw [maskedWrite_eq_old_iff, widenHalf_halfOf, BitVec.and_assoc]
    congr 1
    rw [BitVec.and_comm (halfMask upper), BitVec.and_assoc, BitVec.and_self]
  exact (congrArg _ hvalue).trans (Function.update_eq_self ..)

end ConfigWrite

/-! ## Addresses -/

theorem configEnable_low : ∀ i < 8, PCI_CONFIG_ENABLE.getLsbD i = false := by decide

theorem registerMask_high : ∀ i < 32, 8 ≤ i → (0xfc : BitVec 32).getLsbD i = false := by decide

theorem configAddress_ne {device function offset offset' : BitVec 32}
    (h : offset &&& 0xfc ≠ offset' &&& 0xfc) :
    configAddress device function offset ≠ configAddress device function offset' := by
  intro he
  refine h (BitVec.eq_of_getLsbD_eq fun i hi => ?_)
  by_cases hlow : i < 8
  · have hbit := congrArg (·.getLsbD i) he
    simpa [configAddress, configEnable_low i hlow, show i < 11 by omega, hlow] using hbit
  · simp only [BitVec.getLsbD_and, registerMask_high i hi (by omega), Bool.and_false]

/-- The BARs are not the command and status register, and neither is the register after one. -/
theorem bar_ne_command {device function barIndex : BitVec 32} (h : barIndex < PCI_BAR_COUNT) :
    configAddress device function (PCI_BAR0_OFF + 4 * barIndex) ≠
        configAddress device function PCI_COMMAND_STATUS_OFF ∧
      configAddress device function (PCI_BAR0_OFF + 4 * barIndex + 4) ≠
        configAddress device function PCI_COMMAND_STATUS_OFF := by
  obtain ⟨n, hn, rfl⟩ : ∃ n, n < 6 ∧ barIndex = BitVec.ofNat 32 n :=
    ⟨barIndex.toNat, h, by simp⟩
  refine ⟨configAddress_ne ?_, configAddress_ne ?_⟩ <;> interval_cases n <;> decide

/-- The second register of a 64-bit BAR is not the first. -/
theorem bar_ne_next {device function barIndex : BitVec 32} (h : barIndex < PCI_BAR_COUNT) :
    configAddress device function (PCI_BAR0_OFF + 4 * barIndex + 4) ≠
      configAddress device function (PCI_BAR0_OFF + 4 * barIndex) := by
  obtain ⟨n, hn, rfl⟩ : ∃ n, n < 6 ∧ barIndex = BitVec.ofNat 32 n :=
    ⟨barIndex.toNat, h, by simp⟩
  refine configAddress_ne ?_
  interval_cases n <;> decide

/-! ## Accesses -/

section Accesses

variable {writable : BitVec 32 → BitVec 32} {env : PortEnv} {slot : Word}
  {device function offset : BitVec 32} {b : Bus}

/-- Both operations of the access that starts at operation `n` succeed. -/
def PortEnv.passes (env : PortEnv) (n : Nat) : Bool := !env.fails n && !env.fails (n + 1)

/-- The operation after the access that starts at operation `n`: the second one of the access is
not made when the first one fails. -/
def PortEnv.after (env : PortEnv) (n : Nat) : Nat := if env.fails n then n + 1 else n + 2

/-- The bus after the operations of an access to the register at `address`, but for a write. -/
def Bus.touch (env : PortEnv) (address : BitVec 32) (b : Bus) : Bus :=
  { b with
    address := if env.fails b.operations then b.address else address
    operations := env.after b.operations }

@[simp] theorem Bus.touch_registers (address : BitVec 32) :
    (b.touch env address).registers = b.registers := rfl

@[simp] theorem Bus.touch_writes (address : BitVec 32) :
    (b.touch env address).writes = b.writes := rfl

@[simp] theorem Bus.touch_operations (address : BitVec 32) :
    (b.touch env address).operations = env.after b.operations := rfl

theorem dataPort_ne : PCI_CONFIG_DATA_PORT ≠ PCI_CONFIG_ADDRESS_PORT := by decide

/-- The half of its dword that a word offset names. -/
def upperHalf (offset : BitVec 32) : Bool := offset &&& 2 ≠ 0

theorem upperHalf_cases (offset : BitVec 32) :
    upperHalf offset = false ∧ offset &&& 2#32 = 0#32 ∨
    upperHalf offset = true ∧ offset &&& 2#32 = 2#32 := by
  have hbit : offset &&& 2#32 = if offset.getLsbD 1 then 2 else 0 := BitVec.and_twoPow offset 1
  rw [upperHalf, show offset &&& 2 = offset &&& 2#32 from rfl, hbit]
  cases offset.getLsbD 1 <;> decide

theorem readConfigDword_bus :
    readConfigDword (busMachine writable env) slot device function offset b =
      (if env.passes b.operations then
        some (b.registers (configAddress device function offset)) else none,
      b.touch env (configAddress device function offset)) := by
  cases h : env.fails b.operations <;> cases h' : env.fails (b.operations + 1) <;>
    simp [readConfigDword, busMachine, PortEnv.passes, PortEnv.after, Bus.touch, Bus.tick, h, h']

theorem writeConfigDword_bus {value : BitVec 32} :
    writeConfigDword (busMachine writable env) slot device function offset value b =
      (env.passes b.operations,
      if env.passes b.operations then
        (b.touch env (configAddress device function offset)).store writable
          (.dword (configAddress device function offset) value)
      else b.touch env (configAddress device function offset)) := by
  cases h : env.fails b.operations <;> cases h' : env.fails (b.operations + 1) <;>
    simp [writeConfigDword, busMachine, PortEnv.passes, PortEnv.after, Bus.touch, Bus.tick, h, h',
      dataPort_ne]

theorem readConfigWord_bus :
    readConfigWord (busMachine writable env) slot device function offset b =
      (if env.passes b.operations then
        some (halfOf (upperHalf offset) (b.registers (configAddress device function offset)))
      else none,
      b.touch env (configAddress device function offset)) := by
  rcases upperHalf_cases offset with ⟨hhalf, hport⟩ | ⟨hhalf, hport⟩ <;>
    cases h : env.fails b.operations <;> cases h' : env.fails (b.operations + 1) <;>
    simp [readConfigWord, busMachine, PortEnv.passes, PortEnv.after, Bus.touch, Bus.tick, h, h',
      hhalf, hport]

theorem writeConfigWord_bus {value : BitVec 16} :
    writeConfigWord (busMachine writable env) slot device function offset value b =
      (env.passes b.operations,
      if env.passes b.operations then
        (b.touch env (configAddress device function offset)).store writable
          (.word (configAddress device function offset) (upperHalf offset) value)
      else b.touch env (configAddress device function offset)) := by
  rcases upperHalf_cases offset with ⟨hhalf, hport⟩ | ⟨hhalf, hport⟩ <;>
    cases h : env.fails b.operations <;> cases h' : env.fails (b.operations + 1) <;>
    simp [writeConfigWord, busMachine, PortEnv.passes, PortEnv.after, Bus.touch, Bus.tick, h, h',
      hhalf, hport]

/-- The bus does not depend on the capability. -/
@[simp] theorem releaseConfigIoport_bus :
    releaseConfigIoport (busMachine writable env) slot b = b := by
  rw [releaseConfigIoport]
  split <;> rfl

/-- The capability for the ports is made before operation `n`. -/
def PortEnv.acquires (env : PortEnv) (n : Nat) : Bool := (env.slot n).isSome && env.issued n

/-- No operation on the ports is made for the capability. -/
theorem acquireConfigIoport_bus (writable : BitVec 32 → BitVec 32) (env : PortEnv) (b : Bus) :
    ∃ slot, acquireConfigIoport (busMachine writable env) b =
      (if env.acquires b.operations then some slot else none, b) := by
  cases hslot : env.slot b.operations with
  | none =>
    refine ⟨0, ?_⟩
    simp [acquireConfigIoport, busMachine, PortEnv.acquires, hslot]
  | some slot =>
    refine ⟨slot, ?_⟩
    cases hissued : env.issued b.operations <;>
      simp [acquireConfigIoport, busMachine, PortEnv.acquires, hslot, hissued]

end Accesses

/-! ## The rules -/

/-- The bus is at operation `n`, with these registers and writes. -/
structure Bus.At (b : Bus) (n : Nat) (registers : BitVec 32 → BitVec 32)
    (writes : List ConfigWrite) : Prop where
  operations : b.operations = n
  registers : b.registers = registers
  writes : b.writes = writes

section Rules

open Prog CLogic.Part

variable {writable R : BitVec 32 → BitVec 32} {W : List ConfigWrite} {env : PortEnv} {slot : Word}
  {device function offset address : BitVec 32} {b : Bus} {n : Nat}

theorem PortEnv.after_eq (h : env.passes n = true) : env.after n = n + 2 := by
  simp only [passes, Bool.and_eq_true, Bool.not_eq_true'] at h
  rw [after, h.1, if_neg Bool.false_ne_true]

theorem PortEnv.le_after (env : PortEnv) (m : Nat) : m < env.after m ∧ env.after m ≤ m + 2 := by
  rw [PortEnv.after]
  split <;> omega

theorem PortEnv.exists_fails (h : env.passes n = false) :
    ∃ i, n ≤ i ∧ i < env.after n ∧ env.fails i = true := by
  rw [PortEnv.after]
  cases hfirst : env.fails n with
  | true => exact ⟨n, Nat.le_refl n, by rw [if_pos rfl]; omega, hfirst⟩
  | false =>
    rw [PortEnv.passes, hfirst, Bool.not_false, Bool.true_and, Bool.not_eq_false'] at h
    exact ⟨n + 1, by omega, by rw [if_neg Bool.false_ne_true]; omega, h⟩

theorem Bus.At.touch (h : b.At n R W) : (b.touch env address).At (env.after n) R W :=
  ⟨by rw [touch_operations, h.operations], h.registers, h.writes⟩

theorem Bus.At.store (h : b.At n R W) (write : ConfigWrite) :
    (b.store writable write).At n (write.apply writable R) (W ++ [write]) :=
  ⟨h.operations, by rw [← h.registers]; rfl, by rw [← h.writes]; rfl⟩

variable {σ : Type} [Part σ Bus] {s : σ} {E : Unit → σ → Prop}

theorem Bus.At.of_eq (h : b.At n R W) {R' : BitVec 32 → BitVec 32} (hR : R = R') : b.At n R' W :=
  hR ▸ h

theorem wp_acquire {ε : Type} {E : ε → σ → Prop} {Q : Option Word → σ → Prop}
    (hsome : env.acquires (part s).operations = true → ∀ slot, Q (some slot) s)
    (hnone : env.acquires (part s).operations = false → Q none s) :
    wp (access (acquireConfigIoport (busMachine writable env))) Q E s := by
  obtain ⟨slot, hslot⟩ := acquireConfigIoport_bus writable env (part s)
  refine wp_access hslot ?_
  rw [withPart_part]
  cases hacquires : env.acquires (part s).operations with
  | true => exact hsome hacquires slot
  | false => exact hnone hacquires

theorem wp_readDword {Q : BitVec 32 → σ → Prop} {v : BitVec 32} (h : (part s : Bus).At n R W)
    (hv : R (configAddress device function offset) = v)
    (hok : env.passes n = true → ∀ b : Bus, b.At (n + 2) R W → Q v (withPart b s))
    (hfail : env.passes n = false → ∀ b : Bus, b.At (env.after n) R W → E () (withPart b s)) :
    wp (accessed (readConfigDword (busMachine writable env) slot device function offset))
      Q E s := by
  refine wp_accessed readConfigDword_bus (fun hp => ?_) fun hp => ?_ <;> rw [h.operations] at hp
  · rw [h.registers, hv]
    exact hok hp _ (PortEnv.after_eq hp ▸ h.touch)
  · exact hfail hp _ h.touch

theorem wp_readWord {Q : BitVec 16 → σ → Prop} {v : BitVec 16} (h : (part s : Bus).At n R W)
    (hv : halfOf (upperHalf offset) (R (configAddress device function offset)) = v)
    (hok : env.passes n = true → ∀ b : Bus, b.At (n + 2) R W → Q v (withPart b s))
    (hfail : env.passes n = false → ∀ b : Bus, b.At (env.after n) R W → E () (withPart b s)) :
    wp (accessed (readConfigWord (busMachine writable env) slot device function offset))
      Q E s := by
  refine wp_accessed readConfigWord_bus (fun hp => ?_) fun hp => ?_ <;> rw [h.operations] at hp
  · rw [h.registers, hv]
    exact hok hp _ (PortEnv.after_eq hp ▸ h.touch)
  · exact hfail hp _ h.touch

theorem wp_writeDword {Q : Unit → σ → Prop} {value : BitVec 32} (h : (part s : Bus).At n R W)
    (hok : env.passes n = true → ∀ b : Bus,
      b.At (n + 2)
        ((ConfigWrite.dword (configAddress device function offset) value).apply writable R)
        (W ++ [.dword (configAddress device function offset) value]) → Q () (withPart b s))
    (hfail : env.passes n = false → ∀ b : Bus, b.At (env.after n) R W → E () (withPart b s)) :
    wp (done (writeConfigDword (busMachine writable env) slot device function offset value))
      Q E s := by
  refine wp_done writeConfigDword_bus (fun hp => ?_) fun hp => ?_ <;> rw [h.operations] at hp
  · exact hok hp _ (PortEnv.after_eq hp ▸ h.touch.store _)
  · exact hfail hp _ h.touch

theorem wp_writeWord {Q : Unit → σ → Prop} {value : BitVec 16} (h : (part s : Bus).At n R W)
    (hok : env.passes n = true → ∀ b : Bus,
      b.At (n + 2) ((ConfigWrite.word (configAddress device function offset)
        (upperHalf offset) value).apply writable R)
        (W ++ [.word (configAddress device function offset) (upperHalf offset) value]) →
      Q () (withPart b s))
    (hfail : env.passes n = false → ∀ b : Bus, b.At (env.after n) R W → E () (withPart b s)) :
    wp (done (writeConfigWord (busMachine writable env) slot device function offset value))
      Q E s := by
  refine wp_done writeConfigWord_bus (fun hp => ?_) fun hp => ?_ <;> rw [h.operations] at hp
  · exact hok hp _ (PortEnv.after_eq hp ▸ h.touch.store _)
  · exact hfail hp _ h.touch

/-- `(void)write_config_dword(...);` -/
theorem wp_attemptDword {ε : Type} {E : ε → σ → Prop} {Q : Unit → σ → Prop} {value : BitVec 32}
    (h : (part s : Bus).At n R W)
    (hb : ∀ (b : Bus) W, b.At (env.after n) (if env.passes n then
      (ConfigWrite.dword (configAddress device function offset) value).apply writable R else R) W →
      Q () (withPart b s)) :
    wp (attempt (writeConfigDword (busMachine writable env) slot device function offset value))
      Q E s := by
  refine wp_attempt writeConfigDword_bus (fun hp => ?_) fun hp => ?_ <;> rw [h.operations] at hp
  · exact hb _ _ (by simpa [hp] using h.touch.store _)
  · exact hb _ _ (by simpa [hp] using h.touch)

theorem wp_attemptWord {ε : Type} {E : ε → σ → Prop} {Q : Unit → σ → Prop} {value : BitVec 16}
    (h : (part s : Bus).At n R W)
    (hb : ∀ (b : Bus) W, b.At (env.after n) (if env.passes n then
      (ConfigWrite.word (configAddress device function offset) (upperHalf offset) value).apply
        writable R else R) W →
      Q () (withPart b s)) :
    wp (attempt (writeConfigWord (busMachine writable env) slot device function offset value))
      Q E s := by
  refine wp_attempt writeConfigWord_bus (fun hp => ?_) fun hp => ?_ <;> rw [h.operations] at hp
  · exact hb _ _ (by simpa [hp] using h.touch.store _)
  · exact hb _ _ (by simpa [hp] using h.touch)

/-- `if (p) (void)write_config_dword(...);` -/
theorem wp_whenDword {ε : Type} {E : ε → σ → Prop} {Q : Unit → σ → Prop} {value : BitVec 32}
    {p : Prop} [Decidable p] {c : Bool} (hc : p ↔ c = true) (h : (part s : Bus).At n R W)
    (hb : ∀ (b : Bus) W, b.At (if c then env.after n else n) (if c && env.passes n then
      (ConfigWrite.dword (configAddress device function offset) value).apply writable R else R) W →
      Q () (withPart b s)) :
    wp (when p
      (attempt (writeConfigDword (busMachine writable env) slot device function offset value)))
      Q E s := by
  cases c with
  | false => exact wp_when (fun h => nomatch hc.mp h) fun _ => withPart_part s ▸ hb _ _ h
  | true =>
    exact wp_when (fun _ => wp_attemptDword h fun b W h => hb b W h) fun h => absurd (hc.mpr rfl) h

theorem wp_whenWord {ε : Type} {E : ε → σ → Prop} {Q : Unit → σ → Prop} {value : BitVec 16}
    {p : Prop} [Decidable p] {c : Bool} (hc : p ↔ c = true) (h : (part s : Bus).At n R W)
    (hb : ∀ (b : Bus) W, b.At (if c then env.after n else n) (if c && env.passes n then
      (ConfigWrite.word (configAddress device function offset) (upperHalf offset) value).apply
        writable R else R) W →
      Q () (withPart b s)) :
    wp (when p
      (attempt (writeConfigWord (busMachine writable env) slot device function offset value)))
      Q E s := by
  cases c with
  | false => exact wp_when (fun h => nomatch hc.mp h) fun _ => withPart_part s ▸ hb _ _ h
  | true =>
    exact wp_when (fun _ => wp_attemptWord h fun b W h => hb b W h) fun h => absurd (hc.mpr rfl) h

end Rules

end SeLinOS.Pci
