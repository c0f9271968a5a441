import SeLinOS.Pci.Assign

/-!
# A bus with status bits

The command and status register of a function has, in its upper half, bits that are cleared by
writing one.

* `StatusBits`, `statusMachine`: the bus with such bits.
* `readConfigDword_status`, `writeConfigDword_status`: the accesses to it.
-/

namespace SeLinOS.Pci

open CLogic Sel4

/-- The bits of the registers that a write sets, and those of the status half of a dword that a one
clears. -/
structure StatusBits where
  writable : BitVec 32 → BitVec 32
  clears : BitVec 32 → BitVec 32
  status : ∀ address, clears address &&& 0x0000ffff = 0
  disjoint : ∀ address, writable address &&& clears address = 0

/-- A write to a configuration register. -/
def Bus.acknowledge (bits : StatusBits) (write : ConfigWrite) (b : Bus) : Bus :=
  { b with
    registers := Function.update b.registers write.register
      (write.apply bits.writable b.registers write.register &&&
        ~~~(bits.clears write.register &&& write.value))
    writes := b.writes ++ [write] }

/-- `busMachine`, with the status bits. -/
def statusMachine (bits : StatusBits) (env : PortEnv) : Machine Bus :=
  { busMachine bits.writable env with
    out32 := fun _ port value b =>
      if env.fails b.operations then (false, b.tick)
      else if port = PCI_CONFIG_ADDRESS_PORT then (true, { b.tick with address := value })
      else if port = PCI_CONFIG_DATA_PORT then
        (true, b.tick.acknowledge bits (.dword b.address value))
      else (true, b.tick)
    out16 := fun _ port value b =>
      if env.fails b.operations then (false, b.tick)
      else if port = PCI_CONFIG_DATA_PORT then
        (true, b.tick.acknowledge bits (.word b.address false value))
      else if port = PCI_CONFIG_DATA_PORT + 2 then
        (true, b.tick.acknowledge bits (.word b.address true value))
      else (true, b.tick) }

/-! ## Accesses -/

variable {bits : StatusBits} {env : PortEnv} {slot : Word} {device offset : BitVec 32} {b : Bus}

theorem readConfigDword_status :
    readConfigDword (statusMachine bits env) slot device 0 offset b =
      (if env.passes b.operations then some (b.registers (configAddress device 0 offset)) else none,
      b.touch env (configAddress device 0 offset)) := by
  cases h : env.fails b.operations <;> cases h' : env.fails (b.operations + 1) <;>
    simp [readConfigDword, statusMachine, busMachine, PortEnv.passes, PortEnv.after, Bus.touch,
      Bus.tick, h, h']

theorem writeConfigDword_status {value : BitVec 32} :
    writeConfigDword (statusMachine bits env) slot device 0 offset value b =
      (env.passes b.operations,
      if env.passes b.operations then
        (b.touch env (configAddress device 0 offset)).acknowledge bits
          (.dword (configAddress device 0 offset) value)
      else b.touch env (configAddress device 0 offset)) := by
  cases h : env.fails b.operations <;> cases h' : env.fails (b.operations + 1) <;>
    simp [writeConfigDword, statusMachine, PortEnv.passes, PortEnv.after, Bus.touch, Bus.tick, h,
      h', dataPort_ne]

/-- A write to a register. -/
theorem Bus.acknowledge_dword {address value : BitVec 32} :
    (b.acknowledge bits (.dword address value)).registers =
      Function.update b.registers address
        (maskedWrite (bits.writable address) (b.registers address) value &&&
          ~~~(bits.clears address &&& value)) := by
  rw [acknowledge]
  refine congrArg (Function.update b.registers address) ?_
  rw [ConfigWrite.apply_self]
  rfl

end SeLinOS.Pci
