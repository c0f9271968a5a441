import SeLinOS.CLogic.Prog
import SeLinOS.Sel4.Ipc

/-!
# PCI configuration access

The I/O-port accessors of `selinos_pci.c`, over the kernel and the PCI bus as a machine that answers
each call and changes its state, in any way. Object pointers are never NULL here.

* `Machine`: the calls.
* `readConfigDword`, `writeConfigDword`, `readConfigWord`, `writeConfigWord`: the accessors.
* `acquireConfigIoport`, `releaseConfigIoport`: the I/O-port capability of a transaction.
-/

namespace SeLinOS.Pci

open Sel4

def PCI_CONFIG_ADDRESS_PORT : BitVec 32 := 0xcf8
def PCI_CONFIG_DATA_PORT : BitVec 32 := 0xcfc
def PCI_CONFIG_ENABLE : BitVec 32 := 0x80000000
def PCI_COMMAND_STATUS_OFF : BitVec 32 := 0x04
def PCI_BAR0_OFF : BitVec 32 := 0x10
def PCI_BAR_COUNT : BitVec 32 := 6
def PCI_BAR_MEMORY_MASK : BitVec 32 := 0xfffffff0
def PCI_BAR_MEMORY_TYPE_MASK : BitVec 32 := 0x00000006
def PCI_BAR_MEMORY_TYPE_32 : BitVec 32 := 0x00000000
def PCI_COMMAND_MEMORY : BitVec 16 := 0x0002
def PCI_COMMAND_MASTER : BitVec 16 := 0x0004

/-- What the calls of a configuration transaction answer, and the state `δ` after them. An answer is
`none` or `false` for an error. -/
structure Machine (δ : Type) where
  /-- `vka_cspace_alloc`. -/
  cspaceAlloc : δ → Option Word × δ
  /-- `vka_cspace_free`. -/
  cspaceFree : Word → δ → δ
  /-- `seL4_X86_IOPortControl_Issue` of the configuration ports to a slot. -/
  ioportIssue : Word → δ → Bool × δ
  /-- `seL4_CNode_Delete`. -/
  cnodeDelete : Word → δ → δ
  /-- `seL4_X86_IOPort_Out32` and its siblings, through the capability in a slot. -/
  out32 : Word → BitVec 32 → BitVec 32 → δ → Bool × δ
  out16 : Word → BitVec 32 → BitVec 16 → δ → Bool × δ
  in32 : Word → BitVec 32 → δ → Option (BitVec 32) × δ
  in16 : Word → BitVec 32 → δ → Option (BitVec 16) × δ

variable {δ : Type} (m : Machine δ)

/-- `config_address`. -/
def configAddress (device function offset : BitVec 32) : BitVec 32 :=
  PCI_CONFIG_ENABLE ||| device <<< 11 ||| function <<< 8 ||| offset &&& 0xfc

/-- `read_config_dword`. -/
def readConfigDword (ioport : Word) (device function offset : BitVec 32) (d : δ) :
    Option (BitVec 32) × δ :=
  let (sent, d) := m.out32 ioport PCI_CONFIG_ADDRESS_PORT (configAddress device function offset) d
  if ¬ sent then (none, d) else m.in32 ioport PCI_CONFIG_DATA_PORT d

/-- `write_config_dword`. -/
def writeConfigDword (ioport : Word) (device function offset value : BitVec 32) (d : δ) :
    Bool × δ :=
  let (sent, d) := m.out32 ioport PCI_CONFIG_ADDRESS_PORT (configAddress device function offset) d
  if ¬ sent then (false, d) else m.out32 ioport PCI_CONFIG_DATA_PORT value d

/-- `read_config_word`. -/
def readConfigWord (ioport : Word) (device function offset : BitVec 32) (d : δ) :
    Option (BitVec 16) × δ :=
  let (sent, d) := m.out32 ioport PCI_CONFIG_ADDRESS_PORT (configAddress device function offset) d
  if ¬ sent then (none, d) else m.in16 ioport (PCI_CONFIG_DATA_PORT + (offset &&& 2)) d

/-- `write_config_word`. -/
def writeConfigWord (ioport : Word) (device function offset : BitVec 32) (value : BitVec 16)
    (d : δ) : Bool × δ :=
  let (sent, d) := m.out32 ioport PCI_CONFIG_ADDRESS_PORT (configAddress device function offset) d
  if ¬ sent then (false, d) else m.out16 ioport (PCI_CONFIG_DATA_PORT + (offset &&& 2)) value d

/-- The start of a transaction, the same in each function: the slot of its I/O-port capability, or
`none` where the function returns. A slot 0 is not freed. -/
def acquireConfigIoport (d : δ) : Option Word × δ :=
  match m.cspaceAlloc d with
  | (none, d) => (none, d)
  | (some slot, d) =>
    match m.ioportIssue slot d with
    | (true, d) => (some slot, d)
    | (false, d) => (none, if slot ≠ 0 then m.cspaceFree slot d else d)

/-- `release_config_ioport`. -/
def releaseConfigIoport (slot : Word) (d : δ) : δ :=
  if slot ≠ 0 then m.cspaceFree slot (m.cnodeDelete slot d) else d

end SeLinOS.Pci
