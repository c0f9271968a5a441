import SeLinOS.CLogic.Aligned
import SeLinOS.CLogic.BitString
import SeLinOS.CLogic.Prog
import SeLinOS.CLogic.Bytes
import SeLinOS.CLogic.Chain
import SeLinOS.CLogic.Run
import SeLinOS.CLogic.Choreography
import SeLinOS.CLogic.Endian
import SeLinOS.CLogic.Footprint
import SeLinOS.CLogic.Hex
import SeLinOS.CLogic.Interleave
import SeLinOS.CLogic.Liberal
import SeLinOS.CLogic.Masked
import SeLinOS.CLogic.Mediate
import SeLinOS.CLogic.Part
import SeLinOS.CLogic.Serve
import SeLinOS.CLogic.Sha256
import SeLinOS.CLogic.Tokens
import SeLinOS.Sel4.Ipc
import SeLinOS.Sel4.Thread
import SeLinOS.Sel4.Bundle
import SeLinOS.Sel4.Loop
import SeLinOS.Kabi.Elf
import SeLinOS.Kabi.Module
import SeLinOS.Kabi.ParseSafe
import SeLinOS.Kabi.Relocate
import SeLinOS.Kabi.Layout
import SeLinOS.Kabi.Psabi
import SeLinOS.Kabi.Walk
import SeLinOS.Kabi.Link
import SeLinOS.Kabi.Contract
import SeLinOS.Kabi.Versions
import SeLinOS.Kabi.Admission
import SeLinOS.Kabi.Digest
import SeLinOS.Kabi.Modinfo
import SeLinOS.Kabi.Verdict
import SeLinOS.Kabi.Nobits
import SeLinOS.Kabi.Offsets
import SeLinOS.Kabi.Parts
import SeLinOS.Kabi.Position
import SeLinOS.Kabi.Signed
import SeLinOS.Elfrt.Parse
import SeLinOS.Elfrt.Policy
import SeLinOS.Elfrt.Grammar
import SeLinOS.Elfrt.Headers
import SeLinOS.Elfrt.Dynamic
import SeLinOS.Elfrt.Accepts
import SeLinOS.Elfrt.Bounds
import SeLinOS.Romfs.Cpio
import SeLinOS.Romfs.Server
import SeLinOS.Romfs.Record
import SeLinOS.Romfs.Clients
import SeLinOS.Romfs.Fixture
import SeLinOS.Romfs.RoundTrip
import SeLinOS.Romfs.Lookup
import SeLinOS.Romfs.OpenPath
import SeLinOS.Romfs.Register
import SeLinOS.Gateway.UserCopy
import SeLinOS.Gateway.Bridge
import SeLinOS.Gateway.Fstat
import SeLinOS.Gateway.Syscall
import SeLinOS.Gateway.Script
import SeLinOS.Gateway.Mediation
import SeLinOS.Gateway.Run
import SeLinOS.Irq.Server
import SeLinOS.Irq.Driver
import SeLinOS.Irq.Agreement
import SeLinOS.Irq.Deadlock
import SeLinOS.Irq.Handling
import SeLinOS.Irq.Release
import SeLinOS.Irq.Revoked
import SeLinOS.Dma.Server
import SeLinOS.Dma.Teardown
import SeLinOS.Kapi.Core
import SeLinOS.Kapi.DmaLease
import SeLinOS.Kapi.Life
import SeLinOS.Kapi.Handler
import SeLinOS.Kapi.Ledger
import SeLinOS.Kapi.Undo
import SeLinOS.Pci.Config
import SeLinOS.Pci.CommonRange
import SeLinOS.Pci.Stage
import SeLinOS.Pci.Steady
import SeLinOS.Pci.Address
import SeLinOS.Pci.Bus
import SeLinOS.Pci.Bar32
import SeLinOS.Pci.Assign
import SeLinOS.Pci.Capability
import SeLinOS.Pci.Script
import SeLinOS.Pci.Midway
import SeLinOS.Pci.Discipline
import SeLinOS.Pci.E1000
import SeLinOS.Pci.StatusBits
import SeLinOS.Pci.Enumerate
import SeLinOS.Pci.PageBound
import SeLinOS.Pci.Frames
import SeLinOS.Pci.Notify
import SeLinOS.Pci.Multiplier
import SeLinOS.Pci.Rollback
import SeLinOS.Pci.Reassign
import SeLinOS.Pci.Restore
import SeLinOS.Taskd.DynamicAlloc
import SeLinOS.Taskd.Inventory
import SeLinOS.Taskd.Reservation
import SeLinOS.Taskd.Leases
import SeLinOS.Taskd.Lifecycle
import SeLinOS.Edu.Argument
import SeLinOS.Edu.Process
import SeLinOS.Edu.Domain
import SeLinOS.Edu.Grant
import SeLinOS.Edu.Admission
import SeLinOS.Root.Construct
import SeLinOS.Root.Clients
import SeLinOS.Root.Probes
