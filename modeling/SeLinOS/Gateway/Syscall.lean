import SeLinOS.CLogic.Mediate
import SeLinOS.Gateway.Bridge
import SeLinOS.Gateway.Fstat
import SeLinOS.Romfs.OpenPath

/-!
# The syscalls of the gateway

`run_linux_syscall_abi_probe` of `domain_manager.c` from the first `seL4_Recv` on: the root task
takes the `UnknownSyscall` faults of the probe process one after the other, mediates each of them
and replies. The process, the kernel and `romfsd` are arbitrary (`Probe`, `World`).

* `Host`: the root task, the pages of the process and the message trace to `romfsd`.
* `getpid`, `credential`, …: the statements between a fault and its reply, for each of the syscalls.
* `runLinuxSyscallAbiProbe`: all of them.
-/

namespace SeLinOS.Gateway

open CLogic Prog Sel4 Romfs

/-! ## Constants -/

def LINUX_READ : Word := 0
def LINUX_WRITE : Word := 1
def LINUX_CLOSE : Word := 3
def LINUX_LSEEK : Word := 8
def LINUX_MMAP : Word := 9
def LINUX_MPROTECT : Word := 10
def LINUX_BRK : Word := 12
def LINUX_PREAD64 : Word := 17
def LINUX_GETPID : Word := 39
def LINUX_EXIT : Word := 60
def LINUX_UNAME : Word := 63
def LINUX_FCNTL : Word := 72
def LINUX_GETRLIMIT : Word := 97
def LINUX_GETUID : Word := 102
def LINUX_GETGID : Word := 104
def LINUX_GETEUID : Word := 107
def LINUX_GETEGID : Word := 108
def LINUX_ARCH_PRCTL : Word := 158
def LINUX_GETTID : Word := 186
def LINUX_FUTEX : Word := 202
def LINUX_GETDENTS64 : Word := 217
def LINUX_SET_TID_ADDRESS : Word := 218
def LINUX_CLOCK_GETTIME : Word := 228
def LINUX_OPENAT : Word := 257

def LINUX_TEST_PID : Word := 4242
def LINUX_TEST_TID : Word := 4243
def LINUX_MMAP_ADDRESS : Word := 0x70000000
def LINUX_BRK_BASE : Word := 0x71000000
def LINUX_PAGE_SIZE : Word := 4096
def LINUX_PROT_READ_WRITE : Word := 3
def LINUX_MAP_PRIVATE_ANONYMOUS : Word := 0x22
def LINUX_ARCH_SET_FS : Word := 0x1002
def LINUX_ARCH_GET_FS : Word := 0x1003
def LINUX_CLOCK_MONOTONIC : Word := 1
def LINUX_TEST_TIME_SECONDS : Word := 1234
def LINUX_TEST_TIME_NANOSECONDS : Word := 0
def LINUX_RLIMIT_NOFILE : Word := 7
def LINUX_TEST_RLIMIT_NOFILE : Word := 64
def LINUX_FUTEX_WAIT : Word := 0
def LINUX_FUTEX_WAKE : Word := 1
def LINUX_EAGAIN : BitVec 32 := 11
def LINUX_ENOTDIR : BitVec 32 := 20
def LINUX_AT_FDCWD : Word := -100
def LINUX_SEEK_SET : Word := 0
def LINUX_F_GETFL : Word := 3

/-- `(seL4_Word)-code`. The code is an `unsigned int`: it is negated before it is widened. -/
def negated (code : BitVec 32) : Word := (-code).setWidth 64

/-- The result for an error is not negative, so it is not the Linux one. -/
theorem negated_nonneg (code : BitVec 32) : 0 ≤ (negated code).toInt := by
  have hlt := (-code).isLt
  rw [negated, BitVec.toInt_eq_toNat_cond, BitVec.toNat_setWidth, Nat.mod_eq_of_lt (by omega),
    if_pos (by omega)]
  exact Int.natCast_nonneg _

example : negated LINUX_EAGAIN = 0x00000000fffffff5 := by decide

def LINUX_UTSNAME_FIELD_BYTES : Nat := 65
def LINUX_UTSNAME_BYTES : Nat := LINUX_UTSNAME_FIELD_BYTES * 6

/-- The fields of `selinos_linux_utsname`: `"Linux"`, `"selinos"`, `"6.18.44-selinos"`,
`"SeLinOS ABI M14"`, `"x86_64"` and `"localdomain"`. -/
def utsnameFields : List (List UInt8) :=
  [[76, 105, 110, 117, 120], [115, 101, 108, 105, 110, 111, 115],
   [54, 46, 49, 56, 46, 52, 52, 45, 115, 101, 108, 105, 110, 111, 115],
   [83, 101, 76, 105, 110, 79, 83, 32, 65, 66, 73, 32, 77, 49, 52], [120, 56, 54, 95, 54, 52],
   [108, 111, 99, 97, 108, 100, 111, 109, 97, 105, 110]]

/-- `selinos_linux_utsname`: bytes that the initializer does not name are 0. -/
def linuxUtsname : Buf :=
  ⟨LINUX_UTSNAME_BYTES, fun i =>
    (utsnameFields.getD (i / LINUX_UTSNAME_FIELD_BYTES) []).getD (i % LINUX_UTSNAME_FIELD_BYTES) 0⟩

/-! ## The state -/

/-- `struct selinos_x86_syscall_frame`: the registers of an `UnknownSyscall` fault up to
`FaultIP`. -/
structure X86SyscallFrame where
  rax : Word
  rbx : Word
  rcx : Word
  rdx : Word
  rsi : Word
  rdi : Word
  rbp : Word
  r8 : Word
  r9 : Word
  r10 : Word
  r11 : Word
  r12 : Word
  r13 : Word
  r14 : Word
  r15 : Word
  faultIP : Word
  deriving Repr, DecidableEq

/-- The registers that `reply_linux_x86_64_syscall` sends. -/
def X86SyscallFrame.reply (frame : X86SyscallFrame) (result : Word) : X86SyscallFrame :=
  { frame with rax := result, faultIP := frame.faultIP + 2 }

/-- A frame that can back a new page at `address`: nothing is mapped there, and the frame is behind
no page. -/
structure Fresh (u : UserSpace) (address frame : Nat) : Prop where
  free : u.cap address = none
  unused : ∀ page, u.cap page ≠ some frame

/-- What the root task calls: the kernel with its libraries, over a state `κ`, and `romfsd`, over a
state `σ`. -/
structure World (κ σ : Type) where
  /-- `sel4utils_dup_and_map`: whether the frame can be mapped in the root task. -/
  dupAndMap : κ → Bool × κ
  /-- `vspace_reserve_range_at` and `vspace_new_pages_at_vaddr` for a page of the process. -/
  newPage : (u : UserSpace) → (address : Nat) → κ →
    Option { frame : Nat // Fresh u address frame } × κ
  /-- `seL4_TCB_SetTLSBase`: whether it gives `seL4_NoError`. -/
  setTLSBase : Word → κ → Bool × κ
  /-- `seL4_Call` on the endpoint of `romfsd`. -/
  romfsd : Message → σ → Message × σ
  /-- The contents of the local arrays before their first write. -/
  stack : Nat → UInt8

/-- The root task, the kernel and `romfsd`. `tlsBase` is the TLS base of the process, and
`probeTlsBase` the variable of the root task; `requests` are the messages to `romfsd` so far. -/
structure Host (κ σ : Type) where
  task : RootTask
  kernel : κ
  server : σ
  romfsRootEndpoint : Bool
  tlsBase : Word
  probeTlsBase : Word
  console : List UInt8
  requests : List Message

/-- What a process sees: its bytes and its TLS base. -/
structure Seen where
  memory : Nat → Option UInt8
  tlsBase : Word

/-- A store of the process; one to an address without a page does nothing here. -/
def storeByte (u : UserSpace) (store : Nat × UInt8) : UserSpace :=
  match u.cap (pageBase store.1) with
  | none => u
  | some frame => blitFrame u frame (store.1 - pageBase store.1) 1 fun _ => store.2

variable {κ σ π : Type}

/-- What the process sees of the host; it acts on it with stores to its pages. -/
def Host.port : Port (Host κ σ) Seen (List (Nat × UInt8)) where
  look h := ⟨h.task.user.byte, h.tlsBase⟩
  act stores h := { h with task.user := stores.foldl storeByte h.task.user }

/-- A process behind the gateway: its run to the next fault, with its stores, and how it goes on
with the registers of a reply. -/
structure Probe (π : Type) where
  run : π → Seen → Trap X86SyscallFrame × List (Nat × UInt8) × π
  resume : X86SyscallFrame → π → π

def Probe.guest (P : Probe π) : Guest π Seen (List (Nat × UInt8)) X86SyscallFrame Word where
  run := P.run
  resume frame result := P.resume (frame.reply result)

/-! ## Calls of the root task -/

abbrev GatewayM (κ σ α : Type) : Type := Prog Ending (Host κ σ) α

section Calls

variable {α : Type} (W : World κ σ)

/-- Rejects the syscall where a test fails. -/
def require (c : Prop) [Decidable c] : GatewayM κ σ Unit := Prog.when (¬ c) (Prog.ret .rejected)

/-- A helper that maps a page of the process, with the answer of the kernel to the mapping. -/
def withMapping (p : Bool → Prog Ending RootTask α) : GatewayM κ σ α := fun h =>
  let (mapped, kernel) := W.dupAndMap h.kernel
  match p mapped h.task with
  | .ok a task => .ok a { h with task, kernel }
  | .ret e task => .ret e { h with task, kernel }
  | .fault x => .fault x

/-- A local array. -/
def localArray : Buf := ⟨ABI_MAX_WRITE_BYTES + 1, W.stack⟩

/-- `has_linux_user_word_page`. -/
def hasLinuxUserWordPage (userAddress : Word) : GatewayM κ σ Bool := do
  let h ← Prog.get
  pure (decide (userAddress ≠ 0 ∧ userAddress + 8 ≥ userAddress ∧
    (userAddress + 8 - 1) &&& pageMask = userAddress &&& pageMask) &&
    (h.task.user.cap (userAddress &&& pageMask).toNat).isSome)

/-- A new page of the process, filled with zeros. -/
def mapPage (u : UserSpace) (address frame : Nat) : UserSpace where
  cap := Function.update u.cap address (some frame)
  frame := Function.update u.frame frame fun _ => 0

/-- `provision_linux_anonymous_page`. -/
def provisionLinuxAnonymousPage (fixedAddress : Word) : GatewayM κ σ Bool := fun h =>
  match W.newPage h.task.user fixedAddress.toNat h.kernel with
  | (none, kernel) => .ok false { h with kernel }
  | (some frame, kernel) =>
    .ok true { h with kernel, task.user := mapPage h.task.user fixedAddress.toNat frame }

/-- `seL4_TCB_SetTLSBase` on the process. -/
def setTLSBase (base : Word) : GatewayM κ σ Bool := fun h =>
  match W.setTLSBase base h.kernel with
  | (false, kernel) => .ok false { h with kernel }
  | (true, kernel) => .ok true { h with kernel, tlsBase := base }

/-- `call_romfs_root` and `call_romfs_root_open_path`. -/
def callRomfsRoot (request : Message) : GatewayM κ σ (Option (Word × Word × Word)) := fun h =>
  if h.romfsRootEndpoint then
    let (reply, server) := W.romfsd request h.server
    .ok (rootReply reply) { h with server, requests := h.requests ++ [request] }
  else .ok none h

/-- A call with the tests of its reply: `romfs_value` and `romfs_payload`. -/
def requireRomfs (request : Message) (accepts : Word → Word → Word → Bool) :
    GatewayM κ σ (Word × Word) := do
  match ← callRomfsRoot W request with
  | none => Prog.ret .rejected
  | some (status, value, payload) =>
    require (accepts status value payload)
    pure (value, payload)

/-- `copy_linux_write_buffer`: the array after it. -/
def requireWriteBuffer (userAddress length : Word) : GatewayM κ σ Buf := do
  let (ok, output) ← withMapping W fun mapped =>
    copyLinuxWriteBuffer mapped userAddress length (localArray W)
  require ok
  pure output

/-- `copy_linux_word_to_user`. -/
def requireWordToUser (userAddress value : Word) : GatewayM κ σ Unit := do
  let ok ← withMapping W fun mapped => copyLinuxWordToUser mapped userAddress value
  require ok

/-- `copy_linux_exact_string`. -/
def exactString (userAddress : Word) (expected : CStr) : GatewayM κ σ Bool :=
  withMapping W fun mapped =>
    copyLinuxExactString mapped userAddress (some expected) (localArray W)

end Calls

/-! ## The syscalls -/

section Syscalls

variable (W : World κ σ) (frame : X86SyscallFrame)

/-- A syscall that only has to have its number: `getpid`, `gettid` and the four of
`credential_syscalls`. -/
def identity (number result : Word) : GatewayM κ σ Word := do
  require (frame.rax = number)
  pure result

def getpid : GatewayM κ σ Word := identity frame LINUX_GETPID LINUX_TEST_PID
def credential (number : Word) : GatewayM κ σ Word := identity frame number 0
def gettid : GatewayM κ σ Word := identity frame LINUX_GETTID LINUX_TEST_TID

def setTidAddress : GatewayM κ σ Word := do
  require (frame.rax = LINUX_SET_TID_ADDRESS)
  let mapped ← hasLinuxUserWordPage frame.rdi
  require mapped
  pure LINUX_TEST_TID

/-- The write to the console. The message is printed after the reply. -/
def write : GatewayM κ σ Word := do
  require (frame.rax = LINUX_WRITE ∧ (frame.rdi = 1 ∨ frame.rdi = 2))
  let consoleMessage ← requireWriteBuffer W frame.rsi frame.rdx
  let text := (consoleMessage.slice 0 consoleMessage.size).takeWhile (· ≠ 0)
  Prog.modify fun h => { h with console := h.console ++ text }
  pure frame.rdx

def mmap : GatewayM κ σ Word := do
  require (frame.rax = LINUX_MMAP ∧ frame.rdi = 0 ∧ frame.rsi = LINUX_PAGE_SIZE ∧
    frame.rdx = LINUX_PROT_READ_WRITE ∧ frame.r10 = LINUX_MAP_PRIVATE_ANONYMOUS ∧ frame.r8 = -1 ∧
    frame.r9 = 0)
  let provisioned ← provisionLinuxAnonymousPage W LINUX_MMAP_ADDRESS
  require provisioned
  pure LINUX_MMAP_ADDRESS

def uname : GatewayM κ σ Word := do
  require (frame.rax = LINUX_UNAME ∧ frame.rdi = LINUX_MMAP_ADDRESS)
  let ok ← withMapping W fun mapped =>
    copyLinuxBytesToUser mapped frame.rdi (some linuxUtsname) (BitVec.ofNat 64 LINUX_UTSNAME_BYTES)
  require ok
  pure 0

def archSetFs : GatewayM κ σ Word := do
  require (frame.rax = LINUX_ARCH_PRCTL ∧ frame.rdi = LINUX_ARCH_SET_FS ∧
    frame.rsi = LINUX_MMAP_ADDRESS)
  let mapped ← hasLinuxUserWordPage frame.rsi
  require mapped
  let ok ← setTLSBase W frame.rsi
  require ok
  Prog.modify fun h => { h with probeTlsBase := frame.rsi }
  pure 0

def archGetFs : GatewayM κ σ Word := do
  let h ← Prog.get
  require (frame.rax = LINUX_ARCH_PRCTL ∧ frame.rdi = LINUX_ARCH_GET_FS ∧ frame.rsi ≠ 0 ∧
    h.probeTlsBase = LINUX_MMAP_ADDRESS)
  requireWordToUser W frame.rsi h.probeTlsBase
  pure 0

/-- Two words at `address`. -/
def twoWords (address first second : Word) : GatewayM κ σ Word := do
  requireWordToUser W address first
  requireWordToUser W (address + 8) second
  pure 0

def clockGettime : GatewayM κ σ Word := do
  require (frame.rax = LINUX_CLOCK_GETTIME ∧ frame.rdi = LINUX_CLOCK_MONOTONIC ∧
    frame.rsi = LINUX_MMAP_ADDRESS)
  twoWords W LINUX_MMAP_ADDRESS LINUX_TEST_TIME_SECONDS LINUX_TEST_TIME_NANOSECONDS

def getrlimit : GatewayM κ σ Word := do
  require (frame.rax = LINUX_GETRLIMIT ∧ frame.rdi = LINUX_RLIMIT_NOFILE ∧
    frame.rsi = LINUX_MMAP_ADDRESS + 2 * 8)
  twoWords W (LINUX_MMAP_ADDRESS + 2 * 8) LINUX_TEST_RLIMIT_NOFILE LINUX_TEST_RLIMIT_NOFILE

/-- The two `futex` operations. -/
def futex (operation result : Word) : GatewayM κ σ Word := do
  require (frame.rax = LINUX_FUTEX)
  let mapped ← hasLinuxUserWordPage frame.rdi
  require (mapped ∧ frame.rsi = operation ∧ frame.rdx = 1 ∧ frame.r10 = 0 ∧ frame.r8 = 0 ∧
    frame.r9 = 0)
  pure result

def futexWait : GatewayM κ σ Word := futex frame LINUX_FUTEX_WAIT (negated LINUX_EAGAIN)
def futexWake : GatewayM κ σ Word := futex frame LINUX_FUTEX_WAKE 0

def brkQuery : GatewayM κ σ Word := do
  require (frame.rax = LINUX_BRK ∧ frame.rdi = 0)
  let provisioned ← provisionLinuxAnonymousPage W LINUX_BRK_BASE
  require provisioned
  pure LINUX_BRK_BASE

def brkGrow : GatewayM κ σ Word := do
  require (frame.rax = LINUX_BRK ∧ frame.rdi = LINUX_BRK_BASE + LINUX_PAGE_SIZE)
  pure (LINUX_BRK_BASE + LINUX_PAGE_SIZE)

/-- The `openat` of an immutable file. -/
def openat (pathname : CStr) (fileId fd : Word) : GatewayM κ σ Word := do
  require (frame.rax = LINUX_OPENAT ∧ frame.rdi = LINUX_AT_FDCWD)
  let equal ← exactString W frame.rsi pathname
  require (equal ∧ frame.rdx = 0 ∧ frame.r10 = 0)
  let (romfsValue, _) ← requireRomfs W (callRomfs OP_OPEN fileId 0 2) fun status value _ =>
    status == STATUS_OK && value == fd
  pure romfsValue

def releaseOpenat : GatewayM κ σ Word := openat W frame RELEASE_PATH FILE_RELEASE FD_RELEASE
def versionOpenat : GatewayM κ σ Word := openat W frame VERSION_PATH FILE_VERSION FD_VERSION

/-- The read of a file after the tests on the registers, and the store of its word. -/
def readToUser (fd length magic result : Word) : GatewayM κ σ Word := do
  let (_, romfsPayload) ← requireRomfs W (callRomfs OP_READ fd 0 3) fun status value payload =>
    status == STATUS_OK && value == length && payload == magic
  requireWordToUser W frame.rsi romfsPayload
  pure result

def releaseRead : GatewayM κ σ Word := do
  require (frame.rax = LINUX_READ ∧ frame.rdi = FD_RELEASE ∧ frame.rsi ≠ 0 ∧
    frame.rdx = RELEASE_MAGIC_LENGTH)
  readToUser W frame FD_RELEASE RELEASE_LENGTH RELEASE_MAGIC RELEASE_MAGIC_LENGTH

/-- The `close` of a file. -/
def close (fd : Word) : GatewayM κ σ Word := do
  require (frame.rax = LINUX_CLOSE ∧ frame.rdi = fd)
  let _ ← requireRomfs W (callRomfs OP_CLOSE fd 0 2) fun status value _ =>
    status == STATUS_OK && value == 0
  pure 0

def versionFcntl : GatewayM κ σ Word := do
  require (frame.rax = LINUX_FCNTL ∧ frame.rdi = FD_VERSION ∧ frame.rsi = LINUX_F_GETFL ∧
    frame.rdx = 0)
  pure 0

def versionFstatSyscall : GatewayM κ σ Word := do
  require (SyscallFrame.IsVersionFstat ⟨frame.rax, frame.rdi, frame.rsi⟩)
  twoWords W frame.rsi LINUX_M10_STAT_MAGIC LINUX_M10_STAT_SIZE

def versionRead : GatewayM κ σ Word := do
  require (frame.rax = LINUX_READ ∧ frame.rdi = FD_VERSION ∧ frame.rsi ≠ 0 ∧
    frame.rdx = VERSION_LENGTH)
  readToUser W frame FD_VERSION VERSION_LENGTH VERSION_MAGIC VERSION_LENGTH

def versionGetdents64 : GatewayM κ σ Word := do
  require (frame.rax = LINUX_GETDENTS64 ∧ frame.rdi = FD_VERSION ∧ frame.rsi ≠ 0 ∧ frame.rdx = 32)
  pure (negated LINUX_ENOTDIR)

/-- The `openat` of a path that is not the path of the record. -/
def invalidOpenat : GatewayM κ σ Word := do
  require (frame.rax = LINUX_OPENAT ∧ frame.rdi = LINUX_AT_FDCWD ∧ frame.rdx = 0 ∧ frame.r10 = 0)
  let equal ← exactString W frame.rsi STATE_PATH
  require (equal = false)
  pure (negated (STATUS_ENOENT.setWidth 32))

def volatileOpenat : GatewayM κ σ Word := do
  require (frame.rax = LINUX_OPENAT ∧ frame.rdi = LINUX_AT_FDCWD ∧ frame.rdx = 0 ∧ frame.r10 = 0)
  let equal ← exactString W frame.rsi STATE_PATH
  require equal
  let (romfsValue, _) ← requireRomfs W openState fun status value _ =>
    status == STATUS_OK && value == FD_VOLATILE_STATE
  pure romfsValue

def mprotect : GatewayM κ σ Word := do
  require (frame.rax = LINUX_MPROTECT ∧ frame.rdi = LINUX_MMAP_ADDRESS ∧
    frame.rsi = LINUX_PAGE_SIZE ∧ frame.rdx = LINUX_PROT_READ_WRITE)
  let mapped ← hasLinuxUserWordPage LINUX_MMAP_ADDRESS
  require mapped
  pure 0

def lseek : GatewayM κ σ Word := do
  require (frame.rax = LINUX_LSEEK ∧ frame.rdi = FD_VOLATILE_STATE ∧ frame.rsi = 0 ∧
    frame.rdx = LINUX_SEEK_SET)
  pure 0

def volatilePread64 : GatewayM κ σ Word := do
  require (frame.rax = LINUX_PREAD64 ∧ frame.rdi = FD_VOLATILE_STATE ∧ frame.rsi ≠ 0 ∧
    frame.rdx = VOLATILE_STATE_LENGTH ∧ frame.r10 = 0)
  readToUser W frame FD_VOLATILE_STATE VOLATILE_STATE_LENGTH VOLATILE_STATE_INITIAL
    VOLATILE_STATE_LENGTH

/-- The two reads of the record. -/
def volatileRead (expected : Word) : GatewayM κ σ Word := do
  require (frame.rax = LINUX_READ ∧ frame.rdi = FD_VOLATILE_STATE ∧
    frame.rdx = VOLATILE_STATE_LENGTH)
  readToUser W frame FD_VOLATILE_STATE VOLATILE_STATE_LENGTH expected VOLATILE_STATE_LENGTH

/-- The tests of the two writes to the record, and the bytes. -/
def volatileBytes : GatewayM κ σ Buf := do
  require (frame.rax = LINUX_WRITE ∧ frame.rdi = FD_VOLATILE_STATE ∧
    frame.rdx = VOLATILE_STATE_LENGTH)
  requireWriteBuffer W frame.rsi VOLATILE_STATE_LENGTH

def volatileWrite : GatewayM κ σ Word := do
  let bytes ← volatileBytes W frame
  let word := volatileWord (bytes.slice 0 VOLATILE_STATE_LENGTH.toNat)
  require (word = VOLATILE_STATE_TEST)
  let _ ← requireRomfs W (writeState word) fun status value _ =>
    status == STATUS_OK && value == VOLATILE_STATE_LENGTH
  pure VOLATILE_STATE_LENGTH

def closedWrite : GatewayM κ σ Word := do
  let _ ← volatileBytes W frame
  let _ ← requireRomfs W (writeState VOLATILE_STATE_TEST) fun status _ _ => status == STATUS_EBADF
  pure (negated (STATUS_EBADF.setWidth 32))

def eofRead : GatewayM κ σ Word := do
  require (frame.rax = LINUX_READ ∧ frame.rdi = 0 ∧ frame.rsi = 0 ∧ frame.rdx = 0)
  pure 0

end Syscalls

/-- The syscalls that get a reply, in the order of the source. -/
def syscalls (W : World κ σ) : List (X86SyscallFrame → GatewayM κ σ Word) :=
  [getpid, (credential · LINUX_GETUID), (credential · LINUX_GETGID), (credential · LINUX_GETEUID),
   (credential · LINUX_GETEGID), gettid, setTidAddress, write W, mmap W, uname W, archSetFs W,
   archGetFs W, clockGettime W, getrlimit W, futexWait, futexWake, brkQuery W, brkGrow,
   releaseOpenat W, releaseRead W, (close W · FD_RELEASE), versionOpenat W, versionFcntl,
   versionFstatSyscall W, versionRead W, versionGetdents64, (close W · FD_VERSION),
   invalidOpenat W, volatileOpenat W, mprotect, lseek, volatilePread64 W,
   (volatileRead W · VOLATILE_STATE_INITIAL), volatileWrite W,
   (volatileRead W · VOLATILE_STATE_TEST), (close W · FD_VOLATILE_STATE), closedWrite W, eofRead]

/-- `run_linux_syscall_abi_probe`, once the process runs: `passed` for true and `rejected` for
false. The `exit(0)` gets no reply. -/
def runLinuxSyscallAbiProbe (P : Probe π) (W : World κ σ) :
    Prog Ending (Monitor π (Host κ σ) Seen X86SyscallFrame Word) Unit := do
  mediateAll P.guest Host.port (syscalls W)
  let frame ← recvTrap P.guest Host.port
  if frame.rax ≠ LINUX_EXIT ∨ frame.rdi ≠ 0 then Prog.ret .rejected
  else Prog.ret .passed

end SeLinOS.Gateway
