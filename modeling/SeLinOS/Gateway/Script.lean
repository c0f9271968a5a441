import SeLinOS.Gateway.Syscall

/-!
# What the gateway mediates

The script of `run_linux_syscall_abi_probe` as the process sees it: the syscall of each place with
the tests that it has to pass, the result, the bytes that change, and the message to `romfsd`. No
frame, mapping or kernel is left in it.

* `Entry`, `script`: the places.
* `Mediated`, `Rejected`: a syscall that gets its reply, and one that does not.
* `Memory`, `byte_blitFrame`: the bytes of a process whose pages have frames of their own.
-/

namespace SeLinOS.Gateway

open CLogic Prog Sel4 Romfs

/-! ## Memory -/

/-- The bytes of a process, `none` where it has no page. -/
abbrev Memory : Type := Nat → Option UInt8

/-- No two pages have one frame, and there are more frames than pages. -/
structure Distinct (u : UserSpace) : Prop where
  apart : ∀ a b frame, u.cap (pageBase a) = some frame → u.cap (pageBase b) = some frame →
    pageBase a = pageBase b
  bounded : ∃ bound, ∀ page frame, u.cap page = some frame → frame < bound

/-- The `n` bytes at `a` become `f 0, …`. -/
def putBytes (a n : Nat) (f : Nat → UInt8) (m : Memory) : Memory := fun x =>
  if a ≤ x ∧ x < a + n then some (f (x - a)) else m x

def putWord (a value : Word) (m : Memory) : Memory := putBytes a.toNat 8 (wordByte value) m

/-- A new page of zeros. -/
def zeroPage (address : Word) (m : Memory) : Memory := fun x =>
  if pageBase x = address.toNat then some 0 else m x

/-- A store of the process. -/
def storeSeen (m : Memory) (store : Nat × UInt8) : Memory :=
  if (m store.1).isSome then putBytes store.1 1 (fun _ => store.2) m else m

/-- The process has the `n` bytes at `a`, in one page. -/
structure InOnePage (m : Memory) (a n : Nat) : Prop where
  mapped : (m a).isSome
  noWrap : a + n < 2 ^ 64
  page : a - pageBase a + n ≤ PAGE_SIZE

/-- The process has these bytes at `a`. -/
def Holds (m : Memory) (a : Nat) (bytes : List UInt8) : Prop :=
  ((List.range bytes.length).map fun i => m (a + i)) = bytes.map some

variable {u : UserSpace} {m : Memory} {a n frame : Nat} {f : Nat → UInt8}

theorem byte_isSome : (u.byte a).isSome ↔ ∃ frame, u.cap (pageBase a) = some frame := by
  rw [UserSpace.byte, Option.isSome_map, Option.isSome_iff_exists]

instance (m : Memory) (a n : Nat) : Decidable (InOnePage m a n) :=
  decidable_of_iff ((m a).isSome ∧ a + n < 2 ^ 64 ∧ a - pageBase a + n ≤ PAGE_SIZE)
    ⟨fun h => ⟨h.1, h.2.1, h.2.2⟩, fun h => ⟨h.1, h.2, h.3⟩⟩

instance (m : Memory) (a : Nat) (bytes : List UInt8) : Decidable (Holds m a bytes) :=
  inferInstanceAs (Decidable (_ = _))

theorem inOnePage_iff : InOnePage u.byte a n ↔ ∃ frame, InPage u a n frame := by
  constructor
  · rintro ⟨hmapped, hwrap, hpage⟩
    obtain ⟨frame, hcap⟩ := byte_isSome.mp hmapped
    exact ⟨frame, hcap, hwrap, hpage⟩
  · rintro ⟨frame, hcap, hwrap, hpage⟩
    exact ⟨byte_isSome.mpr ⟨frame, hcap⟩, hwrap, hpage⟩

theorem admits_iff {mapped : Bool} : Admits mapped u a n ↔ mapped = true ∧ InOnePage u.byte a n :=
  and_congr_right fun _ => inOnePage_iff.symm

theorem holds_iff {bytes : List UInt8} :
    Holds u.byte a bytes ↔ u.bytes a bytes.length = bytes.map some := Iff.rfl

theorem sub_pageBase_lt (a : Nat) : a - pageBase a < PAGE_SIZE := by
  simp only [pageBase, PAGE_SIZE]
  omega

/-- A store through a mapping is a store to the bytes of the process. -/
theorem byte_blitFrame (hd : Distinct u) (hcap : u.cap (pageBase a) = some frame)
    (hpage : a - pageBase a + n ≤ PAGE_SIZE) :
    (blitFrame u frame (a - pageBase a) n f).byte = putBytes a n f u.byte := by
  funext x
  have hle := pageBase_le x
  have hle' := pageBase_le a
  have hlt := sub_pageBase_lt x
  have hsame : x < pageBase a + PAGE_SIZE → pageBase a ≤ x → pageBase x = pageBase a := by
    simp only [pageBase, PAGE_SIZE]
    omega
  rw [UserSpace.byte, blitFrame_frame, putBytes]
  show (u.cap (pageBase x)).map _ = _
  by_cases hx : a ≤ x ∧ x < a + n
  · have hbase := hsame (by omega) (by omega)
    rw [if_pos hx, hbase, hcap, Option.map_some, Function.update_self,
      Mem.blit_in (by omega) (by omega)]
    exact congrArg (fun i => some (f i)) (by omega)
  · rw [if_neg hx, UserSpace.byte]
    cases hcapx : u.cap (pageBase x) with
    | none => rfl
    | some frame' =>
      rw [Option.map_some, Option.map_some]
      by_cases hframe : frame' = frame
      · subst hframe
        have hbase := hd.apart x a frame' hcapx hcap
        rw [Function.update_self, Mem.blit_out (by omega)]
      · rw [Function.update_of_ne hframe]

theorem Distinct.of_cap {u' : UserSpace} (hd : Distinct u) (h : u'.cap = u.cap) : Distinct u' := by
  obtain ⟨hapart, hbounded⟩ := hd
  rw [← h] at hapart hbounded
  exact ⟨hapart, hbounded⟩

/-- There is a frame for a new page. -/
theorem Distinct.exists_fresh {address : Nat} (hd : Distinct u) (hfree : u.cap address = none) :
    ∃ frame, Fresh u address frame := by
  obtain ⟨bound, hbound⟩ := hd.bounded
  exact ⟨bound, hfree, fun page hcap => absurd (hbound page bound hcap) (Nat.lt_irrefl _)⟩

/-- The process finds zeros in a new page, and the rest as it was. -/
theorem byte_mapPage {address : Word} (hfresh : Fresh u address.toNat frame) :
    (mapPage u address.toNat frame).byte = zeroPage address u.byte := by
  funext x
  rw [UserSpace.byte, zeroPage]
  show (Function.update u.cap address.toNat (some frame) (pageBase x)).map
    (fun page => Function.update u.frame frame (fun _ => 0) page (x - pageBase x)) = _
  by_cases hx : pageBase x = address.toNat
  · rw [if_pos hx, hx, Function.update_self, Option.map_some, Function.update_self]
  · rw [if_neg hx, Function.update_of_ne hx, UserSpace.byte]
    cases hcap : u.cap (pageBase x) with
    | none => rfl
    | some frame' =>
      have hframe : frame' ≠ frame := by
        rintro rfl
        exact hfresh.unused _ hcap
      rw [Option.map_some, Option.map_some, Function.update_of_ne hframe]

theorem distinct_mapPage {address : Nat} (hd : Distinct u) (hfresh : Fresh u address frame) :
    Distinct (mapPage u address frame) := by
  refine ⟨fun x y frame' hx hy => ?_, ?_⟩
  · simp only [mapPage, Function.update_apply] at hx hy
    by_cases hxa : pageBase x = address <;> by_cases hya : pageBase y = address
    · rw [hxa, hya]
    · rw [if_pos hxa, Option.some.injEq] at hx
      rw [if_neg hya, ← hx] at hy
      exact absurd hy (hfresh.unused _)
    · rw [if_pos hya, Option.some.injEq] at hy
      rw [if_neg hxa, ← hy] at hx
      exact absurd hx (hfresh.unused _)
    · rw [if_neg hxa] at hx
      rw [if_neg hya] at hy
      exact hd.apart x y frame' hx hy
  · obtain ⟨bound, hbound⟩ := hd.bounded
    refine ⟨max bound (frame + 1), fun page frame' hcap => ?_⟩
    simp only [mapPage, Function.update_apply] at hcap
    by_cases hpage : page = address
    · rw [if_pos hpage, Option.some.injEq] at hcap
      omega
    · rw [if_neg hpage] at hcap
      have := hbound page frame' hcap
      omega

theorem cap_storeByte (store : Nat × UInt8) : (storeByte u store).cap = u.cap := by
  unfold storeByte
  split <;> rfl

theorem byte_storeByte (hd : Distinct u) (store : Nat × UInt8) :
    (storeByte u store).byte = storeSeen u.byte store := by
  have hlt := sub_pageBase_lt store.1
  rw [storeByte, storeSeen]
  cases hcap : u.cap (pageBase store.1) with
  | none => simp only [UserSpace.byte, hcap, Option.map_none, Option.isSome_none,
      Bool.false_eq_true, if_false]
  | some frame =>
    rw [if_pos (byte_isSome.mpr ⟨frame, hcap⟩)]
    exact byte_blitFrame hd hcap (by omega)

/-- What the stores of a process do to its bytes. -/
theorem byte_stores (stores : List (Nat × UInt8)) (hd : Distinct u) :
    (stores.foldl storeByte u).byte = stores.foldl storeSeen u.byte ∧
      Distinct (stores.foldl storeByte u) := by
  induction stores generalizing u with
  | nil => exact ⟨rfl, hd⟩
  | cons store stores ih =>
    rw [List.foldl_cons, List.foldl_cons, ← byte_storeByte hd]
    exact ih (hd.of_cap (cap_storeByte store))

theorem inOnePage_putBytes {b k : Nat} (h : (putBytes a n f m b).isSome = (m b).isSome) :
    InOnePage (putBytes a n f m) b k ↔ InOnePage m b k :=
  ⟨fun hin => ⟨h ▸ hin.mapped, hin.noWrap, hin.page⟩,
    fun hin => ⟨h ▸ hin.mapped, hin.noWrap, hin.page⟩⟩

/-! ## The places -/

/-- What the process and `romfsd` can know of the gateway. -/
structure Session where
  memory : Memory
  tlsBase : Word
  probeTlsBase : Word
  requests : List Message

/-- A place of the script. -/
structure Entry where
  /-- The tests that a syscall with a reply has passed. -/
  needs : X86SyscallFrame → Session → Prop
  /-- It is rejected all the same where this holds, if the kernel maps its page. -/
  refuses : X86SyscallFrame → Session → Prop := fun _ _ => False
  result : X86SyscallFrame → Word
  stores : X86SyscallFrame → Memory → Memory := fun _ m => m
  base : Option Word := none
  call : Option (Call Message Message) := none

namespace Entry

/-- The messages to `romfsd`. -/
def requests (e : Entry) : List Message := (e.call.map (·.request)).toList

/-- The syscall gets a reply, if the kernel and `romfsd` do what the gateway asks. -/
def Accepts (e : Entry) (frame : X86SyscallFrame) (v : Session) : Prop :=
  e.needs frame v ∧ ¬ e.refuses frame v

def effect (e : Entry) (frame : X86SyscallFrame) (v : Session) : Session where
  memory := e.stores frame v.memory
  tlsBase := e.base.getD v.tlsBase
  probeTlsBase := e.base.getD v.probeTlsBase
  requests := v.requests ++ e.requests

end Entry

/-- The script of the gateway. -/
def service : Service Entry X86SyscallFrame Word Session where
  result e frame _ := e.result frame
  effect e := e.effect

/-- A syscall with tests on its registers and a fixed result. -/
def plain (tests : X86SyscallFrame → Prop) (result : Word) : Entry where
  needs frame _ := tests frame
  result _ := result

/-- A syscall that names a word of the process, which is neither read nor written. -/
def wordPage (tests : X86SyscallFrame → Prop) (address : X86SyscallFrame → Word) (result : Word) :
    Entry where
  needs frame v :=
    tests frame ∧ address frame ≠ 0 ∧ InOnePage v.memory (address frame).toNat 8
  result _ := result

/-- A syscall that gives the process a new page. -/
def newPage (tests : X86SyscallFrame → Prop) (address : Word) : Entry where
  needs frame v := tests frame ∧ v.memory address.toNat = none
  result _ := address
  stores _ := zeroPage address

/-- A syscall that stores two words, one after the other. -/
def storesWords (tests : X86SyscallFrame → Prop) (address : X86SyscallFrame → Word)
    (first second : Word) : Entry where
  needs frame v := tests frame ∧ InOnePage v.memory (address frame).toNat 8 ∧
    InOnePage v.memory (address frame + 8).toNat 8
  result _ := 0
  stores frame m := putWord (address frame + 8) second (putWord (address frame) first m)

/-- The process has the string, with its NUL, in one page. -/
def HasString (m : Memory) (a : Word) (string : CStr) : Prop :=
  InOnePage m a.toNat (string.bytes.length + 1) ∧ Holds m a.toNat (string.bytes ++ [0])

instance (m : Memory) (a : Word) (string : CStr) : Decidable (HasString m a string) :=
  inferInstanceAs (Decidable (_ ∧ _))

/-- An `openat` that `romfsd` answers. -/
def opens (tests : X86SyscallFrame → Prop) (path : CStr) (fd : Word) (request : Message) :
    Entry where
  needs frame v := tests frame ∧ HasString v.memory frame.rsi path
  result _ := fd
  call := some ⟨request, rootReplyIs STATUS_OK fd⟩

/-- A read that stores the word of `romfsd`. -/
def reads (tests : X86SyscallFrame → Prop) (fd length magic result : Word) : Entry where
  needs frame v := tests frame ∧ InOnePage v.memory frame.rsi.toNat 8
  result _ := result
  stores frame := putWord frame.rsi magic
  call := some ⟨callRomfs OP_READ fd 0 3, rootReplyReads length magic⟩

def closes (fd : Word) : Entry where
  needs frame _ := frame.rax = LINUX_CLOSE ∧ frame.rdi = fd
  result _ := 0
  call := some ⟨callRomfs OP_CLOSE fd 0 2, rootReplyIs STATUS_OK 0⟩

def isOpenat (frame : X86SyscallFrame) : Prop :=
  frame.rax = LINUX_OPENAT ∧ frame.rdi = LINUX_AT_FDCWD ∧ frame.rdx = 0 ∧ frame.r10 = 0

def isVolatileRead (frame : X86SyscallFrame) : Prop :=
  frame.rax = LINUX_READ ∧ frame.rdi = FD_VOLATILE_STATE ∧ frame.rdx = VOLATILE_STATE_LENGTH

def isVolatileWrite (frame : X86SyscallFrame) : Prop :=
  frame.rax = LINUX_WRITE ∧ frame.rdi = FD_VOLATILE_STATE ∧ frame.rdx = VOLATILE_STATE_LENGTH

/-- The word of eight bytes of the process, the first byte highest. -/
def IsPacked (m : Memory) (a value : Word) : Prop :=
  InOnePage m a.toNat 8 ∧ ∃ bytes, bytes.length = 8 ∧ Holds m a.toNat bytes ∧ be bytes = value

/-- The result of the write is the length that the process gives. -/
def console : Entry where
  needs frame v := (frame.rax = LINUX_WRITE ∧ (frame.rdi = 1 ∨ frame.rdi = 2)) ∧
    (0 < frame.rdx.toNat ∧ frame.rdx.toNat ≤ ABI_MAX_WRITE_BYTES) ∧
    InOnePage v.memory frame.rsi.toNat frame.rdx.toNat
  result frame := frame.rdx

def utsname : Entry where
  needs frame v := (frame.rax = LINUX_UNAME ∧ frame.rdi = LINUX_MMAP_ADDRESS) ∧
    InOnePage v.memory frame.rdi.toNat LINUX_UTSNAME_BYTES
  result _ := 0
  stores frame := putBytes frame.rdi.toNat LINUX_UTSNAME_BYTES linuxUtsname.byte

def setsFs : Entry where
  needs frame v := (frame.rax = LINUX_ARCH_PRCTL ∧ frame.rdi = LINUX_ARCH_SET_FS ∧
    frame.rsi = LINUX_MMAP_ADDRESS) ∧ InOnePage v.memory frame.rsi.toNat 8
  result _ := 0
  base := some LINUX_MMAP_ADDRESS

def getsFs : Entry where
  needs frame v := (frame.rax = LINUX_ARCH_PRCTL ∧ frame.rdi = LINUX_ARCH_GET_FS ∧
    frame.rsi ≠ 0 ∧ v.probeTlsBase = LINUX_MMAP_ADDRESS) ∧ InOnePage v.memory frame.rsi.toNat 8
  result _ := 0
  stores frame := putWord frame.rsi LINUX_MMAP_ADDRESS

/-- A page that cannot be mapped is taken for a path that is not the path of the record. -/
def otherPath : Entry where
  needs frame _ := isOpenat frame
  refuses frame v := HasString v.memory frame.rsi STATE_PATH
  result _ := negated (STATUS_ENOENT.setWidth 32)

def recordWrite : Entry where
  needs frame v := isVolatileWrite frame ∧ IsPacked v.memory frame.rsi VOLATILE_STATE_TEST
  result _ := VOLATILE_STATE_LENGTH
  call := some ⟨writeState VOLATILE_STATE_TEST, rootReplyIs STATUS_OK VOLATILE_STATE_LENGTH⟩

def closedRecordWrite : Entry where
  needs frame v := isVolatileWrite frame ∧ InOnePage v.memory frame.rsi.toNat 8
  result _ := negated (STATUS_EBADF.setWidth 32)
  call := some ⟨writeState VOLATILE_STATE_TEST,
    fun reply => (rootReply reply).any (·.1 == STATUS_EBADF)⟩

def script : List Entry :=
  [plain (·.rax = LINUX_GETPID) LINUX_TEST_PID,
   plain (·.rax = LINUX_GETUID) 0,
   plain (·.rax = LINUX_GETGID) 0,
   plain (·.rax = LINUX_GETEUID) 0,
   plain (·.rax = LINUX_GETEGID) 0,
   plain (·.rax = LINUX_GETTID) LINUX_TEST_TID,
   wordPage (·.rax = LINUX_SET_TID_ADDRESS) (·.rdi) LINUX_TEST_TID,
   console,
   newPage (fun frame => frame.rax = LINUX_MMAP ∧ frame.rdi = 0 ∧ frame.rsi = LINUX_PAGE_SIZE ∧
     frame.rdx = LINUX_PROT_READ_WRITE ∧ frame.r10 = LINUX_MAP_PRIVATE_ANONYMOUS ∧ frame.r8 = -1 ∧
     frame.r9 = 0) LINUX_MMAP_ADDRESS,
   utsname,
   setsFs,
   getsFs,
   storesWords (fun frame => frame.rax = LINUX_CLOCK_GETTIME ∧
     frame.rdi = LINUX_CLOCK_MONOTONIC ∧ frame.rsi = LINUX_MMAP_ADDRESS)
     (fun _ => LINUX_MMAP_ADDRESS) LINUX_TEST_TIME_SECONDS LINUX_TEST_TIME_NANOSECONDS,
   storesWords (fun frame => frame.rax = LINUX_GETRLIMIT ∧ frame.rdi = LINUX_RLIMIT_NOFILE ∧
     frame.rsi = LINUX_MMAP_ADDRESS + 2 * 8) (fun _ => LINUX_MMAP_ADDRESS + 2 * 8)
     LINUX_TEST_RLIMIT_NOFILE LINUX_TEST_RLIMIT_NOFILE,
   wordPage (fun frame => frame.rax = LINUX_FUTEX ∧ frame.rsi = LINUX_FUTEX_WAIT ∧
     frame.rdx = 1 ∧ frame.r10 = 0 ∧ frame.r8 = 0 ∧ frame.r9 = 0) (·.rdi) (negated LINUX_EAGAIN),
   wordPage (fun frame => frame.rax = LINUX_FUTEX ∧ frame.rsi = LINUX_FUTEX_WAKE ∧
     frame.rdx = 1 ∧ frame.r10 = 0 ∧ frame.r8 = 0 ∧ frame.r9 = 0) (·.rdi) 0,
   newPage (fun frame => frame.rax = LINUX_BRK ∧ frame.rdi = 0) LINUX_BRK_BASE,
   plain (fun frame => frame.rax = LINUX_BRK ∧ frame.rdi = LINUX_BRK_BASE + LINUX_PAGE_SIZE)
     (LINUX_BRK_BASE + LINUX_PAGE_SIZE),
   opens isOpenat RELEASE_PATH FD_RELEASE (callRomfs OP_OPEN FILE_RELEASE 0 2),
   reads (fun frame => frame.rax = LINUX_READ ∧ frame.rdi = FD_RELEASE ∧ frame.rsi ≠ 0 ∧
     frame.rdx = RELEASE_MAGIC_LENGTH) FD_RELEASE RELEASE_LENGTH RELEASE_MAGIC
     RELEASE_MAGIC_LENGTH,
   closes FD_RELEASE,
   opens isOpenat VERSION_PATH FD_VERSION (callRomfs OP_OPEN FILE_VERSION 0 2),
   plain (fun frame => frame.rax = LINUX_FCNTL ∧ frame.rdi = FD_VERSION ∧
     frame.rsi = LINUX_F_GETFL ∧ frame.rdx = 0) 0,
   storesWords (fun frame => SyscallFrame.IsVersionFstat ⟨frame.rax, frame.rdi, frame.rsi⟩)
     (·.rsi) LINUX_M10_STAT_MAGIC LINUX_M10_STAT_SIZE,
   reads (fun frame => frame.rax = LINUX_READ ∧ frame.rdi = FD_VERSION ∧ frame.rsi ≠ 0 ∧
     frame.rdx = VERSION_LENGTH) FD_VERSION VERSION_LENGTH VERSION_MAGIC VERSION_LENGTH,
   plain (fun frame => frame.rax = LINUX_GETDENTS64 ∧ frame.rdi = FD_VERSION ∧ frame.rsi ≠ 0 ∧
     frame.rdx = 32) (negated LINUX_ENOTDIR),
   closes FD_VERSION,
   otherPath,
   opens isOpenat STATE_PATH FD_VOLATILE_STATE openState,
   wordPage (fun frame => frame.rax = LINUX_MPROTECT ∧ frame.rdi = LINUX_MMAP_ADDRESS ∧
     frame.rsi = LINUX_PAGE_SIZE ∧ frame.rdx = LINUX_PROT_READ_WRITE)
     (fun _ => LINUX_MMAP_ADDRESS) 0,
   plain (fun frame => frame.rax = LINUX_LSEEK ∧ frame.rdi = FD_VOLATILE_STATE ∧
     frame.rsi = 0 ∧ frame.rdx = LINUX_SEEK_SET) 0,
   reads (fun frame => frame.rax = LINUX_PREAD64 ∧ frame.rdi = FD_VOLATILE_STATE ∧
     frame.rsi ≠ 0 ∧ frame.rdx = VOLATILE_STATE_LENGTH ∧ frame.r10 = 0) FD_VOLATILE_STATE
     VOLATILE_STATE_LENGTH VOLATILE_STATE_INITIAL VOLATILE_STATE_LENGTH,
   reads isVolatileRead FD_VOLATILE_STATE VOLATILE_STATE_LENGTH VOLATILE_STATE_INITIAL
     VOLATILE_STATE_LENGTH,
   recordWrite,
   reads isVolatileRead FD_VOLATILE_STATE VOLATILE_STATE_LENGTH VOLATILE_STATE_TEST
     VOLATILE_STATE_LENGTH,
   closes FD_VOLATILE_STATE,
   closedRecordWrite,
   plain (fun frame => frame.rax = LINUX_READ ∧ frame.rdi = 0 ∧ frame.rsi = 0 ∧ frame.rdx = 0) 0]

end SeLinOS.Gateway
