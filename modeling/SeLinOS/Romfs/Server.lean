import SeLinOS.Romfs.Cpio

/-!
# romfsd

The loop of `main` (`servers/romfsd.c`) as a function of a request message: `handleRequest` gives
the reply and the state after it, one definition for each branch. The state is the volatile word and
its open flag. The archive is a parameter; a `Romfsd` is an archive that passes
`archive_self_check`, without which the server does not start, and `Romfsd.image` has the one that
the image embeds.
-/

namespace SeLinOS.Romfs

open CLogic Prog Sel4

/-! ## Protocol -/

def OP_OPEN : Word := 1
def OP_READ : Word := 2
def OP_CLOSE : Word := 3
def OP_OPEN_PATH : Word := 4
def OP_WRITE : Word := 5
def PATH_MAX_BYTES : Word := 16
def OPEN_PATH_REQUEST_WORDS : Nat := 4
def FILE_RELEASE : Word := 1
def FILE_BANNER : Word := 2
def FILE_VOLATILE_STATE : Word := 3
def FILE_VERSION : Word := 4
def FD_RELEASE : Word := 3
def FD_BANNER : Word := 4
def FD_VOLATILE_STATE : Word := 5
def FD_VERSION : Word := 6
def RELEASE_LENGTH : Word := 18
def RELEASE_MAGIC : Word := 0x53454c494e4f5321
def RELEASE_MAGIC_LENGTH : Word := 8
def BANNER_LENGTH : Word := 8
def BANNER_MAGIC : Word := 0x4350494f2d4f4b21
def VERSION_LENGTH : Word := 8
def VERSION_MAGIC : Word := 0x53454c494e4f5339
def VOLATILE_STATE_LENGTH : Word := 8
def VOLATILE_STATE_INITIAL : Word := 0x424f4f544d302121
def VOLATILE_STATE_TEST : Word := 0x53544154454d3021
def STATUS_OK : Word := 0
def STATUS_EBADF : Word := 9
def STATUS_ENOENT : Word := 2
def STATUS_EINVAL : Word := 22

/-- `struct selinos_romfs_file`. -/
structure File where
  fileId : Word
  fd : Word
  pathname : CStr
  expectedDataLength : Word
  reportedLength : Word
  deriving DecidableEq

/-- `"/selinos-release"`. -/
def RELEASE_PATH : CStr :=
  ⟨[47, 115, 101, 108, 105, 110, 111, 115, 45, 114, 101, 108, 101, 97, 115, 101], by decide⟩

/-- `"/selinos-banner"`. -/
def BANNER_PATH : CStr :=
  ⟨[47, 115, 101, 108, 105, 110, 111, 115, 45, 98, 97, 110, 110, 101, 114], by decide⟩

/-- `"/selinos-version"`. -/
def VERSION_PATH : CStr :=
  ⟨[47, 115, 101, 108, 105, 110, 111, 115, 45, 118, 101, 114, 115, 105, 111, 110], by decide⟩

/-- `selinos_romfs_files`. -/
def romfsFiles : List File :=
  [⟨FILE_RELEASE, FD_RELEASE, RELEASE_PATH, RELEASE_MAGIC_LENGTH, RELEASE_LENGTH⟩,
   ⟨FILE_BANNER, FD_BANNER, BANNER_PATH, BANNER_LENGTH, BANNER_LENGTH⟩,
   ⟨FILE_VERSION, FD_VERSION, VERSION_PATH, VERSION_LENGTH, VERSION_LENGTH⟩]

/-- `selinos_volatile_state` and `selinos_volatile_state_open`. -/
structure Server where
  volatileState : Word
  volatileStateOpen : Bool
  deriving Repr, DecidableEq

/-- The state at boot. -/
def Server.boot : Server := ⟨VOLATILE_STATE_INITIAL, false⟩

/-- The handling of a request, which always ends with a reply. -/
abbrev RomfsM : Type → Type := Prog Empty Server

/-- `reply_status`. -/
def replyStatus (status value : Word) : Message := .ofWords [status, value]

/-! ## The file table -/

/-- `file_by_id`. -/
def fileById (fileId : Word) : Option File := romfsFiles.find? (·.fileId == fileId)

/-- `file_by_fd`. -/
def fileByFd (fd : Word) : Option File := romfsFiles.find? (·.fd == fd)

/-- Byte `index` of a pathname that is packed into two words. -/
def packedByte (firstWord secondWord : Word) (index : Nat) : UInt8 :=
  wordByte (if index < 8 then firstWord else secondWord) (8 - 1 - index % 8)

/-- `file_by_packed_path`. The bytes are no NULs, so the loop that compares them with a file's
pathname up to its NUL tests equality. -/
def fileByPackedPath (byteLength firstWord secondWord : Word) : Option File :=
  if byteLength = 0 ∨ byteLength > PATH_MAX_BYTES then none
  else
    let pathname := (List.range byteLength.toNat).map (packedByte firstWord secondWord)
    if pathname.any (fun character => character ≤ 32 || character > 126) then none
    else romfsFiles.find? (·.pathname.bytes == pathname)

/-! ## Requests -/

/-- The open of the volatile record, in `OPEN` and in `OPEN_PATH`. -/
def openVolatile : RomfsM Message := do
  Prog.modify fun _ => ⟨VOLATILE_STATE_INITIAL, true⟩
  pure (replyStatus STATUS_OK FD_VOLATILE_STATE)

/-- The open of an immutable file, in `OPEN` and in `OPEN_PATH`. -/
def openFile (archive : Buf) (file : Option File) : RomfsM Message := do
  match file with
  | none => pure (replyStatus STATUS_ENOENT 0)
  | some file =>
    match ← cpioLookupRegular archive file.pathname with
    | none => pure (replyStatus STATUS_ENOENT 0)
    | some entry =>
      if entry.size ≠ file.expectedDataLength.toNat then pure (replyStatus STATUS_ENOENT 0)
      else pure (replyStatus STATUS_OK file.fd)

/-- The `OPEN` branch. -/
def handleOpen (archive : Buf) (request : Message) : RomfsM Message :=
  if request.length ≠ 2 then pure (replyStatus STATUS_ENOENT 0)
  else if request.mr 1 = FILE_VOLATILE_STATE then openVolatile
  else openFile archive (fileById (request.mr 1))

/-- The words of `"/selinos-state"` in an `OPEN_PATH` request. -/
def IsStatePath (request : Message) : Prop :=
  request.mr 1 = 14 ∧ request.mr 2 = 0x2f73656c696e6f73 ∧ request.mr 3 = 0x2d73746174650000

instance (request : Message) : Decidable (IsStatePath request) :=
  inferInstanceAs (Decidable (_ ∧ _))

/-- The `OPEN_PATH` branch. -/
def handleOpenPath (archive : Buf) (request : Message) : RomfsM Message :=
  if request.length = OPEN_PATH_REQUEST_WORDS ∧ IsStatePath request then openVolatile
  else if request.length ≠ OPEN_PATH_REQUEST_WORDS then pure (replyStatus STATUS_ENOENT 0)
  else openFile archive (fileByPackedPath (request.mr 1) (request.mr 2) (request.mr 3))

/-- The read of an immutable file. -/
def readFile (archive : Buf) (file : Option File) : RomfsM Message := do
  match file with
  | none => pure (replyStatus STATUS_EBADF 0)
  | some file =>
    match ← cpioLookupRegular archive file.pathname with
    | none => pure (replyStatus STATUS_EBADF 0)
    | some entry =>
      if entry.size ≠ file.expectedDataLength.toNat then pure (replyStatus STATUS_EBADF 0)
      else
        match ← entryPayloadWord archive entry with
        | none => pure (replyStatus STATUS_EBADF 0)
        | some payload => pure (.ofWords [STATUS_OK, file.reportedLength, payload])

/-- The `READ` branch. -/
def handleRead (archive : Buf) (request : Message) : RomfsM Message := do
  let s ← Prog.get
  if request.length = 3 ∧ request.mr 1 = FD_VOLATILE_STATE ∧ request.mr 2 = 0 ∧
      s.volatileStateOpen then
    pure (.ofWords [STATUS_OK, VOLATILE_STATE_LENGTH, s.volatileState])
  else if request.length ≠ 3 ∨ request.mr 2 ≠ 0 then pure (replyStatus STATUS_EBADF 0)
  else readFile archive (fileByFd (request.mr 1))

/-- The `WRITE` branch. -/
def handleWrite (request : Message) : RomfsM Message := do
  let s ← Prog.get
  if request.length ≠ 3 ∨ request.mr 1 ≠ FD_VOLATILE_STATE ∨ ¬ s.volatileStateOpen then
    pure (replyStatus STATUS_EBADF 0)
  else
    Prog.modify fun s => { s with volatileState := request.mr 2 }
    pure (replyStatus STATUS_OK VOLATILE_STATE_LENGTH)

/-- The `CLOSE` branch. -/
def handleClose (request : Message) : RomfsM Message := do
  let s ← Prog.get
  if request.length ≠ 2 then pure (replyStatus STATUS_EBADF 0)
  else if request.mr 1 = FD_VOLATILE_STATE then
    if ¬ s.volatileStateOpen then pure (replyStatus STATUS_EBADF 0)
    else
      Prog.modify fun s => { s with volatileStateOpen := false }
      pure (replyStatus STATUS_OK 0)
  else if (fileByFd (request.mr 1)).isNone then pure (replyStatus STATUS_EBADF 0)
  else pure (replyStatus STATUS_OK 0)

/-- One iteration of the loop of `main`: the reply to a request. -/
def handleRequest (archive : Buf) (request : Message) : RomfsM Message :=
  if request.label ≠ 0 ∨ request.length < 1 then pure (replyStatus STATUS_EINVAL 0)
  else if request.mr 0 = OP_OPEN then handleOpen archive request
  else if request.mr 0 = OP_OPEN_PATH then handleOpenPath archive request
  else if request.mr 0 = OP_READ then handleRead archive request
  else if request.mr 0 = OP_WRITE then handleWrite request
  else if request.mr 0 = OP_CLOSE then handleClose request
  else pure (replyStatus STATUS_EINVAL 0)

/-! ## The server -/

/-- The conditions on one file in `archive_self_check`. -/
def fileSelfCheck (archive : Buf) (pathname : CStr) (length magic : Word) :
    Prog Empty Unit Bool := do
  match ← cpioLookupRegular archive pathname with
  | none => pure false
  | some entry =>
    Prog.andThen (entry.size = length.toNat) do
      let payload ← entryPayloadWord archive entry
      pure (payload == some magic)

/-- `archive_self_check`. -/
def archiveSelfCheck (archive : Buf) : Prog Empty Unit Bool := do
  let release ← fileSelfCheck archive RELEASE_PATH RELEASE_MAGIC_LENGTH RELEASE_MAGIC
  Prog.andThen release do
    let banner ← fileSelfCheck archive BANNER_PATH BANNER_LENGTH BANNER_MAGIC
    Prog.andThen banner (fileSelfCheck archive VERSION_PATH VERSION_LENGTH VERSION_MAGIC)

/-- A server that has started: its archive passes the self check. -/
structure Romfsd where
  archive : Buf
  checked : archiveSelfCheck archive () = .ok true ()

/-- The words of `selinos_romfs_cpio_archive`, the first byte of each highest. -/
def romfsArchiveWords : List Nat :=
  [0x3037303730313030, 0x3030303030313030, 0x3030383161343030, 0x3030303030303030,
   0x3030303030303030, 0x3030303030313030, 0x3030303030303030, 0x3030303030383030,
   0x3030303030303030, 0x3030303030303030, 0x3030303030303030, 0x3030303030303030,
   0x3030303031313030, 0x3030303030302f73, 0x656c696e6f732d72, 0x656c656173650000,
   0x53454c494e4f5321, 0x3037303730313030, 0x3030303030323030, 0x3030383161343030,
   0x3030303030303030, 0x3030303030303030, 0x3030303030313030, 0x3030303030303030,
   0x3030303030383030, 0x3030303030303030, 0x3030303030303030, 0x3030303030303030,
   0x3030303030303030, 0x3030303031303030, 0x3030303030302f73, 0x656c696e6f732d62,
   0x616e6e6572000000, 0x4350494f2d4f4b21, 0x3037303730313030, 0x3030303030333030,
   0x3030383161343030, 0x3030303030303030, 0x3030303030303030, 0x3030303030313030,
   0x3030303030303030, 0x3030303030383030, 0x3030303030303030, 0x3030303030303030,
   0x3030303030303030, 0x3030303030303030, 0x3030303031313030, 0x3030303030302f73,
   0x656c696e6f732d76, 0x657273696f6e0000, 0x53454c494e4f5339, 0x3037303730313030,
   0x3030303030343030, 0x3030303030303030, 0x3030303030303030, 0x3030303030303030,
   0x3030303030313030, 0x3030303030303030, 0x3030303030303030, 0x3030303030303030,
   0x3030303030303030, 0x3030303030303030, 0x3030303030303030, 0x3030303030623030,
   0x3030303030305452, 0x41494c4552212121, 0x0000000000000000]

/-- `selinos_romfs_cpio_archive`; the last word is half used. -/
def selinosRomfsCpioArchive : Buf where
  size := 532
  byte i := UInt8.ofNat (romfsArchiveWords.getD (i / 8) 0 >>> (8 * (7 - i % 8)))

set_option maxRecDepth 100000 in
/-- The server of the image. -/
def Romfsd.image : Romfsd where
  archive := selinosRomfsCpioArchive
  checked := by decide +kernel

end SeLinOS.Romfs
