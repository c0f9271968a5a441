import SeLinOS.Gateway.UserCopy
import SeLinOS.Romfs.Record

/-!
# File bytes through the syscall bridge

How the bytes of a file reach the probe process of the syscall gateway
(`run_linux_syscall_abi_probe` in `domain_manager.c`), and how its bytes reach the volatile record.
`romfsd` packs the bytes of a file into a word, the first byte highest (`entry_payload_word`), and
so does the gateway with the bytes that the process writes; `copy_linux_word_to_user` stores a word
with the first byte lowest.

* `readPath`, `writePath`: a read of a file, and a write of the record that is read back.
* `bytes_survive_iff`: the bytes come out in their order exactly when they read the same backwards.
-/

namespace SeLinOS.Gateway

open CLogic Prog Sel4 Romfs

/-- The loop of the volatile write: `volatile_word = (volatile_word << 8u) | volatile_bytes[index]`
for each of the bytes. -/
def volatileWord (volatileBytes : List UInt8) : Word := volatileBytes.foldl pushByte 0

/-- The read path of a file: `entry_payload_word` in `romfsd`, then `copy_linux_word_to_user` with
the payload of its reply. -/
def readPath (archive : Buf) (entry : Entry) (mapped : Bool) (userAddress : Word) :
    Prog Empty RootTask Bool := do
  match ← entryPayloadWord archive entry with
  | none => pure false
  | some payload => copyLinuxWordToUser mapped userAddress payload

/-- The write of the record from `source` and the read of it to `destination`: the bytes of the
process are packed and sent in a `WRITE`, and the word that the `READ` returns is stored. The test
of the gateway that admits one word only (`SELINOS_ROMFS_VOLATILE_STATE_TEST`) is left out: this is
the path of any bytes. -/
def writePath (d : Romfsd) (server : Server) (mapped mapped' : Bool) (source destination : Word)
    (output : Buf) : Prog Empty RootTask Bool := do
  let (ok, output) ← copyLinuxWriteBuffer mapped source 8 output
  if ok then
    let (_, server) :=
      d.handle (.ofWords [OP_WRITE, FD_VOLATILE_STATE, volatileWord (output.slice 0 8)]) server
    let (reply, _) := d.handle (.ofWords [OP_READ, FD_VOLATILE_STATE, 0]) server
    copyLinuxWordToUser mapped' destination (reply.mr 2)
  else pure false

/-! ## The helpers -/

variable {mapped : Bool} {a : Word} {s : RootTask}

/-- A word that the page tests admit arrives with its lowest byte first. -/
theorem word_copied (value : Word) (h : Admits mapped s.user a.toNat 8) :
    ∃ t, (copyLinuxWordToUser mapped a value : Prog Empty RootTask Bool) s = .ok true t ∧
      t.user.bytes a.toNat 8 = (storedBytes value).map some := by
  obtain ⟨r, t, hrun, hcopied⟩ : ∃ r t, (copyLinuxWordToUser mapped a value :
      Prog Empty RootTask Bool) s = .ok r t ∧
      CopiedToUser (Admits mapped s.user a.toNat 8) a.toNat 8 (wordByte value) s r t :=
    exists_ok copyLinuxWordToUser_wp
  obtain rfl : r = true := hcopied.success.mpr h
  refine ⟨t, hrun, (hcopied.stored rfl).trans ?_⟩
  rw [storedBytes, List.map_map]
  rfl

/-- The write buffer holds the bytes of the process, and the process keeps them. -/
theorem buffer_copied {output : Buf} (hsize : ABI_MAX_WRITE_BYTES < output.size) {bs : List UInt8}
    (h : Admits mapped s.user a.toNat 8) (hbs : s.user.bytes a.toNat 8 = bs.map some) :
    ∃ out t, (copyLinuxWriteBuffer mapped a 8 output : Prog Empty RootTask (Bool × Buf)) s =
      .ok (true, out) t ∧ out.slice 0 8 = bs ∧ t.user = s.user := by
  obtain ⟨⟨ok, out⟩, t, hrun, hcopied⟩ : ∃ r t, (copyLinuxWriteBuffer mapped a 8 output :
      Prog Empty RootTask (Bool × Buf)) s = .ok r t ∧
      WriteBufferCopied mapped a.toNat 8 output s r t :=
    exists_ok (copyLinuxWriteBuffer_wp hsize)
  obtain rfl : ok = true := hcopied.success.mpr ⟨by decide, by decide, h⟩
  refine ⟨out, t, hrun, ?_, hcopied.user⟩
  have hbytes := (hcopied.copied rfl).1
  rw [hbs] at hbytes
  exact ((List.map_inj_right fun _ _ => Option.some.inj).mp hbytes).symm

/-! ## The two paths -/

/-- The read of a file of eight bytes stores its packed bytes. -/
theorem readPath_run {archive : Buf} {entry : Entry}
    (hin : entry.data + entry.size ≤ archive.size) (hsize : entry.size = 8) :
    readPath archive entry mapped a s =
      copyLinuxWordToUser mapped a (be (archive.slice entry.data 8)) s := by
  have hp : (entryPayloadWord archive entry : Prog Empty RootTask (Option Word)) s =
      .ok (payload archive entry) s := entryPayloadWord_run hin
  have hpay : payload archive entry = some (be (archive.slice entry.data 8)) := by
    simp [payload, hsize]
  rw [readPath, bind_run, hp, hpay]

/-- The record is read back as it was written. -/
theorem writePath_run (d : Romfsd) (server : Server) (bs : List UInt8) (output : Buf)
    (hopen : server.volatileStateOpen) (hsize : output.size = ABI_MAX_WRITE_BYTES + 1)
    (h : Admits mapped s.user a.toNat 8) (hbs : s.user.bytes a.toNat 8 = bs.map some)
    (mapped' : Bool) (destination : Word) : ∃ t, t.user = s.user ∧
      writePath d server mapped mapped' a destination output s =
        copyLinuxWordToUser mapped' destination (be bs) t := by
  have hlt : ABI_MAX_WRITE_BYTES < output.size := by omega
  obtain ⟨out, t, hrun, hout, huser⟩ := buffer_copied hlt h hbs
  have hrecord : server.record = some server.volatileState := if_pos hopen
  have hwrite : recordOp (.ofWords [OP_WRITE, FD_VOLATILE_STATE, be bs]) = .writes (be bs) := rfl
  have hread : recordOp (.ofWords [OP_READ, FD_VOLATILE_STATE, 0]) = .reads := rfl
  obtain ⟨-, hs⟩ := d.handle_refines (.ofWords [OP_WRITE, FD_VOLATILE_STATE, be bs]) server
  simp only [Romfsd.step, hwrite, hrecord, Op.next] at hs
  obtain ⟨hr, -⟩ := d.handle_refines (.ofWords [OP_READ, FD_VOLATILE_STATE, 0])
    (d.handle (.ofWords [OP_WRITE, FD_VOLATILE_STATE, be bs]) server).2
  simp only [Romfsd.step, hread, hs, Op.reply, Option.getD_some] at hr
  refine ⟨t, huser, ?_⟩
  rw [writePath, bind_run, hrun]
  show copyLinuxWordToUser mapped' destination ((d.handle _ (d.handle (.ofWords
    [OP_WRITE, FD_VOLATILE_STATE, volatileWord (out.slice 0 8)]) server).2).1.mr 2) t = _
  rw [hout, show volatileWord bs = be bs from rfl, hr]
  rfl

/-! ## The order of the bytes -/

/-- Eight bytes survive being packed and stored exactly when they read the same backwards. -/
theorem survive_iff {bs : List UInt8} (hlen : bs.length = 8) :
    (storedBytes (be bs)).map some = bs.map some ↔ bs.reverse = bs := by
  rw [storedBytes_be hlen]
  refine ⟨fun he => ?_, fun he => by rw [he]⟩
  exact (List.map_inj_right fun _ _ => Option.some.inj).mp he

/-- What the process finds at `a`, in a page that it can write, after a read of a file of eight
bytes, and after a write of eight of its bytes to the open record and a read of it: the bytes in
their order exactly when they read the same backwards. -/
theorem bytes_survive_iff (mapped : Bool) (s : RootTask) (a : Word)
    (hok : Admits mapped s.user a.toNat 8) :
    (∀ (archive : Buf) (pathname : CStr) (entry : Entry),
      (cpioLookupRegular archive pathname : Prog Empty Unit (Option Entry)) () =
        .ok (some entry) () → entry.size = 8 →
      ∃ t, readPath archive entry mapped a s = .ok true t ∧
        (t.user.bytes a.toNat 8 = (archive.slice entry.data 8).map some ↔
          (archive.slice entry.data 8).reverse = archive.slice entry.data 8)) ∧
    (∀ (d : Romfsd) (server : Server) (bs : List UInt8) (output : Buf),
      server.volatileStateOpen → bs.length = 8 → output.size = ABI_MAX_WRITE_BYTES + 1 →
      ∀ (mapped' : Bool) (source : Word), s.user.bytes source.toNat 8 = bs.map some →
        Admits mapped' s.user source.toNat 8 →
        ∃ t, writePath d server mapped' mapped source a output s = .ok true t ∧
          (t.user.bytes a.toNat 8 = bs.map some ↔ bs.reverse = bs)) := by
  refine ⟨fun archive pathname entry hfound hsize => ?_,
    fun d server bs output hopen hlen houtput mapped' source hbs hsource => ?_⟩
  · obtain ⟨r, hin, hr⟩ := cpioLookupRegular_run archive pathname
    have he : r = some entry := by
      rw [hr] at hfound
      cases hfound
      rfl
    obtain ⟨t, hrun, hbytes⟩ := word_copied (be (archive.slice entry.data 8)) hok
    refine ⟨t, by rw [readPath_run (hin entry he) hsize, hrun], ?_⟩
    rw [hbytes]
    exact survive_iff (Buf.length_slice _ _ _)
  · obtain ⟨t, huser, hwrite⟩ := writePath_run d server bs output hopen houtput hsource hbs mapped a
    rw [← huser] at hok
    obtain ⟨t', hrun, hbytes⟩ := word_copied (be bs) hok
    refine ⟨t', by rw [hwrite, hrun], ?_⟩
    rw [hbytes]
    exact survive_iff hlen

/-- `/selinos-release` in the archive of the image. -/
theorem release_found :
    (cpioLookupRegular selinosRomfsCpioArchive RELEASE_PATH : Prog Empty Unit (Option Entry)) () =
      .ok (some ⟨128, 8⟩) () := by
  decide +kernel

/-- Eight bytes in the page of the samples. -/
theorem admits_onePage (bs : List UInt8) :
    Admits true (sampleTask bs).user (0x1000 : Word).toNat 8 ∧
      Admits true (sampleTask bs).user (0x1100 : Word).toNat 8 := by
  have hbase : pageBase (0x1000 : Word).toNat = 0x1000 ∧ pageBase (0x1100 : Word).toNat = 0x1000 :=
    by decide
  refine ⟨⟨rfl, 1, ?_, by decide, by decide⟩, ⟨rfl, 1, ?_, by decide, by decide⟩⟩
  · rw [hbase.1]
    rfl
  · rw [hbase.2]
    rfl

/-- `/selinos-release`, and a write that reads the same backwards. -/
theorem bytes_survive_sample :
    (∃ t, readPath selinosRomfsCpioArchive ⟨128, 8⟩ true 0x1000 (sampleTask []) = .ok true t ∧
      (t.user.bytes 0x1000 8 = (selinosRomfsCpioArchive.slice 128 8).map some ↔
        (selinosRomfsCpioArchive.slice 128 8).reverse = selinosRomfsCpioArchive.slice 128 8)) ∧
    ∃ t, writePath Romfsd.image ⟨0, true⟩ true true 0x1000 0x1100 sampleOutput
        (sampleTask [65, 66, 67, 68, 68, 67, 66, 65]) = .ok true t ∧
      t.user.bytes 0x1100 8 = [65, 66, 67, 68, 68, 67, 66, 65].map some := by
  refine ⟨(bytes_survive_iff true (sampleTask []) 0x1000 (admits_onePage []).1).1 _ RELEASE_PATH _
    release_found rfl, ?_⟩
  have hsurvive := bytes_survive_iff true (sampleTask [65, 66, 67, 68, 68, 67, 66, 65]) 0x1100
    (admits_onePage _).2
  obtain ⟨t, hrun, hiff⟩ := hsurvive.2 Romfsd.image ⟨0, true⟩ [65, 66, 67, 68, 68, 67, 66, 65]
    sampleOutput rfl rfl rfl true 0x1000 (by decide) (admits_onePage _).1
  exact ⟨t, hrun, hiff.mpr rfl⟩

/-- The process finds `!SONILES` for the file `SELINOS!`, and `!0METATS` for its own `STATEM0!`. -/
theorem bytes_reversed :
    (∃ t, readPath selinosRomfsCpioArchive ⟨128, 8⟩ true 0x1000 (sampleTask []) = .ok true t ∧
      selinosRomfsCpioArchive.slice 128 8 = [83, 69, 76, 73, 78, 79, 83, 33] ∧
      t.user.bytes 0x1000 8 = [33, 83, 79, 78, 73, 76, 69, 83].map some) ∧
    ∃ t, writePath Romfsd.image ⟨0, true⟩ true true 0x1000 0x1100 sampleOutput
        (sampleTask [83, 84, 65, 84, 69, 77, 48, 33]) = .ok true t ∧
      t.user.bytes 0x1100 8 = [33, 48, 77, 69, 84, 65, 84, 83].map some := by
  have hslice : selinosRomfsCpioArchive.slice 128 8 = [83, 69, 76, 73, 78, 79, 83, 33] := by
    decide +kernel
  constructor
  · obtain ⟨t, hrun, hbytes⟩ :=
      word_copied (be [83, 69, 76, 73, 78, 79, 83, 33]) (admits_onePage []).1
    rw [storedBytes_be rfl] at hbytes
    refine ⟨t, ?_, hslice, hbytes⟩
    rw [readPath_run (by decide) rfl, hslice, hrun]
  · obtain ⟨hsource, hdestination⟩ := admits_onePage [83, 84, 65, 84, 69, 77, 48, 33]
    obtain ⟨t, huser, hwrite⟩ := writePath_run Romfsd.image ⟨0, true⟩
      [83, 84, 65, 84, 69, 77, 48, 33] sampleOutput rfl rfl hsource (by decide) true 0x1100
    rw [← huser] at hdestination
    obtain ⟨t', hrun, hbytes⟩ := word_copied (be [83, 84, 65, 84, 69, 77, 48, 33]) hdestination
    rw [storedBytes_be rfl] at hbytes
    exact ⟨t', by rw [hwrite, hrun], hbytes⟩

end SeLinOS.Gateway
