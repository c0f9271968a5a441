import SeLinOS.Romfs.Clients

/-!
# Opening by path

`OPEN_PATH` has a length and two words, and two tests of them: the words of `"/selinos-state"` as a
whole, and the file table by the first bytes.

* `packing`, `path`: the sixteen bytes of the words, and those that the length counts.
* `Padded`: the bytes after `"/selinos-state"` are zero.
* `openPath_iff`: the reply is that of the path exactly for padded requests.
-/

namespace SeLinOS.Romfs

open CLogic Prog Sel4

/-- `"/selinos-state"`. -/
def STATE_PATH : CStr :=
  ⟨[47, 115, 101, 108, 105, 110, 111, 115, 45, 115, 116, 97, 116, 101], by decide⟩

/-- The big-endian bytes of the two words. -/
def packing (firstWord secondWord : Word) : List UInt8 :=
  (List.range 16).map (packedByte firstWord secondWord)

/-- The first `byteLength` bytes of the packing. -/
def path (byteLength firstWord secondWord : Word) : List UInt8 :=
  (packing firstWord secondWord).take byteLength.toNat

/-- The first `byteLength` bytes are there, and they are the pathname. -/
def IsPath (byteLength firstWord secondWord : Word) (pathname : CStr) : Prop :=
  byteLength.toNat = pathname.bytes.length ∧ path byteLength firstWord secondWord = pathname.bytes

instance (byteLength firstWord secondWord : Word) (pathname : CStr) :
    Decidable (IsPath byteLength firstWord secondWord pathname) :=
  inferInstanceAs (Decidable (_ ∧ _))

/-- The descriptor of each pathname: the files and the record. -/
def descriptors : List (Word × CStr) :=
  [(FD_RELEASE, RELEASE_PATH), (FD_BANNER, BANNER_PATH), (FD_VERSION, VERSION_PATH),
    (FD_VOLATILE_STATE, STATE_PATH)]

/-- The reply to an `OPEN_PATH` request of four words. -/
def Romfsd.openPath (d : Romfsd) (s : Server) (byteLength firstWord secondWord : Word) : Message :=
  (d.handle (callRomfsOpenPath byteLength firstWord secondWord) s).1

/-- The reply is `OK` with a descriptor exactly when the bytes are its pathname. -/
def Romfsd.OpensPath (d : Romfsd) (s : Server) (byteLength firstWord secondWord : Word) : Prop :=
  ∀ p ∈ descriptors, d.openPath s byteLength firstWord secondWord = replyStatus STATUS_OK p.1 ↔
    IsPath byteLength firstWord secondWord p.2

/-- After `"/selinos-state"` there are two zero bytes. -/
def Padded (byteLength firstWord secondWord : Word) : Prop :=
  IsPath byteLength firstWord secondWord STATE_PATH →
    packedByte firstWord secondWord 14 = 0 ∧ packedByte firstWord secondWord 15 = 0

instance (byteLength firstWord secondWord : Word) :
    Decidable (Padded byteLength firstWord secondWord) := inferInstanceAs (Decidable (_ → _))

/-! ## The two recognisers -/

section Recognisers

variable {byteLength firstWord secondWord firstWord' secondWord' : Word}

/-- Two words are their packing. -/
theorem packing_inj (h : packing firstWord secondWord = packing firstWord' secondWord') :
    firstWord = firstWord' ∧ secondWord = secondWord' := by
  have hbyte := List.map_inj_left.mp h
  constructor
  · refine eq_of_wordByte fun k hk => ?_
    have hb := hbyte (7 - k) (List.mem_range.mpr (by omega))
    have hlt : 7 - k < 8 := by omega
    have hindex : 8 - 1 - (7 - k) % 8 = k := by omega
    simpa only [packedByte, hlt, if_true, hindex] using hb
  · refine eq_of_wordByte fun k hk => ?_
    have hb := hbyte (15 - k) (List.mem_range.mpr (by omega))
    have hlt : ¬ 15 - k < 8 := by omega
    have hindex : 8 - 1 - (15 - k) % 8 = k := by omega
    simpa only [packedByte, hlt, if_false, hindex] using hb

/-- The packing of a path of 14 bytes: the path, and two bytes. -/
theorem packing_of_path {pathname : CStr} (h : IsPath byteLength firstWord secondWord pathname)
    (hlength : pathname.bytes.length = 14) : packing firstWord secondWord =
      pathname.bytes ++
        [packedByte firstWord secondWord 14, packedByte firstWord secondWord 15] := by
  rw [← h.2, path, h.1, hlength]
  rfl

/-- The words of `"/selinos-state"`: the path, padded with zeros. -/
theorem isStatePath_iff :
    IsStatePath (callRomfsOpenPath byteLength firstWord secondWord) ↔
      IsPath byteLength firstWord secondWord STATE_PATH ∧
        packedByte firstWord secondWord 14 = 0 ∧ packedByte firstWord secondWord 15 = 0 := by
  constructor
  · rintro ⟨h1, h2, h3⟩
    obtain rfl : byteLength = 14 := h1
    obtain rfl : firstWord = 0x2f73656c696e6f73 := h2
    obtain rfl : secondWord = 0x2d73746174650000 := h3
    decide
  · rintro ⟨hpath, h14, h15⟩
    have hpacking := packing_of_path hpath rfl
    rw [h14, h15] at hpacking
    have hwords : firstWord = 0x2f73656c696e6f73 ∧ secondWord = 0x2d73746174650000 :=
      packing_inj hpacking
    exact ⟨BitVec.eq_of_toNat_eq hpath.1, hwords⟩

/-- The pathnames of the table have 1 to 16 printable characters. -/
theorem romfsFiles_printable : ∀ f ∈ romfsFiles, 0 < f.pathname.bytes.length ∧
    f.pathname.bytes.length ≤ 16 ∧
    f.pathname.bytes.any (fun character => character ≤ 32 || character > 126) = false := by
  decide

theorem path_eq (h : byteLength.toNat ≤ 16) : path byteLength firstWord secondWord =
    (List.range byteLength.toNat).map (packedByte firstWord secondWord) := by
  rw [path, packing, ← List.map_take, List.take_range, Nat.min_eq_left h]

/-- The table is searched by the path. -/
theorem fileByPackedPath_iff {f : File} :
    fileByPackedPath byteLength firstWord secondWord = some f ↔
      f ∈ romfsFiles ∧ IsPath byteLength firstWord secondWord f.pathname := by
  have hdistinct : ∀ f ∈ romfsFiles, ∀ bytes, f.pathname.bytes = bytes →
      romfsFiles.find? (·.pathname.bytes == bytes) = some f := by
    rintro f hf bytes rfl
    revert f hf
    decide
  unfold fileByPackedPath
  constructor
  · intro h
    split at h
    · cases h
    rename_i hlength
    simp only [not_or, BitVec.not_lt] at hlength
    have hle : byteLength.toNat ≤ 16 := hlength.2
    simp only at h
    split at h
    · cases h
    have hbytes := List.find?_some h
    rw [beq_iff_eq] at hbytes
    refine ⟨List.mem_of_find?_eq_some h, ?_, (path_eq hle).trans hbytes.symm⟩
    rw [hbytes, List.length_map, List.length_range]
  · rintro ⟨hf, hlength, hpath⟩
    obtain ⟨hpos, hle, hprintable⟩ := romfsFiles_printable f hf
    rw [if_neg]
    · rw [path_eq (by omega)] at hpath
      simp only [hpath, hprintable, Bool.false_eq_true, if_false]
      exact hdistinct f hf _ rfl
    · rintro (h | h)
      · rw [h] at hlength
        exact absurd hlength (Nat.ne_of_lt hpos)
      · have : PATH_MAX_BYTES.toNat = 16 := rfl
        rw [gt_iff_lt, BitVec.lt_def] at h
        omega

end Recognisers

/-! ## The reply -/

variable {d : Romfsd} {byteLength firstWord secondWord : Word}

/-- Every file of the table has passed the self check. -/
theorem Romfsd.checked_mem (d : Romfsd) : ∀ f ∈ romfsFiles, ∃ magic,
    fileSelfCheck d.archive f.pathname f.expectedDataLength magic () = .ok true () := by
  obtain ⟨hrelease, hbanner, hversion⟩ := d.files
  exact List.forall_mem_cons.mpr ⟨⟨_, hrelease⟩, List.forall_mem_cons.mpr ⟨⟨_, hbanner⟩,
    List.forall_mem_singleton.mpr ⟨_, hversion⟩⟩⟩

/-- A file of the table is opened. -/
theorem Romfsd.openFile_mem (d : Romfsd) {f : File} (hf : f ∈ romfsFiles) (s : Server) :
    openFile d.archive (some f) s = .ok (replyStatus STATUS_OK f.fd) s := by
  obtain ⟨magic, hchecked⟩ := d.checked_mem f hf
  exact openFile_found hchecked s

/-- The reply: the whole words first, then the table. -/
theorem Romfsd.openPath_eq (d : Romfsd) (s : Server) (byteLength firstWord secondWord : Word) :
    d.openPath s byteLength firstWord secondWord =
      if IsStatePath (callRomfsOpenPath byteLength firstWord secondWord) then
        replyStatus STATUS_OK FD_VOLATILE_STATE
      else
        match fileByPackedPath byteLength firstWord secondWord with
        | none => replyStatus STATUS_ENOENT 0
        | some f => replyStatus STATUS_OK f.fd := by
  unfold Romfsd.openPath
  by_cases hstate : IsStatePath (callRomfsOpenPath byteLength firstWord secondWord)
  · have hrun : handleRequest d.archive (callRomfsOpenPath byteLength firstWord secondWord) s =
        .ok (replyStatus STATUS_OK FD_VOLATILE_STATE) ⟨VOLATILE_STATE_INITIAL, true⟩ := by
      show handleOpenPath d.archive (callRomfsOpenPath byteLength firstWord secondWord) s = _
      rw [handleOpenPath, if_pos ⟨rfl, hstate⟩]
      rfl
    rw [if_pos hstate]
    exact congrArg Prod.fst (Romfsd.handle_run hrun)
  · rw [if_neg hstate]
    have hrun : handleRequest d.archive (callRomfsOpenPath byteLength firstWord secondWord) s =
        openFile d.archive (fileByPackedPath byteLength firstWord secondWord) s := by
      show handleOpenPath d.archive (callRomfsOpenPath byteLength firstWord secondWord) s = _
      rw [handleOpenPath, if_neg fun h => hstate h.2, if_neg fun h => h rfl]
      rfl
    cases hfile : fileByPackedPath byteLength firstWord secondWord with
    | none =>
      rw [hfile] at hrun
      exact congrArg Prod.fst (Romfsd.handle_run hrun)
    | some f =>
      rw [hfile, d.openFile_mem (fileByPackedPath_iff.mp hfile).1] at hrun
      exact congrArg Prod.fst (Romfsd.handle_run hrun)

theorem replyStatus_inj {a b : Word} (h : replyStatus STATUS_OK a = replyStatus STATUS_OK b) :
    a = b :=
  (List.cons.inj (List.cons.inj (congrArg Message.words h)).2).1

theorem replyStatus_enoent (fd : Word) : replyStatus STATUS_ENOENT 0 ≠ replyStatus STATUS_OK fd :=
  fun h => absurd (List.cons.inj (congrArg Message.words h)).1 (by decide)

/-- The record is opened by its words. -/
theorem Romfsd.openPath_state (d : Romfsd) (s : Server) :
    d.openPath s byteLength firstWord secondWord = replyStatus STATUS_OK FD_VOLATILE_STATE ↔
      IsStatePath (callRomfsOpenPath byteLength firstWord secondWord) := by
  have hfds : ∀ f ∈ romfsFiles, f.fd ≠ FD_VOLATILE_STATE := by decide
  rw [d.openPath_eq]
  by_cases hstate : IsStatePath (callRomfsOpenPath byteLength firstWord secondWord)
  · simp [hstate]
  · rw [if_neg hstate]
    cases hfile : fileByPackedPath byteLength firstWord secondWord with
    | none => exact iff_of_false (replyStatus_enoent _) hstate
    | some f =>
      exact iff_of_false (fun h => hfds f (fileByPackedPath_iff.mp hfile).1 (replyStatus_inj h))
        hstate

/-- A file is opened by its path. -/
theorem Romfsd.openPath_file (d : Romfsd) (s : Server) {f : File} (hf : f ∈ romfsFiles) :
    d.openPath s byteLength firstWord secondWord = replyStatus STATUS_OK f.fd ↔
      IsPath byteLength firstWord secondWord f.pathname := by
  have hfds : ∀ f ∈ romfsFiles, ∀ g ∈ romfsFiles, f.fd = g.fd → f = g := by decide
  have hvolatile : ∀ f ∈ romfsFiles,
      FD_VOLATILE_STATE ≠ f.fd ∧ f.pathname.bytes ≠ STATE_PATH.bytes := by
    decide
  rw [d.openPath_eq]
  by_cases hstate : IsStatePath (callRomfsOpenPath byteLength firstWord secondWord)
  · rw [if_pos hstate]
    refine iff_of_false (fun h => (hvolatile f hf).1 (replyStatus_inj h)) fun h => ?_
    exact (hvolatile f hf).2 (h.2.symm.trans (isStatePath_iff.mp hstate).1.2)
  · rw [if_neg hstate]
    cases hfile : fileByPackedPath byteLength firstWord secondWord with
    | none =>
      refine iff_of_false (replyStatus_enoent _) fun h => ?_
      have hsome := hfile.symm.trans (fileByPackedPath_iff.mpr ⟨hf, h⟩)
      exact absurd hsome (Option.some_ne_none f).symm
    | some g =>
      obtain ⟨hg, hpath⟩ := fileByPackedPath_iff.mp hfile
      constructor
      · intro h
        rwa [← hfds g hg f hf (replyStatus_inj h)]
      · intro h
        obtain rfl := Option.some.inj (hfile.symm.trans (fileByPackedPath_iff.mpr ⟨hf, h⟩))
        rfl

/-- The reply is `ENOENT`, or `OK` with a descriptor. -/
theorem Romfsd.openPath_cases (d : Romfsd) (s : Server) :
    d.openPath s byteLength firstWord secondWord = replyStatus STATUS_ENOENT 0 ∨
      ∃ p ∈ descriptors,
        d.openPath s byteLength firstWord secondWord = replyStatus STATUS_OK p.1 := by
  have hfiles : ∀ f ∈ romfsFiles, (f.fd, f.pathname) ∈ descriptors := by decide
  rw [d.openPath_eq]
  by_cases hstate : IsStatePath (callRomfsOpenPath byteLength firstWord secondWord)
  · rw [if_pos hstate]
    exact .inr ⟨(FD_VOLATILE_STATE, STATE_PATH), by decide, rfl⟩
  · rw [if_neg hstate]
    cases hfile : fileByPackedPath byteLength firstWord secondWord with
    | none => exact .inl rfl
    | some f => exact .inr ⟨_, hfiles f (fileByPackedPath_iff.mp hfile).1, rfl⟩

/-- The descriptors are right exactly for a padded request. -/
theorem Romfsd.opensPath_iff (d : Romfsd) (s : Server) :
    d.OpensPath s byteLength firstWord secondWord ↔ Padded byteLength firstWord secondWord := by
  have hstate : d.openPath s byteLength firstWord secondWord =
        replyStatus STATUS_OK FD_VOLATILE_STATE ↔
      IsPath byteLength firstWord secondWord STATE_PATH ∧
        packedByte firstWord secondWord 14 = 0 ∧ packedByte firstWord secondWord 15 = 0 :=
    (d.openPath_state s).trans isStatePath_iff
  constructor
  · intro h hpath
    exact (hstate.mp ((h (FD_VOLATILE_STATE, STATE_PATH) (by decide)).mpr hpath)).2
  · intro hpadded p hp
    have hmem : p = (FD_VOLATILE_STATE, STATE_PATH) ∨
        ∃ f ∈ romfsFiles, p = (f.fd, f.pathname) := by
      revert p
      decide
    rcases hmem with rfl | ⟨f, hf, rfl⟩
    · exact hstate.trans ⟨fun h => h.1, fun h => ⟨h, hpadded h⟩⟩
    · exact d.openPath_file s hf

/-- **Open by path**: two requests of the same length and with the same first bytes, in any two
states of the server, get the same reply, and each gets `OK` with a descriptor exactly when the
bytes are its pathname, if and only if both are padded. -/
theorem openPath_iff (d : Romfsd) (s s' : Server) {byteLength firstWord secondWord firstWord'
    secondWord' : Word}
    (h : path byteLength firstWord secondWord = path byteLength firstWord' secondWord') :
    (d.openPath s byteLength firstWord secondWord =
        d.openPath s' byteLength firstWord' secondWord' ∧
      d.OpensPath s byteLength firstWord secondWord ∧
      d.OpensPath s' byteLength firstWord' secondWord') ↔
    Padded byteLength firstWord secondWord ∧ Padded byteLength firstWord' secondWord' := by
  rw [d.opensPath_iff, d.opensPath_iff]
  refine ⟨fun hall => hall.2, fun hpadded => ⟨?_, hpadded⟩⟩
  have hsame : ∀ pathname, IsPath byteLength firstWord secondWord pathname ↔
      IsPath byteLength firstWord' secondWord' pathname := fun pathname => by
    rw [IsPath, IsPath, h]
  have hfirst := (d.opensPath_iff s).mpr hpadded.1
  have hsecond := (d.opensPath_iff s').mpr hpadded.2
  rcases d.openPath_cases s with hreply | ⟨p, hp, hreply⟩
  · rcases d.openPath_cases s' with hreply' | ⟨p, hp, hreply'⟩
    · exact hreply.trans hreply'.symm
    · have hok := (hfirst p hp).mpr ((hsame p.2).mpr ((hsecond p hp).mp hreply'))
      exact hok.trans hreply'.symm
  · have hok := (hsecond p hp).mpr ((hsame p.2).mp ((hfirst p hp).mp hreply))
    exact hreply.trans hok.symm

/-- `"/selinos-banner"`, with two different bytes behind it. -/
theorem openPath_iff_banner :
    Romfsd.image.openPath Server.boot 15 0x2f73656c696e6f73 0x2d62616e6e657200 =
      Romfsd.image.openPath Server.boot 15 0x2f73656c696e6f73 0x2d62616e6e657241 ∧
    Romfsd.image.OpensPath Server.boot 15 0x2f73656c696e6f73 0x2d62616e6e657200 ∧
    Romfsd.image.OpensPath Server.boot 15 0x2f73656c696e6f73 0x2d62616e6e657241 :=
  (openPath_iff Romfsd.image Server.boot Server.boot (by decide)).mpr ⟨by decide, by decide⟩

/-- `"/selinos-state"` with a byte behind it that is not zero is not found. -/
theorem state_path_unpadded : ¬ ∀ (d : Romfsd) (s : Server) (firstWord secondWord : Word),
    IsPath 14 firstWord secondWord STATE_PATH →
      d.openPath s 14 firstWord secondWord = replyStatus STATUS_OK FD_VOLATILE_STATE := by
  intro hall
  have hreply := hall Romfsd.image Server.boot 0x2f73656c696e6f73 0x2d73746174650001 (by decide)
  exact absurd ((Romfsd.openPath_state _ _).mp hreply) (by decide)

end SeLinOS.Romfs
