import SeLinOS.Kabi.Link

/-!
# The export table and the version check

* `selinos_kabi_resolve_export` and `selinos_kabi_resolve_export_crc`
  (`kabi/src/selinos_kabi_exports.c`): one search, `lookupExport`, of which the two return the
  address and the CRC.
* `selinos_kabi_verify_module_versions` (`kabi/src/selinos_kabi_module.c`), and what an accepted
  image satisfies (`verifyModuleVersions_wp`): every record of its first `__versions` section agrees
  with the resolver.
-/

namespace SeLinOS.Kabi

open CLogic Prog

/-! ## The export table -/

/-- `struct selinos_kabi_export`; `name` is `none` for a NULL pointer. -/
structure Export where
  name : Option CStr
  crc : BitVec 32
  runtimeAddress : BitVec 64

/-- `names_equal` on two strings. -/
def namesEqual : List UInt8 → List UInt8 → Bool
  | a :: left, b :: right => if a ≠ b then false else namesEqual left right
  | [], [] => true
  | _, _ => false

/-- The entry matches: it has an address, and its name is `name`. -/
def Export.matches (name : CStr) (entry : Export) : Bool :=
  entry.runtimeAddress != 0 && match entry.name with
    | none => false
    | some entryName => namesEqual name.bytes entryName.bytes

/-- The search of the two functions below: the first entry that matches. -/
def lookupExport (entries : List Export) (name : CStr) : Option Export :=
  if name.bytes = [] then none else entries.find? (Export.matches name)

/-- `selinos_kabi_resolve_export`. -/
def resolveExport (entries : List Export) : Resolver := fun name =>
  (lookupExport entries name).map Export.runtimeAddress

/-- `selinos_kabi_resolve_export_crc`. -/
def resolveExportCrc (entries : List Export) (name : CStr) : Option (BitVec 32) :=
  (lookupExport entries name).map Export.crc

/-! ## The version check -/

/-- `sizeof(struct selinos_modversion_info)` and its array `name`. -/
def modversionSize : Nat := 64
def modversionNameSize : Nat := 56

/-- The place of the name of record `k` of the section `sh`; the CRC is in the 8 bytes before. -/
def recordName (sh : Shdr) (k : Nat) : Nat := sh.offset + modversionSize * k + 8

/-- The checks of one record. -/
def verifyRecord (img : Buf) (resolveCrc : CStr → Option (BitVec 32)) (sh : Shdr) (k : Nat) :
    Prog Status Unit Unit := do
  let terminated ← stringTerminated img (recordName sh k) modversionNameSize
  if !terminated then Prog.ret .eSymbol
  else
    let first ← img.read (recordName sh k)
    if first = 0 then Prog.ret .eSymbol
    else
      let name ← img.readCStr (recordName sh k) modversionNameSize
      match resolveCrc name with
      | none => Prog.ret .eSymbol
      | some expectedCrc =>
        let o := sh.offset + modversionSize * k
        let crc ← img.load o 8 (img.le o 8)
        if crc ≠ expectedCrc.toNat then Prog.ret .eSymbol else pure ()

/-- One iteration of the section loop; `some` where the C function returns OK. -/
def verifySection (img : Buf) (resolveCrc : CStr → Option (BitVec 32)) (names : Shdr)
    (index : Nat) : Prog Status Unit (Option Unit) := do
  let sh ← loadSection img index
  if sh.name ≥ names.size then Prog.ret .eSections
  else
    let isVersions ← nameEquals img (names.offset + sh.name) (names.size - sh.name) versionsName
    if !isVersions then pure none
    else if sh.size = 0 ∨ sh.size % modversionSize ≠ 0 ∨
        ¬ rangeOk img.size sh.offset sh.size then
      Prog.ret .eMetadata
    else
      Prog.forUp (verifyRecord img resolveCrc sh) 0 (sh.size / modversionSize)
      pure (some ())

/-- `selinos_kabi_verify_module_versions` with a resolver; it falls through where the C function
returns `SELINOS_KABI_MODULE_OK`. -/
def verifyModuleVersions (img : Buf) (required : CStr)
    (resolveCrc : CStr → Option (BitVec 32)) : Prog Status Unit Unit := do
  let parsed ← Prog.call (parseModule img required) Summary.zero
  match parsed.1 with
  | .error _ => Prog.ret .eMetadata
  | .ok _ =>
    if ¬ parsed.2.hasVersions then Prog.ret .eMetadata
    else
      let header ← img.load 0 ehdrSize (Ehdr.at img)
      let names ← loadSection img header.shstrndx
      let verified ← Prog.firstUp (verifySection img resolveCrc names) 0 header.shnum
      match verified with
      | none => Prog.ret .eMetadata
      | some _ => pure ()

/-! ## What an accepted image satisfies -/

variable {img : Buf} {resolveCrc : CStr → Option (BitVec 32)}

/-- Section `i` is called `__versions`. -/
def IsVersions (img : Buf) (i : Nat) : Prop :=
  let names := sectionAt img (Ehdr.at img).shstrndx
  nameIs img (names.offset + (sectionAt img i).name) (names.size - (sectionAt img i).name)
    versionsName

instance (i : Nat) : Decidable (IsVersions img i) := inferInstanceAs (Decidable (nameIs ..))

/-- Record `k` of section `i` is one of the image's version records, and it names `name`. -/
structure RecordNames (img : Buf) (i k : Nat) (name : CStr) : Prop where
  section_ : i < (Ehdr.at img).shnum ∧ IsVersions img i
  record : k < (sectionAt img i).size / modversionSize
  terminated : 0 ∈ img.slice (recordName (sectionAt img i) k) modversionNameSize
  name : img.cstr (recordName (sectionAt img i) k) modversionNameSize = name

/-- The CRC of record `k` of section `i`. -/
def recordCrc (img : Buf) (i k : Nat) : Nat :=
  img.le ((sectionAt img i).offset + modversionSize * k) 8

/-- Section `i` is the first `__versions` section. -/
structure FirstVersions (img : Buf) (i : Nat) : Prop where
  lt : i < (Ehdr.at img).shnum
  versions : IsVersions img i
  first : ∀ j < i, ¬ IsVersions img j

theorem FirstVersions.unique {i j : Nat} (hi : FirstVersions img i) (hj : FirstVersions img j) :
    i = j := by
  rcases Nat.lt_trichotomy i j with h | h | h
  · exact absurd hi.versions (hj.first i h)
  · exact h
  · exact absurd hj.versions (hi.first j h)

/-- Record `k` of section `i` agrees with the resolver. -/
def RecordOk (img : Buf) (resolveCrc : CStr → Option (BitVec 32)) (i k : Nat) : Prop :=
  ∃ crc, resolveCrc (img.cstr (recordName (sectionAt img i) k) modversionNameSize) = some crc ∧
    recordCrc img i k = crc.toNat

/-- Record `k` of section `i` passes its checks. -/
structure RecordValid (img : Buf) (resolveCrc : CStr → Option (BitVec 32)) (i k : Nat) : Prop where
  terminated : 0 ∈ img.slice (recordName (sectionAt img i) k) modversionNameSize
  named : img.byte (recordName (sectionAt img i) k) ≠ 0
  agrees : RecordOk img resolveCrc i k

/-- Section `i` passes the checks of a `__versions` section. -/
structure VersionsValid (img : Buf) (resolveCrc : CStr → Option (BitVec 32)) (i : Nat) :
    Prop where
  nonempty : (sectionAt img i).size ≠ 0
  multiple : (sectionAt img i).size % modversionSize = 0
  range : (sectionAt img i).offset + (sectionAt img i).size ≤ img.size
  records : ∀ k < (sectionAt img i).size / modversionSize, RecordValid img resolveCrc i k

theorem verifyRecord_wp {i k : Nat} {s : Unit}
    (h : recordName (sectionAt img i) k + modversionNameSize ≤ img.size) :
    wp (verifyRecord img resolveCrc (sectionAt img i) k)
      (fun _ _ => RecordValid img resolveCrc i k) (fun _ _ => ¬ RecordValid img resolveCrc i k)
      s := by
  have hcrc : (sectionAt img i).offset + modversionSize * k + 8 ≤ img.size := by
    simp only [recordName, modversionNameSize] at h
    omega
  have hname : 0 < modversionNameSize := by decide
  unfold verifyRecord
  refine wp_bind (wp_of_run (stringTerminated_run h) ?_)
  refine wp_ite (fun hn => wp_ret fun hv => ?_) fun hterm => ?_
  · simp [hv.terminated] at hn
  have hterm : 0 ∈ img.slice (recordName (sectionAt img i) k) modversionNameSize := by
    simpa using hterm
  refine wp_bind (Buf.wp_read (by omega) (wp_ite (fun hz => wp_ret fun hv => hv.named hz) ?_))
  intro hfirst
  refine wp_bind (Buf.wp_readCStr h hterm ?_)
  cases hr : resolveCrc (img.cstr (recordName (sectionAt img i) k) modversionNameSize) with
  | none =>
    refine wp_ret fun hv => ?_
    obtain ⟨crc, hcrc, -⟩ := hv.agrees
    rw [hr] at hcrc
    cases hcrc
  | some crc =>
    refine wp_bind (Buf.wp_load hcrc ?_)
    refine wp_ite (fun hne => wp_ret fun hv => ?_) fun heq => wp_pure ?_
    · obtain ⟨crc', hcrc', heq⟩ := hv.agrees
      obtain rfl := Option.some.inj (hr.symm.trans hcrc')
      exact hne heq
    · exact ⟨hterm, hfirst, crc, hr, not_not.mp heq⟩

/-- What the section loop leaves when it returns at section `i`. -/
def SectionVerified (img : Buf) (resolveCrc : CStr → Option (BitVec 32)) (i : Nat) : Prop :=
  ∀ k < (sectionAt img i).size / modversionSize, RecordOk img resolveCrc i k

theorem verifySection_wp {i : Nat} {s : Unit} (hw : WellFormed img)
    (hi : i < (Ehdr.at img).shnum) :
    wp (verifySection img resolveCrc (sectionAt img (Ehdr.at img).shstrndx) i)
      (fun r _ => match r with
        | some _ => IsVersions img i ∧ VersionsValid img resolveCrc i
        | none => ¬ IsVersions img i)
      (fun _ _ => IsVersions img i ∧ ¬ VersionsValid img resolveCrc i) s := by
  have hn := hw.header.names
  have hname := (hw.sections i hi).name
  unfold verifySection
  refine wp_bind (loadSection_wp hw.header.table hi ?_)
  refine wp_ite (fun hc => absurd hc (Nat.not_le.mpr hname)) fun _ => ?_
  refine wp_bind (wp_of_run (nameEquals_run (by omega)) ?_)
  refine wp_ite (fun hv => wp_pure (by simpa [IsVersions] using hv)) fun hv => ?_
  have hv : IsVersions img i := by simpa [IsVersions] using hv
  refine wp_ite (fun hc => wp_ret ⟨hv, fun hvalid => ?_⟩) fun hc => ?_
  · rcases hc with hc | hc | hc
    · exact hvalid.nonempty hc
    · exact hc hvalid.multiple
    · exact hc (rangeOk_iff.mpr hvalid.range)
  · simp only [not_or, not_not] at hc
    obtain ⟨hsize, hmultiple, hrange⟩ := hc
    rw [rangeOk_iff] at hrange
    refine wp_seq (wp_forUp (fun k _ => ∀ j < k, RecordValid img resolveCrc i j)
      (E := fun _ _ => IsVersions img i ∧ ¬ VersionsValid img resolveCrc i) 0 _ s
      (fun j hj => by omega) ?_) (fun _ _ h => h) ?_
    · intro k s' _ hk hrec
      have hle : (sectionAt img i).offset + modversionSize * k + modversionSize ≤ img.size :=
        entry_le hrange (by omega)
      have hrecord : recordName (sectionAt img i) k + modversionNameSize ≤ img.size := by
        simp only [recordName, modversionNameSize, modversionSize] at hle ⊢
        omega
      refine wp_mono (verifyRecord_wp hrecord) (fun _ _ h j hj => ?_)
        fun _ _ h => ⟨hv, fun hvalid => h (hvalid.records k (by omega))⟩
      rcases Nat.lt_succ_iff_lt_or_eq.mp hj with hj | rfl
      · exact hrec j hj
      · exact h
    · intro _ _ hrec
      rw [Nat.zero_add] at hrec
      exact wp_pure ⟨hv, hsize, hmultiple, hrange, hrec⟩

/-- The section loop stops at the first `__versions` section, and its outcome is that of the checks
of this section. -/
theorem verifySections_wp {s : Unit} (hw : WellFormed img) :
    wp (firstUp (verifySection img resolveCrc (sectionAt img (Ehdr.at img).shstrndx)) 0
        (Ehdr.at img).shnum)
      (fun r _ => match r with
        | some _ => ∃ i, FirstVersions img i ∧ VersionsValid img resolveCrc i
        | none => ∀ i < (Ehdr.at img).shnum, ¬ IsVersions img i)
      (fun _ _ => ∃ i, FirstVersions img i ∧ ¬ VersionsValid img resolveCrc i) s := by
  refine wp_firstUp (fun i _ => ∀ j < i, ¬ IsVersions img j) 0 _ s (fun j hj => by omega) ?_
    fun _ h => by rwa [Nat.zero_add] at h
  intro i s' _ hi hfirst
  refine wp_mono (verifySection_wp hw (by omega)) (fun r _ h => ?_) fun _ _ h => ?_
  · cases r with
    | some _ => exact ⟨i, ⟨by omega, h.1, hfirst⟩, h.2⟩
    | none =>
      intro j hj
      rcases Nat.lt_succ_iff_lt_or_eq.mp hj with hj | rfl
      · exact hfirst j hj
      · exact h
  · exact ⟨i, ⟨by omega, h.1, hfirst⟩, h.2⟩

/-- **The version check**: from any image it terminates and reads in the image only; of an accepted
image, every record of the first `__versions` section agrees with the resolver. -/
theorem verifyModuleVersions_wp {required : CStr} {s : Unit} :
    wp (verifyModuleVersions img required resolveCrc)
      (fun _ _ => ∃ i, FirstVersions img i ∧ SectionVerified img resolveCrc i)
      (fun _ _ => True) s := by
  refine wp_bind (wp_call (wp_mono parseModule_wp ?_ fun _ _ _ => wp_ret trivial))
  intro _ summary hw
  refine wp_ite (fun _ => wp_ret trivial) fun _ => ?_
  refine wp_bind (Buf.wp_load (by have := hw.header.header; omega) ?_)
  refine wp_bind (loadSection_wp hw.header.table hw.header.shstrndx ?_)
  refine wp_seq (wp_mono (verifySections_wp hw) (fun _ _ h => h) fun _ _ _ => trivial)
    (fun _ _ h => h) fun r _ h => ?_
  cases r with
  | none => exact wp_ret trivial
  | some _ =>
    obtain ⟨i, hfirst, hvalid⟩ := h
    exact wp_pure ⟨i, hfirst, fun k hk => (hvalid.records k hk).agrees⟩

end SeLinOS.Kabi
