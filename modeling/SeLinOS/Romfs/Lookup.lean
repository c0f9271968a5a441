import SeLinOS.CLogic.Run
import SeLinOS.Romfs.RoundTrip

/-!
# The lookup on arbitrary bytes

* `MemberIn`, `Found`: a well-formed member of an archive, and the entry of the first one that has
  the name.
* `readHeader_member`, `lookupMember_member`: what an iteration of `cpio_lookup_regular` finds.
* `cpioLookupChecked`: the lookup where an addition or a subtraction of offsets that wraps is a
  fault.
* `lookup_iff`: the archives on which the lookup does not wrap. It finds the right entry on all.
-/

namespace SeLinOS.Romfs

open CLogic Prog Sel4

/-! ## Members -/

/-- The number that hexadecimal digits make. -/
def hexValue (digits : List UInt8) : Option Nat :=
  digits.foldlM (fun value digit => (hexDigit digit).map (16 * value + ·)) 0

/-- The bytes at `offset` are the member `m`, in the archive as a whole. -/
structure MemberIn (archive : Buf) (offset : Nat) (m : Member) : Prop where
  aligned : offset % 4 = 0
  magic : archive.slice offset 6 = [48, 55, 48, 55, 48, 49]
  mode : hexValue (archive.slice (offset + 14) 8) = some m.mode
  fileSize : hexValue (archive.slice (offset + 54) 8) = some m.fileSize
  nameSize : hexValue (archive.slice (offset + 94) 8) = some m.nameSize
  named : 0 < m.nameSize
  nameStart : m.nameStart = offset + CPIO_NEWC_HEADER_SIZE
  nameEnd : m.nameStart + m.nameSize ≤ archive.size
  dataStart : m.dataStart = alignUp (m.nameStart + m.nameSize)
  dataEnd : m.dataEnd = m.dataStart + m.fileSize
  inside : m.dataEnd ≤ archive.size

/-- The name of the member, with its NUL. -/
def Member.IsNamed (archive : Buf) (m : Member) (name : CStr) : Prop :=
  archive.slice m.nameStart m.nameSize = name.bytes ++ [0]

instance (archive : Buf) (m : Member) (name : CStr) : Decidable (m.IsNamed archive name) :=
  inferInstanceAs (Decidable (_ = _))

/-- The member at `offset` is `m`, and the next one starts at `next`. -/
def NextMember (archive : Buf) (offset : Nat) (m : Member) (next : Nat) : Prop :=
  MemberIn archive offset m ∧ next = alignUp m.dataEnd

/-- The entry is the data of a regular file, the first of the first sixteen members with the name;
no member up to it is the trailer. -/
def Found (archive : Buf) (pathname : CStr) (entry : Entry) : Prop :=
  ∃ before offset m, Run (NextMember archive) 0 before offset ∧
    before.length < CPIO_MAX_ENTRIES ∧
    (∀ earlier ∈ before,
      ¬ earlier.IsNamed archive pathname ∧ ¬ earlier.IsNamed archive TRAILER) ∧
    MemberIn archive offset m ∧ m.IsNamed archive pathname ∧ ¬ m.IsNamed archive TRAILER ∧
    m.mode &&& CPIO_MODE_TYPE_MASK = CPIO_MODE_REGULAR ∧ entry = ⟨m.dataStart, m.fileSize⟩

variable {ε σ : Type} {archive : Buf} {s : σ}

/-! ## Fields and names -/

theorem hexDigit_lt {digit : UInt8} {nibble : Nat} (h : hexDigit digit = some nibble) :
    nibble < 16 := by
  have hall : ∀ d : Fin 256, ((hexDigit (UInt8.ofFin d)).all (· < 16)) = true := by decide +kernel
  have hdigit := hall digit.toFin
  rw [UInt8.ofFin_toFin, h] at hdigit
  exact of_decide_eq_true hdigit

theorem parseHexFrom_value {text : Nat} (n : Nat) {index : Nat} (parsed : Nat)
    (hin : text + index + n ≤ archive.size) :
    (parseHexFrom archive text index n parsed : Prog ε σ (Option Nat)) s =
      .ok ((archive.slice (text + index) n).foldlM
        (fun value digit => (hexDigit digit).map (16 * value + ·)) parsed) s := by
  induction n generalizing index parsed with
  | zero => rfl
  | succ n ih =>
    have hread : (archive.read (text + index) : Prog ε σ UInt8) s =
        .ok (archive.byte (text + index)) s := if_pos (by omega)
    rw [parseHexFrom, bind_run, hread, Buf.slice_succ, List.foldlM_cons]
    dsimp only
    cases hdigit : hexDigit (archive.byte (text + index)) with
    | none => rfl
    | some nibble =>
      have hor : parsed <<< 4 ||| nibble = 16 * parsed + nibble := by
        rw [← Nat.shiftLeft_add_eq_or_of_lt (hexDigit_lt hdigit), Nat.shiftLeft_eq]
        omega
      dsimp only
      rw [hor]
      exact ih _ (by omega)

/-- `parse_hex8` gives the number of the eight digits. -/
theorem parseHex8_value {text : Nat} (hin : text + 8 ≤ archive.size) :
    (parseHex8 archive text : Prog ε σ (Option Nat)) s =
      .ok (hexValue (archive.slice text 8)) s :=
  parseHexFrom_value 8 0 hin

/-- The loop of `literal_equals` compares the rest of the name before its last byte. -/
theorem literalEqualsFrom_value {name nameSize : Nat} (rest : List UInt8) {index : Nat}
    (hindex : index < nameSize) (hin : name + nameSize ≤ archive.size) :
    (literalEqualsFrom archive name nameSize index rest : Prog ε σ Bool) s =
      .ok (decide (archive.slice (name + index) (nameSize - 1 - index) = rest)) s := by
  induction rest generalizing index with
  | nil =>
    rw [literalEqualsFrom, pure_run]
    congr 1
    rw [Bool.beq_eq_decide_eq]
    refine decide_eq_decide.mpr ?_
    rw [← List.length_eq_zero_iff, Buf.length_slice]
    omega
  | cons c rest ih =>
    rw [literalEqualsFrom]
    by_cases hlast : index + 1 ≥ nameSize
    · rw [if_pos hlast, show nameSize - 1 - index = 0 by omega]
      simp
    · have hread : (archive.read (name + index) : Prog ε σ UInt8) s =
          .ok (archive.byte (name + index)) s := if_pos (by omega)
      rw [if_neg hlast, bind_run, hread, show nameSize - 1 - index = nameSize - 1 - (index + 1) + 1
        by omega, Buf.slice_succ]
      dsimp only
      by_cases hc : archive.byte (name + index) = c
      · rw [if_neg (not_not.mpr hc), ih (by omega)]
        simp [hc, Nat.add_assoc]
      · rw [if_pos hc, pure_run]
        simp [hc]

/-- `literal_equals` compares the name with its NUL. -/
theorem literalEquals_value {m : Member} {literal : CStr}
    (hin : m.nameStart + m.nameSize ≤ archive.size) :
    (literalEquals archive m.nameStart m.nameSize literal : Prog ε σ Bool) s =
      .ok (decide (m.IsNamed archive literal)) s := by
  unfold literalEquals
  by_cases hzero : m.nameSize = 0
  · have hnot : ¬ m.IsNamed archive literal := fun h => by
      rw [Member.IsNamed, hzero, Buf.slice_zero] at h
      simp at h
    rw [if_pos hzero, pure_run, decide_eq_false hnot]
  have hread : (archive.read (m.nameStart + (m.nameSize - 1)) : Prog ε σ UInt8) s =
      .ok (archive.byte (m.nameStart + (m.nameSize - 1))) s := if_pos (by omega)
  have hnamed : m.IsNamed archive literal ↔
      archive.slice m.nameStart (m.nameSize - 1) = literal.bytes ∧
        archive.byte (m.nameStart + (m.nameSize - 1)) = 0 := by
    have hslice : archive.slice m.nameStart (m.nameSize - 1 + 1) =
        archive.slice m.nameStart (m.nameSize - 1) ++
          [archive.byte (m.nameStart + (m.nameSize - 1))] := by
      rw [Buf.slice_append, Buf.slice_succ, Buf.slice_zero]
    rw [Nat.sub_add_cancel (by omega)] at hslice
    rw [Member.IsNamed, hslice]
    constructor
    · intro h
      obtain ⟨hname, hnul⟩ := List.append_inj' h rfl
      exact ⟨hname, List.singleton_inj.mp hnul⟩
    · rintro ⟨hname, hnul⟩
      rw [hname, hnul]
  rw [if_neg hzero, bind_run, hread]
  dsimp only
  by_cases hnul : archive.byte (m.nameStart + (m.nameSize - 1)) = 0
  · rw [if_neg (not_not.mpr hnul), literalEqualsFrom_value _ (by omega) hin]
    congr 1
    exact decide_eq_decide.mpr (hnamed.trans (and_iff_left hnul)).symm
  · rw [if_pos hnul, pure_run, decide_eq_false fun h => hnul (hnamed.mp h).2]

/-! ## One member -/

theorem alignUp_mod (offset : Nat) : alignUp offset % 4 = 0 := by
  unfold alignUp
  omega

/-- What `align4_bounded` gives lies in the archive, also where its subtraction wraps. -/
theorem align4Bounded_some {offset n : Nat} (hsize : archive.size < 2 ^ 64)
    (h : align4Bounded archive offset = some n) : n = alignUp offset ∧ n ≤ archive.size := by
  unfold align4Bounded at h
  split at h
  · cases h
  rename_i hin
  obtain ⟨hn, hle⟩ := addBounded_some h
  refine ⟨?_, hle⟩
  have hlt : offset + 3 < 2 ^ 64 := by
    by_cases h3 : 3 ≤ archive.size
    · rw [subSize, if_pos h3] at hin
      omega
    · omega
  rw [hn, Nat.mod_eq_of_lt hlt, Nat.zero_add, alignUp]

/-- What the header part of an iteration gives is a member. -/
theorem readHeader_member {offset : Nat} (hsize : archive.size < 2 ^ 64)
    (haligned : offset % 4 = 0) :
    wp (readHeader archive) (fun m t => t = offset ∧ MemberIn archive offset m)
      (fun r _ => r = none) offset := by
  refine wp_bind (wp_get (wp_bind (wp_require rfl fun start hstart => ?_)))
  obtain ⟨rfl, -⟩ := align4Bounded_some hsize hstart
  rw [alignUp_of_aligned haligned]
  refine wp_bind (wp_require rfl fun headerEnd hend => ?_)
  obtain ⟨rfl, hend⟩ := addBounded_some hend
  simp only [CPIO_NEWC_HEADER_SIZE] at hend
  refine wp_bind (wp_bind (Buf.wp_load (by omega) (wp_pure ?_)))
  refine wp_bind (wp_when (fun _ => wp_ret rfl) fun hmagic => ?_)
  refine wp_bind (wp_of_run (parseHex8_value (by omega)) ?_)
  refine wp_bind (wp_require rfl fun mode hmode => ?_)
  refine wp_bind (wp_of_run (parseHex8_value (by omega)) ?_)
  refine wp_bind (wp_require rfl fun fileSize hfile => ?_)
  refine wp_bind (wp_of_run (parseHex8_value (by omega)) ?_)
  refine wp_bind (wp_require rfl fun nameSize hname => ?_)
  refine wp_bind (wp_when (fun _ => wp_ret rfl) fun hpos => ?_)
  refine wp_bind (wp_require rfl fun nameEnd hnameEnd => ?_)
  refine wp_bind (wp_require rfl fun dataStart hdata => ?_)
  refine wp_bind (wp_require rfl fun dataEnd hdataEnd => wp_pure ⟨rfl, ?_⟩)
  obtain ⟨rfl, hnameIn⟩ := addBounded_some hnameEnd
  obtain ⟨rfl, -⟩ := align4Bounded_some hsize hdata
  obtain ⟨rfl, hdataIn⟩ := addBounded_some hdataEnd
  exact {
    aligned := haligned
    magic := eq_of_beq (by simpa using hmagic)
    mode := hmode
    fileSize := hfile
    nameSize := hname
    named := Nat.pos_of_ne_zero hpos
    nameStart := rfl
    nameEnd := hnameIn
    dataStart := rfl
    dataEnd := rfl
    inside := hdataIn }

/-- One iteration: it goes on to the member after one with another name, or gives the data of the
member with the name. -/
theorem lookupMember_member {pathname : CStr} {offset : Nat} (hsize : archive.size < 2 ^ 64)
    (haligned : offset % 4 = 0) :
    wp (lookupMember archive pathname)
      (fun _ next => ∃ m, NextMember archive offset m next ∧
        ¬ m.IsNamed archive pathname ∧ ¬ m.IsNamed archive TRAILER)
      (fun r _ => ∀ entry, r = some entry → ∃ m, MemberIn archive offset m ∧
        m.IsNamed archive pathname ∧ ¬ m.IsNamed archive TRAILER ∧
        m.mode &&& CPIO_MODE_TYPE_MASK = CPIO_MODE_REGULAR ∧ entry = ⟨m.dataStart, m.fileSize⟩)
      offset := by
  refine wp_seq (readHeader_member hsize haligned) ?_ ?_
  · rintro r t rfl entry ⟨⟩
  rintro m t ⟨rfl, hm⟩
  refine wp_bind (wp_of_run (literalEquals_value hm.nameEnd) ?_)
  refine wp_bind (wp_when (fun _ => wp_ret fun _ h => by cases h) fun htrailer => ?_)
  refine wp_bind (wp_of_run (literalEquals_value hm.nameEnd) ?_)
  rw [decide_eq_true_eq] at htrailer
  refine wp_bind (wp_when (fun hfile => wp_ite (fun _ => wp_ret fun _ h => by cases h)
    fun hmode => wp_ret ?_) fun hother => ?_)
  · rintro entry ⟨⟩
    exact ⟨m, hm, of_decide_eq_true hfile, htrailer, not_not.mp hmode, rfl⟩
  · rw [decide_eq_true_eq] at hother
    refine wp_bind (wp_require (fun _ h => by cases h) fun next hnext => wp_modify ?_)
    exact ⟨m, ⟨hm, (align4Bounded_some hsize hnext).1⟩, hother, htrailer⟩

/-! ## The lookup -/

/-- The iterations so far went over members that are neither the file nor the trailer. -/
structure Passed (archive : Buf) (pathname : CStr) (count offset : Nat) (before : List Member) :
    Prop where
  run : Run (NextMember archive) 0 before offset
  length : before.length = count
  other : ∀ earlier ∈ before,
    ¬ earlier.IsNamed archive pathname ∧ ¬ earlier.IsNamed archive TRAILER
  aligned : offset % 4 = 0

/-- For any bytes and any pathname, the entry that the lookup gives is the right one. -/
theorem lookup_found {pathname : CStr} (hsize : archive.size < 2 ^ 64) :
    wp (Prog.forUp (fun _ => lookupMember archive pathname) 0 CPIO_MAX_ENTRIES) (fun _ _ => True)
      (fun r _ => ∀ entry, r = some entry → Found archive pathname entry) 0 := by
  refine wp_mono (wp_forUp (fun count offset => ∃ before, Passed archive pathname count offset
    before) 0 CPIO_MAX_ENTRIES 0 ⟨[], .nil, rfl, by simp, rfl⟩ ?_) (fun _ _ _ => trivial)
    fun _ _ h => h
  rintro count offset - hcount ⟨before, hpassed⟩
  refine wp_mono (lookupMember_member hsize hpassed.aligned) ?_ ?_
  · rintro - next ⟨m, hnext, hother⟩
    refine ⟨before ++ [m], hpassed.run.snoc hnext, ?_, ?_, ?_⟩
    · rw [List.length_append, hpassed.length, List.length_singleton]
    · intro earlier hmem
      rcases List.mem_append.mp hmem with hmem | hmem
      · exact hpassed.other earlier hmem
      · obtain rfl := List.mem_singleton.mp hmem
        exact hother
    · rw [hnext.2]
      exact alignUp_mod _
  · intro r t hr entry hentry
    obtain ⟨m, hm, hname, htrailer, hmode, hdata⟩ := hr entry hentry
    refine ⟨before, offset, m, hpassed.run, ?_, hpassed.other, hm, hname, htrailer, hmode, hdata⟩
    rw [hpassed.length]
    omega

/-! ## Sums and differences that may wrap -/

/-- `first + second` in `size_t`; a fault where it wraps. -/
def addChecked (first second : Nat) : Prog ε σ Nat :=
  if first + second < 2 ^ 64 then pure (first + second) else Prog.fault .overflow

/-- `first - second` in `size_t`; a fault where it wraps. -/
def subChecked (first second : Nat) : Prog ε σ Nat :=
  if second ≤ first then pure (first - second) else Prog.fault .overflow

/-- `add_bounded`, checked. -/
def addBoundedChecked (archive : Buf) (first second : Nat) : Prog ε σ (Option Nat) := do
  if first > archive.size then pure none
  else if second > (← subChecked archive.size first) then pure none
  else pure (some (← addChecked first second))

/-- `align4_bounded`, checked. -/
def align4BoundedChecked (archive : Buf) (offset : Nat) : Prog ε σ (Option Nat) := do
  if offset > archive.size then pure none
  else if offset > (← subChecked archive.size 3) then pure none
  else addBoundedChecked archive 0 ((← addChecked offset 3) / 4 * 4)

/-- The loop of `literal_equals`, checked. -/
def literalEqualsFromChecked (archive : Buf) (name nameSize : Nat) :
    Nat → List UInt8 → Prog ε σ Bool
  | index, [] => do pure ((← addChecked index 1) == nameSize)
  | index, c :: rest => do
    let next ← addChecked index 1
    if next ≥ nameSize then pure false
    else if (← archive.read (name + index)) ≠ c then pure false
    else literalEqualsFromChecked archive name nameSize next rest

/-- `literal_equals`, checked. -/
def literalEqualsChecked (archive : Buf) (name nameSize : Nat) (literal : CStr) :
    Prog ε σ Bool := do
  if nameSize = 0 then pure false
  else if (← archive.read (name + (← subChecked nameSize 1))) ≠ 0 then pure false
  else literalEqualsFromChecked archive name nameSize 0 literal.bytes

/-- The header part of an iteration, checked. -/
def readHeaderChecked (archive : Buf) : Prog (Option Entry) Nat Member := do
  let offset ← require (← align4BoundedChecked archive (← Prog.get))
  let headerEnd ← require (← addBoundedChecked archive offset CPIO_NEWC_HEADER_SIZE)
  let isNewc ← cpioMagicIsNewc archive offset
  Prog.when (¬ isNewc) (Prog.ret none)
  let mode ← require (← parseHex8 archive (offset + 14))
  let fileSize ← require (← parseHex8 archive (offset + 54))
  let nameSize ← require (← parseHex8 archive (offset + 94))
  Prog.when (nameSize = 0) (Prog.ret none)
  let nameEnd ← require (← addBoundedChecked archive headerEnd nameSize)
  let dataStart ← require (← align4BoundedChecked archive nameEnd)
  let dataEnd ← require (← addBoundedChecked archive dataStart fileSize)
  pure ⟨mode, headerEnd, nameSize, dataStart, fileSize, dataEnd⟩

/-- One iteration of `cpio_lookup_regular`, checked. -/
def lookupMemberChecked (archive : Buf) (pathname : CStr) : Prog (Option Entry) Nat Unit := do
  let m ← readHeaderChecked archive
  let isTrailer ← literalEqualsChecked archive m.nameStart m.nameSize TRAILER
  Prog.when isTrailer (Prog.ret none)
  let isFile ← literalEqualsChecked archive m.nameStart m.nameSize pathname
  Prog.when isFile
    (if m.mode &&& CPIO_MODE_TYPE_MASK ≠ CPIO_MODE_REGULAR then Prog.ret none
    else Prog.ret (some ⟨m.dataStart, m.fileSize⟩))
  let offset ← require (← align4BoundedChecked archive m.dataEnd)
  Prog.modify fun _ => offset

/-- `cpio_lookup_regular`, with a fault where a sum or a difference of its offsets wraps. -/
def cpioLookupChecked (archive : Buf) (pathname : CStr) : Prog ε σ (Option Entry) :=
  Prog.callRet (Prog.forUp (fun _ => lookupMemberChecked archive pathname) 0 CPIO_MAX_ENTRIES) 0
    none

section Checked

variable (hsize : archive.size < 2 ^ 64)
include hsize

theorem addBoundedChecked_eq {first second : Nat} :
    (addBoundedChecked archive first second : Prog ε σ (Option Nat)) =
      pure (addBounded archive first second) := by
  unfold addBoundedChecked addBounded
  by_cases hfirst : first > archive.size
  · rw [if_pos hfirst, if_pos (.inl hfirst)]
  have hsub : (subChecked archive.size first : Prog ε σ Nat) = pure (archive.size - first) :=
    if_pos (by omega)
  rw [if_neg hfirst, hsub, pure_bind_run]
  by_cases hsecond : second > archive.size - first
  · rw [if_pos hsecond, if_pos (.inr hsecond)]
  have hadd : (addChecked first second : Prog ε σ Nat) = pure (first + second) :=
    if_pos (by omega)
  rw [if_neg hsecond, hadd, pure_bind_run, if_neg (by omega)]

theorem align4BoundedChecked_eq (h3 : 3 ≤ archive.size) {offset : Nat} :
    (align4BoundedChecked archive offset : Prog ε σ (Option Nat)) =
      pure (align4Bounded archive offset) := by
  have hsub : (subChecked archive.size 3 : Prog ε σ Nat) = pure (archive.size - 3) := if_pos h3
  unfold align4BoundedChecked align4Bounded
  rw [hsub, pure_bind_run, subSize, if_pos h3]
  by_cases hoffset : offset > archive.size
  · rw [if_pos hoffset, if_pos (.inl hoffset)]
  by_cases hend : offset > archive.size - 3
  · rw [if_neg hoffset, if_pos hend, if_pos (.inr hend)]
  have hadd : (addChecked offset 3 : Prog ε σ Nat) = pure (offset + 3) := if_pos (by omega)
  rw [if_neg hoffset, if_neg hend, hadd, pure_bind_run, addBoundedChecked_eq hsize,
    if_neg (by omega), Nat.mod_eq_of_lt (by omega)]

theorem readHeaderChecked_eq (h3 : 3 ≤ archive.size) :
    readHeaderChecked archive = readHeader archive := by
  unfold readHeaderChecked readHeader
  simp only [addBoundedChecked_eq hsize, align4BoundedChecked_eq hsize h3, pure_bind_run]

end Checked

/-- An archive of fewer than three bytes: the first subtraction of `align4_bounded` wraps. -/
theorem align4BoundedChecked_fault (h3 : archive.size < 3) :
    (align4BoundedChecked archive 0 : Prog ε σ (Option Nat)) s = .fault .overflow := by
  have hsub : (subChecked archive.size 3 : Prog ε σ Nat) = Prog.fault .overflow :=
    if_neg (by omega)
  rw [align4BoundedChecked, if_neg (by omega), bind_run, hsub]
  rfl

theorem literalEqualsFromChecked_eq {name nameSize : Nat} (hname : nameSize < 2 ^ 64)
    (rest : List UInt8) {index : Nat} (hindex : index < nameSize) :
    (literalEqualsFromChecked archive name nameSize index rest : Prog ε σ Bool) =
      literalEqualsFrom archive name nameSize index rest := by
  induction rest generalizing index with
  | nil =>
    have hadd : (addChecked index 1 : Prog ε σ Nat) = pure (index + 1) := if_pos (by omega)
    rw [literalEqualsFromChecked, literalEqualsFrom, hadd, pure_bind_run]
  | cons c rest ih =>
    have hadd : (addChecked index 1 : Prog ε σ Nat) = pure (index + 1) := if_pos (by omega)
    rw [literalEqualsFromChecked, literalEqualsFrom, hadd, pure_bind_run]
    by_cases hlast : index + 1 ≥ nameSize
    · rw [if_pos hlast, if_pos hlast]
    · rw [if_neg hlast, if_neg hlast, ih (by omega)]

theorem literalEqualsChecked_eq {name nameSize : Nat} (hname : nameSize < 2 ^ 64)
    (literal : CStr) :
    (literalEqualsChecked archive name nameSize literal : Prog ε σ Bool) =
      literalEquals archive name nameSize literal := by
  unfold literalEqualsChecked literalEquals
  by_cases hzero : nameSize = 0
  · rw [if_pos hzero, if_pos hzero]
  have hsub : (subChecked nameSize 1 : Prog ε σ Nat) = pure (nameSize - 1) := if_pos (by omega)
  rw [if_neg hzero, if_neg hzero, hsub, pure_bind_run,
    literalEqualsFromChecked_eq hname _ (by omega)]

/-- An iteration of the checked lookup, where no difference wraps. -/
theorem lookupMemberChecked_eq {pathname : CStr} (hsize : archive.size < 2 ^ 64)
    (h3 : 3 ≤ archive.size) :
    lookupMemberChecked archive pathname = lookupMember archive pathname := by
  funext offset
  unfold lookupMemberChecked lookupMember
  rw [readHeaderChecked_eq hsize h3]
  have hmember : wp (readHeader archive) (fun m _ => m.Inside archive) (fun _ _ => True) offset :=
    readHeader_wp fun _ => trivial
  refine bind_congr_wp (wp_mono hmember (fun m t hm => ?_) fun _ _ h => h)
  have hname : m.nameSize < 2 ^ 64 := by
    have := hm.name
    omega
  simp only [literalEqualsChecked_eq hname, align4BoundedChecked_eq hsize h3, pure_bind_run]

/-- The checked lookup is the lookup where no difference wraps. -/
theorem cpioLookupChecked_eq {pathname : CStr} (hsize : archive.size < 2 ^ 64)
    (h3 : 3 ≤ archive.size) : (cpioLookupChecked archive pathname : Prog ε σ (Option Entry)) =
      cpioLookupRegular archive pathname := by
  unfold cpioLookupChecked cpioLookupRegular
  rw [lookupMemberChecked_eq hsize h3]

/-- An archive of fewer than three bytes: the first iteration of the lookup wraps. -/
theorem cpioLookupChecked_fault {pathname : CStr} (h3 : archive.size < 3) :
    (cpioLookupChecked archive pathname : Prog ε σ (Option Entry)) s = .fault .overflow := by
  have hheader : readHeaderChecked archive 0 = .fault .overflow := by
    rw [readHeaderChecked, bind_run, get_run]
    dsimp only
    rw [bind_run, align4BoundedChecked_fault h3]
  have hmember : lookupMemberChecked archive pathname 0 = .fault .overflow := by
    rw [lookupMemberChecked, bind_run, hheader]
  have hloop : Prog.forUp (fun _ => lookupMemberChecked archive pathname) 0 CPIO_MAX_ENTRIES 0 =
      .fault .overflow := by
    rw [CPIO_MAX_ENTRIES, Prog.forUp, bind_run, hmember]
  rw [cpioLookupChecked, callRet, hloop]

/-! ## The result -/

/-- The lookup ends without a read outside the archive; it gives nothing, or the data of the member
that it should find, inside the archive; and no sum or difference of its offsets wraps. -/
def Looks (archive : Buf) (pathname : CStr) : Prop :=
  ∃ r : Option Entry,
    (∀ entry, r = some entry →
      entry.data + entry.size ≤ archive.size ∧ Found archive pathname entry) ∧
    (∀ {ε σ : Type} (s : σ),
      (cpioLookupRegular archive pathname : Prog ε σ (Option Entry)) s = .ok r s) ∧
    ∀ {ε σ : Type} (s : σ),
      (cpioLookupChecked archive pathname : Prog ε σ (Option Entry)) s = .ok r s

theorem Found.inside {pathname : CStr} {entry : Entry} (h : Found archive pathname entry) :
    entry.data + entry.size ≤ archive.size := by
  obtain ⟨_, _, m, _, _, _, hm, _, _, _, rfl⟩ := h
  have hin := hm.inside
  rwa [hm.dataEnd] at hin

theorem not_looks {pathname : CStr} (h3 : archive.size < 3) : ¬ Looks archive pathname := by
  rintro ⟨r, -, -, hchecked⟩
  have hfault : (cpioLookupChecked archive pathname : Prog Unit Unit (Option Entry)) () =
      .fault .overflow := cpioLookupChecked_fault h3
  rw [hchecked] at hfault
  cases hfault

/-- **The lookup on arbitrary bytes**: what it finds is right in every archive, and none of its
differences wraps exactly when the archive has at least three bytes. -/
theorem lookup_iff {pathname : CStr} (hsize : archive.size < 2 ^ 64) :
    Looks archive pathname ↔ 3 ≤ archive.size := by
  constructor
  · intro hlooks
    by_contra h3
    exact not_looks (by omega) hlooks
  · intro h3
    have hloop : wp (Prog.forUp (fun _ => lookupMember archive pathname) 0 CPIO_MAX_ENTRIES)
        (fun _ _ => ∀ entry, none = some entry → Found archive pathname entry)
        (fun r _ => ∀ entry, r = some entry → Found archive pathname entry) 0 :=
      wp_mono (lookup_found hsize) (fun _ _ _ entry h => by cases h) fun _ _ h => h
    obtain ⟨r, hfound, hrun⟩ := callRet_run
      (P := fun r => ∀ entry, r = some entry → Found archive pathname entry) hloop
    refine ⟨r, fun entry h => ⟨(hfound entry h).inside, hfound entry h⟩, hrun, fun s => ?_⟩
    rw [cpioLookupChecked_eq hsize h3]
    exact hrun s

set_option maxRecDepth 100000 in
/-- The release file of the image is found. -/
theorem lookup_iff_image : Looks selinosRomfsCpioArchive RELEASE_PATH ∧
    ∃ entry, Found selinosRomfsCpioArchive RELEASE_PATH entry := by
  have hlooks : Looks selinosRomfsCpioArchive RELEASE_PATH :=
    (lookup_iff (by decide)).mpr (by decide)
  have ⟨r, hfound, hrun, _⟩ := hlooks
  have hrelease : ((cpioLookupRegular selinosRomfsCpioArchive RELEASE_PATH :
      Prog Empty Unit (Option Entry)) ()) = .ok (some ⟨128, 8⟩) () := by
    decide +kernel
  have hr : r = some ⟨128, 8⟩ := by
    rw [hrun] at hrelease
    cases hrelease
    rfl
  exact ⟨hlooks, _, (hfound _ hr).2⟩

/-- In an archive of two bytes the first subtraction of the lookup wraps. -/
theorem lookup_wraps_in_two_bytes : ¬ Looks (Buf.zeros 2) RELEASE_PATH :=
  not_looks (by decide)

end SeLinOS.Romfs
