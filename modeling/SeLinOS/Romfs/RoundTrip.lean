import Mathlib.Data.List.Nodup
import SeLinOS.Romfs.Fixture
import SeLinOS.Romfs.Server

/-!
# The reader reads what the generator writes

* `parseHex8_run`, `literalEquals_run`, `readHeader_at`: what the parts of the reader give at a
  member.
* `lookupMember_at`: one iteration of `cpio_lookup_regular` at a member.
* `lookup_members`: the loop over the members of an archive.
* `round_trip`: the lookup finds every file of the archive with its data, and nothing else.
-/

namespace SeLinOS.Romfs

open CLogic Prog Sel4

variable {ε σ : Type} {archive : Buf} {s : σ}

/-! ## The fields of a header -/

theorem hexDigit_hexChar {digit : Nat} (h : digit < 16) :
    hexDigit (hexChar digit) = some digit := by
  have hall : ∀ d : Fin 16, hexDigit (hexChar d.1) = some d.1 := by decide
  exact hall ⟨digit, h⟩

theorem hexDigits_lt {field digit : Nat} (h : digit ∈ hexDigits field) : digit < 16 := by
  rcases List.mem_append.mp h with h | h
  · rw [List.eq_of_mem_replicate h]
    decide
  · exact Nat.digits_lt_base (by decide) (List.mem_reverse.mp h)

theorem parseHexFrom_run {text : Nat} {digits : List Nat} (hd : ∀ digit ∈ digits, digit < 16)
    {index : Nat} (parsed : Nat) (hin : text + index + digits.length ≤ archive.size)
    (hs : archive.slice (text + index) digits.length = digits.map hexChar) :
    (parseHexFrom archive text index digits.length parsed : Prog ε σ (Option Nat)) s =
      .ok (some (digits.foldl (fun parsed nibble => parsed <<< 4 ||| nibble) parsed)) s := by
  induction digits generalizing index parsed with
  | nil => rfl
  | cons digit digits ih =>
    rw [List.length_cons] at hin
    rw [List.length_cons, Buf.slice_succ, List.map_cons] at hs
    obtain ⟨hbyte, hrest⟩ := List.cons.inj hs
    have hread : (archive.read (text + index) : Prog ε σ UInt8) s = .ok (hexChar digit) s := by
      rw [Buf.read, if_pos (by omega), hbyte]
    rw [List.length_cons, parseHexFrom, bind_run, hread]
    simp only [hexDigit_hexChar (hd digit (List.mem_cons_self ..))]
    rw [List.foldl_cons]
    exact ih (fun d hm => hd d (List.mem_cons_of_mem _ hm)) _ (by omega) hrest

/-- The digits of a number, read back. -/
theorem foldl_hexDigits (field : Nat) :
    (hexDigits field).foldl (fun parsed nibble => parsed <<< 4 ||| nibble) 0 = field := by
  have hshift : ∀ (digits : List Nat) (parsed : Nat), (∀ digit ∈ digits, digit < 16) →
      digits.foldl (fun parsed nibble => parsed <<< 4 ||| nibble) parsed =
        digits.foldl (fun parsed nibble => nibble + 16 * parsed) parsed := by
    intro digits
    induction digits with
    | nil => exact fun _ _ => rfl
    | cons digit digits ih =>
      intro parsed hd
      have hor : parsed <<< 4 ||| digit = digit + 16 * parsed := by
        rw [← Nat.shiftLeft_add_eq_or_of_lt (hd digit (List.mem_cons_self ..)), Nat.shiftLeft_eq]
        omega
      rw [List.foldl_cons, List.foldl_cons, hor]
      exact ih _ fun d hm => hd d (List.mem_cons_of_mem _ hm)
  have hzeros : ∀ n,
      (List.replicate n 0).foldl (fun parsed nibble => nibble + 16 * parsed) 0 = 0 := by
    intro n
    induction n with
    | zero => rfl
    | succ n ih => rw [List.replicate_succ, List.foldl_cons, ih]
  rw [hshift _ _ fun _ => hexDigits_lt, hexDigits, List.leftpad, List.foldl_append, hzeros,
    List.foldl_reverse]
  have hdigits := Nat.ofDigits_eq_foldr 16 (Nat.digits 16 field)
  rw [Nat.ofDigits_digits] at hdigits
  exact hdigits.symm

/-- `parse_hex8` gives the number whose digits are there. -/
theorem parseHex8_run {text field : Nat} (hin : text + 8 ≤ archive.size)
    (h : archive.slice text 8 = hex8 field) :
    (parseHex8 archive text : Prog ε σ (Option Nat)) s = .ok (some field) s := by
  have hlen : (hexDigits field).length = 8 := by
    have := congrArg List.length h
    rwa [Buf.length_slice, hex8, List.length_map, eq_comm] at this
  have hs : archive.slice (text + 0) (hexDigits field).length = (hexDigits field).map hexChar := by
    rw [hlen]
    exact h
  have hrun := parseHexFrom_run (ε := ε) (s := s) (fun _ => hexDigits_lt) 0 (by omega) hs
  rwa [hlen, foldl_hexDigits] at hrun

/-! ## Names -/

theorem literalEqualsFrom_run {name : Nat} {suffix : List UInt8} (rest : List UInt8) {index : Nat}
    (hin : name + index + suffix.length + 1 ≤ archive.size)
    (hs : archive.slice (name + index) (suffix.length + 1) = suffix ++ [0]) :
    (literalEqualsFrom archive name (index + suffix.length + 1) index rest : Prog ε σ Bool) s =
      .ok (decide (suffix = rest)) s := by
  induction rest generalizing index suffix with
  | nil => cases suffix <;> simp [literalEqualsFrom]
  | cons c rest ih =>
    cases suffix with
    | nil => simp [literalEqualsFrom]
    | cons d suffix =>
      rw [List.length_cons, Buf.slice_succ, List.cons_append] at hs
      rw [List.length_cons] at hin
      obtain ⟨hbyte, hrest⟩ := List.cons.inj hs
      have hread : (archive.read (name + index) : Prog ε σ UInt8) s = .ok d s := by
        rw [Buf.read, if_pos (by omega), hbyte]
      rw [literalEqualsFrom, if_neg (by rw [List.length_cons]; omega), bind_run, hread]
      simp only
      by_cases hd : d = c
      · subst hd
        rw [if_neg (by simp), List.length_cons,
          show index + (suffix.length + 1) + 1 = index + 1 + suffix.length + 1 by omega,
          ih (by omega) hrest]
        simp
      · rw [if_pos hd]
        simp [hd]

/-- `literal_equals` compares a name that its NUL ends. -/
theorem literalEquals_run {start : Nat} {name : CStr} (literal : CStr)
    (hin : start + (name.bytes.length + 1) ≤ archive.size)
    (hs : archive.slice start (name.bytes.length + 1) = name.bytes ++ [0]) :
    (literalEquals archive start (name.bytes.length + 1) literal : Prog ε σ Bool) s =
      .ok (decide (name = literal)) s := by
  have hnul : archive.byte (start + name.bytes.length) = 0 := by
    rw [Buf.slice_append] at hs
    have := (List.append_inj' hs rfl).2
    simpa [Buf.slice_succ] using this
  have hread : (archive.read (start + (name.bytes.length + 1 - 1)) : Prog ε σ UInt8) s =
      .ok 0 s := by
    rw [Nat.add_sub_cancel, Buf.read, if_pos (by omega), hnul]
  have hstart : archive.slice (start + 0) (name.bytes.length + 1) = name.bytes ++ [0] := hs
  have hfrom := literalEqualsFrom_run (ε := ε) (s := s) literal.bytes (by omega) hstart
  rw [literalEquals, if_neg (by omega), bind_run, hread]
  simp only
  rw [if_neg (by simp)]
  rw [Nat.zero_add] at hfrom
  rw [hfrom]
  congr 2
  cases name
  cases literal
  simp

/-! ## One member -/

theorem addBounded_run {first second : Nat} (h : first + second ≤ archive.size) :
    addBounded archive first second = some (first + second) :=
  if_neg (by omega)

theorem align4Bounded_run {offset : Nat} (h : offset + 3 ≤ archive.size)
    (hsize : archive.size < 2 ^ 64) : align4Bounded archive offset = some (alignUp offset) := by
  have hsub : subSize archive.size 3 = archive.size - 3 := if_pos (by omega)
  rw [align4Bounded, hsub, if_neg (by omega), Nat.mod_eq_of_lt (by omega), addBounded,
    if_neg (by omega), Nat.zero_add, alignUp]

theorem alignUp_of_aligned {offset : Nat} (h : offset % 4 = 0) : alignUp offset = offset := by
  unfold alignUp
  omega

section Member

variable {offset mode : Nat} {name : CStr} {data : List UInt8}

theorem cpioMagicIsNewc_run (h : MemberAt archive offset name data mode) :
    (cpioMagicIsNewc archive offset : Prog ε σ Bool) s = .ok true s := by
  have hend := h.nameEnd
  simp only [CPIO_NEWC_HEADER_SIZE] at hend
  have hload : (archive.load offset 6 (archive.slice offset 6) : Prog ε σ (List UInt8)) s =
      .ok (archive.slice offset 6) s := if_pos (by omega)
  rw [cpioMagicIsNewc, bind_run, hload, h.magic]
  rfl

/-- The header of a member, read at its place. -/
theorem readHeader_at (h : MemberAt archive offset name data mode)
    (hsize : archive.size < 2 ^ 64) :
    readHeader archive offset = .ok ⟨mode, offset + CPIO_NEWC_HEADER_SIZE, name.bytes.length + 1,
      dataStart offset name, data.length, dataStart offset name + data.length⟩ offset := by
  have hend := h.nameEnd
  have halign : align4Bounded archive offset = some offset := by
    rw [align4Bounded_run (by omega) hsize, alignUp_of_aligned h.aligned]
  have hheader : addBounded archive offset CPIO_NEWC_HEADER_SIZE =
      some (offset + CPIO_NEWC_HEADER_SIZE) := addBounded_run (by omega)
  have hname : addBounded archive (offset + CPIO_NEWC_HEADER_SIZE) (name.bytes.length + 1) =
      some (offset + CPIO_NEWC_HEADER_SIZE + (name.bytes.length + 1)) := addBounded_run (by omega)
  have hdata : align4Bounded archive (offset + CPIO_NEWC_HEADER_SIZE + (name.bytes.length + 1)) =
      some (dataStart offset name) := align4Bounded_run h.nameEnd hsize
  have hdataEnd := addBounded_run h.dataEnd
  simp only [CPIO_NEWC_HEADER_SIZE] at hend
  simp only [readHeader, bind_run, get_run, halign, hheader, require, pure_run,
    cpioMagicIsNewc_run h, parseHex8_run (by omega) h.modeField,
    parseHex8_run (by omega) h.sizeField, parseHex8_run (by omega) h.nameSizeField, hname, hdata,
    hdataEnd, Prog.when, not_true, Nat.add_one_ne_zero, ↓reduceIte]

/-- One iteration at a member: the trailer and the file that is looked for end the lookup. -/
theorem lookupMember_at (h : MemberAt archive offset name data mode) (hsize : archive.size < 2 ^ 64)
    (pathname : CStr) : lookupMember archive pathname offset =
      if name = TRAILER then .ret none offset
      else if name = pathname then
        if mode &&& CPIO_MODE_TYPE_MASK ≠ CPIO_MODE_REGULAR then .ret none offset
        else .ret (some ⟨dataStart offset name, data.length⟩) offset
      else
        match align4Bounded archive (dataStart offset name + data.length) with
        | none => .ret none offset
        | some next => .ok () next := by
  have hend := h.nameEnd
  have heq : ∀ literal, (literalEquals archive (offset + CPIO_NEWC_HEADER_SIZE)
      (name.bytes.length + 1) literal : Prog (Option Entry) Nat Bool) offset =
      .ok (decide (name = literal)) offset := fun literal =>
    literalEquals_run literal (by omega) h.nameBytes
  simp only [lookupMember, bind_run, readHeader_at h hsize, heq, Prog.when, decide_eq_true_eq]
  by_cases ht : name = TRAILER
  · simp only [ht, ↓reduceIte, ret_run]
  simp only [ht, ↓reduceIte, pure_run, heq, decide_eq_true_eq]
  by_cases hp : name = pathname
  · by_cases hm : mode &&& CPIO_MODE_TYPE_MASK = CPIO_MODE_REGULAR
    · simp only [hp, hm, ne_eq, not_true_eq_false, ↓reduceIte, ret_run]
    · simp only [hp, hm, ne_eq, not_false_eq_true, ↓reduceIte, ret_run]
  simp only [hp, ↓reduceIte, pure_run]
  cases align4Bounded archive (dataStart offset name + data.length) <;> rfl

end Member

/-! ## The archive -/

/-- What a lookup should give: the data of a file with the name, or nothing where there is none. -/
def Finds (archive : Buf) (files : List FixtureFile) (pathname : CStr) (r : Option Entry) : Prop :=
  (r = none ∧ ∀ file ∈ files, file.name ≠ pathname) ∨
    ∃ file ∈ files, file.name = pathname ∧ ∃ entry, r = some entry ∧
      entry.data + entry.size ≤ archive.size ∧ archive.slice entry.data entry.size = file.data

/-- The loop over the members that are left finds what they have. -/
theorem lookup_members {files : List FixtureFile} {offset : Nat} {pathname : CStr}
    (h : Members archive offset files) (hsize : archive.size < 2 ^ 64)
    (htrailer : ∀ file ∈ files, file.name ≠ TRAILER) {n : Nat} (hn : files.length ≤ n) (i : Nat) :
    wp (Prog.forUp (fun _ => lookupMember archive pathname) i n)
      (fun _ _ => Finds archive files pathname none) (fun r _ => Finds archive files pathname r)
      offset := by
  induction files generalizing offset n i with
  | nil =>
    have hnone : Finds archive [] pathname none := .inl ⟨rfl, by simp⟩
    cases n with
    | zero => exact wp_pure hnone
    | succ n =>
      have hrun := (lookupMember_at h hsize pathname).trans (if_pos rfl)
      exact wp_bind (wp_of_retRun hrun hnone)
  | cons file files ih =>
    obtain ⟨hfile, hend, hrest⟩ := h
    obtain ⟨n, rfl⟩ : ∃ m, n = m + 1 := ⟨n - 1, by rw [List.length_cons] at hn; omega⟩
    have hstep := lookupMember_at hfile hsize pathname
    rw [if_neg (htrailer file (List.mem_cons_self ..)), align4Bounded_run hend hsize] at hstep
    by_cases hp : file.name = pathname
    · rw [if_pos hp, if_neg (by decide)] at hstep
      exact wp_bind (wp_of_retRun hstep (.inr ⟨file, List.mem_cons_self .., hp, _, rfl,
        hfile.dataEnd, hfile.dataBytes⟩))
    · rw [if_neg hp] at hstep
      refine wp_bind (wp_of_run hstep ?_)
      have hlater : ∀ r, Finds archive files pathname r →
          Finds archive (file :: files) pathname r := by
        rintro r (⟨hr, hnone⟩ | ⟨later, hm, hfound⟩)
        · exact .inl ⟨hr, List.forall_mem_cons.mpr ⟨hp, hnone⟩⟩
        · exact .inr ⟨later, List.mem_cons_of_mem _ hm, hfound⟩
      refine wp_mono (ih hrest (fun f hf => htrailer f (List.mem_cons_of_mem _ hf)) ?_ _)
        (fun _ _ hf => hlater _ hf) fun r _ hf => hlater r hf
      rw [List.length_cons] at hn
      omega

/-- **The round trip**: of at most sixteen files with distinct names other than the trailer's, the
reader finds each one with exactly its data in the archive that the script writes, and no other. -/
theorem round_trip {files : List FixtureFile} {bytes : List UInt8}
    (hbuild : build files = some bytes) (hcount : files.length ≤ CPIO_MAX_ENTRIES)
    (hdistinct : (files.map (·.name)).Nodup)
    (htrailer : ∀ file ∈ files, file.name ≠ TRAILER) :
    (∀ file ∈ files, ∃ entry, entry.data + entry.size ≤ bytes.length ∧
      (Buf.ofList bytes).slice entry.data entry.size = file.data ∧
      ∀ {ε σ : Type} (s : σ), (cpioLookupRegular (Buf.ofList bytes) file.name :
        Prog ε σ (Option Entry)) s = .ok (some entry) s) ∧
    ∀ pathname, (∀ file ∈ files, file.name ≠ pathname) → ∀ {ε σ : Type} (s : σ),
      (cpioLookupRegular (Buf.ofList bytes) pathname : Prog ε σ (Option Entry)) s = .ok none s := by
  obtain ⟨hle, hmembers⟩ := build_members hbuild
  have hsize : (Buf.ofList bytes).size < 2 ^ 64 := by
    show bytes.length < 2 ^ 64
    simp only [CPIO_MAX_ENTRIES] at hcount
    omega
  have hfinds : ∀ pathname, ∃ r, Finds (Buf.ofList bytes) files pathname r ∧
      ∀ {ε σ : Type} (s : σ), (cpioLookupRegular (Buf.ofList bytes) pathname :
        Prog ε σ (Option Entry)) s = .ok r s := fun pathname =>
    callRet_run (lookup_members hmembers hsize htrailer hcount 0)
  constructor
  · intro file hfile
    obtain ⟨r, ⟨-, hnone⟩ | ⟨found, hfound, hname, entry, rfl, hin, hdata⟩, hrun⟩ :=
      hfinds file.name
    · exact absurd rfl (hnone file hfile)
    · obtain rfl : found = file := List.inj_on_of_nodup_map hdistinct hfound hfile hname
      exact ⟨entry, hin, hdata, hrun⟩
  · intro pathname hother
    obtain ⟨r, ⟨rfl, -⟩ | ⟨found, hfound, hname, -⟩, hrun⟩ := hfinds pathname
    · exact hrun
    · exact absurd hname (hother found hfound)

/-- `FILES`. -/
def FILES : List FixtureFile :=
  [⟨RELEASE_PATH, [83, 69, 76, 73, 78, 79, 83, 33]⟩,
    ⟨BANNER_PATH, [67, 80, 73, 79, 45, 79, 75, 33]⟩,
    ⟨VERSION_PATH, [83, 69, 76, 73, 78, 79, 83, 57]⟩]

set_option maxRecDepth 100000 in
/-- The archive of the image is the one that the script writes. -/
theorem build_image :
    build FILES = some (selinosRomfsCpioArchive.slice 0 selinosRomfsCpioArchive.size) := by
  decide +kernel

/-- The release record of the image, read back. -/
theorem round_trip_release : ∃ entry, ∀ {ε σ : Type} (s : σ), (cpioLookupRegular
    (Buf.ofList (selinosRomfsCpioArchive.slice 0 selinosRomfsCpioArchive.size)) RELEASE_PATH :
      Prog ε σ (Option Entry)) s = .ok (some entry) s := by
  obtain ⟨entry, -, -, hrun⟩ := (round_trip build_image (by decide) (by decide) (by decide)).1
    ⟨RELEASE_PATH, [83, 69, 76, 73, 78, 79, 83, 33]⟩ (by decide)
  exact ⟨entry, hrun⟩

end SeLinOS.Romfs
