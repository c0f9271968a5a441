import SeLinOS.Elfrt.Dynamic

/-!
# The ELF runtime parser accepts its grammar

`parseImage_iff`: the parser accepts exactly the images of the grammar, and then fills in the
declared summary. `selects_refused` has two images that show where it takes fewer string tables than
the dynamic section can select.
-/

namespace SeLinOS.Elfrt

open CLogic Prog

variable {img : Buf} {s : State} {allow : Bool}

/-! ## The parser -/

/-- The header checks. -/
theorem parseHeader_spec : wp (parseHeader img) (fun _ s' => s' = s ∧ HeaderOk img)
    (fun _ _ => ¬ HeaderOk img) s := by
  unfold parseHeader
  refine wp_ite (fun hc => wp_ret fun h => absurd h.size (by omega)) fun hsize => ?_
  rw [Nat.not_lt] at hsize
  have hident : 0 + 7 ≤ img.size := Nat.le_trans (by decide) hsize
  refine wp_bind (Buf.wp_load (by omega) (wp_bind (Buf.wp_load hident ?_)))
  refine wp_ite (fun hc => wp_ret fun h => ?_) fun hident => ?_
  · rcases hc with hc | hc | hc
    · exact hc h.ident
    · exact hc h.version
    · exact hc h.ehsize
  refine wp_ite (fun hc => wp_ret fun h => hc h.machine) fun hmachine => ?_
  refine wp_ite (fun hc => wp_ret fun h => ?_) fun htype => ?_
  · rcases h.type with ht | ht
    · exact hc.1 ht
    · exact hc.2 ht
  refine wp_ite (fun hc => wp_ret fun h => ?_) fun htable => wp_pure ⟨rfl, ?_⟩
  · have htab := h.table
    rw [rangeValid_iff, h.phentsize, Nat.mul_comm] at hc
    have hnum := h.phnum
    rcases hc with hc | hc | hc | hc
    · omega
    · omega
    · exact hc rfl
    · exact hc htab
  · simp only [not_or, not_not] at hident htable hmachine
    obtain ⟨hnum, hmax, hent, hrange⟩ := htable
    rw [rangeValid_iff, hent, Nat.mul_comm] at hrange
    exact ⟨hsize, hident.1, hident.2.1, hident.2.2, hmachine, by omega, by omega, hent, hrange⟩

/-- Its outcome in both directions. -/
theorem parseImage_spec (hfile : img.size < 2 ^ 64) (allow : Bool) (y : Summary) :
    wp (parseImage img allow)
      (fun _ s' => Accepts SelectsFirst img allow ∧ Declared img s'.summary)
      (fun _ _ => ¬ Accepts SelectsFirst img allow) (State.enter y) := by
  unfold parseImage
  refine wp_bind (wp_modify ?_)
  refine wp_seq parseHeader_spec (fun _ _ hbad h => hbad h.header) ?_
  rintro - s₁ ⟨rfl, hheader⟩
  refine wp_bind (wp_modify ?_)
  refine wp_seq (parseHeaders_spec hheader.table) (fun _ _ hbad h => hbad h.headers) ?_
  rintro - s₂ ⟨rfl, hheaders⟩
  refine wp_bind (wp_get (wp_ite (fun hzero => wp_ret fun h => ?_) fun hloads => ?_))
  · have hnone : (loads (programHeaders img)).length = 0 := hzero
    have hsome := h.loaded
    omega
  have hloaded : 1 ≤ (loads (programHeaders img)).length := Nat.one_le_iff_ne_zero.mpr hloads
  have honce := hheaders.dynamicOnce
  cases hd : dynamics (programHeaders img) with
  | nil =>
    have hnone : (headersState img (programHeaders img)).dynamicHeader = none := by
      rw [headersState, hd, List.head?_nil]
    rw [hnone]
    refine wp_pure ⟨⟨hheader, hheaders, hloaded, ?_, ?_⟩, .inl ⟨hd, rfl⟩⟩
    all_goals
      intro d hmem
      rw [hd] at hmem
      cases hmem
  | cons d rest =>
    obtain rfl : rest = [] := by
      rw [hd, List.length_cons] at honce
      exact List.length_eq_zero_iff.mp (by omega)
    have hsome : (headersState img (programHeaders img)).dynamicHeader = some d := by
      rw [headersState, hd, List.head?_cons]
    have honly : ∀ d' ∈ dynamics (programHeaders img), d' = d := by
      rw [hd]
      exact fun d' hmem => List.mem_singleton.mp hmem
    have hmem : d ∈ dynamics (programHeaders img) := hd ▸ List.mem_singleton.mpr rfl
    rw [hsome]
    refine wp_mono (parseDynamic_spec hheader.table hfile hheaders hd) ?_ ?_
    · rintro - s' ⟨hnull, hneeded, hdeclared⟩
      refine ⟨⟨hheader, hheaders, hloaded, ?_, ?_⟩, hdeclared⟩
      · exact fun d' hd' => honly d' hd' ▸ hnull
      · exact fun d' hd' => honly d' hd' ▸ hneeded
    · exact fun _ _ hbad h => hbad ⟨h.null d hmem, h.needed d hmem⟩

/-- **The parser accepts its grammar**: from every image, with any summary in the array before, it
falls through exactly where the image is one of the grammar, and the summary is then the declared
one. -/
theorem parseImage_iff (hfile : img.size < 2 ^ 64) (allowInterpreter : Bool) (y : Summary) :
    ((∃ s, parseImage img allowInterpreter (State.enter y) = .ok () s) ↔
      Accepts SelectsFirst img allowInterpreter) ∧
    ∀ s, parseImage img allowInterpreter (State.enter y) = .ok () s → Declared img s.summary := by
  have hspec := parseImage_spec hfile allowInterpreter y
  refine ⟨⟨?_, fun haccepts => ?_⟩, fun s hs => (wp_ok hspec hs).2⟩
  · rintro ⟨s, hs⟩
    exact (wp_ok hspec hs).1
  · cases hrun : parseImage img allowInterpreter (State.enter y) with
    | ok a s => exact ⟨s, rfl⟩
    | ret e s => exact absurd haccepts (wp_ret_of hspec hrun)
    | fault x => exact absurd hrun (wp_noFault hspec x)

/-! ## Where the string table is -/

/-- A shared object at `base` that needs `libc.so`. Its one segment is the whole file, and so is its
string table. -/
def oneNeeded (base : Nat) : Buf := Buf.ofWords [
  0x10102464c457f, 0, 0x1003e0003, 0, 0x40, 0, 0x38004000000000, 2,
  0x400000001, 0, base, 0, 0xf8, 0xf8, 0,
  0x400000002, 0xb0, base + 0xb0, 0, 0x40, 0x40, 8,
  1, 0xf0, 5, base, 10, 0xf8, 0, 0,
  0x6f732e6362696c]

/-- A shared object that needs `libc.so`, with two segments at 0x1000: the first has 16 bytes of the
file, and the second all of it. -/
def twoHolders : Buf := Buf.ofWords [
  0x10102464c457f, 0, 0x1003e0003, 0, 0x40, 0, 0x38004000000000, 3,
  0x400000001, 0, 0x1000, 0, 0x10, 0x10, 0,
  0x400000001, 0, 0x1000, 0, 0x130, 0x130, 0,
  0x400000002, 0xe8, 0x10e8, 0, 0x40, 0x40, 8,
  1, 0x128, 5, 0x1000, 10, 0x130, 0, 0,
  0x6f732e6362696c]

/-- An image without an interpreter whose segments have no alignment, with its string table at
`address`, in the file at `offset`. -/
theorem accepts_of_table (address offset size : Nat) (header : HeaderOk img)
    (load : ∀ p ∈ loads (programHeaders img), p.filesz ≤ p.memsz ∧ InFile img p ∧ p.align ≤ 1)
    (count : 1 ≤ (loads (programHeaders img)).length ∧
      (loads (programHeaders img)).length ≤ MAX_LOAD_SEGMENTS)
    (interp : interps (programHeaders img) = [])
    (dynamicOnce : (dynamics (programHeaders img)).length ≤ 1)
    (dynamic : ∀ d ∈ dynamics (programHeaders img), DynamicOk img d ∧
      (∃ e ∈ dynEntries img d, e.tag = DT_NULL) ∧
      (neededValues (liveEntries img d)).length ≤ MAX_NEEDED ∧
      lastValue DT_STRTAB (liveEntries img d) = some address ∧
      lastValue DT_STRSZ (liveEntries img d) = some size ∧
      ∀ v ∈ neededValues (liveEntries img d), v < size ∧
        Terminated img NEEDED_NAME_MAX (offset + v) (size - v))
    (holds : ∃ p ∈ loads (programHeaders img), p.holds address ∧
      size ≤ p.filesz - (address - p.vaddr) ∧ offset = p.offset + (address - p.vaddr)) :
    Accepts Selects img false where
  header := header
  headers :=
    { load := fun p hp => ⟨(load p hp).1, (load p hp).2.1, .inl (load p hp).2.2⟩
      loadCount := count.2
      interp := by rw [interp]; exact fun p hp => absurd hp List.not_mem_nil
      interpOnce := by rw [interp]; exact Nat.zero_le 1
      dynamic := fun d hd => (dynamic d hd).1
      dynamicOnce := dynamicOnce }
  loaded := count.1
  null := fun d hd => (dynamic d hd).2.1
  needed := fun d hd => by
    obtain ⟨-, -, hmax, haddress, hsize, hnames⟩ := dynamic d hd
    exact ⟨hmax, fun _ => ⟨offset, size, ⟨address, haddress, hsize, holds⟩, hnames⟩⟩

set_option maxRecDepth 100000 in
theorem oneNeeded_accepts : Accepts Selects (oneNeeded 0) false :=
  accepts_of_table 0 0 0xf8 (by constructor <;> decide +kernel) (by decide +kernel)
    (by decide +kernel) (by decide +kernel) (by decide +kernel) (by decide +kernel)
    (by decide +kernel)

set_option maxRecDepth 100000 in
theorem twoHolders_accepts : Accepts Selects twoHolders false :=
  accepts_of_table 0x1000 0 0x130 (by constructor <;> decide +kernel) (by decide +kernel)
    (by decide +kernel) (by decide +kernel) (by decide +kernel) (by decide +kernel)
    (by decide +kernel)

/-- The parser falls through. -/
def accepted (r : Res Status State Unit) : Bool :=
  match r with
  | .ok _ _ => true
  | _ => false

theorem accepted_iff {r : Res Status State Unit} : accepted r = true ↔ ∃ s, r = .ok () s := by
  cases r <;> simp [accepted]

set_option maxRecDepth 100000 in
/-- A string table at the address 0 is not taken, and neither is one in the second segment that
holds it. -/
theorem selects_refused :
    (Accepts Selects (oneNeeded 0) false ∧
      ¬ ∃ s, parseImage (oneNeeded 0) false (State.enter Summary.clear) = .ok () s) ∧
    Accepts Selects twoHolders false ∧
      ¬ ∃ s, parseImage twoHolders false (State.enter Summary.clear) = .ok () s := by
  refine ⟨⟨oneNeeded_accepts, ?_⟩, twoHolders_accepts, ?_⟩
  · rw [← accepted_iff]
    decide +kernel
  · rw [← accepted_iff]
    decide +kernel

set_option maxRecDepth 100000 in
theorem parseImage_iff_oneNeeded : Accepts SelectsFirst (oneNeeded 0x1000) false ∧
    ∃ s, parseImage (oneNeeded 0x1000) false (State.enter Summary.clear) = .ok () s ∧
      Declared (oneNeeded 0x1000) s.summary := by
  obtain ⟨haccepts, hdeclared⟩ :=
    @parseImage_iff (oneNeeded 0x1000) (by decide +kernel) false Summary.clear
  obtain ⟨s, hs⟩ := accepted_iff.mp (show accepted (parseImage (oneNeeded 0x1000) false
    (State.enter Summary.clear)) = true by decide +kernel)
  exact ⟨haccepts.mp ⟨s, hs⟩, s, hs, hdeclared s hs⟩

end SeLinOS.Elfrt
