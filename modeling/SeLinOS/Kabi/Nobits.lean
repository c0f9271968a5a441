import SeLinOS.Kabi.Verdict

/-!
# Sections without file bytes

The parser asks of every section that its range lies in the file; the layout loop does not ask it of
`SHT_NOBITS`, which has no bytes there. `parseModuleWith exempt` is the parser without this test for
the sections that `exempt` names, and `nobits_range_iff` says when the exemption makes no
difference.
-/

namespace SeLinOS.Kabi

open CLogic Prog

variable {img : Buf} {required : CStr} {exempt : Shdr → Bool}

/-- `parseSection`, where the range test leaves out the sections that `exempt` names. -/
def parseSectionWith (exempt : Shdr → Bool) (img : Buf) (names : Shdr) (index : Nat) :
    Prog Status Summary Unit := do
  let sh ← loadSection img index
  if sh.name ≥ names.size ∨ (¬ exempt sh ∧ ¬ rangeOk img.size sh.offset sh.size) then
    Prog.ret .eSections
  else
    let sectionName := names.offset + sh.name
    let sectionNameLimit := names.size - sh.name
    Prog.when (sh.type = SHT_RELA) (Prog.modify fun s =>
      { s with relocationSections := (s.relocationSections + 1) % 2 ^ 32 })
    Prog.when (sh.type = SHT_SYMTAB) (parseSymtab img sh)
    let isModinfo ← nameEquals img sectionName sectionNameLimit modinfoName
    Prog.when isModinfo (parseModinfo img sh.offset sh.size)
    let isVersions ← nameEquals img sectionName sectionNameLimit versionsName
    Prog.when isVersions (Prog.modify fun s => { s with hasVersions := true })

/-- `parseModule` with this section loop. -/
def parseModuleWith (exempt : Shdr → Bool) (img : Buf) (required : CStr) :
    Prog Status Summary Unit := do
  Prog.modify fun _ => Summary.zero
  let names ← parseHeader img
  Prog.forUp (parseSectionWith exempt img names) 0 (Ehdr.at img).shnum
  parseMetadata img required

/-- `relocateModule` with this parser. -/
def relocateModuleWith (exempt : Shdr → Bool) (img : Buf) (required : CStr) (lb : LoadBuffer)
    (resolve : Option Resolver) : LoadM Unit := do
  if lb.base = 0 ∨ lb.size = 0 then Prog.ret .eArgument
  else
    Prog.modify fun s => { s with loaded := Loaded.zero }
    let parsed ← Prog.call (parseModuleWith exempt img required) Summary.zero
    match parsed.1 with
    | .error _ => Prog.ret .eElf
    | .ok _ => relocateImage img lb resolve

/-- The exemption of the layout loop. -/
def isNobits (sh : Shdr) : Bool := sh.type = SHT_NOBITS

/-- The exempt sections lie in the file. -/
def ExemptInFile (exempt : Shdr → Bool) (img : Buf) : Prop :=
  ∀ i < (Ehdr.at img).shnum, exempt (sectionAt img i) = true →
    (sectionAt img i).offset + (sectionAt img i).size ≤ img.size

theorem parseSectionWith_eq {names : Shdr} {i : Nat} (h : exempt (sectionAt img i) = true →
    (sectionAt img i).offset + (sectionAt img i).size ≤ img.size) :
    parseSectionWith exempt img names i = parseSection img names i := by
  unfold parseSectionWith parseSection
  refine Buf.load_bind_congr ?_
  have hsame : (¬ exempt (sectionAt img i) ∧
      ¬ rangeOk img.size (sectionAt img i).offset (sectionAt img i).size) ↔
      ¬ rangeOk img.size (sectionAt img i).offset (sectionAt img i).size :=
    ⟨fun hc => hc.2, fun hc => ⟨fun he => hc (rangeOk_iff.mpr (h he)), hc⟩⟩
  simp only [hsame]

/-- Where the exempt sections lie in the file, the exemption makes no difference. -/
theorem parseModuleWith_eq (h : ExemptInFile exempt img) :
    parseModuleWith exempt img required = parseModule img required := by
  unfold parseModuleWith parseModule
  have hloop : ∀ names, forUp (parseSectionWith exempt img names) 0 (Ehdr.at img).shnum =
      forUp (parseSection img names) 0 (Ehdr.at img).shnum :=
    fun names => forUp_congr fun i _ hi => parseSectionWith_eq (h i (by omega))
  simp only [hloop]

/-- **`SHT_NOBITS` and the file**: for an image that the parser accepts with the exemption of the
layout loop, the parser accepts it, and the relocation stage does what it does with the exemption,
exactly when the ranges of its `SHT_NOBITS` sections lie in the file. -/
theorem nobits_range_iff (img : Buf) (required : CStr)
    (h : ∃ summary, parseModuleWith isNobits img required Summary.zero = .ok () summary) :
    (Parses img required ∧ ∀ (lb : LoadBuffer) (resolve : Option Resolver) (s : LoadState),
      relocateModule img required lb resolve s =
        relocateModuleWith isNobits img required lb resolve s) ↔
    ∀ i < (Ehdr.at img).shnum, (sectionAt img i).type = SHT_NOBITS →
      (sectionAt img i).offset + (sectionAt img i).size ≤ img.size := by
  constructor
  · rintro ⟨⟨summary, hp⟩, -⟩ i hi -
    exact ((wp_ok parseModule_wp hp).sections i hi).range
  · intro hin
    have heq : parseModuleWith isNobits img required = parseModule img required :=
      parseModuleWith_eq fun i hi hn => hin i hi (of_decide_eq_true hn)
    rw [heq] at h
    refine ⟨h, fun lb resolve s => ?_⟩
    rw [relocateModuleWith, heq]
    rfl

/-- The sample image where section 0 is a `.bss` of 32 bytes whose file offset is `offset`. -/
def bssImage (offset : Nat) : Buf :=
  patch (patch (patch (patch (sampleImage 0 0x66) 0x40 0x800000000) 0x48 3) 0x58 offset) 0x60 0x20

/-- The run falls through. -/
def fallsThrough {ε σ α : Type} : Res ε σ α → Bool
  | .ok _ _ => true
  | _ => false

theorem exists_of_fallsThrough {ε σ : Type} {r : Res ε σ Unit} (h : fallsThrough r = true) :
    ∃ s, r = .ok () s := by
  cases r with
  | ok _ s => exact ⟨s, rfl⟩
  | ret _ _ => cases h
  | fault _ => cases h

set_option maxRecDepth 100000 in
theorem nobits_range_iff_bss : Parses (bssImage 0x300) samplePrefix := by
  have hok : fallsThrough (parseModuleWith isNobits (bssImage 0x300) samplePrefix Summary.zero) =
      true := by
    decide +kernel
  exact ((nobits_range_iff _ _ (exists_of_fallsThrough hok)).mpr (by decide +kernel)).1

set_option maxRecDepth 100000 in
/-- A `.bss` whose declared range ends 16 bytes behind the file: with the exemption the module is
parsed and relocated; the parser refuses it. -/
theorem bss_behind_file : ¬ ∀ (img : Buf) (required : CStr),
    (∃ summary, parseModuleWith isNobits img required Summary.zero = .ok () summary) →
      Parses img required ∧ ∀ (lb : LoadBuffer) (resolve : Option Resolver) (s : LoadState),
        relocateModule img required lb resolve s =
          relocateModuleWith isNobits img required lb resolve s := by
  intro hall
  have hok : fallsThrough (parseModuleWith isNobits (bssImage 0x310) samplePrefix Summary.zero) =
      true := by
    decide +kernel
  obtain ⟨⟨summary, hp⟩, -⟩ := hall _ _ (exists_of_fallsThrough hok)
  have hbss : 0 < (Ehdr.at (bssImage 0x310)).shnum ∧ ¬ (sectionAt (bssImage 0x310) 0).offset +
      (sectionAt (bssImage 0x310) 0).size ≤ (bssImage 0x310).size := by
    decide +kernel
  exact hbss.2 ((wp_ok parseModule_wp hp).sections 0 hbss.1).range

end SeLinOS.Kabi
