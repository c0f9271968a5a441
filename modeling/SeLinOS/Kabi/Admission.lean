import SeLinOS.Kabi.Contract
import SeLinOS.Kabi.Versions

/-!
# Admission of a module

`modexec` and `modld` admit an image that passes the version check and then the relocation, both
over one export table. `imports_checked_iff` says when an admitted image has the CRC of every import
checked: the version check looks at the records of the first `__versions` section, and at nothing
else, so an import has to be named there (or by a later record that happens to agree).
-/

namespace SeLinOS.Kabi

open CLogic Prog

/-- The name of the symbol of a relocation entry. -/
def importName (img : Buf) (e : Nat × Rela) : CStr :=
  symName img (imageSymtab img) (symAt img (imageSymtab img) e.2.symbolIndex)

/-- The entry applies and its symbol is undefined: the table resolves it. -/
def IsImport (img : Buf) (e : Nat × Rela) : Prop :=
  e ∈ relocEntries img ∧ (symAt img (imageSymtab img) e.2.symbolIndex).shndx = SHN_UNDEF

/-- The image is admitted: both stages return OK, the second in the state `s`. -/
structure Admitted (img : Buf) (required : CStr) (entries : List Export) (lb : LoadBuffer) (m : Mem)
    (l : Loaded) (s : LoadState) : Prop where
  versions : verifyModuleVersions img required (resolveExportCrc entries) () = .ok () ()
  relocated : relocateModule img required lb (some (resolveExport entries)) (LoadState.enter m l) =
    .ok () s

/-- Every import is named by a version record whose CRC is that of the table entry `x` whose address
was used. -/
def ImportsChecked (img : Buf) (entries : List Export) (s : LoadState) : Prop :=
  ∀ e, IsImport img e → ∃ x, lookupExport entries (importName img e) = some x ∧
    SymbolValue img (imageSymtab img) (some (resolveExport entries)) s.sectionAddresses
      (symAt img (imageSymtab img) e.2.symbolIndex) x.runtimeAddress.toNat ∧
    ∃ i k, RecordNames img i k (importName img e) ∧ recordCrc img i k = x.crc.toNat

/-- Every import is named in the first `__versions` section, or by a record of another one that
agrees with the table. -/
def ImportsListed (img : Buf) (entries : List Export) : Prop :=
  ∀ e, IsImport img e → ∃ i k, RecordNames img i k (importName img e) ∧
    (FirstVersions img i ∨ ¬ FirstVersions img i ∧
      ∃ x, lookupExport entries (importName img e) = some x ∧ recordCrc img i k = x.crc.toNat)

section Admission

variable {img : Buf} {required : CStr} {entries : List Export} {lb : LoadBuffer} {m : Mem}
  {l : Loaded} {s : LoadState}

/-- The table entry behind an import. -/
theorem Admitted.lookup (h : Admitted img required entries lb m l s) {e : Nat × Rela}
    (he : IsImport img e) : ∃ x, lookupExport entries (importName img e) = some x ∧
      SymbolValue img (imageSymtab img) (some (resolveExport entries)) s.sectionAddresses
        (symAt img (imageSymtab img) e.2.symbolIndex) x.runtimeAddress.toNat := by
  obtain ⟨i, hl⟩ := linked_of_ok h.relocated
  obtain ⟨t, S, -, hS, -⟩ := hl.entries e he.1
  cases hS with
  | defined hdef => exact absurd he.2 hdef
  | undefined hundef hres hnamed hr hne =>
    obtain rfl := Option.some.inj hres
    obtain ⟨x, hx, rfl⟩ := Option.map_eq_some_iff.mp hr
    exact ⟨x, hx, .undefined hundef rfl hnamed (by rw [resolveExport]; exact hr) hne⟩

/-- A record of the first `__versions` section has the CRC of the table entry of its name. -/
theorem Admitted.crc_of_first (h : Admitted img required entries lb m l s) {i k : Nat}
    {name : CStr} (hi : FirstVersions img i) (hr : RecordNames img i k name) {x : Export}
    (hx : lookupExport entries name = some x) : recordCrc img i k = x.crc.toNat := by
  obtain ⟨j, hj, hver⟩ := wp_ok verifyModuleVersions_wp h.versions
  obtain rfl := hi.unique hj
  obtain ⟨crc, hcrc, heq⟩ := hver k hr.record
  rw [hr.name, resolveExportCrc, hx] at hcrc
  rw [heq, ← Option.some.inj hcrc]

/-- **Admission**: an admitted image has the CRC of all its imports checked exactly when all of them
are listed. -/
theorem imports_checked_iff (h : Admitted img required entries lb m l s) :
    ImportsChecked img entries s ↔ ImportsListed img entries := by
  constructor
  · intro hc e he
    obtain ⟨x, hx, -, i, k, hr, hcrc⟩ := hc e he
    refine ⟨i, k, hr, ?_⟩
    by_cases hi : FirstVersions img i
    · exact .inl hi
    · exact .inr ⟨hi, x, hx, hcrc⟩
  · intro hlist e he
    obtain ⟨x, hx, hS⟩ := h.lookup he
    obtain ⟨i, k, hr, hi⟩ := hlist e he
    refine ⟨x, hx, hS, i, k, hr, ?_⟩
    rcases hi with hi | ⟨-, x', hx', hcrc⟩
    · exact h.crc_of_first hi hr hx
    · obtain rfl := Option.some.inj (hx.symm.trans hx')
      exact hcrc

end Admission

/-! ## Two images -/

/-- `f` at 0x20000 and `g` at 0x20100, both with the CRC 0x77. -/
def sampleTable : List Export :=
  [⟨some ⟨[0x66], by decide⟩, 0x77, 0x20000⟩, ⟨some ⟨[0x67], by decide⟩, 0x77, 0x20100⟩]

def accepts (r : Res Status Unit Unit) : Bool :=
  match r with
  | .ok _ _ => true
  | _ => false

/-- The sample image that lists the name `n` passes both stages. -/
theorem admitted_sample {n : Nat}
    (hv : accepts (verifyModuleVersions (sampleImage 0 n) samplePrefix
      (resolveExportCrc sampleTable) ()) = true)
    (hr : (loadedOf (relocateModule (sampleImage 0 n) samplePrefix sampleBuffer
      (some (resolveExport sampleTable)) (LoadState.enter (fun _ => 0) Loaded.zero))).isSome) :
    ∃ s, Admitted (sampleImage 0 n) samplePrefix sampleTable sampleBuffer (fun _ => 0)
      Loaded.zero s := by
  obtain ⟨l, hl⟩ := Option.isSome_iff_exists.mp hr
  obtain ⟨s, hs, -⟩ := ok_of_loadedOf hl
  refine ⟨s, ?_, hs⟩
  generalize verifyModuleVersions (sampleImage 0 n) samplePrefix
    (resolveExportCrc sampleTable) () = r at hv
  cases r with
  | ok a s => rfl
  | ret e s => cases hv
  | fault x => cases hv

set_option maxRecDepth 100000 in
theorem imports_checked_iff_sample : ∃ s, Admitted (sampleImage 0 0x66) samplePrefix sampleTable
    sampleBuffer (fun _ => 0) Loaded.zero s ∧
      (ImportsChecked (sampleImage 0 0x66) sampleTable s ↔
        ImportsListed (sampleImage 0 0x66) sampleTable) := by
  obtain ⟨s, hs⟩ := admitted_sample (n := 0x66) (by decide +kernel) (by decide +kernel)
  exact ⟨s, hs, imports_checked_iff hs⟩

set_option maxRecDepth 100000 in
/-- The image that imports `f` and lists only `g` is admitted, and no record names `f`. -/
theorem import_not_checked : ¬ ∀ (img : Buf) (required : CStr) (entries : List Export)
    (lb : LoadBuffer) (m : Mem) (l : Loaded) (s : LoadState),
    Admitted img required entries lb m l s → ImportsChecked img entries s := by
  intro hall
  obtain ⟨s, hs⟩ := admitted_sample (n := 0x67) (by decide +kernel) (by decide +kernel)
  have himport : ∃ e ∈ relocEntries (sampleImage 0 0x67),
      (symAt (sampleImage 0 0x67) (imageSymtab (sampleImage 0 0x67)) e.2.symbolIndex).shndx =
        SHN_UNDEF ∧ importName (sampleImage 0 0x67) e = ⟨[0x66], by decide⟩ := by
    decide +kernel
  have hrecords : ∀ i < (Ehdr.at (sampleImage 0 0x67)).shnum, IsVersions (sampleImage 0 0x67) i →
      ∀ k < (sectionAt (sampleImage 0 0x67) i).size / modversionSize,
        (sampleImage 0 0x67).cstr (recordName (sectionAt (sampleImage 0 0x67) i) k)
          modversionNameSize ≠ ⟨[0x66], by decide⟩ := by
    decide +kernel
  obtain ⟨e, he, hundef, hname⟩ := himport
  obtain ⟨x, -, -, i, k, hr, -⟩ := hall _ _ _ _ _ _ s hs e ⟨he, hundef⟩
  exact hrecords i hr.section_.1 hr.section_.2 k hr.record (hr.name.trans hname)

end SeLinOS.Kabi
