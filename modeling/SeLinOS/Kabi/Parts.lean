import SeLinOS.Kabi.Offsets

/-!
# The relocation stage in two parts

* `prepareModule`, `walkModule`: the stage up to the relocation walk and from it on, the walk with
  any function for the four relocation types; `relocateModule_eq`.
* `placedAt`, `Prepared`: the addresses of the sections from the image alone, and what the first
  part leaves.
-/

namespace SeLinOS.Kabi

open CLogic Prog

/-! ## The parts -/

/-- `relocateModule` up to the relocation walk. -/
def prepareModule (img : Buf) (required : CStr) (lb : LoadBuffer) : LoadM Symtab := do
  if lb.base = 0 ∨ lb.size = 0 then Prog.ret .eArgument
  else
    Prog.modify fun s => { s with loaded := Loaded.zero }
    let parsed ← Prog.call (parseModule img required) Summary.zero
    match parsed.1 with
    | .error _ => Prog.ret .eElf
    | .ok _ =>
      let header ← img.load 0 ehdrSize (Ehdr.at img)
      if header.shnum > MODULE_MAX_SECTIONS then Prog.ret .eSections
      else
        Prog.modify fun s => { s with sectionAddresses := fun _ => 0, used := 0 }
        Prog.forUp (layoutSection img lb) 0 header.shnum
        let found ← Prog.foldUp (findSymtab img) 0 header.shnum none
        match found with
        | none => Prog.ret .eSections
        | some tab => pure tab

/-- A function for the four relocation types: the type, the symbol address, the addend and the
place. -/
abbrev Apply : Type := Nat → Nat → Nat → Nat → LoadM Unit

/-- `applyRelocation`, with `apply` for the four types. -/
def applyRelocationUsing (apply : Apply) (img : Buf) (tab : Symtab) (resolve : Option Resolver)
    (info : Nat) (target : Shdr) (relocation : Rela) : LoadM Unit := do
  if relocation.symbolIndex ≥ tab.symbolCount then Prog.ret .eSymbol
  else
    let targetBase ← sectionAddress info
    if targetBase = 0 ∨ relocation.offset > target.size ∨
        relocWidth relocation.type > target.size - relocation.offset then
      Prog.ret .eSymbol
    else
      let o := tab.symbols + symSize * relocation.symbolIndex
      let symbol ← img.load o symSize (Sym.at img o)
      let address ← symbolRuntimeAddress img symbol tab (Ehdr.at img).shnum resolve
      match address with
      | none => Prog.ret .eSymbol
      | some symbolAddress =>
        apply relocation.type symbolAddress relocation.addend (targetBase + relocation.offset)
        Prog.modify fun s => { s with
          loaded.appliedRelocations := (s.loaded.appliedRelocations + 1) % 2 ^ 32 }

/-- `relocateSection`, with `apply` for the four types. -/
def relocateSectionUsing (apply : Apply) (img : Buf) (tab : Symtab) (resolve : Option Resolver)
    (index : Nat) : LoadM Unit := do
  let sh ← loadSection img index
  Prog.when (sh.type = SHT_RELA) do
    if sh.info ≥ (Ehdr.at img).shnum ∨ sh.link ≥ (Ehdr.at img).shnum ∨ sh.link ≠ tab.section_ ∨
        sh.entsize ≠ relaSize ∨ sh.size % sh.entsize ≠ 0 ∨
        ¬ rangeOk img.size sh.offset sh.size then
      Prog.ret .eRelocation
    else
      let target ← loadSection img sh.info
      Prog.when target.alloc (Prog.forUp (fun relocationIndex => do
        let o := sh.offset + relaSize * relocationIndex
        let relocation ← img.load o relaSize (Rela.at img o)
        applyRelocationUsing apply img tab resolve sh.info target relocation) 0
          (sh.size / sh.entsize))

/-- `relocateModule` from the relocation walk on. -/
def walkModule (apply : Apply) (img : Buf) (lb : LoadBuffer) (resolve : Option Resolver)
    (tab : Symtab) : LoadM Unit := do
  Prog.forUp (relocateSectionUsing apply img tab resolve) 0 (Ehdr.at img).shnum
  Prog.forUp (findEntry img tab resolve) 0 tab.symbolCount
  let s ← Prog.get
  if s.loaded.initModule = 0 ∨ s.loaded.cleanupModule = 0 then Prog.ret .eSymbol
  else
    Prog.modify fun s => { s with loaded.loadBase := lb.base, loaded.imageSize := s.used }

theorem relocateModule_eq (img : Buf) (required : CStr) (lb : LoadBuffer)
    (resolve : Option Resolver) :
    relocateModule img required lb resolve =
      prepareModule img required lb >>= walkModule (applyType lb) img lb resolve := by
  unfold relocateModule prepareModule
  by_cases hargument : lb.base = 0 ∨ lb.size = 0
  · rw [if_pos hargument, if_pos hargument]
    rfl
  rw [if_neg hargument, if_neg hargument, bind_assoc_run]
  refine congrArg _ (funext fun _ => ?_)
  rw [bind_assoc_run]
  refine congrArg _ (funext fun parsed => ?_)
  cases parsed.1 with
  | error _ => rfl
  | ok _ =>
    simp only [relocateImage, bind_assoc_run]
    refine Buf.load_bind_congr ?_
    by_cases hsections : (Ehdr.at img).shnum > MODULE_MAX_SECTIONS
    · rw [if_pos hsections, if_pos hsections]
      rfl
    · rw [if_neg hsections, if_neg hsections, bind_assoc_run]
      refine congrArg _ (funext fun _ => ?_)
      rw [bind_assoc_run]
      refine congrArg _ (funext fun _ => ?_)
      rw [bind_assoc_run]
      refine congrArg _ (funext fun found => ?_)
      cases found with
      | none => rfl
      | some tab => rfl

/-! ## Before the walk -/

variable {img : Buf} {required : CStr} {lb : LoadBuffer} {m : Mem} {l : Loaded} {s : LoadState}

/-- The sections that have an address lie in the load memory. -/
def AddressesIn (img : Buf) (lb : LoadBuffer) (addr : Nat → Nat) : Prop :=
  ∀ i, addr i ≠ 0 → lb.base ≤ addr i ∧ addr i + (sectionAt img i).size ≤ lb.base + lb.size

/-- The address of section `i` in the load memory; 0 where it has none. -/
def placedAt (img : Buf) (lb : LoadBuffer) (i : Nat) : Nat :=
  if i < (Ehdr.at img).shnum ∧ (sectionAt img i).alloc then
    lb.base + (layoutOffset img lb.size i).getD 0
  else 0

/-- What the stage has before the walk. -/
structure Prepared (img : Buf) (lb : LoadBuffer) (tab : Symtab) (s : LoadState) : Prop where
  table : (Ehdr.at img).shoff + shdrSize * (Ehdr.at img).shnum ≤ img.size
  sections : (Ehdr.at img).shnum ≤ MODULE_MAX_SECTIONS
  symtab : tab = imageSymtab img
  tabOk : TabOk img tab
  addresses : s.sectionAddresses = placedAt img lb
  inside : AddressesIn img lb (placedAt img lb)

/-- The addresses after the layout. -/
theorem addresses_eq {n : Nat} {m₀ : Mem} (hp : Placed img lb (Ehdr.at img).shnum m₀ s)
    (hl : LaidOut img lb (Ehdr.at img).shnum n s) : s.sectionAddresses = placedAt img lb := by
  funext i
  unfold placedAt
  by_cases hi : i < (Ehdr.at img).shnum ∧ (sectionAt img i).alloc
  · obtain ⟨offset, hoffset, haddress⟩ := hl.address i hi.1 hi.2
    rw [if_pos hi, haddress, hoffset, Option.getD_some]
  · rw [if_neg hi]
    exact hp.unplaced i fun hlt ha => hi ⟨hlt, ha⟩

theorem prepareModule_wp : wp (prepareModule img required lb) (fun tab s' => Prepared img lb tab s')
    (fun _ _ => True) (LoadState.enter m l) := by
  unfold prepareModule
  refine wp_ite (fun _ => wp_ret trivial) fun hc => wp_bind (wp_modify ?_)
  rw [not_or] at hc
  refine wp_bind (wp_call (wp_mono parseModule_wp ?_ fun _ _ _ => wp_ret trivial))
  intro _ _ hw
  have ht := hw.header.table
  refine wp_bind (Buf.wp_load (by have := hw.header.header; omega) ?_)
  refine wp_ite (fun _ => wp_ret trivial) fun hmax => wp_bind (wp_modify ?_)
  rw [gt_iff_lt, Nat.not_lt] at hmax
  have hlayout : wp (forUp (layoutSection img lb) 0 (Ehdr.at img).shnum)
      (fun _ s' => Placed img lb (Ehdr.at img).shnum m s') (fun _ s' => Contained img lb m s')
      (LoadState.enter m Loaded.zero) :=
    layoutSections_wp ht hmax hc.1 (Placed.zero rfl rfl rfl rfl)
  refine wp_seq (wp_and hlayout (wp_of_wlp hlayout (layoutSections_wlp (.zero rfl rfl))))
    (fun _ _ _ => trivial) ?_
  rintro _ s₁ ⟨hp, hl⟩
  refine wp_seq (findSymtabs_wp ht (hp.contained hc.1)) (fun _ _ _ => trivial) ?_
  rintro found s' ⟨rfl, hf⟩
  cases found with
  | none => exact wp_ret trivial
  | some tab =>
    obtain ⟨i, rfl, hi⟩ := hf
    have haddr := addresses_eq hp hl
    refine wp_pure ⟨ht, hmax, hi.imageSymtab_eq.symm, hi.tabOk, haddr, fun j hj => ?_⟩
    rw [← haddr] at hj ⊢
    obtain ⟨hlt, ha⟩ := hp.alloc_of_ne_zero hj
    have hin := hp.inside j hlt ha
    have hused := hp.used
    omega

end SeLinOS.Kabi
