import SeLinOS.Kabi.Walk

/-!
# The whole relocation stage

* `DefinesEntry`, `lastEntry`: the symbols that give an entry point its address, by the image alone;
  the last one of a name counts.
* `Linked img lb resolve m₀ s`: what a successful call leaves in `s`.
* `relocateModule_wp`: from any image the call terminates without a fault; a failed call has written
  in the load buffer only, a successful one leaves a linked module.
-/

namespace SeLinOS.Kabi

open CLogic Prog

variable {img : Buf} {lb : LoadBuffer} {n : Nat} {s s₁ : LoadState} {m₀ : Mem} {tab : Symtab}
  {resolve : Option Resolver} {E : Status → LoadState → Prop} {name : List UInt8}

/-! ## Entry points -/

/-- Symbol `k` is a candidate for the entry point `name`: it has this name and lies in a loaded
section. -/
def DefinesEntry (img : Buf) (tab : Symtab) (name : List UInt8) (k : Nat) : Prop :=
  let sym := symAt img tab k
  (sym.name < tab.namesSize ∧ sym.shndx ≠ SHN_UNDEF) ∧
    (sym.shndx < (Ehdr.at img).shnum ∧ (sectionAt img sym.shndx).alloc) ∧
    nameIs img (tab.names + sym.name) (tab.namesSize - sym.name) name

instance (k : Nat) : Decidable (DefinesEntry img tab name k) :=
  inferInstanceAs (Decidable (_ ∧ _ ∧ _))

/-- The last symbol below `n` that is a candidate for `name`. -/
def lastEntry (img : Buf) (tab : Symtab) (name : List UInt8) : Nat → Option Nat
  | 0 => none
  | n + 1 => if DefinesEntry img tab name n then some n else lastEntry img tab name n

/-- The address that symbol `k` has when section `i` is at `addr i`, as the code adds it. -/
def symbolPlace (img : Buf) (tab : Symtab) (addr : Nat → Nat) (k : Nat) : Nat :=
  (addr (symAt img tab k).shndx + (symAt img tab k).value) % 2 ^ 64

/-- The entry point `name` after the first `n` symbols; 0 where none was found. -/
def entryValue (img : Buf) (tab : Symtab) (addr : Nat → Nat) (name : List UInt8) (n : Nat) : Nat :=
  match lastEntry img tab name n with
  | none => 0
  | some k => symbolPlace img tab addr k

theorem lastEntry_some {k : Nat} (h : lastEntry img tab name n = some k) :
    k < n ∧ DefinesEntry img tab name k := by
  induction n with
  | zero => cases h
  | succ n ih =>
    rw [lastEntry] at h
    split at h
    · obtain rfl := Option.some.inj h
      exact ⟨by omega, ‹_›⟩
    · obtain ⟨h1, h2⟩ := ih h
      exact ⟨by omega, h2⟩

theorem entryValue_succ {addr : Nat → Nat} (h : DefinesEntry img tab name n) :
    entryValue img tab addr name (n + 1) = symbolPlace img tab addr n := by
  rw [entryValue, lastEntry, if_pos h]

theorem entryValue_succ_of_not {addr : Nat → Nat} (h : ¬ DefinesEntry img tab name n) :
    entryValue img tab addr name (n + 1) = entryValue img tab addr name n := by
  rw [entryValue, lastEntry, if_neg h, entryValue]

/-- No string is both names. -/
theorem not_cleanupName {p limit : Nat} (h : nameIs img p limit initName) :
    ¬ nameIs img p limit cleanupName := by
  intro h'
  have h1 := h.2
  have h2 := h'.2
  rw [Buf.slice_succ] at h1 h2
  have e1 := (List.cons.inj h1).1
  have e2 := (List.cons.inj h2).1
  rw [e1] at e2
  exact absurd e2 (by decide)

/-- Both entry points after the first `n` symbols. -/
structure Entries (img : Buf) (tab : Symtab) (n : Nat) (s : LoadState) : Prop where
  init : s.loaded.initModule = entryValue img tab s.sectionAddresses initName n
  cleanup : s.loaded.cleanupModule = entryValue img tab s.sectionAddresses cleanupName n

/-- `s'` differs from `s` in the two entry points only. -/
structure SameImage (s s' : LoadState) : Prop where
  mem : s'.mem = s.mem
  addresses : s'.sectionAddresses = s.sectionAddresses
  used : s'.used = s.used

theorem SameImage.contained {s' : LoadState} (h : SameImage s s') (hc : Contained img lb m₀ s) :
    Contained img lb m₀ s' := by
  refine ⟨?_, ?_, ?_⟩ <;> rw [h.addresses]
  · exact hc.inside
  · exact hc.disjoint
  · rw [h.mem]
    exact hc.frame

theorem Entries.skip (h : Entries img tab n s) (hi : ¬ DefinesEntry img tab initName n)
    (hc : ¬ DefinesEntry img tab cleanupName n) : Entries img tab (n + 1) s :=
  ⟨by rw [entryValue_succ_of_not hi, h.init], by rw [entryValue_succ_of_not hc, h.cleanup]⟩

theorem findEntry_wp (ht : TabOk img tab) (hn : n < tab.symbolCount)
    (hmax : (Ehdr.at img).shnum ≤ MODULE_MAX_SECTIONS) (hb : lb.base ≠ 0)
    (hp : Placed img lb (Ehdr.at img).shnum m₀ s₁)
    (ha : s.sectionAddresses = s₁.sectionAddresses) (h : Entries img tab n s) :
    wp (findEntry img tab resolve n)
      (fun _ s' => SameImage s s' ∧ Entries img tab (n + 1) s') E s := by
  unfold findEntry
  refine wp_bind (loadSym_wp ht hn (wp_when (fun hc => ?_) fun hc =>
    ⟨⟨rfl, rfl, rfl⟩, h.skip (fun hd => hc hd.1) fun hd => hc hd.1⟩))
  obtain ⟨hname, hdef⟩ := hc
  refine wp_bind (symbolRuntimeAddress_wp ht hmax ?_)
  rw [symbolAddress, if_pos hdef]
  by_cases hsec : (symAt img tab n).shndx < (Ehdr.at img).shnum ∧
      s.sectionAddresses (symAt img tab n).shndx ≠ 0
  · rw [if_pos hsec]
    have halloc : (symAt img tab n).shndx < (Ehdr.at img).shnum ∧
        (sectionAt img (symAt img tab n).shndx).alloc := by
      rw [ha] at hsec
      exact hp.alloc_of_ne_zero hsec.2
    have hnames := ht.names
    refine wp_bind (wp_of_run (nameEquals_run (by omega)) ?_)
    refine wp_ite (fun hinit => ?_) fun hinit => ?_
    · rw [decide_eq_true_eq] at hinit
      have hi : DefinesEntry img tab initName n := ⟨⟨hname, hdef⟩, halloc, hinit⟩
      have hc : ¬ DefinesEntry img tab cleanupName n := fun hd => not_cleanupName hinit hd.2.2
      refine wp_modify ⟨⟨rfl, rfl, rfl⟩, (entryValue_succ hi).symm, ?_⟩
      rw [entryValue_succ_of_not hc]
      exact h.cleanup
    · rw [decide_eq_true_eq] at hinit
      have hi : ¬ DefinesEntry img tab initName n := fun hd => hinit hd.2.2
      refine wp_bind (wp_of_run (nameEquals_run (by omega)) (wp_when (fun hcl => ?_) fun hcl => ?_))
      · rw [decide_eq_true_eq] at hcl
        have hc : DefinesEntry img tab cleanupName n := ⟨⟨hname, hdef⟩, halloc, hcl⟩
        refine wp_modify ⟨⟨rfl, rfl, rfl⟩, ?_, (entryValue_succ hc).symm⟩
        rw [entryValue_succ_of_not hi]
        exact h.init
      · rw [decide_eq_true_eq] at hcl
        exact ⟨⟨rfl, rfl, rfl⟩, h.skip hi fun hd => hcl hd.2.2⟩
  · rw [if_neg hsec]
    have hnot (name : List UInt8) : ¬ DefinesEntry img tab name n := fun hd => by
      rw [ha] at hsec
      exact hsec ⟨hd.2.1.1, hp.ne_zero hb hd.2.1.1 hd.2.1.2⟩
    exact wp_pure ⟨⟨rfl, rfl, rfl⟩, h.skip (hnot _) (hnot _)⟩

/-! ## The function -/

/-- What a successful call leaves: a symbol table that passes the checks, the sections laid out and
then relocated entry by entry, and the two entry points. -/
structure Linked (img : Buf) (lb : LoadBuffer) (resolve : Option Resolver) (m₀ : Mem)
    (s : LoadState) (i : Nat) : Prop where
  base : lb.base ≠ 0
  wellFormed : WellFormed img
  sections : (Ehdr.at img).shnum ≤ MODULE_MAX_SECTIONS
  symtab : SymtabOk img (Ehdr.at img).shnum i
  placed : ∃ s₁, s₁.sectionAddresses = s.sectionAddresses ∧ s₁.used = s.used ∧
    Placed img lb (Ehdr.at img).shnum m₀ s₁ ∧
    Run (EntryStep img (symtabAt img i) resolve s.sectionAddresses) s₁.mem (relocEntries img) s.mem
  init : s.loaded.initModule =
    entryValue img (symtabAt img i) s.sectionAddresses initName (symtabAt img i).symbolCount
  cleanup : s.loaded.cleanupModule =
    entryValue img (symtabAt img i) s.sectionAddresses cleanupName (symtabAt img i).symbolCount
  init_ne : s.loaded.initModule ≠ 0
  cleanup_ne : s.loaded.cleanupModule ≠ 0
  loadBase : s.loaded.loadBase = lb.base
  imageSize : s.loaded.imageSize = s.used

/-- The layout loop. -/
theorem layoutSections_wp (ht : (Ehdr.at img).shoff + shdrSize * (Ehdr.at img).shnum ≤ img.size)
    (hmax : (Ehdr.at img).shnum ≤ MODULE_MAX_SECTIONS) (hb : lb.base ≠ 0)
    (h : Placed img lb 0 m₀ s) :
    wp (forUp (layoutSection img lb) 0 (Ehdr.at img).shnum)
      (fun _ s' => Placed img lb (Ehdr.at img).shnum m₀ s')
      (fun _ s' => Contained img lb m₀ s') s := by
  refine wp_mono (wp_forUp (fun k s' => Placed img lb k m₀ s') 0 _ _ h ?_)
    (fun _ s' h' => by rwa [Nat.zero_add] at h') fun _ _ h => h
  rintro k s' - hk hp
  exact layoutSection_wp ht (by omega) hmax hb hp

/-- The symbol-table loop. -/
theorem findSymtabs_wp (ht : (Ehdr.at img).shoff + shdrSize * (Ehdr.at img).shnum ≤ img.size)
    (h : Contained img lb m₀ s) :
    wp (foldUp (findSymtab img) 0 (Ehdr.at img).shnum none)
      (fun found s' => s' = s ∧ SymtabFound img (Ehdr.at img).shnum found)
      (fun _ s' => Contained img lb m₀ s') s := by
  refine wp_mono (wp_foldUp (fun k found s' => s' = s ∧ SymtabFound img k found) 0 _ none s
    ⟨rfl, fun j hj => by omega⟩ ?_) (fun _ s' h' => by rwa [Nat.zero_add] at h') fun _ _ h => h
  rintro k found s' - hk ⟨rfl, hf⟩
  exact findSymtab_wp ht (by omega) hf h

theorem relocateImage_wp (hw : WellFormed img) (hb : lb.base ≠ 0) (hl : s.loaded = Loaded.zero)
    (ha : s.sectionAddresses = fun _ => 0) :
    wp (relocateImage img lb resolve) (fun _ s' => ∃ i, Linked img lb resolve s.mem s' i)
      (fun _ s' => Contained img lb s.mem s') s := by
  have ht := hw.header.table
  unfold relocateImage
  refine wp_bind (Buf.wp_load (by have := hw.header.header; omega) ?_)
  refine wp_ite (fun _ => wp_ret (Contained.start ha)) fun hmax => ?_
  rw [gt_iff_lt, Nat.not_lt] at hmax
  refine wp_bind (wp_modify ?_)
  refine wp_seq (layoutSections_wp ht hmax hb (Placed.zero rfl rfl rfl hl)) (fun _ _ h => h) ?_
  intro _ s₁ hp
  refine wp_seq (findSymtabs_wp ht (hp.contained hb)) (fun _ _ h => h) ?_
  rintro found s' ⟨rfl, hf⟩
  cases found with
  | none => exact wp_ret (hp.contained hb)
  | some tab =>
    obtain ⟨i, rfl, htab⟩ := hf
    -- the relocation walk
    refine wp_seq (wp_forUp (fun k s₂ => Walked img (symtabAt img i) resolve s'
      (relocEntriesBelow img k) s₂) 0 _ s' ⟨rfl, rfl, rfl, rfl, .nil⟩ ?_) (fun _ _ h => h) ?_
    · rintro k s₂ - hk hwalk
      rw [relocEntriesBelow_succ]
      exact relocateSection_wp htab.tabOk hb ht hmax hp (by omega) hwalk
    rintro _ s₂ hwalk
    rw [Nat.zero_add] at hwalk
    -- the entry points
    refine wp_seq (wp_forUp (fun k s₃ => SameImage s₂ s₃ ∧ Entries img (symtabAt img i) k s₃) 0 _
      s₂ ⟨⟨rfl, rfl, rfl⟩, hwalk.init.trans hp.noEntry.1, hwalk.cleanup.trans hp.noEntry.2⟩ ?_)
      (fun _ _ h => h) ?_
    · rintro k s₃ - hk ⟨hsame, hent⟩
      refine wp_mono (findEntry_wp htab.tabOk (by omega) hmax hb hp
        (hsame.addresses.trans hwalk.addresses) hent) ?_ fun _ _ h => h
      rintro _ s₄ ⟨hsame', hent'⟩
      exact ⟨⟨hsame'.mem.trans hsame.mem, hsame'.addresses.trans hsame.addresses,
        hsame'.used.trans hsame.used⟩, hent'⟩
    rintro _ s₃ ⟨hsame, hent⟩
    rw [Nat.zero_add] at hent
    have haddr := hsame.addresses.trans hwalk.addresses
    refine wp_bind (wp_get (wp_ite (fun _ => wp_ret (hsame.contained (hwalk.contained hb hp)))
      fun hne => wp_modify ?_))
    rw [not_or] at hne
    refine ⟨i, hb, hw, hmax, htab, ⟨s', haddr.symm, (hsame.used.trans hwalk.used).symm, hp, ?_⟩,
      hent.init, hent.cleanup, hne.1, hne.2, rfl, rfl⟩
    show Run (EntryStep img (symtabAt img i) resolve s₃.sectionAddresses) s'.mem _ s₃.mem
    rw [haddr, hsame.mem]
    exact hwalk.run

/-- The state at the call: the memory, what the output structure held, and locals that no one has
written yet. -/
def LoadState.enter (m : Mem) (l : Loaded) : LoadState := ⟨m, l, fun _ => 0, 0⟩

/-- **The relocation stage**: from any image it terminates, reads in the image and writes in the
load buffer only; a failed call keeps the memory contract, a successful one leaves a linked
module. -/
theorem relocateModule_wp {required : CStr} (m : Mem) (l : Loaded) :
    wp (relocateModule img required lb resolve) (fun _ s' => ∃ i, Linked img lb resolve m s' i)
      (fun _ s' => Contained img lb m s') (LoadState.enter m l) := by
  unfold relocateModule
  have hstart (l' : Loaded) : Contained img lb m (LoadState.enter m l') :=
    Contained.start (s := LoadState.enter m l') rfl
  refine wp_ite (fun _ => wp_ret (hstart l)) fun hc => wp_bind (wp_modify ?_)
  rw [not_or] at hc
  refine wp_bind (wp_call (wp_mono parseModule_wp ?_ ?_))
  · intro _ _ hw
    exact relocateImage_wp (s := LoadState.enter m Loaded.zero) hw hc.1 rfl rfl
  · intro _ _ _
    exact wp_ret (hstart Loaded.zero)

/-- What a successful call leaves. -/
theorem linked_of_ok {required : CStr} {m : Mem} {l : Loaded}
    (h : relocateModule img required lb resolve (LoadState.enter m l) = .ok () s) :
    ∃ i, Linked img lb resolve m s i :=
  wp_ok (relocateModule_wp m l) h

/-- A linked module keeps the memory contract. -/
theorem Linked.contained {i : Nat} (h : Linked img lb resolve m₀ s i) :
    Contained img lb m₀ s := by
  obtain ⟨s₁, haddr, -, hp, hrun⟩ := h.placed
  rw [← haddr] at hrun
  exact hp.contained_of_run h.base haddr.symm hrun

end SeLinOS.Kabi
