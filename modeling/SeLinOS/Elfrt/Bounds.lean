import SeLinOS.CLogic.Liberal
import SeLinOS.Elfrt.Accepts

/-!
# The bounds of the ELF runtime parser

The results about `selinos_elfrt_parse_image` that hold of every image, whether it is accepted or
not.

* `parseImage_in_bounds`: the parser ends, with all of its accesses in their objects, and the
  arrays of the summary hold strings.
* `loads_fit_iff`: what keeps the memory ranges of an accepted image in the address space.
-/

namespace SeLinOS.Elfrt

open CLogic Prog

variable {img : Buf} {s : State} {allow : Bool}

/-! ## Strings -/

/-- An array of `capacity` bytes that holds a string. -/
structure HoldsString (capacity : Nat) (b : Buf) : Prop where
  size : b.size = capacity
  terminated : ∃ k < capacity, b.byte k = 0

/-- What the parser keeps of an array: its last byte is 0. -/
def EndsInNul (b : Buf) : Prop := b.byte (b.size - 1) = 0

/-- Two arrays of one size, of which the last byte is 0 if it is in the first one. -/
structure SameArray (b b' : Buf) : Prop where
  size : b'.size = b.size
  nul : EndsInNul b → EndsInNul b'

theorem SameArray.refl (b : Buf) : SameArray b b := ⟨rfl, fun h => h⟩

theorem SameArray.trans {b b' b'' : Buf} (h : SameArray b b') (h' : SameArray b' b'') :
    SameArray b b'' :=
  ⟨h'.size.trans h.size, fun hb => h'.nul (h.nul hb)⟩

/-- A write before the last byte, or of a NUL. -/
theorem SameArray.write (b : Buf) {i : Nat} {v : UInt8} (h : i + 1 < b.size ∨ v = 0) :
    SameArray b { b with byte := Function.update b.byte i v } := by
  refine ⟨rfl, fun hb => ?_⟩
  show Function.update b.byte i v (b.size - 1) = 0
  by_cases hi : b.size - 1 = i
  · rw [hi, Function.update_self]
    exact h.resolve_left (by omega)
  · rw [Function.update_of_ne hi]
    exact hb

/-- The copy leaves the last byte, but for a NUL. -/
theorem copyBoundedString_array (destination : Buf) (source available : Nat) :
    wlp (copyBoundedString img destination source available)
      (fun r s' => s' = s ∧ SameArray destination r.2) (fun _ _ => False) s := by
  unfold copyBoundedString
  refine wlp_ite (fun _ => wlp_pure ⟨rfl, .refl _⟩) fun _ => ?_
  refine wlp_seq (wlp_whileM (fun r s' => s' = s ∧ SameArray destination r.2)
    (Q := fun r s' => s' = s ∧ SameArray destination r.2) ?_ _ _ _ ⟨rfl, .refl _⟩) ?_
  · rintro ⟨i, d⟩ s' ⟨rfl, h⟩
    refine wlp_andThen (fun hlt => wlp_bind (wlp_read (wlp_pure ?_))) fun _ => ⟨rfl, h⟩
    split
    · refine wlp_bind (wlp_read (wlp_bind (wlp_write (wlp_pure ⟨rfl, h.trans ?_⟩))))
      exact .write d (.inl hlt.1)
    · exact ⟨rfl, h⟩
  · rintro ⟨i, d⟩ s' ⟨rfl, h⟩
    refine wlp_ite (fun _ => wlp_pure ⟨rfl, h⟩) fun _ => wlp_bind (wlp_read ?_)
    refine wlp_ite (fun _ => wlp_pure ⟨rfl, h⟩) fun _ => wlp_bind (wlp_write (wlp_pure ?_))
    exact ⟨rfl, h.trans (.write d (.inr rfl))⟩

/-! ## The parser -/

/-- The arrays of the summary hold strings. -/
structure Strings (s : State) : Prop where
  interpreter : s.summary.interpreter.size = INTERP_MAX ∧ EndsInNul s.summary.interpreter
  needed : ∀ i, (s.summary.needed i).size = NEEDED_NAME_MAX ∧ EndsInNul (s.summary.needed i)

/-- The arrays are those of a state in which they hold strings. -/
theorem Strings.same {s' : State} (h : Strings s)
    (hi : s'.summary.interpreter = s.summary.interpreter)
    (hn : s'.summary.needed = s.summary.needed) : Strings s' := by
  refine ⟨?_, fun i => ?_⟩
  · rw [hi]
    exact h.interpreter
  · rw [hn]
    exact h.needed i

/-- The program keeps the strings, in whatever way it ends. -/
def KeepsStrings {α : Type} (p : ParseM α) : Prop :=
  ∀ s, Strings s → wlp p (fun _ => Strings) (fun _ => Strings) s

theorem keepsStrings_parseLoad (program : Phdr) : KeepsStrings (parseLoad img program) := by
  intro s h
  refine wlp_ite (fun _ => wlp_ret h) fun _ => wlp_bind (wlp_get ?_)
  refine wlp_ite (fun _ => wlp_ret h) fun _ => wlp_bind (wlp_modify ?_)
  have hflag : ∀ (c : Prop) [Decidable c] (f : State → State) (s' : State),
      (f s').summary.interpreter = s'.summary.interpreter →
      (f s').summary.needed = s'.summary.needed → Strings s' →
      wlp (Prog.when c (Prog.modify f) : ParseM Unit) (fun _ => Strings) (fun _ => Strings) s' :=
    fun c _ f s' hi hn hs => wlp_when (fun _ => wlp_modify (hs.same hi hn)) fun _ => hs
  refine wlp_seq (hflag _ _ _ rfl rfl (h.same rfl rfl)) fun _ s₁ h₁ => ?_
  refine wlp_seq (hflag _ _ _ rfl rfl h₁) fun _ s₂ h₂ => ?_
  exact hflag _ _ _ rfl rfl h₂

theorem keepsStrings_parseInterp (program : Phdr) :
    KeepsStrings (parseInterp img allow program) := by
  intro s h
  refine wlp_bind (wlp_get (wlp_ite (fun _ => wlp_ret h) fun _ => ?_))
  refine wlp_seq (wlp_mono (copyBoundedString_array _ _ _) (fun _ _ h => h)
    fun _ _ h => h.elim) ?_
  rintro ⟨copied, interpreter⟩ s' ⟨rfl, hsame⟩
  have hcopied : Strings { s' with summary.interpreter := interpreter } :=
    ⟨⟨hsame.size.trans h.interpreter.1, hsame.nul h.interpreter.2⟩, h.needed⟩
  refine wlp_bind (wlp_modify (wlp_ite (fun _ => wlp_modify ?_) fun _ => wlp_ret hcopied))
  exact hcopied.same rfl rfl

theorem keepsStrings_parseDynamicHeader (program : Phdr) :
    KeepsStrings (parseDynamicHeader img program) := by
  intro s h
  refine wlp_bind (wlp_get (wlp_ite (fun _ => wlp_ret h) fun _ => ?_))
  exact wlp_modify (h.same rfl rfl)

theorem keepsStrings_parseProgramHeader (i : Nat) :
    KeepsStrings (parseProgramHeader img allow i) := by
  intro s h
  refine wlp_bind (wlp_load (wlp_ite (fun _ => keepsStrings_parseLoad _ s h) fun _ => ?_))
  refine wlp_ite (fun _ => keepsStrings_parseInterp _ s h) fun _ => ?_
  exact wlp_when (fun _ => keepsStrings_parseDynamicHeader _ s h) fun _ => h

theorem keepsStrings_pushNeeded (value : Nat) : KeepsStrings (pushNeeded value) := by
  intro s h
  unfold wlp pushNeeded
  by_cases hlt : s.neededCount < MAX_NEEDED
  · rw [if_pos hlt]
    exact h.same rfl rfl
  · rw [if_neg hlt]
    trivial

theorem keepsStrings_parseDyn (dynamic i : Nat) : KeepsStrings (parseDyn img dynamic i) := by
  intro s h
  unfold parseDyn
  refine wlp_bind (wlp_load (wlp_ite (fun _ => wlp_pure h) fun _ => ?_))
  refine wlp_ite (fun _ => wlp_bind (wlp_modify (wlp_pure (h.same rfl rfl)))) fun _ => ?_
  refine wlp_ite (fun _ => wlp_bind (wlp_modify (wlp_pure (h.same rfl rfl)))) fun _ => ?_
  refine wlp_ite (fun _ => wlp_bind (wlp_get (wlp_ite (fun _ => wlp_ret h) fun _ => ?_)))
    fun _ => ?_
  · exact wlp_seq (keepsStrings_pushNeeded _ s h) fun _ _ h => wlp_pure h
  · refine wlp_ite (fun _ => wlp_bind (wlp_modify (wlp_pure (h.same rfl rfl)))) fun _ => ?_
    exact wlp_bind (wlp_when (fun _ => wlp_modify (wlp_pure (h.same rfl rfl)))
      fun _ => wlp_pure h)

theorem keepsStrings_parseNeeded (stringTableOffset i : Nat) :
    KeepsStrings (parseNeeded img stringTableOffset i) := by
  intro s h
  have hoffset : wlp (neededOffset i) (fun _ s' => s' = s) (fun _ => Strings) s := by
    unfold wlp neededOffset
    by_cases hi : i < MAX_NEEDED
    · rw [if_pos hi]
    · rw [if_neg hi]
      trivial
  refine wlp_seq hoffset ?_
  rintro offset _ rfl
  refine wlp_bind (wlp_get (wlp_ite (fun _ => wlp_ret h) fun _ => ?_))
  refine wlp_seq (wlp_mono (copyBoundedString_array _ _ _) (fun _ _ h => h)
    fun _ _ h => h.elim) ?_
  rintro ⟨copied, name⟩ s' ⟨rfl, hsame⟩
  refine wlp_bind (wlp_modify ?_)
  have hcopied : Strings { s' with
      summary.needed := Function.update s'.summary.needed i name } := by
    refine ⟨h.interpreter, fun j => ?_⟩
    show (Function.update s'.summary.needed i name j).size = _ ∧
      EndsInNul (Function.update s'.summary.needed i name j)
    by_cases hj : j = i
    · rw [hj, Function.update_self]
      exact ⟨hsame.size.trans (h.needed i).1, hsame.nul (h.needed i).2⟩
    · rw [Function.update_of_ne hj]
      exact h.needed j
  exact wlp_ite (fun _ => wlp_pure hcopied) fun _ => wlp_ret hcopied

theorem keepsStrings_parseDynamic (d : Phdr) : KeepsStrings (parseDynamic img d) := by
  intro s h
  refine wlp_seq (wlp_firstUp (fun _ => Strings) (Q := fun _ => Strings) 0 _ s h ?_
    fun _ h => h) fun found s₁ h₁ => ?_
  · intro i s' _ _ h'
    refine wlp_mono (keepsStrings_parseDyn _ i s' h') (fun r _ h => ?_) fun _ _ h => h
    cases r <;> exact h
  refine wlp_ite (fun _ => wlp_ret h₁) fun _ => wlp_bind (wlp_modify (wlp_bind (wlp_get ?_)))
  have h₂ : Strings { s₁ with summary.neededCount := s₁.neededCount } := h₁.same rfl rfl
  refine wlp_ite (fun _ => wlp_pure h₂) fun _ => wlp_ite (fun _ => wlp_ret h₂) fun _ => ?_
  have hlook : ∀ address s', Strings s' →
      wlp (virtualToFileOffset img (Ehdr.at img).phnum address) (fun _ => Strings)
        (fun _ => Strings) s' := by
    intro address s' h'
    refine wlp_firstUp (fun _ => Strings) 0 _ s' h' ?_ fun _ h => h
    intro i t _ _ ht
    refine wlp_bind (wlp_load (wlp_ite (fun _ => wlp_pure ht) fun _ => ?_))
    exact wlp_ite (fun _ => wlp_pure ht) fun _ => wlp_pure ht
  refine wlp_seq (hlook _ _ h₂) fun table s₃ h₃ => ?_
  cases table with
  | none => exact wlp_ret h₃
  | some table =>
    refine wlp_ite (fun _ => wlp_ret h₃) fun _ => ?_
    exact wlp_forUp (fun _ => Strings) 0 _ s₃ h₃ fun i s' _ _ h' =>
      keepsStrings_parseNeeded _ i s' h'

theorem keepsStrings_parseHeader : KeepsStrings (parseHeader img) := by
  intro s h
  refine wlp_ite (fun _ => wlp_ret h) fun _ => wlp_bind (wlp_load (wlp_bind (wlp_load ?_)))
  refine wlp_ite (fun _ => wlp_ret h) fun _ => wlp_ite (fun _ => wlp_ret h) fun _ => ?_
  exact wlp_ite (fun _ => wlp_ret h) fun _ => wlp_ite (fun _ => wlp_ret h) fun _ => wlp_pure h

theorem strings_clear (s : State) : Strings { s with summary := Summary.clear } :=
  ⟨⟨rfl, rfl⟩, fun _ => ⟨rfl, rfl⟩⟩

/-- From any summary: the first statement clears it. -/
theorem parseImage_strings (y : Summary) :
    wlp (parseImage img allow) (fun _ => Strings) (fun _ => Strings) (State.enter y) := by
  refine wlp_bind (wlp_modify (wlp_seq (keepsStrings_parseHeader _ (strings_clear _))
    fun _ s₁ h₁ => wlp_bind (wlp_modify ?_)))
  refine wlp_seq (wlp_forUp (fun _ => Strings) 0 _ _ (h₁.same rfl rfl) fun i s' _ _ h' =>
    keepsStrings_parseProgramHeader i s' h') fun _ s₂ h₂ => wlp_bind (wlp_get ?_)
  refine wlp_ite (fun _ => wlp_ret h₂) fun _ => ?_
  cases s₂.dynamicHeader with
  | none => exact wlp_pure h₂
  | some d => exact keepsStrings_parseDynamic d s₂ h₂

/-- **The bounds**: from any image and summary the parser ends, with every access to the image, the
summary and `needed_offsets` inside its object; the arrays of the summary then hold strings, in
whatever way it ends. -/
theorem parseImage_in_bounds (img : Buf) (allowInterpreter : Bool) (y : Summary) :
    ∃ s, (parseImage img allowInterpreter (State.enter y)).final = some s ∧
      HoldsString INTERP_MAX s.summary.interpreter ∧
      ∀ i, HoldsString NEEDED_NAME_MAX (s.summary.needed i) := by
  have hrun : wp (parseImage img allowInterpreter) (fun _ => Strings) (fun _ => Strings)
      (State.enter y) := wp_of_wlp (parseImage_wp y) (parseImage_strings y)
  obtain ⟨s, hs, hstrings⟩ := exists_final hrun
  have hholds : ∀ {capacity : Nat} {b : Buf}, b.size = capacity ∧ EndsInNul b → 0 < capacity →
      HoldsString capacity b := by
    rintro capacity b ⟨hsize, hnul⟩ hpos
    refine ⟨hsize, capacity - 1, by omega, ?_⟩
    rw [← hsize]
    exact hnul
  exact ⟨s, hs, hholds hstrings.interpreter (by decide),
    fun i => hholds (hstrings.needed i) (by decide)⟩

/-! ## Memory ranges -/

/-- The memory range of a segment ends in the address space. -/
def MemoryFits (p : Phdr) : Prop := p.vaddr + p.memsz ≤ 2 ^ 64

instance (p : Phdr) : Decidable (MemoryFits p) := Nat.decLe _ _

/-- The memory ranges of an accepted image end in the address space exactly when the grammar has no
image with these program headers whose memory ranges do not: the parser does not look at the end of
a memory range. -/
theorem loads_fit_iff {img : Buf} (hfile : img.size < 2 ^ 64) (allowInterpreter : Bool) :
    (∀ y s, parseImage img allowInterpreter (State.enter y) = .ok () s →
      ∀ p ∈ loads (programHeaders img), MemoryFits p) ↔
    ∀ p ∈ loads (programHeaders img), 2 ^ 64 - p.vaddr < p.memsz →
      ¬ Accepts SelectsFirst img allowInterpreter := by
  constructor
  · intro hfits p hp hlong haccepts
    obtain ⟨s, hs⟩ := (parseImage_iff hfile allowInterpreter Summary.clear).1.mpr haccepts
    have := hfits _ s hs p hp
    unfold MemoryFits at this
    omega
  · intro hgrammar y s hs p hp
    by_contra hlong
    refine hgrammar p hp ?_ ((parseImage_iff hfile allowInterpreter y).1.mp ⟨s, hs⟩)
    have hvaddr : p.vaddr < 2 ^ 64 := by
      obtain ⟨i, -, rfl⟩ := List.mem_map.mp (List.mem_filter.mp hp).1
      exact Buf.le_lt img _ 8
    unfold MemoryFits at hlong
    omega

set_option maxRecDepth 100000 in
theorem loads_fit_iff_twoSegments :
    accepted (parseImage twoSegments false (State.enter Summary.clear)) = true ∧
    ∀ y s, parseImage twoSegments false (State.enter y) = .ok () s →
      ∀ p ∈ loads (programHeaders twoSegments), MemoryFits p := by
  have hfits : ∀ p ∈ loads (programHeaders twoSegments), ¬ 2 ^ 64 - p.vaddr < p.memsz := by
    decide +kernel
  exact ⟨by decide +kernel, (loads_fit_iff (by decide +kernel) false).mpr
    fun p hp hlong => absurd hlong (hfits p hp)⟩

/-- A shared object with one segment: 0x2000 bytes of memory at 0xfffffffffffff000. -/
def lastPage : Buf := Buf.ofWords [
  0x10102464c457f, 0, 0x1003e0003, 0x1000, 0x40, 0, 0x38004000000000, 1,
  0x600000001, 0, 0xfffffffffffff000, 0, 0, 0x2000, 0]

set_option maxRecDepth 100000 in
/-- The segment ends 0x1000 bytes behind the address space, and the image is accepted. -/
theorem wrapping_segment_accepted : ¬ ∀ (img : Buf) (allowInterpreter : Bool) (y : Summary)
    (s : State), parseImage img allowInterpreter (State.enter y) = .ok () s →
      ∀ p ∈ loads (programHeaders img), MemoryFits p := by
  intro hall
  obtain ⟨s, hs⟩ := accepted_iff.mp (show accepted (parseImage lastPage false
    (State.enter Summary.clear)) = true by decide +kernel)
  have hfits := hall _ _ _ s hs (programHeader lastPage 0)
  revert hfits
  decide +kernel

end SeLinOS.Elfrt
