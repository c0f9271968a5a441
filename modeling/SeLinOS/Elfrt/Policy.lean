import SeLinOS.Elfrt.Parse

/-!
# The load policy of the ELF runtime

`parseImage_wp` says of the parser, by its own loops, that it stays in the image and in its arrays,
and that a segment that is writable and executable shows in the summary. The policy refuses such a
segment, and it looks at single segments only: `no_wx_segment` is what it gives for the addresses of
the segments, `overlap_accepted` an image that it accepts with an address in a writable and in an
executable one.
-/

namespace SeLinOS.Elfrt

open CLogic Prog

variable {img : Buf} {s : State} {E : Status → State → Prop} {allow : Bool}

theorem rangeValid_iff {n o l : Nat} : rangeValid n o l = true ↔ o + l ≤ n := by
  simp only [rangeValid, Bool.and_eq_true, decide_eq_true_eq]
  omega

/-- The program header `p` is a `PT_LOAD` that is writable and executable. -/
def WX (p : Phdr) : Prop := p.type = PT_LOAD ∧ p.flags &&& (PF_W ||| PF_X) = PF_W ||| PF_X

/-- What the parser keeps: the sizes of its arrays, and the range of the dynamic section. -/
structure Ok (img : Buf) (s : State) : Prop where
  interpreter : s.summary.interpreter.size = INTERP_MAX
  needed : ∀ i, (s.summary.needed i).size = NEEDED_NAME_MAX
  count : s.neededCount ≤ MAX_NEEDED
  dynamic : ∀ d, s.dynamicHeader = some d → d.offset + d.filesz ≤ img.size

/-- The program headers lie in the image. -/
def TableOk (img : Buf) : Prop :=
  (Ehdr.at img).phoff + phdrSize * (Ehdr.at img).phnum ≤ img.size

/-- The counter of the writable and executable segments has seen those below `n`. -/
def Counted (img : Buf) (n : Nat) (s : State) : Prop :=
  ∀ i < n, WX (programHeader img i) → s.summary.writableExecutableLoadSegments ≠ 0

/-! ## Helpers -/

/-- The copy reads the `available` bytes at `source` and keeps the size of the array. -/
theorem copyBoundedString_wp {destination : Buf} {source available : Nat}
    {Q : Bool × Buf → State → Prop} (hsrc : source + available ≤ img.size)
    (hQ : ∀ r, r.2.size = destination.size → Q r s) :
    wp (copyBoundedString img destination source available) Q E s := by
  unfold copyBoundedString
  refine wp_ite (fun _ => wp_pure (hQ _ rfl)) fun hc => ?_
  rw [not_or] at hc
  have hpos : 0 < destination.size := by omega
  refine wp_seq (Q := fun r s' => s' = s ∧ r.2.size = destination.size ∧
      r.1 < destination.size ∧ r.1 ≤ available) (E := E)
    (wp_whileM (fun r s' => s' = s ∧ r.2.size = destination.size ∧ r.1 < destination.size ∧
      r.1 ≤ available) (fun r => destination.size - r.1) ?_ _ _ _ (by simp)
      ⟨rfl, rfl, hpos, Nat.zero_le _⟩) (fun _ _ h => h) ?_
  · rintro ⟨i, d⟩ s' ⟨rfl, hd, hi, hle⟩
    simp only at hd hi hle ⊢
    refine wp_andThen (fun hcond => ?_) fun _ => ⟨rfl, hd, hi, hle⟩
    refine wp_bind (Buf.wp_read (by omega) (wp_pure ?_))
    split
    · refine wp_bind (Buf.wp_read (by omega) (wp_bind (Buf.wp_write (by omega) (wp_pure ?_))))
      exact ⟨⟨rfl, hd, by omega, by omega⟩, by omega⟩
    · exact ⟨rfl, hd, hi, hle⟩
  rintro ⟨i, d⟩ s' ⟨rfl, hd, hi, hle⟩
  simp only at hd hi hle ⊢
  refine wp_ite (fun _ => wp_pure (hQ _ hd)) fun hne => ?_
  refine wp_bind (Buf.wp_read (by omega) (wp_ite (fun _ => wp_pure (hQ _ hd)) fun _ => ?_))
  exact wp_bind (Buf.wp_write (by omega) (wp_pure (hQ _ hd)))

theorem loadPhdr_wp {i : Nat} {Q : Phdr → State → Prop} (ht : TableOk img)
    (hi : i < (Ehdr.at img).phnum) (h : Q (programHeader img i) s) :
    wp (loadPhdr img i) Q E s := by
  refine Buf.wp_load ?_ h
  simp only [TableOk, phdrOff, phdrSize] at ht ⊢
  omega

theorem virtualToFileOffset_wp {virtualAddress : Nat} (ht : TableOk img) :
    wp (virtualToFileOffset img (Ehdr.at img).phnum virtualAddress) (fun _ s' => s' = s) E s := by
  refine wp_firstUp (fun _ s' => s' = s) 0 _ s rfl ?_ fun _ h => h
  rintro i s' - hi rfl
  refine wp_bind (loadPhdr_wp ht (by omega) (wp_ite (fun _ => wp_pure rfl) fun _ => ?_))
  exact wp_ite (fun _ => wp_pure rfl) fun _ => wp_pure rfl

/-! ## The program headers -/

theorem Counted.skip {n : Nat} (h : Counted img n s) (hn : ¬ WX (programHeader img n)) :
    Counted img (n + 1) s := by
  intro i hi hwx
  rcases Nat.lt_succ_iff_lt_or_eq.mp hi with hi | rfl
  · exact h i hi hwx
  · exact absurd hwx hn

/-- A change of the summary elsewhere. -/
theorem keep {n : Nat} {f : Summary} (h : Ok img s ∧ Counted img n s)
    (hi : f.interpreter = s.summary.interpreter) (hn : f.needed = s.summary.needed)
    (hw : f.writableExecutableLoadSegments = s.summary.writableExecutableLoadSegments) :
    Ok img { s with summary := f } ∧ Counted img n { s with summary := f } := by
  obtain ⟨⟨h1, h2, h3, h4⟩, hc⟩ := h
  refine ⟨⟨hi ▸ h1, fun i => ?_, h3, h4⟩, fun i hi hwx => ?_⟩
  · show (f.needed i).size = _
    rw [hn]
    exact h2 i
  · show f.writableExecutableLoadSegments ≠ 0
    rw [hw]
    exact hc i hi hwx

/-- A change of the string table. -/
theorem keep_table {n : Nat} {s' : State} (h : Ok img s ∧ Counted img n s)
    (hs : s'.summary = s.summary) (hc : s'.neededCount = s.neededCount)
    (hd : s'.dynamicHeader = s.dynamicHeader) : Ok img s' ∧ Counted img n s' := by
  obtain ⟨⟨h1, h2, h3, h4⟩, hcount⟩ := h
  refine ⟨⟨hs ▸ h1, hs ▸ h2, hc ▸ h3, hd ▸ h4⟩, ?_⟩
  unfold Counted
  rw [hs]
  exact hcount

theorem parseLoad_wp {n : Nat} (h : Ok img s ∧ Counted img n s) :
    wp (parseLoad img (programHeader img n)) (fun _ s' => Ok img s' ∧ Counted img (n + 1) s')
      (fun _ _ => True) s := by
  unfold parseLoad
  refine wp_ite (fun _ => wp_ret trivial) fun _ => wp_bind (wp_get ?_)
  refine wp_ite (fun _ => wp_ret trivial) fun _ => wp_bind (wp_modify ?_)
  have h₀ := keep (f := { s.summary with loadSegments := s.summary.loadSegments + 1 }) h rfl rfl rfl
  refine wp_seq (Q := fun _ s' => Ok img s' ∧ Counted img n s') (E := fun _ _ => True)
    (wp_when (fun _ => wp_modify (keep h₀ rfl rfl rfl)) fun _ => h₀) (fun _ _ h => h) ?_
  rintro _ s₁ h₁
  refine wp_seq (Q := fun _ s' => Ok img s' ∧ Counted img n s') (E := fun _ _ => True)
    (wp_when (fun _ => wp_modify (keep h₁ rfl rfl rfl)) fun _ => h₁) (fun _ _ h => h) ?_
  rintro _ s₂ ⟨⟨hi, hne, hcount, hd⟩, hc⟩
  exact wp_when (fun _ => wp_modify ⟨⟨hi, hne, hcount, hd⟩, fun _ _ _ => Nat.succ_ne_zero _⟩)
    fun hn => ⟨⟨hi, hne, hcount, hd⟩, hc.skip fun hwx => hn hwx.2⟩

theorem parseInterp_wp {n : Nat} {program : Phdr} (h : Ok img s ∧ Counted img n s) :
    wp (parseInterp img allow program) (fun _ s' => Ok img s' ∧ Counted img n s')
      (fun _ _ => True) s := by
  unfold parseInterp
  refine wp_bind (wp_get (wp_ite (fun _ => wp_ret trivial) fun hc => ?_))
  simp only [not_or, Bool.not_eq_true, Bool.not_eq_false] at hc
  rw [rangeValid_iff] at hc
  refine wp_bind (copyBoundedString_wp hc.2.2 ?_)
  rintro ⟨copied, interpreter⟩ hsize
  refine wp_bind (wp_modify ?_)
  obtain ⟨⟨h1, h2, h3, h4⟩, hcount⟩ := h
  have h' : Ok img { s with summary.interpreter := interpreter } ∧
      Counted img n { s with summary.interpreter := interpreter } :=
    ⟨⟨hsize.trans h1, h2, h3, h4⟩, hcount⟩
  exact wp_ite (fun _ => wp_modify (keep h' rfl rfl rfl)) fun _ => wp_ret trivial

theorem parseDynamicHeader_wp {n : Nat} {program : Phdr} (h : Ok img s ∧ Counted img n s) :
    wp (parseDynamicHeader img program) (fun _ s' => Ok img s' ∧ Counted img n s')
      (fun _ _ => True) s := by
  unfold parseDynamicHeader
  refine wp_bind (wp_get (wp_ite (fun _ => wp_ret trivial) fun hc => wp_modify ?_))
  simp only [not_or, not_not, Bool.not_eq_true, Bool.not_eq_false] at hc
  rw [rangeValid_iff] at hc
  obtain ⟨⟨h1, h2, h3, -⟩, hcount⟩ := h
  refine ⟨⟨h1, h2, h3, fun d hd => ?_⟩, hcount⟩
  obtain rfl := Option.some.inj hd
  exact hc.2.1

theorem parseProgramHeader_wp {n : Nat} (ht : TableOk img) (hn : n < (Ehdr.at img).phnum)
    (h : Ok img s ∧ Counted img n s) :
    wp (parseProgramHeader img allow n) (fun _ s' => Ok img s' ∧ Counted img (n + 1) s')
      (fun _ _ => True) s := by
  have skip (hty : (programHeader img n).type ≠ PT_LOAD) (s' : State)
      (h' : Ok img s' ∧ Counted img n s') : Ok img s' ∧ Counted img (n + 1) s' :=
    ⟨h'.1, h'.2.skip fun hwx => hty hwx.1⟩
  unfold parseProgramHeader
  refine wp_bind (loadPhdr_wp ht hn (wp_ite (fun _ => parseLoad_wp h) fun hty => ?_))
  refine wp_ite (fun _ => ?_) fun _ => wp_when (fun _ => ?_) fun _ => skip hty s h
  · exact wp_mono (parseInterp_wp h) (fun _ s' h' => skip hty s' h') fun _ _ h => h
  · exact wp_mono (parseDynamicHeader_wp h) (fun _ s' h' => skip hty s' h') fun _ _ h => h

/-! ## The dynamic section -/

theorem pushNeeded_wp {n value : Nat} (h : Ok img s ∧ Counted img n s)
    (hlt : s.neededCount < MAX_NEEDED) :
    wp (pushNeeded value) (fun _ s' => Ok img s' ∧ Counted img n s') E s := by
  have hr : pushNeeded value s = .ok () { s with
      neededOffsets := Function.update s.neededOffsets s.neededCount value
      neededCount := s.neededCount + 1 } := by
    rw [pushNeeded, if_pos hlt]
  obtain ⟨⟨h1, h2, h3, h4⟩, hc⟩ := h
  exact wp_of_run hr ⟨⟨h1, h2, hlt, h4⟩, hc⟩

theorem parseDyn_wp {n dynamic i size : Nat} (hr : dynamic + size ≤ img.size)
    (hi : i < size / dynSize) (h : Ok img s ∧ Counted img n s) :
    wp (parseDyn img dynamic i) (fun _ s' => Ok img s' ∧ Counted img n s')
      (fun _ _ => True) s := by
  have hle : dynamic + dynSize * i + dynSize ≤ img.size := by
    simp only [dynSize] at hi ⊢
    omega
  unfold parseDyn
  refine wp_bind (Buf.wp_load hle (wp_ite (fun _ => wp_pure h) fun _ => ?_))
  refine wp_ite (fun _ => wp_bind (wp_modify (wp_pure (keep_table h rfl rfl rfl)))) fun _ => ?_
  refine wp_ite (fun _ => wp_bind (wp_modify (wp_pure (keep_table h rfl rfl rfl)))) fun _ => ?_
  refine wp_ite (fun _ => wp_bind (wp_get ?_)) fun _ => ?_
  · refine wp_ite (fun _ => wp_ret trivial) fun hne => ?_
    have hlt : s.neededCount < MAX_NEEDED := Nat.lt_of_le_of_ne h.1.count hne
    exact wp_seq (pushNeeded_wp h hlt) (fun _ _ h => h) fun _ _ h => wp_pure h
  · refine wp_ite (fun _ => wp_bind (wp_modify (wp_pure (keep h rfl rfl rfl)))) fun _ => ?_
    exact wp_bind (wp_when (fun _ => wp_modify (wp_pure (keep h rfl rfl rfl))) fun _ => wp_pure h)

theorem neededOffset_wp {i : Nat} {Q : Nat → State → Prop} (hi : i < MAX_NEEDED)
    (h : Q (s.neededOffsets i) s) : wp (neededOffset i) Q E s := by
  have hr : neededOffset i s = .ok (s.neededOffsets i) s := by rw [neededOffset, if_pos hi]
  exact wp_of_run hr h

theorem parseNeeded_wp {n stringTableOffset i : Nat} (hi : i < MAX_NEEDED)
    (hr : stringTableOffset + s.stringTableSize ≤ img.size) (h : Ok img s ∧ Counted img n s) :
    wp (parseNeeded img stringTableOffset i)
      (fun _ s' => s'.stringTableSize = s.stringTableSize ∧ Ok img s' ∧ Counted img n s')
      (fun _ _ => True) s := by
  unfold parseNeeded
  refine wp_bind (neededOffset_wp hi (wp_bind (wp_get ?_)))
  refine wp_ite (fun _ => wp_ret trivial) fun hlt => ?_
  refine wp_bind (copyBoundedString_wp (by omega) ?_)
  rintro ⟨copied, name⟩ hsize
  refine wp_bind (wp_modify (wp_ite (fun _ => wp_pure ⟨rfl, ?_⟩) fun _ => wp_ret trivial))
  obtain ⟨⟨h1, h2, h3, h4⟩, hc⟩ := h
  refine ⟨⟨h1, fun j => ?_, h3, h4⟩, hc⟩
  show (Function.update s.summary.needed i name j).size = NEEDED_NAME_MAX
  by_cases hj : j = i
  · subst hj
    rw [Function.update_self]
    exact hsize.trans (h2 j)
  · rw [Function.update_of_ne hj]
    exact h2 j

theorem parseDynamic_wp {n : Nat} {d : Phdr} (ht : TableOk img)
    (hd : d.offset + d.filesz ≤ img.size) (h : Ok img s ∧ Counted img n s) :
    wp (parseDynamic img d) (fun _ s' => Counted img n s') (fun _ _ => True) s := by
  unfold parseDynamic
  refine wp_seq (wp_firstUp (fun _ s' => Ok img s' ∧ Counted img n s')
    (Q := fun _ s' => Ok img s' ∧ Counted img n s') 0 _ s h ?_ fun _ h => h) (fun _ _ h => h) ?_
  · intro i s' _ hi h'
    refine wp_mono (parseDyn_wp hd (by omega) h') (fun r _ h => ?_) fun _ _ h => h
    cases r <;> exact h
  intro r s₁ h₁
  refine wp_ite (fun _ => wp_ret trivial) fun _ => wp_bind (wp_modify (wp_bind (wp_get ?_)))
  have h₂ := keep (f := { s₁.summary with neededCount := s₁.neededCount }) h₁ rfl rfl rfl
  refine wp_ite (fun _ => wp_pure h₂.2) fun _ => wp_ite (fun _ => wp_ret trivial) fun _ => ?_
  refine wp_seq (virtualToFileOffset_wp ht) (fun _ _ h => h) ?_
  rintro r s₃ rfl
  cases r with
  | none => exact wp_ret trivial
  | some table =>
    refine wp_ite (fun _ => wp_ret trivial) fun hc => ?_
    simp only [not_or, not_not] at hc
    rw [rangeValid_iff] at hc
    have hcount := h₂.1.count
    refine wp_mono (wp_forUp (fun _ s' => s'.stringTableSize = s₁.stringTableSize ∧ Ok img s' ∧
      Counted img n s') 0 _ _ ⟨rfl, h₂⟩ ?_) (fun _ _ h => h.2.2) fun _ _ h => h
    rintro i s₄ - hi ⟨hsize, h₄⟩
    refine wp_mono (parseNeeded_wp (by omega) (by rw [hsize]; exact hc.2) h₄)
      (fun _ _ h => ⟨h.1.trans hsize, h.2⟩) fun _ _ h => h

/-! ## The parser -/

theorem parseHeader_wp : wp (parseHeader img) (fun _ s' => s' = s ∧ TableOk img)
    (fun _ _ => True) s := by
  unfold parseHeader
  refine wp_ite (fun _ => wp_ret trivial) fun hsize => ?_
  simp only [ehdrSize, Nat.not_lt] at hsize
  refine wp_bind (Buf.wp_load (by simp only [ehdrSize]; omega) ?_)
  refine wp_bind (Buf.wp_load (by omega) ?_)
  refine wp_ite (fun _ => wp_ret trivial) fun _ => wp_ite (fun _ => wp_ret trivial) fun _ => ?_
  refine wp_ite (fun _ => wp_ret trivial) fun _ => wp_ite (fun _ => wp_ret trivial) fun hc => ?_
  simp only [not_or, not_not] at hc
  obtain ⟨-, -, hent, hrange⟩ := hc
  rw [rangeValid_iff, hent, Nat.mul_comm] at hrange
  exact wp_pure ⟨rfl, hrange⟩

/-- **The parser**: from any image it terminates without a fault, and every segment that is writable
and executable is counted. -/
theorem parseImage_wp (y : Summary) : wp (parseImage img allow)
    (fun _ s' => Counted img (Ehdr.at img).phnum s') (fun _ _ => True) (State.enter y) := by
  unfold parseImage
  refine wp_bind (wp_modify (wp_seq parseHeader_wp (fun _ _ h => h) ?_))
  rintro _ s₁ ⟨rfl, ht⟩
  refine wp_bind (wp_modify ?_)
  refine wp_seq (wp_forUp (fun n s' => Ok img s' ∧ Counted img n s') 0 _ _ ?_ ?_)
    (fun _ _ h => h) ?_
  · exact ⟨⟨rfl, fun _ => rfl, Nat.zero_le _, fun d hd => by cases hd⟩, fun i hi => by omega⟩
  · intro n s' _ hn h
    exact parseProgramHeader_wp ht (by omega) h
  · intro _ s₂ h₂
    rw [Nat.zero_add] at h₂
    refine wp_bind (wp_get (wp_ite (fun _ => wp_ret trivial) fun _ => ?_))
    cases hd : s₂.dynamicHeader with
    | none => exact wp_pure h₂.2
    | some d => exact parseDynamic_wp ht (h₂.1.dynamic d hd) h₂

/-! ## Addresses -/

/-- The memory range of a segment. -/
def InMemory (p : Phdr) (a : Nat) : Prop := p.vaddr ≤ a ∧ a < p.vaddr + p.memsz

/-- The address `a` lies in a `PT_LOAD` of the image that has the flag `flag`, program header
`i`. -/
structure Covers (img : Buf) (flag a i : Nat) : Prop where
  lt : i < (Ehdr.at img).phnum
  load : (programHeader img i).type = PT_LOAD
  flag : (programHeader img i).has flag
  inMemory : InMemory (programHeader img i) a

/-- Both flags are both bits. -/
theorem wx_of_has {p : Phdr} (hw : p.has PF_W) (hx : p.has PF_X) :
    p.flags &&& (PF_W ||| PF_X) = PF_W ||| PF_X := by
  have hlow : ∀ y < 4, y &&& 2 ≠ 0 → y &&& 1 ≠ 0 → y = 3 := by decide
  refine hlow _ (Nat.lt_of_le_of_lt Nat.and_le_right (by decide)) ?_ ?_
  · rw [Nat.and_assoc]
    simpa [Phdr.has, PF_W, PF_X] using hw
  · rw [Nat.and_assoc]
    simpa [Phdr.has, PF_W, PF_X] using hx

/-- **The policy**: no segment of an accepted image is both writable and executable. An address in a
writable and in an executable segment lies in two different segments, of which the writable one is
not executable and the executable one not writable. -/
theorem wx_address_in_two_segments {y : Summary}
    (h : parseImage img allow (State.enter y) = .ok () s)
    (hp : validateInitialLoadPolicy s.summary = .ok) :
    (∀ k < (Ehdr.at img).phnum, (programHeader img k).type = PT_LOAD →
      ¬ ((programHeader img k).has PF_W ∧ (programHeader img k).has PF_X)) ∧
    ∀ a i j, Covers img PF_W a i → Covers img PF_X a j →
      i ≠ j ∧ ¬ (programHeader img i).has PF_X ∧ ¬ (programHeader img j).has PF_W := by
  have hcount : Counted img (Ehdr.at img).phnum s :=
    wp_ok (parseImage_wp y) h
  have hzero : s.summary.writableExecutableLoadSegments = 0 := by
    unfold validateInitialLoadPolicy at hp
    split at hp
    · cases hp
    · rename_i hc
      rw [not_or, not_not] at hc
      exact hc.2
  have hnot (k : Nat) (hk : k < (Ehdr.at img).phnum) (hl : (programHeader img k).type = PT_LOAD) :
      ¬ ((programHeader img k).has PF_W ∧ (programHeader img k).has PF_X) :=
    fun hf => hcount k hk ⟨hl, wx_of_has hf.1 hf.2⟩ hzero
  refine ⟨hnot, fun a i j hw hx => ⟨?_, ?_, ?_⟩⟩
  · rintro rfl
    exact hnot i hw.lt hw.load ⟨hw.flag, hx.flag⟩
  · exact fun hc => hnot i hw.lt hw.load ⟨hw.flag, hc⟩
  · exact fun hc => hnot j hx.lt hx.load ⟨hc, hx.flag⟩

/-- A shared object with two segments: 0x1000 bytes at 0x1000, readable and writable, and 0x1000
bytes at 0x1800, readable and executable. -/
def twoSegments : Buf := Buf.ofWords [
  0x10102464c457f, 0, 0x1003e0003, 0x1000, 0x40, 0, 0x38004000000000, 2,
  0x600000001, 0, 0x1000, 0, 0, 0x1000, 0,
  0x500000001, 0, 0x1800, 0, 0, 0x1000, 0]

/-- The summary of an accepted image. -/
def acceptedSummary (r : Res Status State Unit) : Option Summary :=
  match r with
  | .ok _ s => if validateInitialLoadPolicy s.summary = .ok then some s.summary else none
  | _ => none

theorem accepted_of_acceptedSummary {r : Res Status State Unit} (h : (acceptedSummary r).isSome) :
    ∃ s, r = .ok () s ∧ validateInitialLoadPolicy s.summary = .ok := by
  cases r with
  | ok a s =>
    refine ⟨s, rfl, ?_⟩
    unfold acceptedSummary at h
    simp only at h
    split at h
    · assumption
    · cases h
  | ret e s => cases h
  | fault x => cases h

set_option maxRecDepth 100000 in
theorem twoSegments_accepted : ∃ s,
    parseImage twoSegments false (State.enter Summary.clear) = .ok () s ∧
      validateInitialLoadPolicy s.summary = .ok :=
  accepted_of_acceptedSummary (by decide +kernel)

/-- The address 0x1900 is in both segments. -/
theorem twoSegments_covers : Covers twoSegments PF_W 0x1900 0 ∧
    Covers twoSegments PF_X 0x1900 1 :=
  ⟨⟨by decide +kernel, by decide +kernel, by decide +kernel, by unfold InMemory; decide +kernel⟩,
    ⟨by decide +kernel, by decide +kernel, by decide +kernel, by unfold InMemory; decide +kernel⟩⟩

theorem wx_address_in_two_segments_sample :
    (∀ k < 2, (programHeader twoSegments k).type = PT_LOAD →
      ¬ ((programHeader twoSegments k).has PF_W ∧ (programHeader twoSegments k).has PF_X)) ∧
    (0 : Nat) ≠ 1 ∧ ¬ (programHeader twoSegments 0).has PF_X ∧
      ¬ (programHeader twoSegments 1).has PF_W := by
  obtain ⟨s, hs, hp⟩ := twoSegments_accepted
  have hphnum : (Ehdr.at twoSegments).phnum = 2 := by decide +kernel
  obtain ⟨hload, haddress⟩ := wx_address_in_two_segments hs hp
  exact ⟨fun k hk => hload k (hphnum ▸ hk),
    haddress _ _ _ twoSegments_covers.1 twoSegments_covers.2⟩

/-- The two segments overlap, one writable and one executable, and the image is accepted. -/
theorem overlap_accepted : ¬ ∀ (img : Buf) (allow : Bool) (y : Summary) (s : State),
    parseImage img allow (State.enter y) = .ok () s → validateInitialLoadPolicy s.summary = .ok →
      ∀ a i j, ¬ (Covers img PF_W a i ∧ Covers img PF_X a j) := by
  intro hall
  obtain ⟨s, hs, hp⟩ := twoSegments_accepted
  exact hall _ _ _ s hs hp _ _ _ twoSegments_covers

end SeLinOS.Elfrt
