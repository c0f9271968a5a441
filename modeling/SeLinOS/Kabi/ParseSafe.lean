import SeLinOS.CLogic.Tokens
import SeLinOS.Kabi.Module

/-!
# The module parser stays in the image

Every function of `SeLinOS.Kabi.Module` has one lemma here: what it needs of the image to read only
bytes below its size, and what it computes. The byte comparisons have a known run (`*_run`); the
section loop is a `wp`. `parseModule_wp` is the result: from any image the parser terminates
without a fault, and a successful parse leaves a well-formed section table (`WellFormed`), which
the later stages rely on.
-/

namespace SeLinOS.Kabi

open CLogic Prog

theorem rangeOk_iff {n o l : Nat} : rangeOk n o l = true ↔ o + l ≤ n := by
  simp only [rangeOk, Bool.and_eq_true, decide_eq_true_eq]; omega

section Helpers

variable {ε σ : Type} {img : Buf} {s : σ} {E : ε → σ → Prop}

/-! ## Comparisons -/

theorem bytesEqual_run {left : Nat} {right : List UInt8} (h : left + right.length ≤ img.size) :
    (bytesEqual img left right : Prog ε σ Bool) s =
      .ok (decide (img.slice left right.length = right)) s := by
  induction right generalizing left with
  | nil => rfl
  | cons c right ih =>
    simp only [List.length_cons] at h
    have hr : (img.read left : Prog ε σ UInt8) s = .ok (img.byte left) s := by
      simp only [Buf.read]; rw [if_pos (by omega)]
    rw [bytesEqual, bind_run, hr]
    simp only [ite_run, pure_run, List.length_cons, Buf.slice_succ, List.cons.injEq]
    by_cases hc : img.byte left = c
    · rw [if_neg (by simp [hc]), ih (by omega)]; simp [hc]
    · rw [if_pos hc]; simp [hc]

theorem stringTerminated_run {text limit : Nat} (h : text + limit ≤ img.size) :
    (stringTerminated img text limit : Prog ε σ Bool) s =
      .ok (decide (0 ∈ img.slice text limit)) s := by
  -- The search from index `i` on finds the NULs from `i` on.
  have key : ∀ n i, i + n = limit →
      (firstUp (fun index => do
        let b ← img.read (text + index)
        pure (if b = 0 then some () else none)) i n : Prog ε σ (Option Unit)) s =
        .ok (if 0 ∈ img.slice (text + i) n then some () else none) s := by
    intro n
    induction n with
    | zero => intro i _; rfl
    | succ n ih =>
      intro i hi
      have hr : (img.read (text + i) : Prog ε σ UInt8) s = .ok (img.byte (text + i)) s := by
        simp only [Buf.read]; rw [if_pos (by omega)]
      rw [firstUp, bind_run, bind_run, hr]
      simp only [pure_run, Buf.slice_succ, List.mem_cons]
      by_cases hb : img.byte (text + i) = 0
      · simp [hb]
      · simp only [hb, ↓reduceIte]
        rw [ih (i + 1) (by omega)]
        simp [Ne.symm hb, Nat.add_assoc]
  rw [stringTerminated, bind_run, key limit 0 (by omega)]
  simp only [Nat.add_zero, pure_run]
  split <;> simp_all

/-- The C string at `p`, within `limit` bytes, is `expected`. -/
def nameIs (img : Buf) (p limit : Nat) (expected : List UInt8) : Prop :=
  expected.length < limit ∧ img.slice p (expected.length + 1) = expected ++ [0]

instance (p limit : Nat) (expected : List UInt8) : Decidable (nameIs img p limit expected) :=
  inferInstanceAs (Decidable (_ ∧ _))

theorem nameEqualsFrom_run {candidate limit index : Nat} {expected : List UInt8}
    (h : candidate + limit ≤ img.size) :
    (nameEqualsFrom img candidate limit expected index : Prog ε σ Bool) s =
      .ok (decide (index + expected.length < limit ∧
        img.slice (candidate + index) (expected.length + 1) = expected ++ [0])) s := by
  have hr : ∀ i, i < limit →
      (img.read (candidate + i) : Prog ε σ UInt8) s = .ok (img.byte (candidate + i)) s := by
    intro i hi; simp only [Buf.read]; rw [if_pos (by omega)]
  induction expected generalizing index with
  | nil =>
    rw [nameEqualsFrom]
    by_cases hi : index < limit
    · simp [hi, bind_run, hr index hi, Buf.slice_succ, beq_eq_decide]
    · simp [hi]
  | cons c expected ih =>
    rw [nameEqualsFrom]
    by_cases hi : index ≥ limit
    · have : ¬ (index + (expected.length + 1) < limit) := by omega
      simp [hi, this]
    · simp only [hi, ↓reduceIte, bind_run, hr index (by omega), ite_run, pure_run,
        List.length_cons, Buf.slice_succ (n := expected.length + 1), List.cons_append,
        List.cons.injEq]
      by_cases hc : img.byte (candidate + index) = c
      · rw [if_neg (by simp [hc]), ih]
        have e : index + 1 + expected.length = index + (expected.length + 1) := by omega
        simp [hc, e, Nat.add_assoc]
      · rw [if_pos hc]; simp [hc]

theorem nameEquals_run {candidate limit : Nat} {expected : List UInt8}
    (h : candidate + limit ≤ img.size) :
    (nameEquals img candidate limit expected : Prog ε σ Bool) s =
      .ok (decide (nameIs img candidate limit expected)) s := by
  rw [nameEquals, nameEqualsFrom_run h]
  congr 1
  exact decide_eq_decide.mpr (by rw [nameIs, Nat.zero_add, Nat.add_zero])

/-- What `copy_value` leaves in an array that was `target`: the first `n` bytes of the value, and a
NUL after them. -/
structure Copied (img target : Buf) (value valueSize : Nat) (r : Buf) (n : Nat) : Prop where
  size : r.size = target.size
  fits : n < target.size
  le : n ≤ valueSize
  bytes : ∀ k < n, r.byte k = img.byte (value + k) ∧ img.byte (value + k) ≠ 0
  nul : r.byte n = 0
  stop : n + 1 = target.size ∨ n = valueSize ∨ img.byte (value + n) = 0

theorem copyValue_wp {target : Buf} {value valueSize : Nat} (h : value + valueSize ≤ img.size)
    (ht : 0 < target.size) :
    wp (copyValue img target value valueSize)
      (fun r s' => s' = s ∧ ∃ n, Copied img target value valueSize r n ∧
        ∀ k, n < k → r.byte k = target.byte k) E s := by
  rw [copyValue, if_neg (by omega)]
  -- The invariant: the first `copied` bytes are in place, none of them a NUL.
  refine wp_seq (wp_whileM (E := E)
    (fun b s' => s' = s ∧ b.2.size = target.size ∧ b.1 < target.size ∧ b.1 ≤ valueSize ∧
      (∀ k < b.1, b.2.byte k = img.byte (value + k) ∧ img.byte (value + k) ≠ 0) ∧
      ∀ k, b.1 ≤ k → b.2.byte k = target.byte k)
    (fun b => target.size - b.1)
    (Q := fun b s' => s' = s ∧ b.2.size = target.size ∧ b.1 < target.size ∧ b.1 ≤ valueSize ∧
      (∀ k < b.1, b.2.byte k = img.byte (value + k) ∧ img.byte (value + k) ≠ 0) ∧
      (∀ k, b.1 ≤ k → b.2.byte k = target.byte k) ∧
      (b.1 + 1 = target.size ∨ b.1 = valueSize ∨ img.byte (value + b.1) = 0))
    ?_ _ (0, target) s (by simp) ⟨rfl, rfl, ht, Nat.zero_le _, by simp, fun _ _ => rfl⟩)
    (fun _ _ h => h) ?_
  · rintro ⟨copied, t⟩ s' ⟨rfl, hs, hc, hv, hb, hr⟩
    simp only at hs hc hv hb hr ⊢
    refine wp_andThen (fun hcond => ?_) fun hcond => ?_
    · refine wp_bind (Buf.wp_read (by omega) (wp_pure ?_))
      by_cases h0 : img.byte (value + copied) = 0
      · simp only [h0, bne_self_eq_false, Bool.false_eq_true, ↓reduceIte]
        exact ⟨trivial, hs, hc, hv, hb, hr, .inr (.inr trivial)⟩
      · simp only [h0, bne_iff_ne, ne_eq, not_false_eq_true, ↓reduceIte]
        refine wp_bind (Buf.wp_read (by omega) (wp_bind (Buf.wp_write (by omega) (wp_pure ?_))))
        refine ⟨⟨rfl, hs, by simp only; omega, by simp only; omega, fun k hk => ?_,
          fun k hk => ?_⟩, by simp only; omega⟩
        · simp only at hk ⊢
          by_cases hkc : k = copied
          · subst hkc; rw [Function.update_self]; exact ⟨rfl, h0⟩
          · rw [Function.update_of_ne hkc]; exact hb k (by omega)
        · simp only at hk ⊢
          rw [Function.update_of_ne (by omega)]; exact hr k (by omega)
    · simp only [Bool.false_eq_true, ↓reduceIte]
      exact ⟨trivial, hs, hc, hv, hb, hr, by omega⟩
  · rintro ⟨n, t⟩ s' ⟨rfl, hs, hc, hv, hb, hr, hstop⟩
    simp only at hs hc hv hb hr hstop ⊢
    refine Buf.wp_write (by omega) ⟨rfl, n, ⟨hs, hc, hv, fun k hk => ?_, ?_, hstop⟩,
      fun k hk => ?_⟩
    · simp only; rw [Function.update_of_ne (by omega)]; exact hb k hk
    · simp only; rw [Function.update_self]
    · simp only; rw [Function.update_of_ne (by omega)]; exact hr k (by omega)

/-- `begins_with` reads the text up to its NUL at most: the prefix has none. -/
theorem beginsWithFrom_wp {text : Buf} {start : List UInt8} {index n : Nat} (h0 : 0 ∉ start)
    (hn : n < text.size) (hb : text.byte n = 0) (hi : index ≤ n) :
    wp (beginsWithFrom text start index : Prog ε σ Bool) (fun _ s' => s' = s) E s := by
  induction start generalizing index with
  | nil => exact wp_pure rfl
  | cons c start ih =>
    simp only [List.mem_cons, not_or] at h0
    refine wp_bind (Buf.wp_read (by omega) (wp_ite (fun _ => wp_pure rfl) fun hc => ?_))
    refine ih h0.2 ?_
    rcases Nat.lt_or_eq_of_le hi with hlt | rfl
    · exact hlt
    · -- at the NUL the prefix would have to continue with a NUL
      exact absurd (by simpa [hb] using hc) h0.1

end Helpers

/-! ## The summary -/

/-- The arrays of the summary keep their sizes, and `vermagic` is NUL-terminated. -/
structure Summary.Ok (s : Summary) : Prop where
  name : s.name.size = MODULE_NAME_MAX
  vermagic : s.vermagic.size = VERMAGIC_MAX
  nul : ∃ n < VERMAGIC_MAX, s.vermagic.byte n = 0

theorem Summary.zero_ok : Summary.zero.Ok := ⟨rfl, rfl, 0, by decide, rfl⟩

variable {img : Buf} {s : Summary}

/-- `'\0'`. -/
def isNul (b : UInt8) : Bool := b == 0

/-- The inner loop of `parse_modinfo` stops at the end of the entry. -/
theorem modinfoEntrySize_run {data dataSize at_ : Nat} (h : data + dataSize ≤ img.size) :
    modinfoEntrySize img data dataSize at_ s =
      .ok (tokenAt isNul (img.slice data dataSize) at_).length s := by
  generalize hentry : tokenAt isNul (img.slice data dataSize) at_ = entry
  have hinside : ∀ n < entry.length, at_ + n < dataSize ∧ img.byte (data + at_ + n) ≠ 0 := by
    rintro n hn
    rw [← hentry] at hn
    obtain ⟨b, hb, hsep⟩ := sep_inside hn
    have hlt : at_ + n < dataSize := by
      have hlt := (List.getElem?_eq_some_iff.mp hb).1
      rwa [Buf.length_slice] at hlt
    rw [Buf.getElem?_slice hlt, Option.mem_some_iff, ← Nat.add_assoc] at hb
    subst hb
    exact ⟨hlt, ne_of_beq_false hsep⟩
  have hbehind : at_ + entry.length < dataSize → img.byte (data + at_ + entry.length) = 0 := by
    intro hlt
    subst hentry
    have hbyte : (img.slice data dataSize)[at_ + _]? = some (img.byte (data + (at_ + _))) :=
      Buf.getElem?_slice hlt
    rw [← Nat.add_assoc] at hbyte
    have hnul : isNul (img.byte (data + at_ + _)) = true := sep_behind hbyte
    exact eq_of_beq hnul
  have hfuel : entry.length ≤ dataSize := by
    rw [← hentry]
    exact length_tokenAt_le.trans (by rw [Buf.length_slice]; omega)
  refine run_of_wp (wp_whileM (fun n s' => s' = s ∧ n ≤ entry.length) (fun n => entry.length - n)
    ?_ _ _ _ (by omega) ⟨rfl, Nat.zero_le _⟩)
  rintro n s' ⟨rfl, hn⟩
  have hin := hinside n
  refine wp_andThen (fun hcond => ?_) fun hcond => ?_
  · refine wp_bind (Buf.wp_read (by omega) (wp_pure ?_))
    by_cases h0 : img.byte (data + at_ + n) = 0
    · simp only [h0, bne_self_eq_false, Bool.false_eq_true, ↓reduceIte]
      exact ⟨by_contra fun hne => (hin (by omega)).2 h0, trivial⟩
    · simp only [h0, bne_iff_ne, ne_eq, not_false_eq_true, ↓reduceIte]
      have hne : n ≠ entry.length := fun heq => h0 (by rw [heq] at hcond ⊢; exact hbehind hcond)
      exact wp_pure ⟨⟨rfl, by omega⟩, by omega⟩
  · simp only [Bool.false_eq_true, ↓reduceIte]
    exact ⟨by_contra fun hne => hcond (hin (by omega)).1, trivial⟩

theorem modinfoEntrySize_wp {data dataSize at_ : Nat} (h : data + dataSize ≤ img.size)
    (hat : at_ < dataSize) :
    wp (modinfoEntrySize img data dataSize at_)
      (fun n s' => s' = s ∧ at_ + n ≤ dataSize) (fun _ _ => True) s := by
  refine wp_of_run (modinfoEntrySize_run h) ⟨rfl, ?_⟩
  have hle : (tokenAt isNul (img.slice data dataSize) at_).length ≤
      (img.slice data dataSize).length - at_ := length_tokenAt_le
  rw [Buf.length_slice] at hle
  omega

/-- A key comparison of `parse_modinfo`: the length test before it keeps it in the entry. -/
theorem andThen_bytesEqual_wp {entry entrySize : Nat} {key : List UInt8} {n : Nat}
    {Q : Bool → Summary → Prop} {E : Status → Summary → Prop} (h : entry + entrySize ≤ img.size)
    (hk : key.length = n)
    (hQ : ∀ b, (b = true → n < entrySize) → Q b s) :
    wp (andThen (entrySize > n) (bytesEqual img entry key)) Q E s := by
  refine wp_andThen (fun hc => ?_) fun hc => hQ false (by simp)
  exact wp_of_run (bytesEqual_run (by omega)) (hQ _ fun _ => hc)

theorem modinfoEntry_wp {entry entrySize : Nat} (h : entry + entrySize ≤ img.size) (hs : s.Ok) :
    wp (modinfoEntry img entry entrySize) (fun _ s' => s'.Ok) (fun _ _ => True) s := by
  refine wp_bind (wp_modify (wp_bind (andThen_bytesEqual_wp h rfl fun isName hn => ?_)))
  refine wp_ite (fun hc => ?_) fun _ => ?_
  · have := hn hc
    refine wp_bind (wp_get (wp_seq (copyValue_wp (by omega)
      (by simp only [hs.name]; decide)) (fun _ _ h => h) ?_))
    rintro name s' ⟨rfl, n, hcopy, -⟩
    exact wp_modify ⟨hcopy.size.trans hs.name, hs.vermagic, hs.nul⟩
  refine wp_bind (andThen_bytesEqual_wp h rfl fun isVermagic hn => ?_)
  refine wp_ite (fun hc => ?_) fun _ => ?_
  · have := hn hc
    refine wp_bind (wp_get (wp_seq (copyValue_wp (by omega)
      (by simp only [hs.vermagic]; decide)) (fun _ _ h => h) ?_))
    rintro vermagic s' ⟨rfl, n, hcopy, -⟩
    exact wp_modify ⟨hs.name, hcopy.size.trans hs.vermagic, n, hs.vermagic ▸ hcopy.fits, hcopy.nul⟩
  refine wp_bind (andThen_bytesEqual_wp h rfl fun isLicense _ => ?_)
  exact wp_when (fun _ => wp_modify ⟨hs.name, hs.vermagic, hs.nul⟩) fun _ =>
    ⟨hs.name, hs.vermagic, hs.nul⟩

theorem parseModinfo_wp {data dataSize : Nat} (h : data + dataSize ≤ img.size) (hs : s.Ok) :
    wp (parseModinfo img data dataSize) (fun _ s' => s'.Ok) (fun _ _ => True) s := by
  refine wp_seq (wp_whileM (fun _ s' => s'.Ok) (fun at_ => dataSize - at_) (Q := fun _ s' => s'.Ok)
    ?_ _ _ _ (by omega) hs) (fun _ _ h => h) fun _ _ h => wp_pure h
  intro at_ s' hs'
  refine wp_pure ?_
  split
  · rename_i hat
    simp only [decide_eq_true_eq] at hat
    refine wp_seq (modinfoEntrySize_wp h hat) (fun _ _ h => h) ?_
    rintro entrySize s'' ⟨rfl, hle⟩
    refine wp_ite (fun _ => wp_pure ⟨hs', by omega⟩) fun h0 => ?_
    exact wp_seq (modinfoEntry_wp (by omega) hs') (fun _ _ h => h) fun _ _ h =>
      wp_pure ⟨h, by omega⟩
  · exact hs'

/-! ## Sections -/

/-- What the header checks establish: the section table and the table of section names lie in the
image. -/
structure HeaderOk (img : Buf) (names : Shdr) : Prop where
  header : ehdrSize ≤ img.size
  shstrndx : (Ehdr.at img).shstrndx < (Ehdr.at img).shnum
  table : (Ehdr.at img).shoff + shdrSize * (Ehdr.at img).shnum ≤ img.size
  namesAt : names = sectionAt img (Ehdr.at img).shstrndx
  names : names.offset + names.size ≤ img.size

/-- What one iteration of the section loop checks. -/
structure SectionOk (img : Buf) (names sh : Shdr) : Prop where
  name : sh.name < names.size
  range : sh.offset + sh.size ≤ img.size
  symtab : sh.type = SHT_SYMTAB → sh.entsize = symSize ∧ sh.size % symSize = 0

theorem loadSection_wp {ε σ : Type} {i : Nat} {s : σ} {Q : Shdr → σ → Prop} {E : ε → σ → Prop}
    (ht : (Ehdr.at img).shoff + shdrSize * (Ehdr.at img).shnum ≤ img.size)
    (hi : i < (Ehdr.at img).shnum) (hQ : Q (sectionAt img i) s) :
    wp (loadSection img i) Q E s := by
  refine Buf.wp_load ?_ hQ
  simp only [shdrOff, shdrSize] at ht ⊢
  omega

/-- The entries of a table of `size` bytes at `offset`, `entsize` bytes each, lie in the image. -/
theorem entry_le {offset size entsize i n : Nat} (h : offset + size ≤ n)
    (hi : i < size / entsize) : offset + entsize * i + entsize ≤ n := by
  have h1 : entsize * (i + 1) ≤ entsize * (size / entsize) := Nat.mul_le_mul_left _ hi
  have h2 := Nat.mul_div_le size entsize
  rw [Nat.mul_succ] at h1
  omega

theorem parseSymtab_wp {sh : Shdr} (h : sh.offset + sh.size ≤ img.size) (hs : s.Ok) :
    wp (parseSymtab img sh)
      (fun _ s' => s'.Ok ∧ sh.entsize = symSize ∧ sh.size % symSize = 0) (fun _ _ => True) s := by
  refine wp_ite (fun _ => wp_ret trivial) fun hc => ?_
  rw [not_or, not_not, not_not] at hc
  obtain ⟨he, hm⟩ := hc
  rw [he] at hm ⊢
  refine wp_mono (wp_forUp (fun _ s' => s'.Ok) 0 _ s hs ?_) (fun _ _ h => ⟨h, rfl, hm⟩)
    fun _ _ h => h
  intro i s' _ hi hs'
  have hle : sh.offset + symSize * i + symSize ≤ img.size := entry_le h (by omega)
  exact wp_bind (Buf.wp_load hle (wp_when
    (fun _ => wp_modify ⟨hs'.name, hs'.vermagic, hs'.nul⟩) fun _ => hs'))

theorem parseSection_wp {names : Shdr} {i : Nat} (h : HeaderOk img names)
    (hi : i < (Ehdr.at img).shnum) (hs : s.Ok) :
    wp (parseSection img names i) (fun _ s' => s'.Ok ∧ SectionOk img names (sectionAt img i))
      (fun _ _ => True) s := by
  unfold parseSection
  refine wp_bind (loadSection_wp h.table hi ?_)
  generalize sectionAt img i = sh
  refine wp_ite (fun _ => wp_ret trivial) fun hc => ?_
  rw [not_or, not_not, rangeOk_iff] at hc
  obtain ⟨hname, hrange⟩ := hc
  have hlim : names.offset + sh.name + (names.size - sh.name) ≤ img.size := by
    have := h.names; omega
  refine wp_seq (Q := fun _ s' => s'.Ok) (E := fun _ _ => True)
    (wp_when (fun _ => wp_modify ⟨hs.name, hs.vermagic, hs.nul⟩) fun _ => hs) (fun _ _ h => h)
    fun _ s₁ hs₁ => ?_
  have hsym : wp (when (sh.type = SHT_SYMTAB) (parseSymtab img sh))
      (fun _ s' => s'.Ok ∧ (sh.type = SHT_SYMTAB → sh.entsize = symSize ∧ sh.size % symSize = 0))
      (fun _ _ => True) s₁ :=
    wp_when (fun _ => wp_mono (parseSymtab_wp hrange hs₁) (fun _ _ h => ⟨h.1, fun _ => h.2⟩)
      fun _ _ h => h) fun hn => ⟨hs₁, fun h => absurd h hn⟩
  refine wp_seq hsym (fun _ _ h => h) fun _ s₂ ⟨hs₂, hsym⟩ => ?_
  refine wp_bind (wp_of_run (nameEquals_run hlim) ?_)
  refine wp_seq (Q := fun _ s' => s'.Ok) (E := fun _ _ => True)
    (wp_when (fun _ => parseModinfo_wp hrange hs₂) fun _ => hs₂) (fun _ _ h => h)
    fun _ s₃ hs₃ => ?_
  refine wp_bind (wp_of_run (nameEquals_run hlim) ?_)
  have hok : SectionOk img names sh := ⟨by omega, hrange, hsym⟩
  exact wp_when (fun _ => wp_modify ⟨⟨hs₃.name, hs₃.vermagic, hs₃.nul⟩, hok⟩) fun _ => ⟨hs₃, hok⟩

/-! ## The header and the whole parser -/

theorem parseIdent_wp (h : ehdrSize ≤ img.size) :
    wp (parseIdent img) (fun _ s' => s' = s) (fun _ _ => True) s := by
  simp only [ehdrSize] at h
  refine wp_bind (wp_of_run (bytesEqual_run (by simp only [elfMagic, List.length]; omega)) ?_)
  refine wp_ite (fun _ => wp_ret trivial) fun _ => ?_
  refine wp_bind (Buf.wp_read (by simp only [EI_CLASS]; omega) ?_)
  refine wp_bind (Buf.wp_read (by simp only [EI_DATA]; omega) ?_)
  refine wp_bind (Buf.wp_read (by simp only [EI_VERSION]; omega) ?_)
  exact wp_ite (fun _ => wp_ret trivial) fun _ => wp_pure rfl

theorem parseHeader_wp :
    wp (parseHeader img) (fun names s' => s' = s ∧ HeaderOk img names) (fun _ _ => True) s := by
  unfold parseHeader
  refine wp_ite (fun _ => wp_ret trivial) fun hsize => ?_
  have hsize : ehdrSize ≤ img.size := by omega
  refine wp_seq (parseIdent_wp hsize) (fun _ _ h => h) ?_
  rintro _ s' rfl
  refine wp_bind (Buf.wp_load (by omega) ?_)
  refine wp_ite (fun _ => wp_ret trivial) fun _ => ?_
  refine wp_ite (fun _ => wp_ret trivial) fun _ => ?_
  refine wp_ite (fun _ => wp_ret trivial) fun hsec => ?_
  refine wp_ite (fun _ => wp_ret trivial) fun htab => ?_
  simp only [not_or, not_not, ge_iff_le, Nat.not_le] at hsec htab
  obtain ⟨hent, -, -, hstr⟩ := hsec
  rw [rangeOk_iff, hent] at htab
  refine wp_bind (loadSection_wp htab hstr ?_)
  refine wp_ite (fun _ => wp_ret trivial) fun hn => ?_
  rw [not_not, rangeOk_iff] at hn
  exact wp_pure ⟨rfl, ⟨hsize, hstr, htab, rfl, hn⟩⟩

/-- A section table that the parser accepts. -/
structure WellFormed (img : Buf) : Prop where
  header : HeaderOk img (sectionAt img (Ehdr.at img).shstrndx)
  sections : ∀ i < (Ehdr.at img).shnum,
    SectionOk img (sectionAt img (Ehdr.at img).shstrndx) (sectionAt img i)

/-- **The parser**: from any image it terminates and reads only bytes of the image, and an image
that it accepts is well formed. -/
theorem parseModule_wp {required : CStr} :
    wp (parseModule img required) (fun _ _ => WellFormed img) (fun _ _ => True) s := by
  refine wp_bind (wp_modify (wp_seq parseHeader_wp (fun _ _ h => h) ?_))
  rintro names s' ⟨rfl, hh⟩
  refine wp_seq (wp_forUp (fun i s' => s'.Ok ∧ ∀ j < i, SectionOk img names (sectionAt img j)) 0 _ _
    ⟨Summary.zero_ok, by simp⟩ ?_) (fun _ _ h => h) ?_
  · rintro i s₁ - hi ⟨hs₁, hj⟩
    refine wp_mono (parseSection_wp hh (by omega) hs₁) (fun _ s₂ h => ⟨h.1, fun j hj' => ?_⟩)
      fun _ _ h => h
    rcases Nat.lt_succ_iff_lt_or_eq.mp hj' with hlt | rfl
    · exact hj j hlt
    · exact h.2
  · rintro _ s₁ ⟨hs₁, hsec⟩
    rw [Nat.zero_add] at hsec
    have hwf : WellFormed img := by
      have e := hh.namesAt
      subst e
      exact ⟨hh, hsec⟩
    obtain ⟨n, hn, hb⟩ := hs₁.nul
    refine wp_bind (wp_get (wp_bind (Buf.wp_read (by rw [hs₁.name]; decide) ?_)))
    refine wp_bind (Buf.wp_read (by rw [hs₁.vermagic]; decide) ?_)
    refine wp_ite (fun _ => wp_ret trivial) fun _ => ?_
    refine wp_seq (beginsWithFrom_wp (E := fun _ _ => True) required.noNul
      (by rw [hs₁.vermagic]; exact hn) hb (Nat.zero_le _)) (fun _ _ h => h) ?_
    rintro matched s₂ rfl
    exact wp_ite (fun _ => wp_modify hwf) fun _ => wp_ret trivial

end SeLinOS.Kabi
