import Mathlib.Data.Nat.Find
import SeLinOS.CLogic.Run
import SeLinOS.Kabi.ParseSafe

/-!
# The entries of `.modinfo`

`parse_modinfo` on any bytes. Its entries are the tokens of the bytes between NULs.

* `Summary.visit`: what an entry does to the summary; `modinfoEntry_run`: the code does it.
* `parseModinfo_run`: the loop visits the tokens, one after the other.
* `Parsed`: what is in the summary then; `parseModinfo_parsed`: so it is for any bytes.
-/

namespace SeLinOS.Kabi

open CLogic Prog

/-! ## An entry -/

/-- The value of an entry with this key, where it has a byte at least. -/
def valueOf (key entry : List UInt8) : Option (List UInt8) :=
  if key <+: entry ∧ key.length < entry.length then some (entry.drop key.length) else none

/-- The array with the string and its NUL in front. -/
def setString (target : Buf) (text : List UInt8) : Buf where
  size := target.size
  byte k := if k ≤ text.length then text.getD k 0 else target.byte k

/-- The array after a copy of the value, which is cut off where it does not fit. -/
def setValue (target : Buf) (value : List UInt8) : Buf :=
  setString target (value.take (target.size - 1))

/-- The summary after an entry. -/
def Summary.visit (s : Summary) (entry : List UInt8) : Summary :=
  { s with
    modinfoEntries := (s.modinfoEntries + 1) % 2 ^ 32
    name := (valueOf nameKey entry).elim s.name (setValue s.name)
    vermagic := (valueOf vermagicKey entry).elim s.vermagic (setValue s.vermagic)
    hasLicense := s.hasLicense || (valueOf licenseKey entry).isSome }

/-- The summary after these entries. -/
def Summary.visitAll (s : Summary) (entries : List (Nat × List UInt8)) : Summary :=
  entries.foldl (fun s e => s.visit e.2) s

/-- The values are of their C types. -/
structure Summary.Typed (s : Summary) : Prop where
  name : s.name.size = MODULE_NAME_MAX
  vermagic : s.vermagic.size = VERMAGIC_MAX
  modinfoEntries : s.modinfoEntries < 2 ^ 32

variable {ε σ : Type} {img : Buf} {key entry value bytes : List UInt8} {s : Summary}

theorem valueOf_eq_some_iff :
    valueOf key entry = some value ↔ entry = key ++ value ∧ value ≠ [] := by
  unfold valueOf
  constructor
  · intro h
    split at h
    · rename_i hc
      obtain ⟨⟨rest, rfl⟩, hlt⟩ := hc
      obtain rfl := Option.some.inj h
      rw [List.drop_left]
      refine ⟨rfl, fun hnil => ?_⟩
      rw [hnil, List.append_nil] at hlt
      exact Nat.lt_irrefl _ hlt
    · cases h
  · rintro ⟨rfl, hne⟩
    have hpos := List.length_pos_iff.mpr hne
    rw [if_pos ⟨List.prefix_append _ _, by rw [List.length_append]; omega⟩, List.drop_left]

/-- An entry has one key. -/
theorem valueOf_eq_none {a b : UInt8} {key' : List UInt8} (hne : a ≠ b)
    (h : valueOf (a :: key) entry = some value) : valueOf (b :: key') entry = none := by
  obtain ⟨rfl, -⟩ := valueOf_eq_some_iff.mp h
  refine Option.eq_none_iff_forall_ne_some.mpr fun value' h' => ?_
  obtain ⟨heq, -⟩ := valueOf_eq_some_iff.mp h'
  exact hne (List.cons.inj heq).1

/-- `copy_value` of a value without a NUL. -/
theorem copyValue_run {t : σ} {target : Buf} {p n : Nat} (h : p + n ≤ img.size)
    (ht : 0 < target.size) (hno : 0 ∉ img.slice p n) :
    (copyValue img target p n : Prog ε σ Buf) t = .ok (setValue target (img.slice p n)) t := by
  refine run_of_wp (wp_mono (copyValue_wp h ht) ?_ fun _ _ h => h)
  rintro r t' ⟨rfl, m, hcopy, hrest⟩
  refine ⟨?_, rfl⟩
  have hfits := hcopy.fits
  have hle := hcopy.le
  have hm : m = n ∨ m + 1 = target.size := by
    rcases hcopy.stop with hstop | hstop | hstop
    · exact .inr hstop
    · exact .inl hstop
    · refine .inl (by_contra fun hne => hno ?_)
      exact Buf.mem_slice.mpr ⟨m, by omega, hstop⟩
  have htext : (img.slice p n).take (target.size - 1) = img.slice p m := by
    rcases hm with rfl | hm
    · exact List.take_of_length_le (by rw [Buf.length_slice]; omega)
    · rw [show target.size - 1 = m by omega, Buf.take_slice hle]
  have hbyte : r.byte = (setString target (img.slice p m)).byte := by
    funext k
    simp only [setString, Buf.length_slice, Buf.getD_slice]
    rcases Nat.lt_trichotomy k m with hk | rfl | hk
    · rw [if_pos (by omega), if_pos hk, (hcopy.bytes k hk).1]
    · rw [if_pos (Nat.le_refl _), if_neg (Nat.lt_irrefl _), hcopy.nul]
    · rw [if_neg (by omega), hrest k hk]
  have hsize := hcopy.size
  rw [setValue, htext]
  cases r
  subst hsize hbyte
  rfl

/-- A key comparison: the entry has a value for the key. -/
theorem key_run {t : σ} {p m n : Nat} (hm : key.length = m) (h : p + n ≤ img.size) :
    (andThen (n > m) (bytesEqual img p key) : Prog ε σ Bool) t =
      .ok (valueOf key (img.slice p n)).isSome t := by
  subst hm
  have hlen := Buf.length_slice img p n
  unfold andThen valueOf
  by_cases hlt : n > key.length
  · have hbegins : key <+: img.slice p n ↔ img.slice p key.length = key := by
      rw [List.prefix_iff_eq_take, Buf.take_slice (by omega), eq_comm]
    rw [if_pos hlt, bytesEqual_run (by omega)]
    by_cases hkey : img.slice p key.length = key
    · rw [if_pos ⟨hbegins.mpr hkey, by omega⟩, decide_eq_true hkey, Option.isSome_some]
    · rw [if_neg fun hc => hkey (hbegins.mp hc.1), decide_eq_false hkey, Option.isSome_none]
  · rw [if_neg hlt, if_neg fun hc => hlt (by omega)]
    rfl

/-- `copy_value` of the value of an entry. -/
theorem copyValue_entry_run {t : σ} {target : Buf} {p m n : Nat} (hm : key.length = m)
    (h : p + n ≤ img.size) (ht : 0 < target.size) (hno : 0 ∉ img.slice p n)
    (hv : valueOf key (img.slice p n) = some value) :
    (copyValue img target (p + m) (n - m) : Prog ε σ Buf) t = .ok (setValue target value) t := by
  subst hm
  obtain ⟨heq, -⟩ := valueOf_eq_some_iff.mp hv
  have hlen := congrArg List.length heq
  have hslice := congrArg (List.drop key.length) heq
  rw [Buf.length_slice, List.length_append] at hlen
  rw [Buf.drop_slice, List.drop_left] at hslice
  have hnul : 0 ∉ img.slice (p + key.length) (n - key.length) := by
    rw [hslice]
    refine fun hmem => hno ?_
    rw [heq]
    exact List.mem_append_right _ hmem
  rw [copyValue_run (by omega) ht hnul, hslice]

/-- One entry, as the code visits it. -/
theorem modinfoEntry_run {p n : Nat} (h : p + n ≤ img.size) (hno : 0 ∉ img.slice p n)
    (hs : s.Typed) : modinfoEntry img p n s = .ok () (s.visit (img.slice p n)) := by
  have hsizeName : 0 < s.name.size := by rw [hs.name]; decide
  have hsizeVermagic : 0 < s.vermagic.size := by rw [hs.vermagic]; decide
  refine run_of_wp (wp_bind (wp_modify (wp_bind (wp_of_run (key_run rfl h) ?_))))
  cases hname : valueOf nameKey (img.slice p n) with
  | some value =>
    have hvermagic : valueOf vermagicKey (img.slice p n) = none :=
      valueOf_eq_none (by decide) hname
    have hlicense : valueOf licenseKey (img.slice p n) = none :=
      valueOf_eq_none (by decide) hname
    refine wp_bind (wp_get (wp_bind (wp_of_run
      (copyValue_entry_run rfl h hsizeName hno hname) (wp_modify ⟨rfl, ?_⟩))))
    simp [Summary.visit, hname, hvermagic, hlicense]
  | none =>
    refine wp_bind (wp_of_run (key_run rfl h) ?_)
    cases hvermagic : valueOf vermagicKey (img.slice p n) with
    | some value =>
      have hlicense : valueOf licenseKey (img.slice p n) = none :=
        valueOf_eq_none (by decide) hvermagic
      refine wp_bind (wp_get (wp_bind (wp_of_run
        (copyValue_entry_run rfl h hsizeVermagic hno hvermagic) (wp_modify ⟨rfl, ?_⟩))))
      simp [Summary.visit, hname, hvermagic, hlicense]
    | none =>
      refine wp_bind (wp_of_run (key_run rfl h) ?_)
      refine wp_when (fun hlicense => wp_modify ⟨rfl, ?_⟩) fun hlicense => ⟨rfl, ?_⟩
      · simp [Summary.visit, hname, hvermagic, hlicense]
      · simp [Summary.visit, hname, hvermagic, hlicense]

theorem Summary.Typed.visit (hs : s.Typed) : (s.visit entry).Typed := by
  refine ⟨?_, ?_, Nat.mod_lt _ (by decide)⟩
  · simp only [Summary.visit]
    cases valueOf nameKey entry <;> exact hs.name
  · simp only [Summary.visit]
    cases valueOf vermagicKey entry <;> exact hs.vermagic

/-! ## The loop -/

variable {entries : List (Nat × List UInt8)}

theorem Summary.Typed.visitAll (hs : s.Typed) : (s.visitAll entries).Typed := by
  induction entries generalizing s with
  | nil => exact hs
  | cons e entries ih => exact ih hs.visit

theorem Summary.visitAll_append {later : List (Nat × List UInt8)} :
    s.visitAll (entries ++ later) = (s.visitAll entries).visitAll later := List.foldl_append

/-- The bytes of the entry at a place. -/
theorem slice_tokenAt {data n i : Nat} :
    img.slice (data + i) (tokenAt isNul (img.slice data n) i).length =
      tokenAt isNul (img.slice data n) i := by
  have hbegins : tokenAt isNul (img.slice data n) i <+: (img.slice data n).drop i :=
    List.takeWhile_prefix _
  have hle := hbegins.length_le
  rw [Buf.drop_slice, Buf.length_slice] at hle
  rw [Buf.drop_slice, List.prefix_iff_eq_take, Buf.take_slice hle] at hbegins
  exact hbegins.symm

theorem not_mem_token {i : Nat} : 0 ∉ tokenAt isNul bytes i := fun h =>
  Bool.false_ne_true (sep_of_mem_tokenAt h).symm

/-- `parse_modinfo` visits the entries, one after the other, in any image that has the bytes. -/
theorem parseModinfo_run {data n : Nat} (h : data + n ≤ img.size) (hs : s.Typed) :
    parseModinfo img data n s = .ok () (s.visitAll (tokens isNul (img.slice data n))) := by
  have hlen := Buf.length_slice img data n
  generalize hbytes : img.slice data n = bytes at hlen ⊢
  -- The invariant: the entries that start before `at_` are visited, and `at_` is inside none.
  refine run_of_wp (wp_seq (wp_whileM (fun at_ t => t = s.visitAll (tokensBelow isNul bytes at_) ∧
      (at_ ≤ n → IsBoundary isNul bytes at_)) (fun at_ => n - at_)
    (Q := fun _ t => t = s.visitAll (tokens isNul bytes)) ?_ _ _ _ (by omega)
    ⟨rfl, fun _ => isBoundary_zero⟩) (fun _ _ h => h) fun _ _ h => wp_pure ⟨rfl, h⟩)
  rintro at_ t ⟨ht, hboundary⟩
  refine wp_pure ?_
  split
  · rename_i hat
    rw [decide_eq_true_eq] at hat
    refine wp_bind (wp_of_run (modinfoEntrySize_run h) ?_)
    rw [hbytes]
    have hnext : at_ + (tokenAt isNul bytes at_).length + 1 ≤ n →
        IsBoundary isNul bytes (at_ + (tokenAt isNul bytes at_).length + 1) := fun hle =>
      isBoundary_next (by omega)
    have hin : (tokenAt isNul bytes at_).length ≤ bytes.length - at_ := length_tokenAt_le
    refine wp_ite (fun hzero => wp_pure ⟨⟨?_, ?_⟩, by omega⟩) fun hzero => ?_
    · rw [tokensBelow_skip (List.length_eq_zero_iff.mp hzero)]
      exact ht
    · rwa [hzero] at hnext
    · have hslice : img.slice (data + at_) (tokenAt isNul bytes at_).length =
          tokenAt isNul bytes at_ := by
        rw [← hbytes]
        exact slice_tokenAt
      have htyped : t.Typed := by
        rw [ht]
        exact hs.visitAll
      refine wp_bind (wp_of_run (modinfoEntry_run (by omega) ?_ htyped)
        (wp_pure ⟨⟨?_, hnext⟩, by omega⟩))
      · rw [hslice]
        exact not_mem_token
      · rw [← Nat.add_assoc, tokensBelow_next (hboundary (by omega))
          (mt List.length_eq_zero_iff.mpr hzero), Summary.visitAll_append, ← ht, hslice]
        rfl
  · rename_i hat
    rw [decide_eq_true_eq] at hat
    rw [ht, tokensBelow_of_length_le (by omega)]

/-! ## The summary after the loop -/

/-- An entry with this key and a value. -/
def HasEntry (bytes key : List UInt8) : Prop :=
  ∃ i value, value ≠ [] ∧ IsToken isNul bytes i (key ++ value)

/-- The value of the last of these entries. -/
def LastValue (bytes key value : List UInt8) : Prop :=
  value ≠ [] ∧ ∃ i, IsToken isNul bytes i (key ++ value) ∧
    ∀ j later, later ≠ [] → IsToken isNul bytes j (key ++ later) → j ≤ i

/-- The array holds the value of the last entry with this key, cut off after `limit` bytes, as a C
string. Without such an entry it is as before. -/
structure StringSet (bytes key : List UInt8) (limit : Nat) (before after : Buf) : Prop where
  size : after.size = before.size
  last : ∀ value, LastValue bytes key value → nameIs after 0 (limit + 1) (value.take limit)
  kept : ¬ HasEntry bytes key → after = before

/-- What `parse_modinfo` leaves, from the summary `s`. -/
structure Parsed (bytes : List UInt8) (s t : Summary) : Prop where
  entries : t.modinfoEntries = (s.modinfoEntries + (tokens isNul bytes).length) % 2 ^ 32
  name : StringSet bytes nameKey 63 s.name t.name
  vermagic : StringSet bytes vermagicKey 127 s.vermagic t.vermagic
  license : t.hasLicense = true ↔ s.hasLicense = true ∨ HasEntry bytes licenseKey
  others : t = { s with
    name := t.name, vermagic := t.vermagic, modinfoEntries := t.modinfoEntries,
    hasLicense := t.hasLicense }

/-- The body of the loop, for an entry of these bytes. -/
def Visits (bytes : List UInt8) (s : Summary) (e : Nat × List UInt8) (t : Summary) : Prop :=
  modinfoEntry (Buf.ofList bytes) e.1 e.2.length s = .ok () t

/-- Where there is an entry with the key, there is a last one. -/
theorem HasEntry.last (h : HasEntry bytes key) : ∃ value, LastValue bytes key value := by
  classical
  obtain ⟨i, value, hne, htoken⟩ := h
  have hspec := Nat.findGreatest_spec
    (P := fun i => ∃ value, value ≠ [] ∧ IsToken isNul bytes i (key ++ value))
    (Nat.le_of_lt htoken.lt_length) ⟨value, hne, htoken⟩
  obtain ⟨last, hlast, hlastToken⟩ := hspec
  exact ⟨last, hlast, _, hlastToken, fun j later hlater hj =>
    Nat.le_findGreatest (Nat.le_of_lt hj.lt_length) ⟨later, hlater, hj⟩⟩

theorem nameIs_setValue {target : Buf} {limit : Nat} (h : target.size = limit + 1) :
    nameIs (setValue target value) 0 (limit + 1) (value.take limit) := by
  have hlen : (value.take limit).length ≤ limit := by
    rw [List.length_take]
    exact Nat.min_le_left ..
  refine ⟨Nat.lt_succ_of_le hlen, ?_⟩
  rw [setValue, h, Nat.add_sub_cancel]
  generalize value.take limit = text
  refine List.ext_getElem (by simp) fun k hk _ => ?_
  rw [Buf.length_slice] at hk
  simp only [Buf.slice, setString, List.getElem_map, List.getElem_range, Nat.zero_add]
  rw [if_pos (by omega)]
  by_cases hlt : k < text.length
  · simp [hlt]
  · obtain rfl : k = text.length := by omega
    simp

theorem visitAll_entries (h : s.modinfoEntries < 2 ^ 32) :
    (s.visitAll entries).modinfoEntries = (s.modinfoEntries + entries.length) % 2 ^ 32 := by
  induction entries generalizing s with
  | nil => exact (Nat.mod_eq_of_lt h).symm
  | cons e entries ih =>
    have hvisit : (s.visit e.2).modinfoEntries = (s.modinfoEntries + 1) % 2 ^ 32 := rfl
    have hstep := ih (s := s.visit e.2) (by rw [hvisit]; exact Nat.mod_lt _ (by decide))
    rw [hvisit] at hstep
    rw [List.length_cons]
    refine hstep.trans ?_
    omega

theorem visitAll_license : (s.visitAll entries).hasLicense = true ↔
    s.hasLicense = true ∨ ∃ e ∈ entries, (valueOf licenseKey e.2).isSome = true := by
  induction entries generalizing s with
  | nil => simp [Summary.visitAll]
  | cons e entries ih =>
    have hvisit : (s.visit e.2).hasLicense =
        (s.hasLicense || (valueOf licenseKey e.2).isSome) := rfl
    refine (ih (s := s.visit e.2)).trans ?_
    simp only [hvisit, Bool.or_eq_true, or_assoc, List.mem_cons, exists_eq_or_imp]

theorem visitAll_others : s.visitAll entries = { s with
    name := (s.visitAll entries).name, vermagic := (s.visitAll entries).vermagic,
    modinfoEntries := (s.visitAll entries).modinfoEntries,
    hasLicense := (s.visitAll entries).hasLicense } := by
  induction entries generalizing s with
  | nil => rfl
  | cons e entries ih => exact ih (s := s.visit e.2)

section Field

variable {field : Summary → Buf}
  (hfield : ∀ s entry, field (s.visit entry) =
    (valueOf key entry).elim (field s) (setValue (field s)))

include hfield

theorem field_size : (field (s.visitAll entries)).size = (field s).size := by
  induction entries generalizing s with
  | nil => rfl
  | cons e entries ih =>
    refine (ih (s := s.visit e.2)).trans ?_
    rw [hfield]
    cases valueOf key e.2 <;> rfl

theorem field_kept (h : ∀ e ∈ entries, valueOf key e.2 = none) :
    field (s.visitAll entries) = field s := by
  induction entries generalizing s with
  | nil => rfl
  | cons e entries ih =>
    rw [List.forall_mem_cons] at h
    refine (ih (s := s.visit e.2) h.2).trans ?_
    rw [hfield, h.1, Option.elim_none]

/-- A string field of the summary. -/
theorem field_set {limit : Nat} (hsize : (field s).size = limit + 1) :
    StringSet bytes key limit (field s) (field (s.visitAll (tokens isNul bytes))) := by
  refine ⟨field_size hfield, ?_, fun hno => field_kept hfield fun e he => ?_⟩
  · rintro value ⟨hne, i, htoken, hlast⟩
    obtain ⟨earlier, later, htokens, hlater⟩ := htoken.split
    have hnone : ∀ e ∈ later, valueOf key e.2 = none := by
      refine fun e he => Option.eq_none_iff_forall_ne_some.mpr fun v hv => ?_
      obtain ⟨heq, hv⟩ := valueOf_eq_some_iff.mp hv
      obtain ⟨hlt, he⟩ := hlater e he
      exact absurd (hlast e.1 v hv (heq ▸ he)) (Nat.not_le.mpr hlt)
    rw [htokens, Summary.visitAll_append]
    show nameIs (field (((s.visitAll earlier).visit (key ++ value)).visitAll later)) _ _ _
    rw [field_kept hfield hnone, hfield, valueOf_eq_some_iff.mpr ⟨rfl, hne⟩, Option.elim_some]
    exact nameIs_setValue ((field_size hfield).trans hsize)
  · refine Option.eq_none_iff_forall_ne_some.mpr fun v hv => hno ?_
    obtain ⟨heq, hv⟩ := valueOf_eq_some_iff.mp hv
    exact ⟨e.1, v, hv, heq ▸ mem_tokens.mp he⟩

end Field

/-! ## The result -/

/-- `parse_modinfo` on an object that has these bytes and no others. -/
theorem parseModinfo_ofList (hs : s.Typed) :
    parseModinfo (Buf.ofList bytes) 0 bytes.length s =
      .ok () (s.visitAll (tokens isNul bytes)) := by
  have hin : 0 + bytes.length ≤ (Buf.ofList bytes).size := Nat.le_of_eq (Nat.zero_add _)
  have hrun := parseModinfo_run hin hs
  rwa [Buf.slice_ofList_self] at hrun

/-- The entries of the bytes, each visited by the code. -/
theorem run_visitAll (hs : s.Typed) (h : ∀ e ∈ entries, IsToken isNul bytes e.1 e.2) :
    Run (Visits bytes) s entries (s.visitAll entries) := by
  induction entries generalizing s with
  | nil => exact .nil
  | cons e entries ih =>
    rw [List.forall_mem_cons] at h
    obtain ⟨before, after, rfl, hbefore, -, hno, -, -⟩ := h.1
    have hslice : (Buf.ofList (before ++ e.2 ++ after)).slice e.1 e.2.length = e.2 :=
      Buf.slice_ofList (List.prefix_append ..) hbefore.symm rfl
    have hentry : modinfoEntry (Buf.ofList (before ++ e.2 ++ after)) e.1 e.2.length s =
        .ok () (s.visit ((Buf.ofList (before ++ e.2 ++ after)).slice e.1 e.2.length)) := by
      refine modinfoEntry_run ?_ ?_ hs
      · show e.1 + e.2.length ≤ (before ++ e.2 ++ after).length
        rw [List.length_append, List.length_append]
        omega
      · rw [hslice]
        exact fun hmem => Bool.false_ne_true (hno 0 hmem).symm
    rw [hslice] at hentry
    exact .cons hentry (ih hs.visit h.2)

theorem parsed_visitAll (hs : s.Typed) : Parsed bytes s (s.visitAll (tokens isNul bytes)) where
  entries := visitAll_entries hs.modinfoEntries
  name := field_set (fun _ _ => rfl) hs.name
  vermagic := field_set (fun _ _ => rfl) hs.vermagic
  license := by
    refine visitAll_license.trans (or_congr_right ⟨?_, ?_⟩)
    · rintro ⟨e, he, hsome⟩
      obtain ⟨value, hvalue⟩ := Option.isSome_iff_exists.mp hsome
      obtain ⟨heq, hne⟩ := valueOf_eq_some_iff.mp hvalue
      exact ⟨e.1, value, hne, heq ▸ mem_tokens.mp he⟩
    · rintro ⟨i, value, hne, htoken⟩
      exact ⟨(i, _), mem_tokens.mpr htoken,
        Option.isSome_iff_exists.mpr ⟨value, valueOf_eq_some_iff.mpr ⟨rfl, hne⟩⟩⟩
  others := visitAll_others

/-- **The modinfo tokenizer**: on any bytes, `parse_modinfo` ends without a read of another byte,
and visits the tokens between NULs, each of them once and in their order. -/
theorem parseModinfo_parsed (bytes : List UInt8) {s : Summary} (hs : s.Typed) :
    (tokens isNul bytes).Pairwise (·.1 < ·.1) ∧
    (∀ e, e ∈ tokens isNul bytes ↔ IsToken isNul bytes e.1 e.2) ∧
    ∃ t, Run (Visits bytes) s (tokens isNul bytes) t ∧ Parsed bytes s t ∧
      parseModinfo (Buf.ofList bytes) 0 bytes.length s = .ok () t ∧
      ∀ img data, data + bytes.length ≤ img.size → img.slice data bytes.length = bytes →
        parseModinfo img data bytes.length s = .ok () t := by
  refine ⟨pairwise_tokens, fun _ => mem_tokens, s.visitAll (tokens isNul bytes),
    run_visitAll hs fun _ => mem_tokens.mp, parsed_visitAll hs, parseModinfo_ofList hs,
    fun img data hin hslice => ?_⟩
  have hrun := parseModinfo_run hin hs
  rwa [hslice] at hrun

/-- `"name=a"`, `"license="` without a value, `"name=bc"` and `"license=G"` without a NUL, with
empty entries before them and between them. -/
def sampleModinfo : List UInt8 :=
  [0] ++ nameKey ++ [97, 0, 0] ++ licenseKey ++ [0] ++ nameKey ++ [98, 99, 0] ++ licenseKey ++ [71]

/-- The last name, and a license. -/
theorem parseModinfo_parsed_sample : ∃ t,
    parseModinfo (Buf.ofList sampleModinfo) 0 sampleModinfo.length Summary.zero = .ok () t ∧
      t.modinfoEntries = 4 ∧ nameIs t.name 0 64 [98, 99] ∧ t.vermagic = Buf.zeros VERMAGIC_MAX ∧
      t.hasLicense = true := by
  obtain ⟨-, hmem, t, -, hparsed, hrun, -⟩ :=
    parseModinfo_parsed sampleModinfo (s := Summary.zero) ⟨rfl, rfl, by decide⟩
  have htokens : tokens isNul sampleModinfo = [(1, nameKey ++ [97]), (9, licenseKey),
      (18, nameKey ++ [98, 99]), (26, licenseKey ++ [71])] := by decide +kernel
  rw [htokens] at hmem
  refine ⟨t, hrun, ?_, ?_, ?_, ?_⟩
  · rw [hparsed.entries, htokens]
    rfl
  · refine hparsed.name.last [98, 99] ⟨by decide, 18, (hmem (18, _)).mp (by decide), ?_⟩
    intro j later _ hj
    have hcases := (hmem (j, _)).mpr hj
    simp [nameKey, licenseKey] at hcases
    omega
  · refine hparsed.vermagic.kept ?_
    rintro ⟨i, value, -, htoken⟩
    have hcases := (hmem (i, _)).mpr htoken
    simp [nameKey, licenseKey, vermagicKey] at hcases
  · exact hparsed.license.mpr (.inr ⟨26, [71], by decide, (hmem (26, _)).mp (by decide)⟩)

/-! ## The counter wraps -/

/-- `n` entries of one byte. -/
def crowd (n : Nat) : List UInt8 := (List.range (2 * n)).map fun i => if i % 2 = 0 then 97 else 0

theorem length_tokens_crowd (n : Nat) : (tokens isNul (crowd n)).length = n := by
  have hlen : (crowd n).length = 2 * n := by simp [crowd]
  suffices hbelow : ∀ k ≤ n, IsBoundary isNul (crowd n) (2 * k) ∧
      (tokensBelow isNul (crowd n) (2 * k)).length = k by
    rw [tokens, hlen]
    exact (hbelow n (Nat.le_refl n)).2
  intro k
  induction k with
  | zero => exact fun _ => ⟨isBoundary_zero, rfl⟩
  | succ k ih =>
    intro hk
    obtain ⟨hboundary, hcount⟩ := ih (by omega)
    have htoken : tokenAt isNul (crowd n) (2 * k) = [97] := by
      rw [tokenAt, List.drop_eq_getElem_cons (by omega), List.drop_eq_getElem_cons (by omega)]
      simp [crowd, isNul, Nat.add_mod]
    have hbehind : 2 * k + (tokenAt isNul (crowd n) (2 * k)).length < (crowd n).length := by
      rw [htoken, hlen, List.length_singleton]
      omega
    have hboundary' := isBoundary_next hbehind
    have hnext := tokensBelow_next hboundary (by simp [htoken])
    rw [htoken, List.length_singleton] at hnext hboundary'
    refine ⟨hboundary', ?_⟩
    rw [show 2 * (k + 1) = 2 * k + 1 + 1 by omega, hnext, List.length_append, hcount]
    rfl

theorem crowd_not_counted {n : Nat} (hn : n % 2 ^ 32 = 0) (hpos : n ≠ 0) : ∃ t,
    parseModinfo (Buf.ofList (crowd n)) 0 (crowd n).length Summary.zero = .ok () t ∧
      t.modinfoEntries ≠ Summary.zero.modinfoEntries + (tokens isNul (crowd n)).length := by
  have htyped : Summary.zero.Typed := ⟨rfl, rfl, by decide⟩
  refine ⟨_, parseModinfo_ofList htyped, ?_⟩
  rw [visitAll_entries htyped.modinfoEntries, length_tokens_crowd]
  show (0 + n) % 2 ^ 32 ≠ 0 + n
  rw [Nat.zero_add, hn]
  exact hpos.symm

/-- `2 ^ 32` entries count as none. -/
theorem modinfo_entries_wrap : ∃ t,
    parseModinfo (Buf.ofList (crowd (2 ^ 32))) 0 (crowd (2 ^ 32)).length Summary.zero = .ok () t ∧
      t.modinfoEntries ≠
        Summary.zero.modinfoEntries + (tokens isNul (crowd (2 ^ 32))).length :=
  crowd_not_counted (Nat.mod_self _) (by decide)

end SeLinOS.Kabi
