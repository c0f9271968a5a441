import SeLinOS.CLogic.Liberal
import SeLinOS.Kabi.Contract
import SeLinOS.Kabi.Versions

/-!
# The verdict of the version check

`selinos_kabi_verify_module_versions` returns at the first `__versions` section:
`verifyModuleVersions_ok_iff` is its verdict, and `versions_verified_iff` when it is the verdict
over all sections of this name.

* `Parses`: the parser accepts the image; `parseModule_hasVersions`: what it says of `__versions`.
* `AllVersionsValid`: there is a `__versions` section, and each one passes its checks.
-/

namespace SeLinOS.Kabi

open CLogic Prog

variable {img : Buf} {required : CStr} {resolveCrc : CStr → Option (BitVec 32)}

/-- `selinos_kabi_parse_module` returns `SELINOS_KABI_MODULE_OK`. -/
def Parses (img : Buf) (required : CStr) : Prop :=
  ∃ summary, parseModule img required Summary.zero = .ok () summary

/-! ## The flag of the parser -/

/-- `I` does not depend on the rest of the summary. -/
def VersionsOnly (I : Summary → Prop) : Prop :=
  ∀ s s' : Summary, s'.hasVersions = s.hasVersions → I s → I s'

section VersionsOnly

variable {I : Summary → Prop} (h : VersionsOnly I)

theorem keepsOk_bytesEqual (left : Nat) (right : List UInt8) :
    KeepsOk I (bytesEqual img left right : Prog Status Summary Bool) := by
  induction right generalizing left with
  | nil => exact .pure _
  | cons c right ih => exact (KeepsOk.read img _).bind fun _ => .ite (.pure _) (ih _)

theorem keepsOk_copyValue (target : Buf) (value valueSize : Nat) :
    KeepsOk I (copyValue img target value valueSize : Prog Status Summary Buf) := by
  refine .ite (.pure _) (KeepsOk.bind (.whileM ?_ ?_ _ _) fun _ => .write _ _ _)
  · exact fun _ => .andThen ((KeepsOk.read img _).bind fun _ => .pure _)
  · exact fun _ => (KeepsOk.read img _).bind fun _ => (KeepsOk.write _ _ _).bind fun _ => .pure _

include h

theorem keepsOk_modifySummary {f : Summary → Summary}
    (hf : ∀ s, (f s).hasVersions = s.hasVersions) :
    KeepsOk I (Prog.modify f : Prog Status Summary Unit) :=
  .modify fun s => h s _ (hf s)

theorem keepsOk_modinfoEntry (entry entrySize : Nat) :
    KeepsOk I (modinfoEntry img entry entrySize) := by
  have hcopy (p : Summary → Buf) (f : Buf → Summary → Summary) (value valueSize : Nat)
      (hf : ∀ b s, (f b s).hasVersions = s.hasVersions) :
      KeepsOk I (do
        let s ← Prog.get
        let b ← copyValue img (p s) value valueSize
        Prog.modify (f b) : Prog Status Summary Unit) :=
    fun s hs => wlp_bind (wlp_get ((keepsOk_copyValue _ _ _).bind
      (fun b => keepsOk_modifySummary h (hf b)) s hs))
  refine .bind (keepsOk_modifySummary h fun _ => rfl) fun _ => ?_
  refine KeepsOk.bind (.andThen (keepsOk_bytesEqual _ _)) fun _ => .ite ?_ ?_
  · exact hcopy Summary.name (fun b s => { s with name := b }) _ _ fun _ _ => rfl
  refine KeepsOk.bind (.andThen (keepsOk_bytesEqual _ _)) fun _ => .ite ?_ ?_
  · exact hcopy Summary.vermagic (fun b s => { s with vermagic := b }) _ _ fun _ _ => rfl
  exact KeepsOk.bind (.andThen (keepsOk_bytesEqual _ _)) fun _ =>
    .when (keepsOk_modifySummary h fun _ => rfl)

theorem keepsOk_parseModinfo (data dataSize : Nat) :
    KeepsOk I (parseModinfo img data dataSize) := by
  refine KeepsOk.bind (.whileM (fun _ => .pure _) (fun at_ => ?_) _ _) fun _ => .pure _
  refine KeepsOk.bind (.whileM ?_ (fun _ => .pure _) _ _) fun entrySize => ?_
  · exact fun _ => .andThen ((KeepsOk.read img _).bind fun _ => .pure _)
  · exact .ite (.pure _) ((keepsOk_modinfoEntry h _ _).bind fun _ => .pure _)

theorem keepsOk_parseSymtab (sh : Shdr) : KeepsOk I (parseSymtab img sh) := by
  refine .ite (.ret _) (.forUp (fun _ => (KeepsOk.load _ _ _ _).bind fun _ => .when ?_) _ _)
  exact keepsOk_modifySummary h fun _ => rfl

end VersionsOnly

/-- A section called `__versions` below `n` has set the flag. -/
def Flagged (img : Buf) (n : Nat) (s : Summary) : Prop :=
  ∀ i < n, IsVersions img i → s.hasVersions = true

theorem parseSection_flagged {n : Nat} {s : Summary}
    (hh : HeaderOk img (sectionAt img (Ehdr.at img).shstrndx)) (h : Flagged img n s) :
    wlp (parseSection img (sectionAt img (Ehdr.at img).shstrndx) n)
      (fun _ s' => Flagged img (n + 1) s') (fun _ _ => True) s := by
  have hfree : VersionsOnly (Flagged img n) := fun s s' hs h i hi hv => by
    rw [hs]
    exact h i hi hv
  have hnames := hh.names
  unfold parseSection
  refine wlp_bind (wlp_load (wlp_ite (fun _ => wlp_ret trivial) fun hc => ?_))
  rw [not_or, not_not] at hc
  have hrela : KeepsOk (Flagged img n) (Prog.modify fun s =>
      { s with relocationSections := (s.relocationSections + 1) % 2 ^ 32 }) :=
    keepsOk_modifySummary hfree fun _ => rfl
  refine wlp_seq (KeepsOk.when hrela s h) fun _ s₁ h₁ => ?_
  refine wlp_seq (KeepsOk.when (keepsOk_parseSymtab hfree _) s₁ h₁) fun _ s₂ h₂ => ?_
  refine wlp_bind (wlp_of_run (nameEquals_run (by omega)) ?_)
  refine wlp_seq (KeepsOk.when (keepsOk_parseModinfo hfree _ _) s₂ h₂) fun _ s₃ h₃ => ?_
  refine wlp_bind (wlp_of_run (nameEquals_run (by omega)) ?_)
  refine wlp_when (fun _ => wlp_modify fun _ _ _ => rfl) fun hv i hi hi' => ?_
  rcases Nat.lt_succ_iff_lt_or_eq.mp hi with hi | rfl
  · exact h₃ i hi hi'
  · exact absurd hi' (by simpa [IsVersions] using hv)

/-- The parser sets its flag where there is a `__versions` section. -/
theorem parseModule_hasVersions {s summary : Summary}
    (h : parseModule img required s = .ok () summary) :
    Flagged img (Ehdr.at img).shnum summary := by
  have hrun : wlp (parseModule img required) (fun _ s' => Flagged img (Ehdr.at img).shnum s')
      (fun _ _ => True) s := by
    refine wlp_bind (wlp_modify (wlp_seq (wlp_of_wp parseHeader_wp) ?_))
    rintro names s₁ ⟨rfl, hh⟩
    obtain rfl := hh.namesAt
    refine wlp_seq (wlp_forUp (Flagged img) 0 _ _ (fun i hi => absurd hi (Nat.not_lt_zero i))
      fun i s' _ _ h' => parseSection_flagged hh h') fun _ s₂ h₂ => ?_
    rw [Nat.zero_add] at h₂
    have hfree : VersionsOnly (Flagged img (Ehdr.at img).shnum) := fun s s' hs h i hi hv => by
      rw [hs]
      exact h i hi hv
    refine wlp_bind (wlp_get (wlp_bind (wlp_read (wlp_bind (wlp_read ?_)))))
    refine wlp_ite (fun _ => wlp_ret trivial) fun _ => ?_
    have hbegins : ∀ (start : List UInt8) (index : Nat),
        KeepsOk (Flagged img (Ehdr.at img).shnum)
          (beginsWithFrom s₂.vermagic start index : Prog Status Summary Bool) := by
      intro start
      induction start with
      | nil => exact fun _ => .pure _
      | cons c start ih =>
        exact fun _ => (KeepsOk.read _ _).bind fun _ => .ite (.pure _) (ih _)
    refine wlp_seq (hbegins _ _ s₂ h₂) fun _ s₃ h₃ => ?_
    exact wlp_ite (fun _ => wlp_modify (hfree _ _ rfl h₃)) fun _ => wlp_ret trivial
  have hs := wlp_ok hrun h
  exact hs

/-! ## The verdict -/

/-- The check accepts an image exactly when it parses and its first `__versions` section is
valid. -/
theorem verifyModuleVersions_ok_iff :
    verifyModuleVersions img required resolveCrc () = .ok () () ↔
      Parses img required ∧ ∃ i, FirstVersions img i ∧ VersionsValid img resolveCrc i := by
  cases hp : parseModule img required Summary.zero with
  | fault x => exact absurd hp (wp_noFault parseModule_wp x)
  | ret e summary =>
    have hno : ¬ Parses img required := fun ⟨_, h⟩ => by
      rw [hp] at h
      cases h
    have hcall : (call (parseModule img required) Summary.zero : Prog Status Unit _) () =
        .ok (.error e, summary) () := by rw [call, hp]
    have hret : verifyModuleVersions img required resolveCrc () = .ret .eMetadata () := by
      rw [verifyModuleVersions, bind_run, hcall]
      rfl
    rw [hret]
    exact iff_of_false (by simp) fun h => hno h.1
  | ok u summary =>
    have hw := wp_ok parseModule_wp hp
    have hflag := parseModule_hasVersions hp
    have hverdict : wp (verifyModuleVersions img required resolveCrc)
        (fun _ _ => ∃ i, FirstVersions img i ∧ VersionsValid img resolveCrc i)
        (fun _ _ => ¬ ∃ i, FirstVersions img i ∧ VersionsValid img resolveCrc i) () := by
      have hcall : (call (parseModule img required) Summary.zero : Prog Status Unit _) () =
          .ok (.ok u, summary) () := by rw [call, hp]
      refine wp_bind (wp_of_run hcall (wp_ite (fun hno => wp_ret ?_) fun _ => ?_))
      · rintro ⟨i, hfirst, -⟩
        exact hno (hflag i hfirst.lt hfirst.versions)
      refine wp_bind (Buf.wp_load (by have := hw.header.header; omega) ?_)
      refine wp_bind (loadSection_wp hw.header.table hw.header.shstrndx ?_)
      refine wp_seq (verifySections_wp hw) ?_ fun r _ h => ?_
      · rintro _ _ ⟨i, hfirst, hinvalid⟩ ⟨j, hfirst', hvalid⟩
        obtain rfl := hfirst.unique hfirst'
        exact hinvalid hvalid
      · cases r with
        | none => exact wp_ret fun ⟨i, hfirst, _⟩ => h i hfirst.lt hfirst.versions
        | some _ => exact wp_pure h
    constructor
    · exact fun h => ⟨⟨summary, hp⟩, wp_ok hverdict h⟩
    · rintro ⟨-, hvalid⟩
      cases hv : verifyModuleVersions img required resolveCrc () with
      | ok _ _ => rfl
      | ret e s => exact absurd hvalid (wp_ret_of hverdict hv)
      | fault x => exact absurd hv (wp_noFault hverdict x)

/-- There is a `__versions` section, and each one passes its checks. -/
def AllVersionsValid (img : Buf) (resolveCrc : CStr → Option (BitVec 32)) : Prop :=
  (∃ i < (Ehdr.at img).shnum, IsVersions img i) ∧
    ∀ i < (Ehdr.at img).shnum, IsVersions img i → VersionsValid img resolveCrc i

theorem exists_firstVersions {i : Nat} (hi : i < (Ehdr.at img).shnum) (hv : IsVersions img i) :
    ∃ i, FirstVersions img i := by
  have hex : ∃ i, IsVersions img i := ⟨i, hv⟩
  have hle := Nat.find_min' hex hv
  exact ⟨Nat.find hex, by omega, Nat.find_spec hex, fun j hj => Nat.find_min hex hj⟩

/-- **The version check over all sections**: the check accepts exactly the images that parse and
whose `__versions` sections are all valid, if and only if no parsed image has an invalid one behind
a first one that is valid. -/
theorem versions_verified_iff (img : Buf) (required : CStr)
    (resolveCrc : CStr → Option (BitVec 32)) :
    (verifyModuleVersions img required resolveCrc () = .ok () () ↔
      Parses img required ∧ AllVersionsValid img resolveCrc) ↔
    (Parses img required → ∀ i, FirstVersions img i → VersionsValid img resolveCrc i →
      ∀ j < (Ehdr.at img).shnum, i < j → IsVersions img j → VersionsValid img resolveCrc j) := by
  rw [verifyModuleVersions_ok_iff]
  constructor
  · intro h hparses i hfirst hvalid j hj _ hv
    exact (h.mp ⟨hparses, i, hfirst, hvalid⟩).2.2 j hj hv
  · intro h
    constructor
    · rintro ⟨hparses, i, hfirst, hvalid⟩
      refine ⟨hparses, ⟨i, hfirst.lt, hfirst.versions⟩, fun j hj hv => ?_⟩
      rcases Nat.lt_trichotomy i j with hlt | rfl | hlt
      · exact h hparses i hfirst hvalid j hj hlt hv
      · exact hvalid
      · exact absurd hv (hfirst.first j hlt)
    · rintro ⟨hparses, ⟨i, hi, hv⟩, hall⟩
      obtain ⟨j, hfirst⟩ := exists_firstVersions hi hv
      exact ⟨hparses, j, hfirst, hall j hfirst.lt hfirst.versions⟩

/-- The image with another 64-bit word at `place`. -/
def patch (img : Buf) (place word : Nat) : Buf :=
  { img with
    byte := fun i => if place ≤ i ∧ i < place + 8 then byteAt word (i - place) else img.byte i }

/-- The sample image with two `__versions` sections: section 0 has the record of section 6, and
section 6 half of it. -/
def twoVersions : Buf :=
  patch (patch (patch (patch (sampleImage 0 0x66) 0x40 0x25) 0x58 0x2e0) 0x60 0x40) 0x1e0 0x20

set_option maxRecDepth 100000 in
/-- The second `__versions` section is not a multiple of 64 bytes, and the image is accepted. -/
theorem second_versions_not_checked : ¬ ∀ (img : Buf) (required : CStr)
    (resolveCrc : CStr → Option (BitVec 32)),
    verifyModuleVersions img required resolveCrc () = .ok () () ↔
      Parses img required ∧ AllVersionsValid img resolveCrc := by
  intro hall
  have hok : verifyModuleVersions twoVersions samplePrefix (fun _ => some 0x77) () = .ok () () := by
    decide +kernel
  have hversions : 6 < (Ehdr.at twoVersions).shnum ∧ IsVersions twoVersions 6 ∧
      (sectionAt twoVersions 6).size % modversionSize ≠ 0 := by
    decide +kernel
  obtain ⟨hlt, hv, hmultiple⟩ := hversions
  exact hmultiple (((hall _ _ _).mp hok).2.2 6 hlt hv).multiple

end SeLinOS.Kabi
