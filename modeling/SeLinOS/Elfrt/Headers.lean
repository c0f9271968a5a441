import Mathlib.Data.List.Induction
import Mathlib.Data.Nat.ModEq
import SeLinOS.Elfrt.Grammar

/-!
# The program headers in the ELF runtime parser

What the program-header loop computes, in terms of the grammar: where an iteration falls through,
the conditions hold and the state is the one of the headers read so far; where it returns, they
fail.

* `copyBoundedString_spec`, `virtualToFileOffset_spec`: the two helpers.
* `headersState`: the state after some headers; `parseProgramHeader_spec`: one more.
* `parseHeaders_spec`: the loop.
-/

namespace SeLinOS.Elfrt

open CLogic Prog

variable {img : Buf} {s : State} {E : Status → State → Prop} {allow : Bool}

/-! ## Helpers -/

/-- The alignment test of the parser is the one of the grammar. -/
theorem loadOk_iff {p : Phdr} (hv : p.vaddr < 2 ^ 64) (ho : p.offset < 2 ^ 64)
    (ha : p.align < 2 ^ 64) : loadOk img p = true ↔ LoadOk img p := by
  simp only [loadOk, Bool.and_eq_true, Bool.or_eq_true, decide_eq_true_eq, rangeValid_iff, LoadOk,
    InFile, powerOfTwo, bne_iff_ne, beq_iff_eq, ne_eq, and_assoc]
  refine and_congr_right fun _ => and_congr_right fun _ => or_congr_right ?_
  rw [← and_assoc, Nat.ne_zero_and_sub_one_eq_zero_iff_isPowerOfTwo]
  refine and_congr_right fun hpow => ?_
  obtain ⟨k, hk⟩ := hpow
  rw [hk] at ha ⊢
  have hk64 : k < 64 := (Nat.pow_lt_pow_iff_right (by decide)).mp ha
  have hj : 2 ^ 64 = 2 ^ k * 2 ^ (64 - k) := by
    rw [← Nat.pow_add, Nat.add_sub_cancel' (by omega)]
  rw [Nat.and_two_pow_sub_one_eq_mod, Nat.mod_mod_of_dvd _ ⟨_, hj⟩, ← Nat.dvd_iff_mod_eq_zero,
    ← Nat.modEq_iff_dvd' (by omega), Nat.ModEq, hj, Nat.add_mul_mod_self_left]
  exact eq_comm

/-- A string that ends in its range is what stands before the first NUL. -/
theorem cstr_bytes {capacity source available i : Nat} (hi : i < min capacity available)
    (hbefore : ∀ j < i, img.byte (source + j) ≠ 0) (hnul : img.byte (source + i) = 0) :
    (img.cstr source (min capacity available)).bytes = img.slice source i := by
  obtain ⟨n, hn⟩ := Nat.exists_eq_add_of_lt hi
  rw [Nat.add_assoc] at hn
  show (img.slice source (min capacity available)).takeWhile (· != 0) = _
  rw [hn, Buf.slice_append, Buf.slice_succ, hnul, List.takeWhile_append_of_pos, List.takeWhile_cons]
  · simp
  · intro b hb
    obtain ⟨j, hj, rfl⟩ := Buf.mem_slice.mp hb
    simpa using hbefore j hj

/-- The first `i` bytes have been copied, and none of them is a NUL. -/
structure Copied (img : Buf) (capacity source available i : Nat) (destination : Buf) : Prop where
  lt : i < capacity
  le : i ≤ available
  before : ∀ j < i, img.byte (source + j) ≠ 0
  array : destination = ⟨capacity, fun j => if j < i then img.byte (source + j) else 0⟩

namespace Copied

variable {capacity source available i : Nat} {d : Buf}

theorem size (h : Copied img capacity source available i d) : d.size = capacity := by
  rw [h.array]

theorem step (h : Copied img capacity source available i d) (hlt : i + 1 < capacity)
    (hle : i < available) (hb : img.byte (source + i) ≠ 0) :
    Copied img capacity source available (i + 1)
      { d with byte := Function.update d.byte i (img.byte (source + i)) } := by
  obtain ⟨-, -, hbefore, rfl⟩ := h
  refine ⟨hlt, hle, fun j hj => ?_, ?_⟩
  · rcases Nat.lt_succ_iff_lt_or_eq.mp hj with hj | rfl
    · exact hbefore j hj
    · exact hb
  · rw [Buf.mk.injEq]
    refine ⟨rfl, ?_⟩
    funext j
    simp only [Function.update_apply]
    split_ifs <;> first | omega | rfl | (subst j; rfl)

/-- The NUL that ends the string is put behind the bytes before it. -/
theorem name (h : Copied img capacity source available i d) (hi : i < available)
    (hb : img.byte (source + i) = 0) :
    { d with byte := Function.update d.byte i 0 } = nameBuf img capacity source available := by
  obtain ⟨hlt, -, hbefore, rfl⟩ := h
  rw [nameBuf, cstr_bytes (by omega) hbefore hb, Buf.mk.injEq]
  refine ⟨rfl, ?_⟩
  funext j
  simp only [Function.update_apply, Buf.getD_slice]
  split_ifs <;> first | omega | rfl

/-- No NUL among the bytes that were copied, nor in the one after them. -/
theorem not_terminated (h : Copied img capacity source available i d)
    (hend : min capacity available ≤ i + 1)
    (hlast : i < available → img.byte (source + i) ≠ 0) :
    ¬ Terminated img capacity source available := by
  rintro ⟨k, hk, hk0⟩
  rcases Nat.lt_or_ge k i with hki | hki
  · exact h.before k hki hk0
  · obtain rfl : k = i := by omega
    exact hlast (by omega) hk0

end Copied

/-- The copy succeeds for a string that ends in its range, and gives its name. -/
theorem copyBoundedString_spec {capacity source available : Nat} {Q : Bool × Buf → State → Prop}
    (hcapacity : capacity ≠ 0) (hsrc : source + available ≤ img.size)
    (hok : Terminated img capacity source available →
      Q (true, nameBuf img capacity source available) s)
    (hbad : ¬ Terminated img capacity source available → ∀ d, Q (false, d) s) :
    wp (copyBoundedString img (Buf.zeros capacity) source available) Q E s := by
  unfold copyBoundedString
  refine wp_ite (fun hc => wp_pure (hbad ?_ _)) fun hc => ?_
  · rintro ⟨k, hk, -⟩
    rcases hc with hc | hc
    · exact hcapacity hc
    · omega
  rw [not_or] at hc
  -- after `i` bytes none of them is a NUL, and the array holds them
  refine wp_seq (Q := fun r s' => s' = s ∧ Copied img capacity source available r.1 r.2 ∧
      (available ≤ r.1 ∨ capacity ≤ r.1 + 1 ∨ img.byte (source + r.1) = 0)) (E := E)
    (wp_whileM (fun r s' => s' = s ∧ Copied img capacity source available r.1 r.2)
      (fun r => capacity - r.1) ?_ _ _ _ (Nat.lt_succ_self _)
      ⟨rfl, Nat.pos_of_ne_zero hcapacity, Nat.zero_le _, fun j hj => by omega, rfl⟩)
    (fun _ _ h => h) ?_
  · rintro ⟨i, d⟩ s' ⟨rfl, h⟩
    simp only at h ⊢
    have hlt := h.lt
    rw [h.size]
    refine wp_andThen (fun hcond => ?_) fun hcond => ⟨rfl, h, ?_⟩
    · refine wp_bind (Buf.wp_read (by omega) (wp_pure ?_))
      by_cases hb : img.byte (source + i) = 0
      · rw [if_neg (by simp [hb])]
        exact ⟨rfl, h, .inr (.inr hb)⟩
      · rw [if_pos (by simpa using hb)]
        refine wp_bind (Buf.wp_read (by omega) (wp_bind (Buf.wp_write (by rw [h.size]; omega) ?_)))
        exact wp_pure ⟨⟨rfl, h.step hcond.1 hcond.2 hb⟩, by simp only; omega⟩
    · rw [not_and_or] at hcond
      omega
  rintro ⟨i, d⟩ s' ⟨rfl, h, hstop⟩
  simp only at h hstop ⊢
  have hle := h.le
  refine wp_ite (fun he => wp_pure (hbad (h.not_terminated ?_ ?_) _)) fun hne => ?_
  · omega
  · omega
  have hi : i < available := by omega
  refine wp_bind (Buf.wp_read (by omega) (wp_ite (fun hb => wp_pure (hbad ?_ _)) fun hb => ?_))
  · refine h.not_terminated ?_ fun _ => hb
    rcases hstop with hstop | hstop | hstop
    · omega
    · omega
    · exact absurd hstop hb
  · rw [not_not] at hb
    refine wp_bind (Buf.wp_write (by rw [h.size]; exact h.lt) (wp_pure ?_))
    rw [h.name hi hb]
    exact hok ⟨i, by have := h.lt; omega, hb⟩

theorem wp_whenModify {c : Prop} [Decidable c] {f : State → State} {Q : Unit → State → Prop}
    (h : Q () (if c then f s else s)) : wp (Prog.when c (Prog.modify f)) Q E s := by
  refine wp_when (fun hc => wp_modify ?_) fun hc => ?_
  · rwa [if_pos hc] at h
  · rwa [if_neg hc] at h

/-! ## Tables read in order -/

theorem headersBelow_succ (img : Buf) (n : Nat) :
    headersBelow img (n + 1) = headersBelow img n ++ [programHeader img n] := by
  simp [headersBelow, List.range_succ]

theorem headersBelow_mono {n m : Nat} (h : n ≤ m) :
    headersBelow img n <+: headersBelow img m := by
  obtain ⟨k, rfl⟩ := Nat.exists_eq_add_of_le h
  rw [headersBelow, headersBelow, List.range_add, List.map_append]
  exact List.prefix_append _ _

theorem dynEntriesBelow_succ (img : Buf) (dynamic n : Nat) :
    dynEntriesBelow img dynamic (n + 1) =
      dynEntriesBelow img dynamic n ++ [dynEntry img dynamic n] := by
  simp [dynEntriesBelow, List.range_succ]

theorem dynEntriesBelow_mono (img : Buf) (dynamic : Nat) {n m : Nat} (h : n ≤ m) :
    dynEntriesBelow img dynamic n <+: dynEntriesBelow img dynamic m := by
  obtain ⟨k, rfl⟩ := Nat.exists_eq_add_of_le h
  rw [dynEntriesBelow, dynEntriesBelow, List.range_add, List.map_append]
  exact List.prefix_append _ _

/-- The parser finds the first `PT_LOAD` whose file part holds the address. -/
theorem virtualToFileOffset_spec {address : Nat} (ht : TableOk img) :
    wp (virtualToFileOffset img (Ehdr.at img).phnum address) (fun r s' => s' = s ∧
      r = ((loads (programHeaders img)).find? (·.holds address)).map fun p =>
        ((p.offset + (address - p.vaddr)) % 2 ^ 64, p.filesz - (address - p.vaddr))) E s := by
  refine wp_firstUp (fun i s' => s' = s ∧
    (loads (headersBelow img i)).find? (·.holds address) = none) 0 _ s ⟨rfl, rfl⟩ ?_ ?_
  · rintro i s' - hi ⟨rfl, hnone⟩
    have hsucc : (loads (headersBelow img (i + 1))).find? (·.holds address) =
        (loads [programHeader img i]).find? (·.holds address) := by
      rw [headersBelow_succ, loads, List.filter_append, List.find?_append]
      rw [loads] at hnone
      rw [hnone, Option.none_or, loads]
    refine wp_bind (loadPhdr_wp ht (by omega) (wp_ite (fun hc => wp_pure ⟨rfl, ?_⟩) fun hc => ?_))
    · rw [hsucc]
      rcases hc with hc | hc
      · simp [loads, hc]
      · by_cases hl : (programHeader img i).type = PT_LOAD
        · simp [loads, hl, Phdr.holds, hc]
        · simp [loads, hl]
    rw [not_or, not_not, Nat.not_lt] at hc
    refine wp_ite (fun hd => wp_pure ⟨rfl, ?_⟩) fun hd => wp_pure ⟨rfl, ?_⟩
    · have hfound : (loads (headersBelow img (i + 1))).find? (·.holds address) =
          some (programHeader img i) := by
        rw [hsucc]
        simp [loads, hc.1, Phdr.holds, hc.2, hd]
      have hpre : loads (headersBelow img (i + 1)) <+: loads (programHeaders img) :=
        (headersBelow_mono (by omega)).filter _
      rw [hpre.find?_eq_some hfound]
      rfl
    · rw [hsucc]
      simp [loads, hc.1, Phdr.holds, hc.2, hd]
  · rintro s' ⟨rfl, hnone⟩
    rw [Nat.zero_add] at hnone
    exact ⟨rfl, by rw [programHeaders, hnone]; rfl⟩

/-! ## The program headers -/

/-- The state of the parser after the program headers `headers`. -/
def headersState (img : Buf) (headers : List Phdr) : State :=
  ⟨headerSummary img headers, (dynamics headers).head?, 0, 0, fun _ => 0, 0⟩

section Headers

variable {headers : List Phdr} {p : Phdr}

/-- One more program header that is as it should be. -/
theorem headersOk_snoc : HeadersOk img allow (headers ++ [p]) ↔ HeadersOk img allow headers ∧
    (p.type = PT_LOAD → LoadOk img p ∧ (loads headers).length < MAX_LOAD_SEGMENTS) ∧
    (p.type = PT_INTERP → InterpOk img allow p ∧ interps headers = []) ∧
    (p.type = PT_DYNAMIC → DynamicOk img p ∧ dynamics headers = []) := by
  have hone : ∀ {l : List Phdr} {c : Prop} [Decidable c],
      (l ++ if c then [p] else []).length ≤ 1 ↔ l.length ≤ 1 ∧ (c → l = []) := by
    intro l c _
    by_cases hc : c
    · simp only [hc, ↓reduceIte, List.length_append, List.length_singleton, true_imp_iff]
      rw [← List.length_eq_zero_iff]
      omega
    · simp [hc]
  have hall : ∀ {l : List Phdr} {c : Prop} [Decidable c] {P : Phdr → Prop},
      (∀ q ∈ l ++ (if c then [p] else []), P q) ↔ (∀ q ∈ l, P q) ∧ (c → P p) := by
    intro l c _ P
    by_cases hc : c <;> simp [hc, or_imp, forall_and]
  have hfilter : ∀ t, (headers ++ [p]).filter (·.type == t) =
      headers.filter (·.type == t) ++ if p.type = t then [p] else [] := by
    intro t
    rw [List.filter_append]
    by_cases ht : p.type = t <;> simp [ht]
  have hcount : (loads headers ++ if p.type = PT_LOAD then [p] else []).length ≤ MAX_LOAD_SEGMENTS ↔
      (loads headers).length ≤ MAX_LOAD_SEGMENTS ∧
        (p.type = PT_LOAD → (loads headers).length < MAX_LOAD_SEGMENTS) := by
    by_cases hl : p.type = PT_LOAD
    · simp only [hl, ↓reduceIte, List.length_append, List.length_singleton, true_imp_iff]
      omega
    · simp [hl]
  constructor
  · rintro ⟨h1, h2, h3, h4, h5, h6⟩
    simp only [loads, interps, dynamics, hfilter] at h1 h2 h3 h4 h5 h6
    rw [hall] at h1 h3 h5
    rw [hone] at h4 h6
    have h2' := hcount.mp h2
    exact ⟨⟨h1.1, h2'.1, h3.1, h4.1, h5.1, h6.1⟩, fun h => ⟨h1.2 h, h2'.2 h⟩,
      fun h => ⟨h3.2 h, h4.2 h⟩, fun h => ⟨h5.2 h, h6.2 h⟩⟩
  · rintro ⟨⟨h1, h2, h3, h4, h5, h6⟩, hl, hi, hd⟩
    refine ⟨?_, ?_, ?_, ?_, ?_, ?_⟩ <;> simp only [loads, interps, dynamics, hfilter]
    · exact hall.mpr ⟨h1, fun h => (hl h).1⟩
    · exact hcount.mpr ⟨h2, fun h => (hl h).2⟩
    · exact hall.mpr ⟨h3, fun h => (hi h).1⟩
    · exact hone.mpr ⟨h4, fun h => (hi h).2⟩
    · exact hall.mpr ⟨h5, fun h => (hd h).1⟩
    · exact hone.mpr ⟨h6, fun h => (hd h).2⟩

theorem HeadersOk.of_prefix {headers' : List Phdr} (hp : headers' <+: headers)
    (h : HeadersOk img allow headers) : HeadersOk img allow headers' := by
  obtain ⟨rest, rfl⟩ := hp
  induction rest using List.reverseRecOn with
  | nil => rwa [List.append_nil] at h
  | append_singleton rest q ih =>
    rw [← List.append_assoc, headersOk_snoc] at h
    exact ih h.1

/-- The two bits together are both bits. -/
theorem flags_wx_iff (p : Phdr) :
    p.flags &&& (PF_W ||| PF_X) = PF_W ||| PF_X ↔ (p.has PF_W && p.has PF_X) = true := by
  constructor
  · intro h
    rw [Bool.and_eq_true]
    constructor
    · have hw : p.flags &&& PF_W = p.flags &&& (PF_W ||| PF_X) &&& PF_W := by
        rw [Nat.and_assoc]
        rfl
      rw [Phdr.has, hw, h]
      decide
    · have hx : p.flags &&& PF_X = p.flags &&& (PF_W ||| PF_X) &&& PF_X := by
        rw [Nat.and_assoc]
        rfl
      rw [Phdr.has, hx, h]
      decide
  · intro h
    rw [Bool.and_eq_true] at h
    exact wx_of_has h.1 h.2

/-- The state after one more `PT_LOAD`. -/
theorem headersState_load (hl : p.type = PT_LOAD) : headersState img (headers ++ [p]) =
    { headersState img headers with summary := { headerSummary img headers with
      loadSegments := (loads headers).length + 1
      writableLoadSegments := (loads headers).countP (·.has PF_W) + if p.has PF_W then 1 else 0
      executableLoadSegments := (loads headers).countP (·.has PF_X) + if p.has PF_X then 1 else 0
      writableExecutableLoadSegments := (loads headers).countP (fun p => p.has PF_W && p.has PF_X) +
        if p.has PF_W && p.has PF_X then 1 else 0 } } := by
  have h1 : loads (headers ++ [p]) = loads headers ++ [p] := by simp [loads, hl]
  have h2 : interps (headers ++ [p]) = interps headers := by
    simp [interps, hl, PT_LOAD, PT_INTERP]
  have h3 : dynamics (headers ++ [p]) = dynamics headers := by
    simp [dynamics, hl, PT_LOAD, PT_DYNAMIC]
  simp only [headersState, headerSummary, declaredInterpreter, h1, h2, h3, List.length_append,
    List.length_singleton, List.countP_append, List.countP_singleton]

/-- The state after one more `PT_INTERP`, the first one. -/
theorem headersState_interp (hi : p.type = PT_INTERP) (hnone : interps headers = []) :
    headersState img (headers ++ [p]) = { headersState img headers with
      summary := { headerSummary img headers with
        interpreter := nameBuf img INTERP_MAX p.offset p.filesz
        hasInterp := true } } := by
  have h1 : loads (headers ++ [p]) = loads headers := by simp [loads, hi, PT_LOAD, PT_INTERP]
  have h2 : interps (headers ++ [p]) = [p] := by
    rw [interps] at hnone
    rw [interps, List.filter_append, hnone]
    simp [hi]
  have h3 : dynamics (headers ++ [p]) = dynamics headers := by
    simp [dynamics, hi, PT_INTERP, PT_DYNAMIC]
  simp [headersState, headerSummary, declaredInterpreter, h1, h2, h3]

/-- The state after one more `PT_DYNAMIC`, the first one. -/
theorem headersState_dynamic (hd : p.type = PT_DYNAMIC) (hnone : dynamics headers = []) :
    headersState img (headers ++ [p]) = { headersState img headers with
      dynamicHeader := some p
      summary := { headerSummary img headers with hasDynamic := true } } := by
  have h1 : loads (headers ++ [p]) = loads headers := by simp [loads, hd, PT_LOAD, PT_DYNAMIC]
  have h2 : interps (headers ++ [p]) = interps headers := by
    simp [interps, hd, PT_INTERP, PT_DYNAMIC]
  have h3 : dynamics (headers ++ [p]) = [p] := by
    rw [dynamics] at hnone
    rw [dynamics, List.filter_append, hnone]
    simp [hd]
  simp [headersState, headerSummary, declaredInterpreter, h1, h2, h3]

/-- The other program headers do not count. -/
theorem headersState_other (hl : p.type ≠ PT_LOAD) (hi : p.type ≠ PT_INTERP)
    (hd : p.type ≠ PT_DYNAMIC) :
    headersState img (headers ++ [p]) = headersState img headers := by
  have h1 : loads (headers ++ [p]) = loads headers := by simp [loads, hl]
  have h2 : interps (headers ++ [p]) = interps headers := by simp [interps, hi]
  have h3 : dynamics (headers ++ [p]) = dynamics headers := by simp [dynamics, hd]
  simp only [headersState, headerSummary, declaredInterpreter, h1, h2, h3]

/-- What one program header does: it is read as the grammar says, or the grammar refuses it. -/
def ReadsHeader (img : Buf) (allow : Bool) (headers : List Phdr) (p : Phdr)
    (body : ParseM Unit) : Prop :=
  wp body (fun _ s' => s' = headersState img (headers ++ [p]) ∧
    HeadersOk img allow (headers ++ [p])) (fun _ _ => ¬ HeadersOk img allow (headers ++ [p]))
    (headersState img headers)

theorem parseLoad_spec (h : HeadersOk img allow headers) (hl : p.type = PT_LOAD)
    (hload : loadOk img p = true ↔ LoadOk img p) :
    ReadsHeader img allow headers p (parseLoad img p) := by
  have hother : ∀ t, t ≠ PT_LOAD → p.type ≠ t := fun t ht he => ht (he.symm.trans hl)
  unfold ReadsHeader parseLoad
  refine wp_ite (fun hc => wp_ret fun hn => ?_) fun hc => wp_bind (wp_get ?_)
  · exact hc (hload.mpr ((headersOk_snoc.mp hn).2.1 hl).1)
  rw [not_not, hload] at hc
  refine wp_ite (fun hfull => wp_ret fun hn => ?_) fun hroom => wp_bind (wp_modify ?_)
  · have hlt := ((headersOk_snoc.mp hn).2.1 hl).2
    rw [show (loads headers).length = MAX_LOAD_SEGMENTS from hfull] at hlt
    exact Nat.lt_irrefl _ hlt
  have hlt : (loads headers).length < MAX_LOAD_SEGMENTS :=
    Nat.lt_of_le_of_ne h.loadCount hroom
  have hok : HeadersOk img allow (headers ++ [p]) := headersOk_snoc.mpr ⟨h, fun _ => ⟨hc, hlt⟩,
    fun hi => absurd hi (hother _ (by decide)), fun hd => absurd hd (hother _ (by decide))⟩
  refine wp_bind (wp_whenModify (wp_bind (wp_whenModify (wp_whenModify ⟨?_, hok⟩))))
  rw [headersState_load hl, if_congr (flags_wx_iff p) rfl rfl]
  cases hw : p.has PF_W <;> cases hx : p.has PF_X <;> rfl

theorem parseInterp_spec (h : HeadersOk img allow headers) (hi : p.type = PT_INTERP) :
    ReadsHeader img allow headers p (parseInterp img allow p) := by
  have hother : ∀ t, t ≠ PT_INTERP → p.type ≠ t := fun t ht he => ht (he.symm.trans hi)
  unfold ReadsHeader parseInterp
  refine wp_bind (wp_get (wp_ite (fun hc => wp_ret fun hn => ?_) fun hc => ?_))
  · obtain ⟨⟨hallow, hin, -⟩, hnone⟩ := (headersOk_snoc.mp hn).2.2.1 hi
    rcases hc with hc | hc | hc
    · simp [headersState, headerSummary, hnone] at hc
    · exact hc hallow
    · exact hc (rangeValid_iff.mpr hin)
  simp only [not_or, not_not] at hc
  obtain ⟨hfirst, hallow, hin⟩ := hc
  have hnone : interps headers = [] := by
    simpa [headersState, headerSummary] using hfirst
  have hzeros : (headersState img headers).summary.interpreter = Buf.zeros INTERP_MAX := by
    simp [headersState, headerSummary, declaredInterpreter, hnone]
  rw [rangeValid_iff] at hin
  rw [hzeros]
  refine wp_bind (copyBoundedString_spec (by decide) hin (fun hterm => ?_) fun hterm d => ?_)
  · refine wp_bind (wp_modify (wp_modify ⟨?_, ?_⟩))
    · rw [headersState_interp hi hnone]
      rfl
    · exact headersOk_snoc.mpr ⟨h, fun hl => absurd hl (hother _ (by decide)),
        fun _ => ⟨⟨hallow, hin, hterm⟩, hnone⟩, fun hd => absurd hd (hother _ (by decide))⟩
  · exact wp_bind (wp_modify (wp_ret fun hn => hterm ((headersOk_snoc.mp hn).2.2.1 hi).1.2.2))

theorem parseDynamicHeader_spec (h : HeadersOk img allow headers) (hd : p.type = PT_DYNAMIC) :
    ReadsHeader img allow headers p (parseDynamicHeader img p) := by
  have hother : ∀ t, t ≠ PT_DYNAMIC → p.type ≠ t := fun t ht he => ht (he.symm.trans hd)
  unfold ReadsHeader parseDynamicHeader
  refine wp_bind (wp_get (wp_ite (fun hc => wp_ret fun hn => ?_) fun hc => wp_modify ⟨?_, ?_⟩))
  · obtain ⟨⟨hin, hsize⟩, hnone⟩ := (headersOk_snoc.mp hn).2.2.2 hd
    rcases hc with hc | hc | hc
    · simp [headersState, hnone] at hc
    · exact hc (rangeValid_iff.mpr hin)
    · exact hc hsize
  all_goals
    simp only [not_or, not_not] at hc
    obtain ⟨hfirst, hin, hsize⟩ := hc
    have hnone : dynamics headers = [] := by
      simpa [headersState] using hfirst
  · rw [headersState_dynamic hd hnone]
    rfl
  · exact headersOk_snoc.mpr ⟨h, fun hl => absurd hl (hother _ (by decide)),
      fun hi => absurd hi (hother _ (by decide)),
      fun _ => ⟨⟨rangeValid_iff.mp hin, hsize⟩, hnone⟩⟩

end Headers

theorem parseProgramHeader_spec {n : Nat} (ht : TableOk img) (hn : n < (Ehdr.at img).phnum)
    (h : HeadersOk img allow (headersBelow img n)) :
    ReadsHeader img allow (headersBelow img n) (programHeader img n)
      (parseProgramHeader img allow n) := by
  unfold parseProgramHeader
  refine wp_bind (loadPhdr_wp ht hn (wp_ite (fun hl => ?_) fun hl => ?_))
  · have hbound : ∀ o, img.le o 8 < 2 ^ 64 := fun o => Buf.le_lt img o 8
    exact parseLoad_spec h hl (loadOk_iff (hbound _) (hbound _) (hbound _))
  refine wp_ite (fun hi => parseInterp_spec h hi) fun hi => ?_
  refine wp_when (fun hd => parseDynamicHeader_spec h hd) fun hd => ⟨?_, ?_⟩
  · rw [headersState_other hl hi hd]
  · exact headersOk_snoc.mpr ⟨h, fun he => absurd he hl, fun he => absurd he hi,
      fun he => absurd he hd⟩

theorem headersOk_nil : HeadersOk img allow [] :=
  ⟨by simp [loads], by simp [loads], by simp [interps], by simp [interps], by simp [dynamics],
    by simp [dynamics]⟩

/-- The program-header loop. -/
theorem parseHeaders_spec (ht : TableOk img) :
    wp (Prog.forUp (parseProgramHeader img allow) 0 (Ehdr.at img).phnum)
      (fun _ s' => s' = headersState img (programHeaders img) ∧
        HeadersOk img allow (programHeaders img))
      (fun _ _ => ¬ HeadersOk img allow (programHeaders img)) (headersState img []) := by
  have hloop : wp (Prog.forUp (parseProgramHeader img allow) 0 (Ehdr.at img).phnum)
      (fun _ s' => s' = headersState img (headersBelow img (0 + (Ehdr.at img).phnum)) ∧
        HeadersOk img allow (headersBelow img (0 + (Ehdr.at img).phnum)))
      (fun _ _ => ¬ HeadersOk img allow (programHeaders img)) (headersState img []) := by
    refine wp_forUp (fun n s' => s' = headersState img (headersBelow img n) ∧
      HeadersOk img allow (headersBelow img n)) 0 _ _ ⟨rfl, headersOk_nil⟩ ?_
    rintro n s' - hn ⟨rfl, h⟩
    refine wp_mono (parseProgramHeader_spec ht (by omega) h) ?_ ?_
    · rintro - s' h'
      rwa [← headersBelow_succ] at h'
    · rintro - - hbad hok
      rw [← headersBelow_succ] at hbad
      exact hbad (hok.of_prefix (headersBelow_mono (by omega)))
  rw [Nat.zero_add] at hloop
  exact hloop

end SeLinOS.Elfrt
