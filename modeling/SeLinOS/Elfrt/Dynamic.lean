import SeLinOS.Elfrt.Headers

/-!
# The dynamic section in the ELF runtime parser

The loop over the dynamic entries and the loop over the needed names, in the way of the program
headers.

* `dynState`, `parseDyns_spec`: the entries before the first `DT_NULL`.
* `neededState`, `parseNeededs_spec`: the names, once the string table is known.
* `parseNames_spec`: the look-up of the string table; `parseDynamic_spec`: all of it.
-/

namespace SeLinOS.Elfrt

open CLogic Prog

variable {img : Buf} {s : State} {allow : Bool}

/-! ## The dynamic entries -/

/-- The state of the parser after the dynamic entries `entries`. -/
def dynState (img : Buf) (headers : List Phdr) (entries : List Dyn) : State :=
  { headersState img headers with
    summary := { headerSummary img headers with
      hasRela := entries.any (·.tag == DT_RELA)
      hasTextrel := entries.any (·.isTextrel) }
    stringTableAddress := (lastValue DT_STRTAB entries).getD 0
    stringTableSize := (lastValue DT_STRSZ entries).getD 0
    neededOffsets := fun i => (neededValues entries).getD i 0
    neededCount := (neededValues entries).length }

section Entries

variable {headers : List Phdr} {entries : List Dyn} {e : Dyn}

theorem lastValue_snoc (tag : Nat) : lastValue tag (entries ++ [e]) =
    if e.tag = tag then some e.value else lastValue tag entries := by
  by_cases h : e.tag = tag <;> simp [lastValue, h]

theorem neededValues_snoc : neededValues (entries ++ [e]) =
    neededValues entries ++ if e.tag = DT_NEEDED then [e.value] else [] := by
  by_cases h : e.tag = DT_NEEDED <;> simp [neededValues, h]

theorem neededValues_mono {entries' : List Dyn} (h : entries <+: entries') :
    neededValues entries <+: neededValues entries' := (h.filter _).map _

/-- The state after one more entry. -/
theorem dynState_snoc : dynState img headers (entries ++ [e]) =
    { dynState img headers entries with
      summary := { headerSummary img headers with
        hasRela := entries.any (·.tag == DT_RELA) || e.tag == DT_RELA
        hasTextrel := entries.any (·.isTextrel) || e.isTextrel }
      stringTableAddress :=
        if e.tag = DT_STRTAB then e.value else (lastValue DT_STRTAB entries).getD 0
      stringTableSize :=
        if e.tag = DT_STRSZ then e.value else (lastValue DT_STRSZ entries).getD 0
      neededOffsets := if e.tag = DT_NEEDED then
          Function.update (fun i => (neededValues entries).getD i 0) (neededValues entries).length
            e.value
        else fun i => (neededValues entries).getD i 0
      neededCount := (neededValues entries).length + if e.tag = DT_NEEDED then 1 else 0 } := by
  have haddress : (lastValue DT_STRTAB (entries ++ [e])).getD 0 =
      if e.tag = DT_STRTAB then e.value else (lastValue DT_STRTAB entries).getD 0 := by
    rw [lastValue_snoc]
    split <;> rfl
  have hsize : (lastValue DT_STRSZ (entries ++ [e])).getD 0 =
      if e.tag = DT_STRSZ then e.value else (lastValue DT_STRSZ entries).getD 0 := by
    rw [lastValue_snoc]
    split <;> rfl
  have hoffsets : (fun i => (neededValues (entries ++ [e])).getD i 0) =
      if e.tag = DT_NEEDED then
          Function.update (fun i => (neededValues entries).getD i 0) (neededValues entries).length
            e.value
        else fun i => (neededValues entries).getD i 0 := by
    rw [neededValues_snoc]
    split
    · funext i
      rw [Function.update_apply]
      simp only [List.getD_eq_getElem?_getD]
      rcases Nat.lt_trichotomy i (neededValues entries).length with hi | rfl | hi
      · rw [if_neg (by omega), List.getElem?_append_left hi]
      · simp
      · rw [if_neg (by omega), List.getElem?_eq_none (by simp; omega),
          List.getElem?_eq_none (by omega)]
    · rw [List.append_nil]
  have hcount : (neededValues (entries ++ [e])).length =
      (neededValues entries).length + if e.tag = DT_NEEDED then 1 else 0 := by
    rw [neededValues_snoc, List.length_append]
    split <;> rfl
  simp only [dynState, haddress, hsize, hoffsets, hcount, List.any_append, List.any_cons,
    List.any_nil, Bool.or_false]

/-- One more entry before the first `DT_NULL`. -/
theorem parseDyn_spec {dynamic i : Nat} (hin : dynamic + dynSize * i + dynSize ≤ img.size)
    (hcount : (neededValues entries).length ≤ MAX_NEEDED) :
    wp (parseDyn img dynamic i)
      (fun r s' => (r = some () ∧ (dynEntry img dynamic i).tag = DT_NULL ∧
          s' = dynState img headers entries) ∨
        (r = none ∧ (dynEntry img dynamic i).tag ≠ DT_NULL ∧
          (neededValues (entries ++ [dynEntry img dynamic i])).length ≤ MAX_NEEDED ∧
          s' = dynState img headers (entries ++ [dynEntry img dynamic i])))
      (fun _ _ => (dynEntry img dynamic i).tag ≠ DT_NULL ∧
        ¬ (neededValues (entries ++ [dynEntry img dynamic i])).length ≤ MAX_NEEDED)
      (dynState img headers entries) := by
  unfold parseDyn dynEntry
  refine wp_bind (Buf.wp_load hin ?_)
  generalize Dyn.at img (dynamic + dynSize * i) = e
  refine wp_ite (fun h0 => wp_pure (.inl ⟨rfl, h0, rfl⟩)) fun h0 => ?_
  have hkeep : e.tag ≠ DT_NEEDED → (neededValues (entries ++ [e])).length ≤ MAX_NEEDED := by
    intro hne
    rwa [neededValues_snoc, if_neg hne, List.append_nil]
  refine wp_ite (fun h1 => wp_bind (wp_modify (wp_pure ?_))) fun h1 => ?_
  · refine .inr ⟨rfl, h0, hkeep (by rw [h1]; decide), ?_⟩
    rw [dynState_snoc]
    simp [dynState, Dyn.isTextrel, h1, DT_STRTAB, DT_STRSZ, DT_NEEDED, DT_RELA, DT_TEXTREL,
      DT_FLAGS]
  refine wp_ite (fun h2 => wp_bind (wp_modify (wp_pure ?_))) fun h2 => ?_
  · refine .inr ⟨rfl, h0, hkeep (by rw [h2]; decide), ?_⟩
    rw [dynState_snoc]
    simp [dynState, Dyn.isTextrel, h2, DT_STRTAB, DT_STRSZ, DT_NEEDED, DT_RELA, DT_TEXTREL,
      DT_FLAGS]
  refine wp_ite (fun h3 => wp_bind (wp_get ?_)) fun h3 => ?_
  · have hlength : (neededValues (entries ++ [e])).length = (neededValues entries).length + 1 := by
      rw [neededValues_snoc, if_pos h3, List.length_append, List.length_singleton]
    refine wp_ite (fun hfull => wp_ret ⟨h0, ?_⟩) fun hroom => ?_
    · rw [hlength, show (neededValues entries).length = MAX_NEEDED from hfull]
      exact Nat.not_succ_le_self _
    have hlt : (neededValues entries).length < MAX_NEEDED := Nat.lt_of_le_of_ne hcount hroom
    refine wp_bind (wp_of_run (if_pos hlt) (wp_pure (.inr ⟨rfl, h0, by omega, ?_⟩)))
    rw [dynState_snoc]
    simp [dynState, Dyn.isTextrel, h3, DT_STRTAB, DT_STRSZ, DT_NEEDED, DT_RELA, DT_TEXTREL,
      DT_FLAGS]
  refine wp_ite (fun h4 => wp_bind (wp_modify (wp_pure ?_))) fun h4 => ?_
  · refine .inr ⟨rfl, h0, hkeep h3, ?_⟩
    rw [dynState_snoc]
    simp [dynState, Dyn.isTextrel, h4, DT_STRTAB, DT_STRSZ, DT_NEEDED, DT_RELA, DT_TEXTREL,
      DT_FLAGS]
  refine wp_bind (wp_whenModify (wp_pure (.inr ⟨rfl, h0, hkeep h3, ?_⟩)))
  have htextrel : (e.tag = DT_TEXTREL ∨ e.tag = DT_FLAGS ∧ e.value &&& DF_TEXTREL ≠ 0) ↔
      e.isTextrel = true := by
    simp [Dyn.isTextrel]
  rw [dynState_snoc, if_congr htextrel rfl rfl]
  cases e.isTextrel <;> simp [dynState, h1, h2, h3, h4]

end Entries

/-- The entries before the first `DT_NULL`, which is entry `n`. -/
theorem liveEntries_eq {d : Phdr} {n : Nat} (hn : n < d.filesz / dynSize)
    (hbefore : ∀ e ∈ dynEntriesBelow img d.offset n, e.tag ≠ DT_NULL)
    (hnull : (dynEntry img d.offset n).tag = DT_NULL) :
    liveEntries img d = dynEntriesBelow img d.offset n := by
  obtain ⟨rest, hrest⟩ := dynEntriesBelow_mono img d.offset hn
  rw [dynEntriesBelow_succ] at hrest
  rw [liveEntries, dynEntries, ← hrest, List.append_assoc,
    List.takeWhile_append_of_pos fun e he => bne_iff_ne.mpr (hbefore e he), List.singleton_append,
    List.takeWhile_cons_of_neg (by simp [hnull]), List.append_nil]

/-- Entries that are not `DT_NULL` are before the first one. -/
theorem prefix_liveEntries {d : Phdr} {n : Nat} (hn : n ≤ d.filesz / dynSize)
    (hbefore : ∀ e ∈ dynEntriesBelow img d.offset n, e.tag ≠ DT_NULL) :
    dynEntriesBelow img d.offset n <+: liveEntries img d := by
  obtain ⟨rest, hrest⟩ := dynEntriesBelow_mono img d.offset hn
  rw [liveEntries, dynEntries, ← hrest,
    List.takeWhile_append_of_pos fun e he => bne_iff_ne.mpr (hbefore e he)]
  exact List.prefix_append _ _

/-- There is a `DT_NULL`, and at most eight needed names before it. -/
def Ends (img : Buf) (d : Phdr) : Prop :=
  (∃ e ∈ dynEntries img d, e.tag = DT_NULL) ∧
    (neededValues (liveEntries img d)).length ≤ MAX_NEEDED

/-- The loop over the dynamic entries. -/
theorem parseDyns_spec {headers : List Phdr} {d : Phdr} (hin : InFile img d) :
    wp (Prog.firstUp (parseDyn img d.offset) 0 (d.filesz / dynSize))
      (fun r s' => (r.isSome ∧ Ends img d ∧ s' = dynState img headers (liveEntries img d)) ∨
        (r = none ∧ ¬ Ends img d))
      (fun _ _ => ¬ Ends img d) (dynState img headers []) := by
  refine wp_firstUp (fun n s' => (∀ e ∈ dynEntriesBelow img d.offset n, e.tag ≠ DT_NULL) ∧
    (neededValues (dynEntriesBelow img d.offset n)).length ≤ MAX_NEEDED ∧
    s' = dynState img headers (dynEntriesBelow img d.offset n)) 0 _ _
    ⟨by simp [dynEntriesBelow], by simp [dynEntriesBelow, neededValues], rfl⟩ ?_ ?_
  · rintro i s' - hi ⟨hbefore, hcount, rfl⟩
    rw [Nat.zero_add] at hi
    have hentry : d.offset + dynSize * i + dynSize ≤ img.size := by
      simp only [InFile, dynSize] at hin hi ⊢
      omega
    have hsnoc : (dynEntry img d.offset i).tag ≠ DT_NULL →
        ∀ e ∈ dynEntriesBelow img d.offset (i + 1), e.tag ≠ DT_NULL := by
      intro hne e he
      rw [dynEntriesBelow_succ] at he
      rcases List.mem_append.mp he with he | he
      · exact hbefore e he
      · rwa [List.mem_singleton.mp he]
    refine wp_mono (parseDyn_spec hentry hcount) ?_ ?_
    · rintro r s' (⟨rfl, hnull, rfl⟩ | ⟨rfl, hne, hle, rfl⟩)
      · have hlive := liveEntries_eq hi hbefore hnull
        have hmem : dynEntry img d.offset i ∈ dynEntries img d := by
          simp only [dynEntries, dynEntriesBelow, List.mem_map, List.mem_range]
          exact ⟨i, hi, rfl⟩
        rw [hlive]
        exact .inl ⟨rfl, ⟨⟨_, hmem, hnull⟩, by rw [hlive]; exact hcount⟩, rfl⟩
      · rw [← dynEntriesBelow_succ] at hle ⊢
        exact ⟨hsnoc hne, hle, rfl⟩
    · rintro - - ⟨hne, hmany⟩ ⟨-, hle⟩
      rw [← dynEntriesBelow_succ] at hmany
      exact hmany (Nat.le_trans
        (neededValues_mono (prefix_liveEntries hi (hsnoc hne))).length_le hle)
  · rintro s' ⟨hbefore, -, -⟩
    refine .inr ⟨rfl, ?_⟩
    rintro ⟨⟨e, he, hnull⟩, -⟩
    rw [Nat.zero_add] at hbefore
    exact hbefore e he hnull

/-! ## The needed names -/

/-- The selection is a function. -/
theorem SelectsFirst.unique {headers : List Phdr} {live : List Dyn} {o n o' n' : Nat}
    (h : SelectsFirst headers live o n) (h' : SelectsFirst headers live o' n') :
    o = o' ∧ n = n' := by
  obtain ⟨address, ha, hn, -, p, hp, -, ho⟩ := h
  obtain ⟨address', ha', hn', -, p', hp', -, ho'⟩ := h'
  obtain rfl : address = address' := Option.some.inj (ha.symm.trans ha')
  obtain rfl : p = p' := Option.some.inj (hp.symm.trans hp')
  exact ⟨ho.trans ho'.symm, Option.some.inj (hn.symm.trans hn')⟩

/-- The state of the parser after the first `i` needed names. -/
def neededState (img : Buf) (headers : List Phdr) (live : List Dyn) (offset size i : Nat) : State :=
  { dynState img headers live with
    summary := { dynamicSummary img headers live offset size with
      needed := fun j =>
        if j < i then (dynamicSummary img headers live offset size).needed j
        else Buf.zeros NEEDED_NAME_MAX } }

section Needed

variable {headers : List Phdr} {live : List Dyn} {offset size : Nat}

/-- The needed name `v` lies in the string table at `offset`. -/
def NameOk (img : Buf) (offset size v : Nat) : Prop :=
  v < size ∧ Terminated img NEEDED_NAME_MAX (offset + v) (size - v)

theorem neededState_succ {i v : Nat} (hv : (neededValues live)[i]? = some v) :
    neededState img headers live offset size (i + 1) =
      { neededState img headers live offset size i with
        summary := { (neededState img headers live offset size i).summary with
          needed := Function.update (neededState img headers live offset size i).summary.needed i
            (nameBuf img NEEDED_NAME_MAX (offset + v) (size - v)) } } := by
  have hneeded : (fun j => if j < i + 1 then
      (dynamicSummary img headers live offset size).needed j else Buf.zeros NEEDED_NAME_MAX) =
      Function.update (fun j => if j < i then (dynamicSummary img headers live offset size).needed j
        else Buf.zeros NEEDED_NAME_MAX) i
        (nameBuf img NEEDED_NAME_MAX (offset + v) (size - v)) := by
    funext j
    rw [Function.update_apply]
    rcases Nat.lt_trichotomy j i with hj | rfl | hj
    · rw [if_pos (by omega), if_neg (by omega), if_pos hj]
    · simp [dynamicSummary, hv]
    · rw [if_neg (by omega), if_neg (by omega), if_neg (by omega)]
  simp only [neededState, hneeded]

/-- One needed name. -/
theorem parseNeeded_spec {i v : Nat} (hi : i < MAX_NEEDED) (hv : (neededValues live)[i]? = some v)
    (hsize : lastValue DT_STRSZ live = some size) (hin : offset + size ≤ img.size) :
    wp (parseNeeded img offset i)
      (fun _ s' => s' = neededState img headers live offset size (i + 1) ∧ NameOk img offset size v)
      (fun _ _ => ¬ NameOk img offset size v) (neededState img headers live offset size i) := by
  have hoffset : (neededState img headers live offset size i).neededOffsets i = v := by
    simp [neededState, dynState, hv]
  have htable : (neededState img headers live offset size i).stringTableSize = size := by
    simp [neededState, dynState, hsize]
  have hzeros : (neededState img headers live offset size i).summary.needed i =
      Buf.zeros NEEDED_NAME_MAX := by
    simp [neededState]
  unfold parseNeeded
  refine wp_bind (neededOffset_wp hi (wp_bind (wp_get ?_)))
  rw [hoffset, htable, hzeros]
  refine wp_ite (fun hge => wp_ret fun hn => absurd hn.1 (by omega)) fun hlt => ?_
  refine wp_bind (copyBoundedString_spec (by decide) (by omega) (fun hterm => ?_)
    fun hterm name => ?_)
  · refine wp_bind (wp_modify (wp_pure ⟨?_, by omega, hterm⟩))
    rw [neededState_succ hv]
  · exact wp_bind (wp_modify (wp_ret fun hn => hterm hn.2))

/-- The loop over the needed names. -/
theorem parseNeededs_spec (headers : List Phdr) (hcount : (neededValues live).length ≤ MAX_NEEDED)
    (hsize : lastValue DT_STRSZ live = some size) (hin : offset + size ≤ img.size) :
    wp (Prog.forUp (parseNeeded img offset) 0 (neededValues live).length)
      (fun _ s' => s'.summary = dynamicSummary img headers live offset size ∧
        ∀ v ∈ neededValues live, NameOk img offset size v)
      (fun _ _ => ¬ ∀ v ∈ neededValues live, NameOk img offset size v)
      (neededState img headers live offset size 0) := by
  refine wp_mono (wp_forUp (fun i s' => s' = neededState img headers live offset size i ∧
    ∀ j < i, ∀ v, (neededValues live)[j]? = some v → NameOk img offset size v) 0 _ _
    ⟨rfl, fun j hj => by omega⟩ ?_) ?_ fun _ _ h => h
  · rintro i s' - hi ⟨rfl, hbefore⟩
    rw [Nat.zero_add] at hi
    have hv : (neededValues live)[i]? = some (neededValues live)[i] := List.getElem?_eq_getElem hi
    refine wp_mono (parseNeeded_spec (by omega) hv hsize hin) ?_ ?_
    · rintro - s' ⟨rfl, hok⟩
      refine ⟨rfl, fun j hj w hw => ?_⟩
      rcases Nat.lt_succ_iff_lt_or_eq.mp hj with hj | rfl
      · exact hbefore j hj w hw
      · rw [hv] at hw
        rwa [← Option.some.inj hw]
    · exact fun _ _ hbad hall => hbad (hall _ (List.getElem_mem hi))
  · rintro - s' ⟨rfl, hall⟩
    rw [Nat.zero_add] at hall ⊢
    refine ⟨?_, fun v hv => ?_⟩
    · have hneeded : (fun j => if j < (neededValues live).length then
          (dynamicSummary img headers live offset size).needed j
          else Buf.zeros NEEDED_NAME_MAX) =
          (dynamicSummary img headers live offset size).needed := by
        funext j
        by_cases hj : j < (neededValues live).length
        · rw [if_pos hj]
        · simp [dynamicSummary, hj]
      simp only [neededState, hneeded]
    · obtain ⟨j, hj, rfl⟩ := List.mem_iff_getElem.mp hv
      exact hall j hj _ (List.getElem?_eq_getElem hj)

end Needed

theorem dynState_nil (headers : List Phdr) : dynState img headers [] = headersState img headers :=
  rfl

section Table

variable {headers : List Phdr} {live : List Dyn} {offset size : Nat}

/-- Once the count of the needed names is in the summary, the loop over them can start. -/
theorem neededState_zero (offset size : Nat) :
    { dynState img headers live with
      summary := { (dynState img headers live).summary with
        neededCount := (dynState img headers live).neededCount } } =
      neededState img headers live offset size 0 := by
  simp [neededState, dynState, dynamicSummary, headerSummary, Summary.clear]

/-- A value of the parser that is not 0 comes from an entry. -/
theorem lastValue_of_getD {tag v : Nat} (h : (lastValue tag live).getD 0 = v) (hv : v ≠ 0) :
    lastValue tag live = some v := by
  cases hl : lastValue tag live with
  | none =>
    rw [hl] at h
    exact absurd h.symm hv
  | some a =>
    rw [hl] at h
    rw [← h, Option.getD_some]

/-- Where the parser looks up the string table, a selection is what the look-up finds. -/
theorem SelectsFirst.found {address : Nat} (ha : (lastValue DT_STRTAB live).getD 0 = address)
    (hn : (lastValue DT_STRSZ live).getD 0 = size) {size' : Nat}
    (h : SelectsFirst headers live offset size') :
    address ≠ 0 ∧ size' = size ∧ ∃ p, (loads headers).find? (·.holds address) = some p ∧
      size ≤ p.filesz - (address - p.vaddr) ∧ offset = p.offset + (address - p.vaddr) := by
  obtain ⟨address', ha', hn', hne, p, hp, hle, ho⟩ := h
  rw [ha', Option.getD_some] at ha
  rw [hn', Option.getD_some] at hn
  subst ha hn
  exact ⟨hne, rfl, p, hp, hle, ho⟩

end Table

/-- The part of the parser after the look-up of the string table, which found the segment `p`. -/
theorem parseNames_spec {live : List Dyn} {p : Phdr} (hfile : img.size < 2 ^ 64)
    (hcount : (neededValues live).length ≤ MAX_NEEDED)
    (hstart : ∀ offset size, s = neededState img (programHeaders img) live offset size 0)
    (haddress : (lastValue DT_STRTAB live).getD 0 = s.stringTableAddress)
    (hsize : (lastValue DT_STRSZ live).getD 0 = s.stringTableSize)
    (hc : ¬ s.stringTableAddress = 0 ∧ ¬ s.stringTableSize = 0)
    (hfind : (loads (programHeaders img)).find? (·.holds s.stringTableAddress) = some p)
    (hin : InFile img p) :
    wp (if s.stringTableSize > p.filesz - (s.stringTableAddress - p.vaddr) ∨
          ¬ rangeValid img.size ((p.offset + (s.stringTableAddress - p.vaddr)) % 2 ^ 64)
            s.stringTableSize then Prog.ret .eDynamic
        else Prog.forUp (parseNeeded img ((p.offset + (s.stringTableAddress - p.vaddr)) % 2 ^ 64)) 0
          s.neededCount)
      (fun _ s' => ∃ offset size, SelectsFirst (programHeaders img) live offset size ∧
        (∀ v ∈ neededValues live, NameOk img offset size v) ∧
        s'.summary = dynamicSummary img (programHeaders img) live offset size)
      (fun _ _ => ¬ ∃ offset size, SelectsFirst (programHeaders img) live offset size ∧
        ∀ v ∈ neededValues live, NameOk img offset size v) s := by
  have hheld : p.vaddr ≤ s.stringTableAddress ∧ s.stringTableAddress - p.vaddr < p.filesz := by
    simpa [Phdr.holds] using List.find?_some hfind
  have hlength : s.neededCount = (neededValues live).length := by
    rw [hstart 0 0]
    rfl
  obtain ⟨delta, hdelta⟩ : ∃ x, x = s.stringTableAddress - p.vaddr := ⟨_, rfl⟩
  unfold InFile at hin
  rw [← hdelta, Nat.mod_eq_of_lt (by omega)]
  refine wp_ite (fun hbad => wp_ret ?_) fun hgood => ?_
  · rintro ⟨offset, size, hsel, -⟩
    obtain ⟨-, -, q, hq, hle, -⟩ := hsel.found haddress hsize
    obtain rfl : p = q := Option.some.inj (hfind.symm.trans hq)
    rw [rangeValid_iff] at hbad
    omega
  simp only [not_or, not_not, rangeValid_iff] at hgood
  have hstrsz : lastValue DT_STRSZ live = some s.stringTableSize := lastValue_of_getD hsize hc.2
  have hsel : SelectsFirst (programHeaders img) live (p.offset + delta) s.stringTableSize :=
    ⟨_, lastValue_of_getD haddress hc.1, hstrsz, hc.1, p, hfind, by omega, by rw [hdelta]⟩
  have hloop := parseNeededs_spec (programHeaders img) hcount hstrsz hgood.2
  rw [← hstart, ← hlength] at hloop
  refine wp_mono hloop ?_ ?_
  · rintro - s' ⟨hsummary, hnames⟩
    exact ⟨_, _, hsel, hnames, hsummary⟩
  · rintro - - hbad ⟨offset, size, hsel', hnames⟩
    obtain ⟨rfl, rfl⟩ := hsel'.unique hsel
    exact hbad hnames

/-- The part of the parser after the program headers. -/
theorem parseDynamic_spec {d : Phdr} (ht : TableOk img) (hfile : img.size < 2 ^ 64)
    (hok : HeadersOk img allow (programHeaders img)) (hd : dynamics (programHeaders img) = [d]) :
    wp (parseDynamic img d)
      (fun _ s' => (∃ e ∈ dynEntries img d, e.tag = DT_NULL) ∧
        NeededOk SelectsFirst img (liveEntries img d) ∧ Declared img s'.summary)
      (fun _ _ => ¬ ((∃ e ∈ dynEntries img d, e.tag = DT_NULL) ∧
        NeededOk SelectsFirst img (liveEntries img d)))
      (headersState img (programHeaders img)) := by
  have hin : InFile img d := (hok.dynamic d (by rw [hd]; exact List.mem_singleton.mpr rfl)).1
  have hends : ¬ Ends img d → ¬ ((∃ e ∈ dynEntries img d, e.tag = DT_NULL) ∧
      NeededOk SelectsFirst img (liveEntries img d)) := fun hn h => hn ⟨h.1, h.2.1⟩
  unfold parseDynamic
  rw [← dynState_nil]
  refine wp_seq (parseDyns_spec hin) (fun _ _ h => hends h) ?_
  rintro r s₁ (⟨hr, ⟨hnull, hcount⟩, rfl⟩ | ⟨rfl, hno⟩)
  swap
  · exact wp_ite (fun _ => wp_ret (hends hno)) fun hn => absurd rfl hn
  refine wp_ite (fun hn => absurd hr (by simpa using hn)) fun _ => ?_
  refine wp_bind (wp_modify (wp_bind (wp_get ?_)))
  have hdeclared : ∀ offset size, (neededValues (liveEntries img d) ≠ [] →
      SelectsFirst (programHeaders img) (liveEntries img d) offset size) →
      Declared img (dynamicSummary img (programHeaders img) (liveEntries img d) offset size) :=
    fun offset size h => .inr ⟨d, offset, size, hd, h, rfl⟩
  generalize liveEntries img d = live at *
  -- the state in which the names are read
  obtain ⟨s, hs⟩ : ∃ s, s = neededState img (programHeaders img) live 0 0 0 := ⟨_, rfl⟩
  rw [neededState_zero 0 0, ← hs]
  have hstart : ∀ offset size, s = neededState img (programHeaders img) live offset size 0 :=
    fun offset size => by rw [hs, ← neededState_zero, ← neededState_zero]
  have hlength : s.neededCount = (neededValues live).length := by rw [hs]; rfl
  have haddress : (lastValue DT_STRTAB live).getD 0 = s.stringTableAddress := by rw [hs]; rfl
  have hsize : (lastValue DT_STRSZ live).getD 0 = s.stringTableSize := by rw [hs]; rfl
  refine wp_ite (fun hzero => ?_) fun hsome => ?_
  · -- without needed names the string table does not matter
    have hnil : neededValues live = [] := List.length_eq_zero_iff.mp (hlength.symm.trans hzero)
    have hsummary := hdeclared 0 0 fun hne => absurd hnil hne
    refine wp_pure ⟨hnull, ⟨hcount, fun hne => absurd hnil hne⟩, ?_⟩
    rw [hs]
    simpa [neededState, dynamicSummary, hnil] using hsummary
  have hne : neededValues live ≠ [] := by
    rintro hnil
    exact hsome (hlength.trans (List.length_eq_zero_iff.mpr hnil))
  refine wp_ite (fun hc => wp_ret fun h => ?_) fun hc => ?_
  · obtain ⟨offset, size, hsel, hnames⟩ := h.2.2 hne
    obtain ⟨hzero, rfl, -⟩ := hsel.found haddress hsize
    obtain ⟨v, hv⟩ := List.exists_mem_of_ne_nil _ hne
    have hlt := (hnames v hv).1
    rcases hc with hc | hc
    · exact hzero hc
    · omega
  rw [not_or] at hc
  refine wp_seq (virtualToFileOffset_spec ht) (fun _ _ h => h) ?_
  rintro r s₂ ⟨rfl, rfl⟩
  cases hfind : (loads (programHeaders img)).find? (·.holds s₂.stringTableAddress) with
  | none =>
    refine wp_ret ?_
    rintro ⟨-, h⟩
    obtain ⟨offset, size, hsel, -⟩ := h.2 hne
    obtain ⟨-, -, p, hp, -⟩ := hsel.found haddress hsize
    rw [hfind] at hp
    cases hp
  | some p =>
    refine wp_mono (parseNames_spec hfile hcount hstart haddress hsize hc hfind
      (hok.load p (List.mem_of_find?_eq_some hfind)).2.1) ?_ ?_
    · rintro - s' ⟨offset, size, hsel, hnames, hsummary⟩
      rw [hsummary]
      exact ⟨hnull, ⟨hcount, fun _ => ⟨_, _, hsel, hnames⟩⟩, hdeclared _ _ fun _ => hsel⟩
    · exact fun _ _ hbad h => hbad (h.2.2 hne)

end SeLinOS.Elfrt
