import SeLinOS.Pci.Assign

/-!
# When a BAR assignment succeeds, and what a failed one leaves

Both results are about every 32-bit memory BAR and every window, from the exits of
`assignBar32_wp`.

* `assign_accepts_iff`: on a bus without errors, where a BAR that fits is assigned.
* `assign_rolls_back_iff`: with at most one error, when a failed assignment leaves the BAR and the
  command register as they were.
-/

namespace SeLinOS.Pci

open CLogic Prog Sel4

variable {writable : BitVec 32 → BitVec 32} {env : PortEnv} {device function barIndex : BitVec 32}
  {bar : MemoryBar32} {rangeStart rangeEnd : Word} {s : BarTransaction Bus}

/-! ## Success -/

/-- The BAR decodes at the address, and the caller has it as the resource. -/
structure AssignedTo (bar : MemoryBar32) (device function barIndex : BitVec 32) (address : Nat)
    (s t : BarTransaction Bus) : Prop where
  decodes : (t.machine.registers (barAddress device function barIndex) &&&
    PCI_BAR_MEMORY_MASK).toNat = address
  resource : t.resource = ⟨BitVec.ofNat 64 address, BitVec.ofNat 64 (2 ^ bar.order), barIndex⟩
  command : t.machine.registers (commandAddress device function) =
    s.machine.registers (commandAddress device function)

/-- A BAR that fits is accepted, at its place, and no other. -/
def Accepted (bar : MemoryBar32) (device function barIndex : BitVec 32)
    (rangeStart rangeEnd : Word) (s : BarTransaction Bus) (success : Bool)
    (t : BarTransaction Bus) : Prop :=
  (success = true ↔ Fits bar rangeStart rangeEnd) ∧
    (success = true → AssignedTo bar device function barIndex
      (leastMultiple (2 ^ bar.order) rangeStart.toNat) s t)

/-- The address bits of the BAR are 0, or all the ones that can be written are 1. -/
def Unassigned (bar : MemoryBar32) (x : BitVec 32) : Prop :=
  x &&& bar.mask = 0 ∨ x &&& bar.mask = bar.mask

theorem admitted_iff {registers : BitVec 32 → BitVec 32} {address : BitVec 32}
    (h : bar.At writable registers address) (hunassigned : Unassigned bar (registers address)) :
    Admitted (registers address) ↔ registers address &&& bar.mask = 0 ∨ bar.order = 4 := by
  rw [Admitted, h.address_eq, ← bar.mask_eq_memory]
  refine or_congr_right' fun hne => ?_
  rw [hunassigned.resolve_left hne]

/-- The exit of a successful assignment. -/
theorem accepted_of_success {t u : BarTransaction Bus} {n : Nat}
    (hbar : bar.At writable s.machine.registers (barAddress device function barIndex))
    (hindex : barIndex < PCI_BAR_COUNT) (hend : rangeEnd ≤ PCI_32BIT_ADDRESS_LIMIT)
    (hfits : Fits bar rangeStart rangeEnd) (hkind : bar.prefetchable = false)
    (hresource : t.resource =
      ⟨alignedStart bar rangeStart, BitVec.twoPow 64 bar.order, barIndex⟩)
    (hu : u.resource = t.resource) (hpasses : env.passes n = true)
    (hregisters : u.machine.registers =
      undone writable s.machine.registers env device function barIndex n
        (probedRegisters writable s.machine.registers device function barIndex
          ((alignedStart bar rangeStart).setWidth 32)) true false) :
    AssignedTo bar device function barIndex (leastMultiple (2 ^ bar.order) rangeStart.toNat)
      s u := by
  have hend' := toNat_le_limit hend
  have hpow := order_bounds bar
  have hge := leastMultiple_ge (d := 2 ^ bar.order) (by omega) rangeStart.toNat
  have hle : leastMultiple (2 ^ bar.order) rangeStart.toNat + 2 ^ bar.order ≤ rangeEnd.toNat :=
    hfits
  have haligned := toNat_alignedStart bar (show rangeStart.toNat < 2 ^ 32 by omega)
  have hmask := alignedStart_and hfits hend'
  have hback : u.machine.registers =
      (ConfigWrite.dword (barAddress device function barIndex)
        ((alignedStart bar rangeStart).setWidth 32)).apply writable s.machine.registers := by
    rw [hregisters, undone]
    simp only [Bool.false_and, Bool.false_eq_true, if_false, hpasses, Bool.and_self, if_true]
    exact commandBack_probed _ hindex
  refine ⟨?_, ?_, ?_⟩
  · have hread : u.machine.registers (barAddress device function barIndex) =
        (alignedStart bar rangeStart).setWidth 32 := by
      rw [hback]
      exact ConfigWrite.apply_self.trans ((hbar.write_eq_iff hmask).mpr hkind)
    rw [hread, ← hmask, BitVec.and_assoc, bar.mask_and_memory, hmask, BitVec.toNat_setWidth,
      haligned, Nat.mod_eq_of_lt (by omega)]
  · rw [hu, hresource]
    congr 1
    · rw [← haligned, BitVec.ofNat_toNat, BitVec.setWidth_eq]
    · rw [← toNat_size, BitVec.ofNat_toNat, BitVec.setWidth_eq]
  · rw [hback]
    exact ConfigWrite.apply_of_ne (barAddress_ne hindex).symm

/-- **BAR assignment without errors**: the function accepts exactly the BARs that fit, if and only
if none that fits is prefetchable or, larger than 16 bytes, unassigned with all ones. -/
theorem assign_accepts_iff (hdevice : device < 32) (hfunction : function < 8)
    (hindex : barIndex < PCI_BAR_COUNT) (hend : rangeEnd ≤ PCI_32BIT_ADDRESS_LIMIT)
    (hbar : bar.At writable s.machine.registers (barAddress device function barIndex))
    (hunassigned : Unassigned bar (s.machine.registers (barAddress device function barIndex)))
    (hports : ∀ n, env.fails n = false) (hissued : ∀ n, env.issued n = true) :
    (∃ success t, assignUnconfiguredBar32 (busMachine writable env) device function barIndex
        rangeStart rangeEnd s = .ret success t ∧
      Accepted bar device function barIndex rangeStart rangeEnd s success t) ↔
    (Fits bar rangeStart rangeEnd → (env.slot s.machine.operations).isSome = true ∧
      bar.prefetchable = false ∧
      (s.machine.registers (barAddress device function barIndex) &&& bar.mask = 0 ∨
        bar.order = 4)) := by
  have hpasses : ∀ n, env.passes n = true := fun n => by
    rw [PortEnv.passes, hports, hports]
    rfl
  have hnever : ∀ {C : Prop} {n}, env.passes n = false → C := fun hfail =>
    absurd (hfail.symm.trans (hpasses _)) Bool.false_ne_true
  have hnot : ∀ {C : Prop} {t}, (Fits bar rangeStart rangeEnd → ¬ C) →
      (Accepted bar device function barIndex rangeStart rangeEnd s false t ↔
        (Fits bar rangeStart rangeEnd → C)) := by
    intro C t hC
    constructor
    · exact fun h hfits => absurd (h.1.mpr hfits) Bool.false_ne_true
    · exact fun h => ⟨⟨fun hfalse => absurd hfalse Bool.false_ne_true,
        fun hfits => absurd (h hfits) (hC hfits)⟩, fun hfalse => absurd hfalse Bool.false_ne_true⟩
  refine returns_iff (assignUnconfiguredBar32_wp hbar (fun hno t _ => hnot ?_) ?_)
  · rintro hfits ⟨hslot, -⟩
    have hpow := order_bounds bar
    have hge := leastMultiple_ge (d := 2 ^ bar.order) (by omega) rangeStart.toNat
    have hle : leastMultiple (2 ^ bar.order) rangeStart.toNat + 2 ^ bar.order ≤
      rangeEnd.toNat := hfits
    refine hno ⟨hdevice, hfunction, hindex, ?_, hend, ?_⟩
    · rw [BitVec.lt_def]
      omega
    · rw [PortEnv.acquires, hslot, hissued]
      rfl
  · intro hstarted slot t hexit
    have hadmitted := admitted_iff hbar hunassigned
    cases hexit with
    | untouched h hm hfail => exact hnever hfail
    | unprobed h hb hfail => exact hnever hfail
    | unrestored h hb hm hfail => exact hnever hfail
    | unprogrammed h hb hsized hfits hfail => exact hnever hfail
    | unread h hb hsized hfits hfail => exact hnever hfail
    | preassigned h hb =>
      refine wp_mono (undoAssignment_wp h) (fun _ _ h => h) ?_
      rintro r u ⟨rfl, -, -⟩
      exact hnot fun _ hC => hb (hadmitted.mpr hC.2.2)
    | unfit h hb hsized hfits =>
      refine wp_mono (undoAssignment_wp h) (fun _ _ h => h) ?_
      rintro r u ⟨rfl, -, -⟩
      exact hnot fun hyes => absurd hyes hfits
    | mismatch h hb hsized hfits hkind =>
      refine wp_mono (undoAssignment_wp h) (fun _ _ h => h) ?_
      rintro r u ⟨rfl, -, -⟩
      exact hnot fun _ hC => absurd (hC.2.1.symm.trans hkind) Bool.false_ne_true
    | success h hb hsized hfits hkind hresource =>
      refine wp_mono (undoAssignment_wp h) (fun _ _ h => h) ?_
      rintro r u ⟨rfl, hu, hregisters⟩
      refine iff_of_true ⟨⟨fun _ => hfits, fun _ => rfl⟩, fun _ => ?_⟩
        fun _ => ⟨(Bool.and_eq_true_iff.mp hstarted.acquires).1, hkind, hadmitted.mp hb⟩
      exact accepted_of_success hbar hindex hend hfits hkind hresource hu (hpasses _) hregisters

/-- A BAR that is not prefetchable, where there is place. -/
theorem assign_accepts_iff_page : ∃ success t,
    assignUnconfiguredBar32 (busMachine deviceWritable (portsWith fun _ => false)) 3 0 0 0x10000800
      0x20000000 (deviceStart 0) = .ret success t ∧
    Accepted (pageBar false) 3 0 0 0x10000800 0x20000000 (deviceStart 0) success t :=
  (assign_accepts_iff (by decide) (by decide) (by decide) (by decide) ⟨by decide, by decide⟩
    (.inl (by decide)) (fun _ => rfl) fun _ => rfl).mpr
    fun _ => ⟨rfl, rfl, .inl (by decide)⟩

set_option maxRecDepth 100000 in
/-- A prefetchable BAR is refused where there is place. -/
theorem assign_refuses_prefetchable :
    (pageBar true).At deviceWritable (deviceStart 8).machine.registers (barAddress 3 0 0) ∧
    Unassigned (pageBar true) ((deviceStart 8).machine.registers (barAddress 3 0 0)) ∧
    ¬ ∃ success t, assignUnconfiguredBar32 (busMachine deviceWritable (portsWith fun _ => false))
        3 0 0 0x10000800 0x20000000 (deviceStart 8) = .ret success t ∧
      Accepted (pageBar true) 3 0 0 0x10000800 0x20000000 (deviceStart 8) success t := by
  refine ⟨⟨by decide, by decide⟩, .inl (by decide), ?_⟩
  rintro ⟨success, t, hrun, hfits, -⟩
  have hfalse : ((assignUnconfiguredBar32 (busMachine deviceWritable (portsWith fun _ => false))
      3 0 0 0x10000800 0x20000000 (deviceStart 8)).returned.map (·.1)) = some false := by
    decide +kernel
  rw [hrun] at hfalse
  cases hfalse
  exact nomatch hfits.mpr (by decide)

/-! ## Failure -/

/-- When the transaction that starts at operation `n` is rolled back where it fails. Each field is
about a write that is not repeated when it fails. -/
structure RollsBack (writable R : BitVec 32 → BitVec 32) (env : PortEnv)
    (device function barIndex : BitVec 32) (bar : MemoryBar32) (rangeStart rangeEnd : Word)
    (n : Nat) : Prop where
  /-- The BAR is not marked as touched before the sizing mask is read and the BAR written back. -/
  sizing : Admitted (R (barAddress device function barIndex)) →
    env.passes (n + 8) = true ∧ env.passes (n + 10) = true ∨
      R (barAddress device function barIndex) &&& bar.mask = bar.mask
  preassigned : ¬ Admitted (R (barAddress device function barIndex)) →
    env.passes (n + 6) = true ∨ Quiet writable R device function
  unfit : Admitted (R (barAddress device function barIndex)) → ¬ Fits bar rangeStart rangeEnd →
    env.passes (n + 14) = true ∨ Quiet writable R device function
  /-- A prefetchable BAR does not read back as it was written. -/
  mismatch : Admitted (R (barAddress device function barIndex)) → Fits bar rangeStart rangeEnd →
    bar.prefetchable = true →
    (env.passes (n + 16) = true ∨ R (barAddress device function barIndex) &&& bar.mask =
      (alignedStart bar rangeStart).setWidth 32) ∧
    (env.passes (n + 18) = true ∨ Quiet writable R device function)

section Failures

variable {R : BitVec 32 → BitVec 32} {n m : Nat}

/-- At most one operation fails. -/
def SingleFailure (env : PortEnv) : Prop := ∀ i j, env.fails i = true → i < j → env.fails j = false

theorem SingleFailure.passes_of_ne (h : SingleFailure env) (hm : env.passes m = false) {i : Nat}
    (hi : i + 1 < m ∨ m + 1 < i) : env.passes i = true := by
  have hpair : ∀ a b, env.fails a = true → a ≠ b → env.fails b = false := by
    intro a b ha hne
    rcases Nat.lt_or_gt_of_ne hne with hlt | hlt
    · exact h a b ha hlt
    · cases hb : env.fails b with
      | false => rfl
      | true => exact absurd ha (by rw [h b a hb hlt]; exact Bool.false_ne_true)
  rw [PortEnv.passes, Bool.and_eq_false_iff, Bool.not_eq_false', Bool.not_eq_false'] at hm
  rw [PortEnv.passes, Bool.and_eq_true, Bool.not_eq_true', Bool.not_eq_true']
  rcases hm with hm | hm
  · exact ⟨hpair m i hm (by omega), hpair m (i + 1) hm (by omega)⟩
  · exact ⟨hpair (m + 1) i hm (by omega), hpair (m + 1) (i + 1) hm (by omega)⟩

theorem SingleFailure.passes_after (h : SingleFailure env) (hm : env.passes m = false) {i : Nat}
    (hi : env.after m ≤ i) : env.passes i = true := by
  rw [PortEnv.passes, Bool.and_eq_true, Bool.not_eq_true', Bool.not_eq_true']
  rw [PortEnv.after] at hi
  cases hfirst : env.fails m with
  | true =>
    rw [if_pos hfirst] at hi
    exact ⟨h m i hfirst (by omega), h m (i + 1) hfirst (by omega)⟩
  | false =>
    rw [hfirst, if_neg Bool.false_ne_true] at hi
    have hsecond : env.fails (m + 1) = true := by
      rwa [PortEnv.passes, hfirst, Bool.not_false, Bool.true_and, Bool.not_eq_false'] at hm
    exact ⟨h (m + 1) i hsecond (by omega), h (m + 1) (i + 1) hsecond (by omega)⟩

/-- With the accesses that count, the transaction is rolled back. -/
theorem RollsBack.of_passes (h8 : env.passes (n + 8) = true) (h10 : env.passes (n + 10) = true)
    (h6 : ¬ Admitted (R (barAddress device function barIndex)) → env.passes (n + 6) = true)
    (h14 : env.passes (n + 14) = true) (h16 : env.passes (n + 16) = true)
    (h18 : env.passes (n + 18) = true) :
    RollsBack writable R env device function barIndex bar rangeStart rangeEnd n :=
  ⟨fun _ => .inl ⟨h8, h10⟩, fun h => .inl (h6 h), fun _ _ => .inl h14,
    fun _ _ _ => ⟨.inl h16, .inl h18⟩⟩

/-- A BAR that is not written back. -/
theorem restored_written_iff (hbar : bar.At writable R (barAddress device function barIndex))
    (h : barIndex < PCI_BAR_COUNT) {x : BitVec 32} : Restored device function barIndex R
      ((ConfigWrite.dword (barAddress device function barIndex) x).apply writable R) ↔
    R (barAddress device function barIndex) &&& bar.mask = x &&& bar.mask := by
  have hcommand : (ConfigWrite.dword (barAddress device function barIndex) x).apply writable R
      (commandAddress device function) = R (commandAddress device function) :=
    ConfigWrite.apply_of_ne (barAddress_ne h).symm
  rw [Restored, hcommand, and_iff_left rfl, ← hbar.writable]
  refine (iff_of_eq (congrArg (· = _) ConfigWrite.apply_self)).trans ?_
  exact maskedWrite_eq_old_iff.trans eq_comm

/-- An exit after which the command register is written back and the BAR is not. -/
theorem undone_command {X : BitVec 32 → BitVec 32} (h : env.passes n = true) :
    undone writable R env device function barIndex n X true false =
      (ConfigWrite.word (commandAddress device function) false
        (halfOf false (R (commandAddress device function)))).apply writable X := by
  simp only [undone, Bool.false_and, Bool.false_eq_true, if_false, h, Bool.and_self, if_true]

/-- An exit with the BAR as it was. -/
theorem undone_quiet (h : barIndex < PCI_BAR_COUNT) {back : Bool} :
    undone writable R env device function barIndex n (quietRegisters writable R device function)
      true back =
    if env.passes (if back then env.after n else n) then R
    else quietRegisters writable R device function := by
  have hbar : (ConfigWrite.dword (barAddress device function barIndex)
      (R (barAddress device function barIndex))).apply writable
        (quietRegisters writable R device function) =
      quietRegisters writable R device function := probedRegisters_original h
  rw [undone, hbar, ite_self, commandBack_quiet, Bool.true_and]

/-- An exit with the BAR as it was programmed. -/
theorem undone_probed (h : barIndex < PCI_BAR_COUNT) {x : BitVec 32} :
    undone writable R env device function barIndex n
      (probedRegisters writable R device function barIndex x) true true =
    if env.passes n then
      if env.passes (env.after n) then R else quietRegisters writable R device function
    else if env.passes (env.after n) then
      (ConfigWrite.dword (barAddress device function barIndex) x).apply writable R
    else probedRegisters writable R device function barIndex x := by
  rw [undone, probedRegisters_again, probedRegisters_original h]
  cases env.passes n with
  | true =>
    simp only [Bool.true_and, if_true]
    rw [commandBack_quiet]
  | false =>
    simp only [Bool.true_and, Bool.and_false, Bool.false_eq_true, if_false, if_true]
    rw [commandBack_probed x h]

/-- **BAR assignment with at most one error**: a failed assignment leaves the BAR and the command
register as they were exactly when the condition `RollsBack` holds of a transaction that is
started. -/
theorem assign_rolls_back_iff
    (hbar : bar.At writable s.machine.registers (barAddress device function barIndex))
    (hsingle : SingleFailure env) :
    (∃ success t, assignUnconfiguredBar32 (busMachine writable env) device function barIndex
        rangeStart rangeEnd s = .ret success t ∧
      (success = false →
        Restored device function barIndex s.machine.registers t.machine.registers)) ↔
    (Started env device function barIndex rangeStart rangeEnd s.machine.operations →
      RollsBack writable s.machine.registers env device function barIndex bar rangeStart rangeEnd
        s.machine.operations) := by
  refine returns_iff (assignUnconfiguredBar32_wp hbar (fun hno t ht => ?_) ?_)
  · exact iff_of_true (fun _ => ht ▸ ⟨rfl, rfl⟩) fun h => absurd h hno
  intro hstarted slot t hexit
  have hindex := hstarted.barIndex
  generalize s.machine.registers = R at *
  generalize s.machine.operations = n at *
  have hback : ∀ {n' X changed touched u}, Stands R device function barIndex n' X changed touched
      false t → u = undone writable R env device function barIndex n' X changed touched →
      (Restored device function barIndex R u ↔ RollsBack writable R env device function barIndex bar
        rangeStart rangeEnd n) →
      wp (undoAssignment (busMachine writable env) device function barIndex slot) (fun _ _ => False)
        (fun success t => (success = false →
          Restored device function barIndex R t.machine.registers) ↔
          (Started env device function barIndex rangeStart rangeEnd n → RollsBack writable R env
            device function barIndex bar rangeStart rangeEnd n)) t := by
    intro n' X changed touched u h hu hiff
    refine wp_mono (undoAssignment_wp h) (fun _ _ h => h) ?_
    rintro r v ⟨rfl, -, hregisters⟩
    rw [hregisters, Bool.not_false, Bool.true_and, ← hu]
    exact ⟨fun h _ => hiff.mp (h rfl), fun h _ => hiff.mpr (h hstarted)⟩
  cases hexit with
  | untouched h hm hfail =>
    have hpasses : ∀ i, n + 6 ≤ i → env.passes i = true :=
      fun i hi => hsingle.passes_of_ne hfail (by omega)
    refine hback h rfl (iff_of_true ⟨rfl, rfl⟩ ?_)
    exact .of_passes (hpasses _ (by omega)) (hpasses _ (by omega)) (fun _ => hpasses _ (by omega))
      (hpasses _ (by omega)) (hpasses _ (by omega)) (hpasses _ (by omega))
  | preassigned h hb =>
    refine hback h (undone_quiet hindex).symm ?_
    rw [restored_quiet_iff hindex]
    exact ⟨fun h => ⟨fun h => absurd h hb, fun _ => h, fun h => absurd h hb, fun h => absurd h hb⟩,
      fun h => h.preassigned hb⟩
  | unprobed h hb hfail =>
    have hpasses : ∀ i, n + 8 ≤ i → env.passes i = true :=
      fun i hi => hsingle.passes_of_ne hfail (by omega)
    refine hback h (undone_quiet hindex).symm (iff_of_true ?_ ?_)
    · rw [restored_quiet_iff hindex]
      exact .inl (hsingle.passes_after hfail (by simp))
    · exact .of_passes (hpasses _ (by omega)) (hpasses _ (by omega)) (fun h => absurd hb h)
        (hpasses _ (by omega)) (hpasses _ (by omega)) (hpasses _ (by omega))
  | @unrestored m h hb hm hfail =>
    have hafter : env.passes (env.after m) = true := hsingle.passes_after hfail (Nat.le_refl _)
    refine hback h ((undone_command hafter).trans (commandBack_probed _ hindex)).symm ?_
    rw [restored_written_iff hbar hindex]
    have hpasses : ∀ i, n + 14 ≤ i → env.passes i = true :=
      fun i hi => hsingle.passes_of_ne hfail (by omega)
    have hones : (0xffffffff : BitVec 32) &&& bar.mask = bar.mask := BitVec.allOnes_and
    rw [hones]
    constructor
    · exact fun h => ⟨fun _ => .inr h, fun h => absurd hb h, fun _ _ => .inl (hpasses _ (by omega)),
        fun _ _ _ => ⟨.inl (hpasses _ (by omega)), .inl (hpasses _ (by omega))⟩⟩
    · intro h
      refine (h.sizing hb).resolve_left ?_
      rintro ⟨h8, h10⟩
      rcases hm with rfl | rfl
      · exact nomatch hfail.symm.trans h8
      · exact nomatch hfail.symm.trans h10
  | unfit h hb hsized hfits =>
    refine hback h (undone_quiet hindex).symm ?_
    rw [restored_quiet_iff hindex, if_pos rfl]
    have hiff : env.passes (env.after (n + 12)) = true ↔ env.passes (n + 14) = true := by
      cases h12 : env.passes (n + 12) with
      | true => rw [PortEnv.after_eq h12]
      | false =>
        exact iff_of_true (hsingle.passes_after h12 (Nat.le_refl _))
          (hsingle.passes_after h12 (env.le_after _).2)
    rw [hiff]
    exact ⟨fun h => ⟨fun _ => .inl hsized, fun h => absurd hb h, fun _ _ => h,
      fun _ h => absurd h hfits⟩, fun h => h.unfit hb hfits⟩
  | unprogrammed h hb hsized hfits hfail =>
    refine hback h (undone_quiet hindex).symm ?_
    have hpasses : ∀ i, env.after (n + 12) ≤ i → env.passes i = true :=
      fun i hi => hsingle.passes_after hfail hi
    have hle := env.le_after (n + 12)
    rw [restored_quiet_iff hindex, if_pos rfl]
    refine iff_of_true (.inl (hpasses _ (env.le_after _).1.le)) ?_
    exact .of_passes hsized.1 hsized.2 (fun h => absurd hb h) (hpasses _ (by omega))
      (hpasses _ (by omega)) (hpasses _ (by omega))
  | unread h hb hsized hfits hfail =>
    have hpasses : ∀ i, env.after (n + 14) ≤ i → env.passes i = true :=
      fun i hi => hsingle.passes_after hfail hi
    have hle := env.le_after (n + 14)
    refine hback h (undone_probed hindex).symm ?_
    rw [if_pos (hpasses _ (Nat.le_refl _)), if_pos (hpasses _ (env.le_after _).1.le)]
    refine iff_of_true ⟨rfl, rfl⟩ ⟨fun _ => .inl hsized, fun h => absurd hb h,
      fun _ h => absurd hfits h, fun _ _ _ => ?_⟩
    exact ⟨.inl (hpasses _ (by omega)), .inl (hpasses _ (by omega))⟩
  | mismatch h hb hsized hfits hkind =>
    refine hback h (undone_probed hindex).symm ?_
    have hend' := toNat_le_limit hstarted.limit
    have hiff : RollsBack writable R env device function barIndex bar rangeStart rangeEnd n ↔
        (env.passes (n + 16) = true ∨ R (barAddress device function barIndex) &&& bar.mask =
          (alignedStart bar rangeStart).setWidth 32) ∧
        (env.passes (n + 18) = true ∨ Quiet writable R device function) :=
      ⟨fun h => h.mismatch hb hfits hkind, fun h => ⟨fun _ => .inl hsized, fun h => absurd hb h,
        fun _ h => absurd hfits h, fun _ _ _ => h⟩⟩
    rw [hiff]
    cases h16 : env.passes (n + 16) with
    | true =>
      rw [if_pos rfl, restored_quiet_iff hindex, PortEnv.after_eq h16]
      exact (and_iff_right (.inl rfl)).symm
    | false =>
      have h18 : env.passes (n + 18) = true := hsingle.passes_after h16 (env.le_after _).2
      rw [if_neg Bool.false_ne_true, if_pos (hsingle.passes_after h16 (Nat.le_refl _)),
        restored_written_iff hbar hindex, alignedStart_and hfits hend', h18]
      simp
  | success h hb hsized hfits hkind hresource =>
    refine wp_mono (undoAssignment_wp h) (fun _ _ h => h) ?_
    rintro r v ⟨rfl, -, -⟩
    exact iff_of_true nofun fun _ => ⟨fun _ => .inl hsized, fun h => absurd hb h,
      fun _ h => absurd hfits h, fun _ _ h => nomatch hkind.symm.trans h⟩

/-- The assignment where operation 15 fails, with which the new value of the BAR is read back. -/
def failingAssignment : Res Bool (BarTransaction Bus) Unit :=
  assignUnconfiguredBar32 (busMachine deviceWritable (portsWith (· == 15))) 3 0 0 0x10000800
    0x20000000 (deviceStart 0)

set_option maxRecDepth 100000 in
/-- The BAR is programmed, and written back with the command register. -/
theorem assign_rolls_back_iff_command : ∃ t, failingAssignment = .ret false t ∧
    .dword (barAddress 3 0 0) 0x10001000 ∈ t.machine.writes ∧
    Restored 3 0 0 (deviceStart 0).machine.registers t.machine.registers := by
  have hsingle : SingleFailure (portsWith (· == 15)) := by
    intro i j hi hj
    obtain rfl : i = 15 := by simpa [portsWith] using hi
    simpa [portsWith] using hj.ne'
  have hbar : (pageBar false).At deviceWritable (deviceStart 0).machine.registers
      (barAddress 3 0 0) := ⟨by decide, by decide⟩
  have hwrites : (failingAssignment.returned.map fun r =>
      (r.1, decide (.dword (barAddress 3 0 0) 0x10001000 ∈ r.2.machine.writes))) =
        some (false, true) := by
    decide +kernel
  have hfits : Fits (pageBar false) 0x10000800 0x20000000 := by decide
  obtain ⟨success, t, hrun, hrestored⟩ := (assign_rolls_back_iff hbar hsingle).mpr fun _ =>
    ⟨fun _ => .inl (by decide), fun h => absurd (by decide) h, fun _ h => absurd hfits h,
      fun _ _ h => nomatch h⟩
  rw [show failingAssignment = _ from hrun] at hwrites
  obtain ⟨rfl, hmem⟩ := Prod.mk.inj (Option.some.inj hwrites)
  exact ⟨t, hrun, of_decide_eq_true hmem, hrestored rfl⟩

set_option maxRecDepth 100000 in
/-- The sizing mask is not read, and the BAR keeps the ones of its sizing. -/
theorem assign_keeps_ones :
    (pageBar false).At deviceWritable (deviceStart 0).machine.registers (barAddress 3 0 0) ∧
    SingleFailure (portsWith (· == 8)) ∧
    ¬ ∃ success t, assignUnconfiguredBar32 (busMachine deviceWritable (portsWith (· == 8))) 3 0 0
        0x10000800 0x20000000 (deviceStart 0) = .ret success t ∧
      (success = false →
        Restored 3 0 0 (deviceStart 0).machine.registers t.machine.registers) := by
  refine ⟨⟨by decide, by decide⟩, ?_, ?_⟩
  · intro i j hi hj
    obtain rfl : i = 8 := by simpa [portsWith] using hi
    simpa [portsWith] using hj.ne'
  · rintro ⟨success, t, hrun, hrestored⟩
    have hones : ((assignUnconfiguredBar32 (busMachine deviceWritable (portsWith (· == 8))) 3 0 0
        0x10000800 0x20000000 (deviceStart 0)).returned.map fun r =>
          (r.1, r.2.machine.registers (barAddress 3 0 0))) = some (false, 0xfffff000) := by
      decide +kernel
    rw [hrun] at hones
    obtain ⟨rfl, hbar⟩ := Prod.mk.inj (Option.some.inj hones)
    exact absurd ((hrestored rfl).1.symm.trans hbar) (by decide)

end Failures

end SeLinOS.Pci
