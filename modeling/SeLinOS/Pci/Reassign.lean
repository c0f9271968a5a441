import SeLinOS.Pci.Rollback

/-!
# A second assignment of a BAR

The function takes an address of 0, or one with every address bit set, for an unassigned BAR. A
window can give a BAR such an address.

* `Programmed`: what an assignment that succeeds leaves.
* `Mistaken`, `admitted_programmed`: the windows whose address is taken for unassigned.
* `Reassignment`: the outcomes of a second call.
* `reassigned_iff`: when every second call leaves the BAR where it is.
-/

namespace SeLinOS.Pci

open CLogic Prog Sel4

variable {writable R : BitVec 32 → BitVec 32} {env : PortEnv}
  {device function barIndex : BitVec 32} {bar : MemoryBar32} {rangeStart rangeEnd : Word}
  {s t : BarTransaction Bus} {n : Nat}

/-! ## The first call -/

/-- The BAR holds the address that the window gives to it, and so does the resource. -/
structure Programmed (bar : MemoryBar32) (device function barIndex : BitVec 32)
    (rangeStart rangeEnd : Word) (t : BarTransaction Bus) : Prop where
  device_lt : device < 32
  function_lt : function < 8
  barIndex_lt : barIndex < PCI_BAR_COUNT
  limit : rangeEnd ≤ PCI_32BIT_ADDRESS_LIMIT
  fits : Fits bar rangeStart rangeEnd
  kind : bar.prefetchable = false
  value : t.machine.registers (barAddress device function barIndex) =
    (alignedStart bar rangeStart).setWidth 32
  paddr : t.resource.paddr = alignedStart bar rangeStart

/-- What the end of the function leaves in the BAR. -/
theorem undone_bar {X : BitVec 32 → BitVec 32} {changed back : Bool}
    (h : barIndex < PCI_BAR_COUNT) :
    undone writable R env device function barIndex n X changed back
        (barAddress device function barIndex) =
      if back && env.passes n then
        maskedWrite (writable (barAddress device function barIndex))
          (X (barAddress device function barIndex)) (R (barAddress device function barIndex))
      else X (barAddress device function barIndex) := by
  have hcommand : ∀ {Y : BitVec 32 → BitVec 32},
      (ConfigWrite.word (commandAddress device function) false
        (halfOf false (R (commandAddress device function)))).apply writable Y
          (barAddress device function barIndex) =
      Y (barAddress device function barIndex) := ConfigWrite.apply_of_ne (barAddress_ne h)
  have hbar : ∀ {c : Bool}, (if c then (ConfigWrite.dword (barAddress device function barIndex)
      (R (barAddress device function barIndex))).apply writable X else X)
        (barAddress device function barIndex) =
      if c then maskedWrite (writable (barAddress device function barIndex))
        (X (barAddress device function barIndex)) (R (barAddress device function barIndex))
      else X (barAddress device function barIndex) := by
    intro c
    cases c with
    | true => exact ConfigWrite.apply_self
    | false => rfl
  rw [undone, ← hbar]
  generalize (if back && env.passes n then _ else X) = Y
  by_cases hback : (changed && env.passes (if back then env.after n else n)) = true
  · rw [if_pos hback]
    exact hcommand
  · rw [if_neg hback]

/-- A call that succeeds, with any answers of the ports. -/
theorem programmed_of_assigned
    (hbar : bar.At writable s.machine.registers (barAddress device function barIndex))
    (h : assignUnconfiguredBar32 (busMachine writable env) device function barIndex rangeStart
      rangeEnd s = .ret true t) :
    Programmed bar device function barIndex rangeStart rangeEnd t := by
  refine wp_ret_of (assignUnconfiguredBar32_wp (P := fun success t => success = true →
    Programmed bar device function barIndex rangeStart rangeEnd t) hbar
    (fun _ _ _ hfalse => absurd hfalse Bool.false_ne_true) ?_) h rfl
  intro hstarted slot t hexit
  have hfailed : ∀ {n X changed touched}, Stands s.machine.registers device function barIndex n X
      changed touched false t →
      wp (undoAssignment (busMachine writable env) device function barIndex slot)
        (fun _ _ => False) (fun success t => success = true →
          Programmed bar device function barIndex rangeStart rangeEnd t) t := by
    intro n X changed touched h
    refine wp_mono (undoAssignment_wp h) (fun _ _ h => h) ?_
    rintro success u ⟨rfl, -, -⟩ hfalse
    exact absurd hfalse Bool.false_ne_true
  cases hexit with
  | untouched h hm hfail => exact hfailed h
  | preassigned h hb => exact hfailed h
  | unprobed h hb hfail => exact hfailed h
  | unrestored h hb hm hfail => exact hfailed h
  | unfit h hb hsized hfits => exact hfailed h
  | unprogrammed h hb hsized hfits hfail => exact hfailed h
  | unread h hb hsized hfits hfail => exact hfailed h
  | mismatch h hb hsized hfits hkind => exact hfailed h
  | success h hb hsized hfits hkind hresource =>
    refine wp_mono (undoAssignment_wp h) (fun _ _ h => h) ?_
    rintro success u ⟨rfl, hu, hregisters⟩ -
    have hmask := alignedStart_and hfits (toNat_le_limit hstarted.limit)
    refine ⟨hstarted.device, hstarted.function, hstarted.barIndex, hstarted.limit, hfits, hkind,
      ?_, ?_⟩
    · rw [hregisters, undone_bar hstarted.barIndex, Bool.not_true, Bool.false_and, Bool.false_and,
        if_neg Bool.false_ne_true, probedRegisters_bar _ hstarted.barIndex]
      exact (hbar.write_eq_iff hmask).mpr hkind
    · rw [hu, hresource]

/-! ## The address -/

/-- The address that the window gives to the BAR is 0, or has every address bit set. -/
def Mistaken (bar : MemoryBar32) (rangeStart : Word) : Prop :=
  rangeStart = 0 ∨ bar.order = 4 ∧ 0xffffffe0 < rangeStart

instance (bar : MemoryBar32) (rangeStart : Word) : Decidable (Mistaken bar rangeStart) :=
  inferInstanceAs (Decidable (_ ∨ _))

theorem leastMultiple_eq_zero_iff {d x : Nat} (hd : 0 < d) : leastMultiple d x = 0 ↔ x = 0 := by
  have hge := leastMultiple_ge hd x
  constructor
  · intro h
    omega
  · rintro rfl
    rw [leastMultiple, Nat.div_eq_of_lt (by omega), Nat.zero_mul]

/-- The place of the highest 16 bytes of the 32-bit space. -/
theorem leastMultiple_eq_top_iff (bar : MemoryBar32) {x : Nat}
    (hfits : leastMultiple (2 ^ bar.order) x + 2 ^ bar.order ≤ 2 ^ 32) :
    leastMultiple (2 ^ bar.order) x = 0xfffffff0 ↔ bar.order = 4 ∧ 0xffffffe0 < x := by
  have hpow := order_bounds bar
  have hge := leastMultiple_ge (d := 2 ^ bar.order) (by omega) x
  have hlt := leastMultiple_lt (d := 2 ^ bar.order) (by omega) x
  constructor
  · intro h
    have hsize : 2 ^ bar.order ≤ 2 ^ 4 := by omega
    have horder : bar.order = 4 :=
      Nat.le_antisymm ((Nat.pow_le_pow_iff_right (by omega)).mp hsize) bar.order_ge
    rw [horder] at hlt h
    exact ⟨horder, by omega⟩
  · rintro ⟨horder, hx⟩
    rw [horder] at hge hlt hfits ⊢
    rw [leastMultiple] at *
    omega

namespace Programmed

variable (h : Programmed bar device function barIndex rangeStart rangeEnd t)
include h

theorem toNat_value : (t.machine.registers (barAddress device function barIndex)).toNat =
    leastMultiple (2 ^ bar.order) rangeStart.toNat := by
  have hend := toNat_le_limit h.limit
  have hpow := order_bounds bar
  have hfits := h.fits
  have hge := leastMultiple_ge (d := 2 ^ bar.order) (by omega) rangeStart.toNat
  rw [Fits] at hfits
  rw [h.value, BitVec.toNat_setWidth, toNat_alignedStart bar (by omega),
    Nat.mod_eq_of_lt (by omega)]

/-- The value is the address: the BAR has no attributes. -/
theorem value_and_mask : t.machine.registers (barAddress device function barIndex) &&& bar.mask =
    t.machine.registers (barAddress device function barIndex) := by
  rw [h.value]
  exact alignedStart_and h.fits (toNat_le_limit h.limit)

theorem at_bar (hwritable : writable (barAddress device function barIndex) = bar.mask) :
    bar.At writable t.machine.registers (barAddress device function barIndex) := by
  refine ⟨hwritable, ?_⟩
  rw [← h.value_and_mask, BitVec.and_assoc, bar.attributes_eq_zero.mpr h.kind]
  simp

theorem value_and_memory :
    t.machine.registers (barAddress device function barIndex) &&& PCI_BAR_MEMORY_MASK =
      t.machine.registers (barAddress device function barIndex) := by
  rw [← h.value_and_mask, BitVec.and_assoc, bar.mask_and_memory]

/-- The BAR is at the address of the resource. -/
theorem address_eq :
    (t.machine.registers (barAddress device function barIndex) &&& PCI_BAR_MEMORY_MASK).zeroExtend
      64 = t.resource.paddr := by
  have hend := toNat_le_limit h.limit
  have hfits := h.fits
  have hpow := order_bounds bar
  have hge := leastMultiple_ge (d := 2 ^ bar.order) (by omega) rangeStart.toNat
  rw [Fits] at hfits
  refine BitVec.eq_of_toNat_eq ?_
  rw [h.value_and_memory, h.paddr, toNat_alignedStart bar (by omega), BitVec.zeroExtend_eq_setWidth,
    BitVec.toNat_setWidth, h.toNat_value, Nat.mod_eq_of_lt (by omega)]

theorem value_eq_zero_iff :
    t.machine.registers (barAddress device function barIndex) = 0 ↔ rangeStart = 0 := by
  rw [← BitVec.toNat_inj, h.toNat_value, ← BitVec.toNat_inj]
  exact leastMultiple_eq_zero_iff (Nat.two_pow_pos _)

theorem value_eq_top_iff : t.machine.registers (barAddress device function barIndex) =
    PCI_BAR_MEMORY_MASK ↔ bar.order = 4 ∧ 0xffffffe0 < rangeStart := by
  have hend := toNat_le_limit h.limit
  have hfits := h.fits
  rw [Fits] at hfits
  rw [← BitVec.toNat_inj, h.toNat_value, BitVec.lt_def]
  exact leastMultiple_eq_top_iff bar (by omega)

/-- The function takes the BAR for unassigned. -/
theorem admitted_iff : Admitted (t.machine.registers (barAddress device function barIndex)) ↔
    Mistaken bar rangeStart := by
  rw [Admitted, h.value_and_memory, h.value_eq_zero_iff, h.value_eq_top_iff, Mistaken]

end Programmed

/-! ## A second call -/

/-- What a call from operation `n` on makes of a BAR that holds `x`. -/
inductive Reassignment (env : PortEnv) (device function barIndex : BitVec 32) (bar : MemoryBar32)
    (rangeStart rangeEnd : Word) (n : Nat) (x : BitVec 32) : Bool → BitVec 32 → Prop
  | refused (h : ¬ Started env device function barIndex rangeStart rangeEnd n) :
      Reassignment env device function barIndex bar rangeStart rangeEnd n x false x
  | owned (h : ¬ Admitted x) :
      Reassignment env device function barIndex bar rangeStart rangeEnd n x false x
  | unfit (h : ¬ Fits bar rangeStart rangeEnd) (hsized : env.passes (n + 8) = true) :
      Reassignment env device function barIndex bar rangeStart rangeEnd n x false x
  /-- An access other than those of the sizing fails, and the BAR is written back. -/
  | stopped {m : Nat} (hm : m + 2 ≤ n + 8 ∨ n + 12 ≤ m) (hfail : env.passes m = false) :
      Reassignment env device function barIndex bar rangeStart rangeEnd n x false x
  /-- The BAR is left with the sizing mask. -/
  | unsized {m : Nat} (hstarted : Started env device function barIndex rangeStart rangeEnd n)
      (h : Admitted x) (hm : m = n + 8 ∨ m = n + 10) (hfail : env.passes m = false) :
      Reassignment env device function barIndex bar rangeStart rangeEnd n x false bar.mask
  | unread {y : BitVec 32} (hstarted : Started env device function barIndex rangeStart rangeEnd n)
      (h : Admitted x) (hfits : Fits bar rangeStart rangeEnd)
      (hfail : env.passes (n + 14) = false) :
      Reassignment env device function barIndex bar rangeStart rangeEnd n x false y
  | relocated {y : BitVec 32}
      (hstarted : Started env device function barIndex rangeStart rangeEnd n)
      (h : Admitted x) (hfits : Fits bar rangeStart rangeEnd) :
      Reassignment env device function barIndex bar rangeStart rangeEnd n x true y

theorem reassignment_wp
    (hbar : bar.At writable s.machine.registers (barAddress device function barIndex))
    (hkind : bar.prefetchable = false) :
    wp (assignUnconfiguredBar32 (busMachine writable env) device function barIndex rangeStart
        rangeEnd) (fun _ _ => False)
      (fun success t => Reassignment env device function barIndex bar rangeStart rangeEnd
        s.machine.operations (s.machine.registers (barAddress device function barIndex)) success
        (t.machine.registers (barAddress device function barIndex))) s := by
  refine assignUnconfiguredBar32_wp hbar (fun hno t ht => ?_) ?_
  · rw [ht]
    exact .refused hno
  intro hstarted slot t hexit
  have hindex := hstarted.barIndex
  generalize s.machine.registers = R at *
  generalize s.machine.operations = n at *
  have hend : ∀ {n' X changed touched success y},
      Stands R device function barIndex n' X changed touched success t →
      undone writable R env device function barIndex n' X changed (!success && touched)
        (barAddress device function barIndex) = y →
      Reassignment env device function barIndex bar rangeStart rangeEnd n
        (R (barAddress device function barIndex)) success y →
      wp (undoAssignment (busMachine writable env) device function barIndex slot)
        (fun _ _ => False) (fun success t =>
          Reassignment env device function barIndex bar rangeStart rangeEnd n
            (R (barAddress device function barIndex)) success
            (t.machine.registers (barAddress device function barIndex))) t := by
    intro n' X changed touched success y h hu hdone
    refine wp_mono (undoAssignment_wp h) (fun _ _ h => h) ?_
    rintro r v ⟨rfl, -, hregisters⟩
    rw [hregisters, hu]
    exact hdone
  -- The registers at an exit with the BAR as it was.
  have hquiet : ∀ {n' changed back}, undone writable R env device function barIndex n'
      (quietRegisters writable R device function) changed back
        (barAddress device function barIndex) = R (barAddress device function barIndex) := by
    intro n' changed back
    rw [undone_bar hindex, quietRegisters_bar _ _ hindex, maskedWrite_self, ite_self]
  cases hexit with
  | @untouched m h hm hfail =>
    refine hend h ?_ (.stopped (m := m) (by omega) hfail)
    rw [undone_bar hindex, maskedWrite_self, ite_self]
  | preassigned h hb => exact hend h hquiet (.owned hb)
  | unprobed h hb hfail => exact hend h hquiet (.stopped (by omega) hfail)
  | unrestored h hb hm hfail =>
    refine hend h ?_ (.unsized hstarted hb hm hfail)
    rw [undone_bar hindex, Bool.and_false, Bool.false_and, if_neg Bool.false_ne_true,
      probedRegisters_bar _ hindex, hbar.sizing, bar.attributes_eq_zero.mpr hkind]
    exact BitVec.zero_or
  | unfit h hb hsized hfits => exact hend h hquiet (.unfit hfits hsized.1)
  | unprogrammed h hb hsized hfits hfail => exact hend h hquiet (.stopped (by omega) hfail)
  | unread h hb hsized hfits hfail => exact hend h rfl (.unread hstarted hb hfits hfail)
  | mismatch h hb hsized hfits hprefetchable =>
    exact absurd (hkind.symm.trans hprefetchable) Bool.false_ne_true
  | success h hb hsized hfits hkind hresource => exact hend h rfl (.relocated hstarted hb hfits)

/-- A second call returns false, and leaves the BAR at the address of the first. -/
def Stays (writable : BitVec 32 → BitVec 32) (env : PortEnv) (device function barIndex : BitVec 32)
    (rangeStart rangeEnd : Word) (t : BarTransaction Bus) : Prop :=
  ∃ success u, assignUnconfiguredBar32 (busMachine writable env) device function barIndex rangeStart
      rangeEnd t = .ret success u ∧
    success = false ∧ (u.machine.registers (barAddress device function barIndex) &&&
      PCI_BAR_MEMORY_MASK).zeroExtend 64 = t.resource.paddr

namespace Programmed

variable {rangeStart' rangeEnd' : Word}
  (h : Programmed bar device function barIndex rangeStart rangeEnd t)
  (hwritable : writable (barAddress device function barIndex) = bar.mask)
include h hwritable

/-- What is to be shown of the outcomes of a second call. -/
theorem stays_iff {C : Prop} (hcases : ∀ success y,
      Reassignment env device function barIndex bar rangeStart' rangeEnd' t.machine.operations
        (t.machine.registers (barAddress device function barIndex)) success y →
      (success = false ∧ (y &&& PCI_BAR_MEMORY_MASK).zeroExtend 64 = t.resource.paddr ↔ C)) :
    Stays writable env device function barIndex rangeStart' rangeEnd' t ↔ C :=
  returns_iff (wp_mono (reassignment_wp (h.at_bar hwritable) h.kind) (fun _ _ h => h)
    fun success _ => hcases success _)

/-- The BAR stays where the sizing of a BAR at 0 is not stopped and the call would not place a BAR
that it takes for unassigned. -/
theorem stays_of (hsizing : Started env device function barIndex rangeStart' rangeEnd'
      t.machine.operations → rangeStart = 0 → ∀ m, env.passes m = true)
    (hplace : rangeEnd' ≤ PCI_32BIT_ADDRESS_LIMIT → Fits bar rangeStart' rangeEnd' →
      ¬ Mistaken bar rangeStart) :
    Stays writable env device function barIndex rangeStart' rangeEnd' t := by
  refine (h.stays_iff hwritable fun success y hcase => iff_of_true ?_ trivial).mpr trivial
  cases hcase with
  | refused _ => exact ⟨rfl, h.address_eq⟩
  | owned _ => exact ⟨rfl, h.address_eq⟩
  | unfit _ _ => exact ⟨rfl, h.address_eq⟩
  | stopped _ _ => exact ⟨rfl, h.address_eq⟩
  | unsized hstarted hadmitted hm hfail =>
    have htop := (h.admitted_iff.mp hadmitted).resolve_left fun hzero =>
      absurd (hfail.symm.trans (hsizing hstarted hzero _)) Bool.false_ne_true
    -- The sizing mask of 16 bytes is the address.
    have haddress := h.address_eq
    rw [h.value_eq_top_iff.mpr htop] at haddress
    rw [bar.mask_eq_memory.mpr htop.1]
    exact ⟨rfl, haddress⟩
  | unread hstarted hadmitted hfits hfail =>
    exact absurd (h.admitted_iff.mp hadmitted) (hplace hstarted.limit hfits)
  | relocated hstarted hadmitted hfits =>
    exact absurd (h.admitted_iff.mp hadmitted) (hplace hstarted.limit hfits)

omit hwritable in
theorem started_of_window (hwindow : rangeStart' < rangeEnd')
    (hlimit : rangeEnd' ≤ PCI_32BIT_ADDRESS_LIMIT) (fails : Nat → Bool) :
    Started (portsWith fails) device function barIndex rangeStart' rangeEnd' n :=
  ⟨h.device_lt, h.function_lt, h.barIndex_lt, hwindow, hlimit, rfl⟩

/-- A BAR at 0 is left with the sizing mask when the mask cannot be read. -/
theorem not_stays_of_zero (hwindow : rangeStart' < rangeEnd')
    (hlimit : rangeEnd' ≤ PCI_32BIT_ADDRESS_LIMIT) (hzero : rangeStart = 0) :
    ¬ Stays writable (portsWith fun i => i == t.machine.operations + 8) device function barIndex
      rangeStart' rangeEnd' t := by
  have hstarted := h.started_of_window (n := t.machine.operations) hwindow hlimit
    fun i => i == t.machine.operations + 8
  have hpasses : ∀ m, (portsWith fun i => i == t.machine.operations + 8).passes m = false →
      m = t.machine.operations + 7 ∨ m = t.machine.operations + 8 := by
    intro m hfail
    simp [PortEnv.passes, portsWith, -Bool.not_and] at hfail
    omega
  refine mt (h.stays_iff hwritable fun success y hcase => ?_).mp id
  refine iff_of_false ?_ id
  rintro ⟨rfl, haddress⟩
  cases hcase with
  | refused hno => exact hno hstarted
  | owned hno => exact hno (h.admitted_iff.mpr (.inl hzero))
  | unfit hno hsized =>
    simp [PortEnv.passes, portsWith] at hsized
  | stopped hm hfail =>
    have := hpasses _ hfail
    omega
  | unsized _ _ hm hfail =>
    have hvalue := h.address_eq
    rw [h.value_eq_zero_iff.mpr hzero, ← haddress, bar.mask_and_memory] at hvalue
    have hmask := congrArg (BitVec.setWidth 32) hvalue
    exact bar.mask_ne_zero (by simpa using hmask.symm)
  | unread _ _ _ hfail =>
    have := hpasses _ hfail
    omega

/-- On a bus without errors the BAR is programmed again. -/
theorem not_stays_of_fits (hlimit : rangeEnd' ≤ PCI_32BIT_ADDRESS_LIMIT)
    (hwindow : rangeStart' < rangeEnd') (hmistaken : Mistaken bar rangeStart)
    (hfits : Fits bar rangeStart' rangeEnd') :
    ¬ Stays writable (portsWith fun _ => false) device function barIndex rangeStart' rangeEnd'
      t := by
  have hstarted := h.started_of_window (n := t.machine.operations) hwindow hlimit fun _ => false
  have hpasses : ∀ m, (portsWith fun _ => false).passes m ≠ false := fun m => by
    simp [PortEnv.passes, portsWith]
  refine mt (h.stays_iff hwritable fun success y hcase => ?_).mp id
  refine iff_of_false ?_ id
  rintro ⟨rfl, -⟩
  cases hcase with
  | refused hno => exact hno hstarted
  | owned hno => exact hno (h.admitted_iff.mpr hmistaken)
  | unfit hno _ => exact hno hfits
  | stopped _ hfail => exact hpasses _ hfail
  | unsized _ _ _ hfail => exact hpasses _ hfail
  | unread _ _ _ hfail => exact hpasses _ hfail

end Programmed

/-- **An assigned BAR is not relocated**: after a call that succeeds, a second call returns false
and leaves the BAR where it is, whatever the ports do, if and only if its window is refused, or the
BAR is neither at 0 nor, of 16 bytes and placed by the second window, in the highest 16 bytes. On a
bus without errors, exactly when the BAR is at neither place, or the second window is refused or
has no place for it. -/
theorem reassigned_iff {rangeStart' rangeEnd' : Word}
    (hbar : bar.At writable s.machine.registers (barAddress device function barIndex))
    (hfirst : assignUnconfiguredBar32 (busMachine writable env) device function barIndex rangeStart
      rangeEnd s = .ret true t) :
    ((∀ env', Stays writable env' device function barIndex rangeStart' rangeEnd' t) ↔
      (rangeStart' < rangeEnd' → rangeEnd' ≤ PCI_32BIT_ADDRESS_LIMIT → rangeStart ≠ 0 ∧
        (bar.order = 4 → 0xffffffe0 < rangeStart → ¬ Fits bar rangeStart' rangeEnd'))) ∧
    ((∀ env', (∀ i, env'.fails i = false) →
        Stays writable env' device function barIndex rangeStart' rangeEnd' t) ↔
      (rangeEnd' ≤ PCI_32BIT_ADDRESS_LIMIT → Fits bar rangeStart' rangeEnd' →
        ¬ Mistaken bar rangeStart)) := by
  have h := programmed_of_assigned hbar hfirst
  have hwritable := hbar.writable
  have hwindow : Fits bar rangeStart' rangeEnd' → rangeStart' < rangeEnd' := fun hfits => by
    have hpow := order_bounds bar
    have hge := leastMultiple_ge (d := 2 ^ bar.order) (by omega) rangeStart'.toNat
    rw [Fits] at hfits
    rw [BitVec.lt_def]
    omega
  refine ⟨⟨fun hall hlt hlimit => ⟨?_, ?_⟩, fun hplace env' => ?_⟩,
    fun hall hlimit hfits => ?_, fun hplace env' hpasses => ?_⟩
  · exact fun hzero => h.not_stays_of_zero hwritable hlt hlimit hzero (hall _)
  · exact fun horder htop hfits =>
      h.not_stays_of_fits hwritable hlimit hlt (.inr ⟨horder, htop⟩) hfits (hall _)
  · refine h.stays_of hwritable
      (fun hstarted hzero => absurd hzero (hplace hstarted.window hstarted.limit).1) ?_
    rintro hlimit hfits (hzero | ⟨horder, htop⟩)
    · exact (hplace (hwindow hfits) hlimit).1 hzero
    · exact (hplace (hwindow hfits) hlimit).2 horder htop hfits
  · exact fun hmistaken =>
      h.not_stays_of_fits hwritable hlimit (hwindow hfits) hmistaken hfits (hall _ fun _ => rfl)
  · refine h.stays_of hwritable (fun _ _ m => ?_) hplace
    rw [PortEnv.passes, hpasses, hpasses]
    rfl

set_option maxRecDepth 100000 in
/-- A BAR at 0x10001000, and a second window. -/
theorem reassigned_iff_page : ∃ t,
    assignUnconfiguredBar32 (busMachine deviceWritable (portsWith fun _ => false)) 3 0 0 0x10000800
      0x20000000 (deviceStart 0) = .ret true t ∧
    (∀ env', Stays deviceWritable env' 3 0 0 0x30000000 0x40000000 t) ∧
    ∀ env', (∀ i, env'.fails i = false) →
      Stays deviceWritable env' 3 0 0 0x30000000 0x40000000 t := by
  have hreturned : ((assignUnconfiguredBar32 (busMachine deviceWritable (portsWith fun _ => false))
      3 0 0 0x10000800 0x20000000 (deviceStart 0)).returned.map (·.1)) = some true := by
    decide +kernel
  obtain ⟨t, ht⟩ := Res.exists_of_returned hreturned
  have hbar : (pageBar false).At deviceWritable (deviceStart 0).machine.registers
      (barAddress 3 0 0) := ⟨by decide, by decide⟩
  exact ⟨t, ht,
    (reassigned_iff hbar ht).1.mpr fun _ _ => ⟨by decide, fun h => absurd h (by decide)⟩,
    (reassigned_iff hbar ht).2.mpr fun _ _ => by decide⟩

set_option maxRecDepth 100000 in
/-- A BAR assigned at 0 is assigned again, at 0x10000000. -/
theorem assigned_at_zero_moved :
    (pageBar false).At deviceWritable (deviceStart 0).machine.registers (barAddress 3 0 0) ∧
    ∃ t, assignUnconfiguredBar32 (busMachine deviceWritable (portsWith fun _ => false)) 3 0 0 0
        0x1000 (deviceStart 0) = .ret true t ∧
      t.machine.registers (barAddress 3 0 0) = 0 ∧
      ∃ u, assignUnconfiguredBar32 (busMachine deviceWritable (portsWith fun _ => false)) 3 0 0
          0x10000000 0x20000000 t = .ret true u ∧
        u.machine.registers (barAddress 3 0 0) = 0x10000000 ∧
        ¬ Stays deviceWritable (portsWith fun _ => false) 3 0 0 0x10000000 0x20000000 t := by
  have hbar : (pageBar false).At deviceWritable (deviceStart 0).machine.registers
      (barAddress 3 0 0) := ⟨by decide, by decide⟩
  have hfirst : ((assignUnconfiguredBar32 (busMachine deviceWritable (portsWith fun _ => false))
      3 0 0 0 0x1000 (deviceStart 0)).returned.map (·.1)) = some true := by
    decide +kernel
  obtain ⟨t, ht⟩ := Res.exists_of_returned hfirst
  have h := programmed_of_assigned hbar ht
  have hsecond : ((assignUnconfiguredBar32 (busMachine deviceWritable (portsWith fun _ => false))
      3 0 0 0 0x1000 (deviceStart 0)).returned.bind fun p =>
        (assignUnconfiguredBar32 (busMachine deviceWritable (portsWith fun _ => false)) 3 0 0
          0x10000000 0x20000000 p.2).returned.map (·.1)) = some true := by
    decide +kernel
  rw [ht] at hsecond
  obtain ⟨u, hu⟩ := Res.exists_of_returned (Option.bind_some _ _ ▸ hsecond)
  refine ⟨hbar, t, ht, h.value.trans (by decide), u, hu,
    (programmed_of_assigned (h.at_bar hbar.writable) hu).value.trans (by decide), ?_⟩
  exact h.not_stays_of_fits hbar.writable (by decide) (by decide) (.inl rfl) (by decide)

end SeLinOS.Pci
