import SeLinOS.Pci.Assign

/-!
# The range of the e1000 BAR

`readE1000BarRange` on a bus with a 32-bit memory BAR 0, where any I/O-port operations may fail.

* `Sized`: what holds where the transaction is left, `sizeE1000Bar_wp`.
* `Cleaned`: what holds during the cleanup, `restoreE1000Bar_wp`.
* `readE1000BarRange_restores`: what the function leaves in the registers.
-/

namespace SeLinOS.Pci

open CLogic Prog Sel4

variable {writable R : BitVec 32 → BitVec 32} {env : PortEnv} {device function : BitVec 32}
  {bar : MemoryBar32} {slot : Word} {identity : E1000Identity} {n : Nat}

/-- A write of the BAR 0 or of the lower half of the command and status register. -/
def SizingWrite (device function : BitVec 32) : ConfigWrite → Prop
  | .dword register _ => register = barAddress device function 0
  | .word register upper _ => register = commandAddress device function ∧ upper = false

/-- The range of the BAR. -/
def barRange (bar : MemoryBar32) (value : BitVec 32) : Bar32Resource :=
  ⟨(value &&& PCI_BAR_MEMORY_MASK).zeroExtend 64, BitVec.ofNat 64 (2 ^ bar.order), 0⟩

/-- The transaction can be left in `t`, at operation `n`. `R` are the registers before it and `W`
the writes. -/
structure Sized (writable R : BitVec 32 → BitVec 32) (W : List ConfigWrite)
    (device function : BitVec 32) (bar : MemoryBar32) (t : BarTransaction Bus) : Prop where
  registers : ∃ x, t.machine.registers =
    if t.barTouched then probedRegisters writable R device function 0 x
    else if t.commandChanged then quietRegisters writable R device function else R
  writes : ∃ W', t.machine.writes = W ++ W' ∧ ∀ w ∈ W', SizingWrite device function w
  changed : t.barTouched = true → t.commandChanged = true
  originalCommand : t.commandChanged = true →
    t.originalCommand = halfOf false (R (commandAddress device function))
  originalBar : t.barTouched = true → t.originalBar = R (barAddress device function 0)
  success : t.success = true →
    t.resource = barRange bar (R (barAddress device function 0)) ∧
      (R (barAddress device function 0) &&& PCI_BAR_MEMORY_MASK).toNat + 2 ^ bar.order ≤ 2 ^ 32

section Exits

variable {W W' : List ConfigWrite} {b : Bus} {resource : Bar32Resource} {command : BitVec 16}
  {original x : BitVec 32}

theorem Sized.start (hb : b.At n R W) :
    Sized writable R W device function bar ⟨b, resource, command, original, false, false, false⟩ :=
  ⟨⟨0, hb.registers⟩, ⟨[], by simp [hb.writes], by simp⟩, nofun, nofun, nofun, nofun⟩

theorem Sized.quiet (hb : b.At n (quietRegisters writable R device function) (W ++ W'))
    (hW : ∀ w ∈ W', SizingWrite device function w) :
    Sized writable R W device function bar ⟨b, resource,
      halfOf false (R (commandAddress device function)), original, true, false, false⟩ :=
  ⟨⟨0, hb.registers⟩, ⟨W', hb.writes, hW⟩, nofun, fun _ => rfl, nofun, nofun⟩

theorem Sized.probed (hb : b.At n (probedRegisters writable R device function 0 x) (W ++ W'))
    (hW : ∀ w ∈ W', SizingWrite device function w) :
    Sized writable R W device function bar ⟨b, resource,
      halfOf false (R (commandAddress device function)), R (barAddress device function 0), true,
      true, false⟩ :=
  ⟨⟨x, hb.registers⟩, ⟨W', hb.writes, hW⟩, fun _ => rfl, fun _ => rfl, fun _ => rfl, nofun⟩

end Exits

/-- The transaction before its end. -/
theorem sizeE1000Bar_wp {W : List ConfigWrite}
    (hbar : bar.At writable R (barAddress identity.device identity.function 0))
    {b : Bus} (hb : b.At n R W) {resource : Bar32Resource} :
    wp (sizeE1000Bar (busMachine writable env) identity slot)
      (fun _ t => Sized writable R W identity.device identity.function bar t)
      (fun _ t => Sized writable R W identity.device identity.function bar t)
      (.enter b resource) := by
  obtain ⟨device, function, vendorId, deviceId⟩ := identity
  have hindex : (0 : BitVec 32) < PCI_BAR_COUNT := by decide
  unfold sizeE1000Bar
  rw [show PCI_BAR0_OFF = barOffset 0 from rfl]
  -- The identity and the registers.
  refine wp_bind (wp_readDword hb rfl (fun _ b hb => ?_) fun _ b hb => .start hb)
  refine wp_bind (wp_unlessOut (fun _ => ?_) fun _ => .start hb)
  refine wp_bind (wp_readWord hb rfl (fun _ b hb => ?_) fun _ b hb => .start hb)
  rw [commandHalf]
  refine wp_bind (wp_modify (wp_bind (wp_readDword hb rfl (fun _ b hb => ?_) fun _ b hb =>
    .start hb)))
  refine wp_bind (wp_modify (wp_bind (wp_unlessOut (fun _ => ?_) fun _ => .start hb)))
  -- Memory decoding and bus mastering are turned off.
  refine wp_bind (wp_writeWord hb (fun _ b hb => ?_) fun _ b hb => .start hb)
  rw [commandHalf] at hb
  have hquiesce : ∀ w ∈ [quiesceWrite R (commandAddress device function)],
      SizingWrite device function w := by
    intro w hw
    obtain rfl := List.mem_singleton.mp hw
    exact ⟨rfl, rfl⟩
  -- The BAR is sized.
  refine wp_bind (wp_modify (wp_bind (wp_writeDword hb (fun _ b hb => ?_) fun _ b hb =>
    .quiet hb hquiesce)))
  rw [List.append_assoc] at hb
  have hprobe : ∀ w ∈ [quiesceWrite R (commandAddress device function)] ++
      [.dword (barAddress device function 0) 0xffffffff], SizingWrite device function w :=
    List.forall_mem_append.mpr ⟨hquiesce, List.forall_mem_singleton.mpr rfl⟩
  have hsizing : probedRegisters writable R device function 0 0xffffffff
      (barAddress device function 0) = bar.attributes ||| bar.mask :=
    (probedRegisters_bar _ hindex).trans hbar.sizing
  refine wp_bind (wp_modify (wp_bind (wp_readDword hb hsizing (fun _ b hb => ?_) fun _ b hb =>
    .probed hb hprobe)))
  refine wp_bind (wp_writeDword hb (fun _ b hb => ?_) fun _ b hb => .probed hb hprobe)
  have hb := hb.of_eq (probedRegisters_again _ _)
  rw [List.append_assoc] at hb
  have hrestore := List.forall_mem_append.mpr ⟨hprobe, List.forall_mem_singleton.mpr
    (show SizingWrite device function (.dword (barAddress device function 0)
      (R (barAddress device function 0))) from rfl)⟩
  refine wp_bind (wp_readDword hb rfl (fun _ b hb => ?_) fun _ b hb => .probed hb hrestore)
  refine wp_bind (wp_unlessOut (fun _ => ?_) fun _ => .probed hb hrestore)
  have hb := hb.of_eq (probedRegisters_original hindex)
  -- The size.
  obtain ⟨hspace, htype, hmask⟩ := bar.sizing_eq
  obtain ⟨hsize, hne, hpow⟩ := bar.barSize64_mask
  refine wp_bind (wp_modify (wp_bind (wp_unlessOut (fun _ => ?_) fun _ => .quiet hb hrestore)))
  refine wp_bind (wp_unlessOut (fun _ => ?_) fun _ => .quiet hb hrestore)
  refine wp_bind (wp_unlessOut (fun hend => ?_) fun _ => .quiet hb hrestore)
  refine wp_modify ⟨⟨0, hb.registers⟩, ⟨_, hb.writes, hrestore⟩, nofun, fun _ => rfl, nofun,
    fun _ => ⟨?_, ?_⟩⟩
  · show (⟨_, barSize64 _, 0⟩ : Bar32Resource) = barRange bar _
    rw [hmask, hsize, barRange, ← toNat_size, BitVec.ofNat_toNat, BitVec.setWidth_eq]
    rfl
  · have hroom := hend.2.2.2
    have hpow := order_bounds bar
    have hlimit : PCI_32BIT_ADDRESS_LIMIT.toNat = 2 ^ 32 := by decide
    have hfits : BitVec.twoPow 64 bar.order ≤ PCI_32BIT_ADDRESS_LIMIT := by
      rw [BitVec.le_def, toNat_size, hlimit]
      omega
    rw [hmask, hsize, BitVec.le_def, BitVec.toNat_sub_of_le hfits, toNat_size, hlimit,
      BitVec.toNat_setWidth] at hroom
    rw [Nat.mod_eq_of_lt (Nat.lt_of_lt_of_le (BitVec.isLt _) (by decide))] at hroom
    exact Nat.add_le_of_le_sub (by omega) hroom

/-! ## The cleanup -/

/-- A write with its check: it is made, or an operation has failed and the call does not succeed.
The value that is read back does not matter for this. -/
theorem restoreVerified_wp {ε α : Type} [DecidableEq α] {write : Bus → Bool × Bus}
    {read : Bus → Option α × Bus} {original : α} {w : ConfigWrite} {t : BarTransaction Bus}
    {Q : Unit → BarTransaction Bus → Prop} {E : ε → BarTransaction Bus → Prop}
    (hwrite : ∀ b, write b = (env.passes b.operations, if env.passes b.operations then
      (b.touch env w.register).store writable w else b.touch env w.register))
    (hread : ∀ b, ∃ v, read b =
      (if env.passes b.operations then some v else none, b.touch env w.register))
    (h : ∀ (b : Bus) success, t.machine.operations ≤ b.operations →
      (success = true → t.success = true) →
      (b.registers = w.apply writable t.machine.registers ∨ success = false ∧
        ∃ i, t.machine.operations ≤ i ∧ i < b.operations ∧ env.fails i = true) →
      (b.writes = t.machine.writes ∨ b.writes = t.machine.writes ++ [w]) →
      Q () { t with machine := b, success }) :
    wp (restoreVerified write read original) Q E t := by
  unfold restoreVerified
  have hle := env.le_after t.machine.operations
  cases hp : env.passes t.machine.operations with
  | false =>
    have hw := hwrite t.machine
    simp only [hp, Bool.false_eq_true, if_false] at hw
    refine wp_bind (wp_access hw (wp_modify ?_))
    exact h _ false hle.1.le nofun (.inr ⟨rfl, PortEnv.exists_fails hp⟩) (.inl rfl)
  | true =>
    have hw := hwrite t.machine
    simp only [hp, if_true] at hw
    obtain ⟨v, hr⟩ := hread ((t.machine.touch env w.register).store writable w)
    refine wp_bind (wp_access hw (wp_bind (wp_access hr ?_)))
    generalize hd : (t.machine.touch env w.register).store writable w = d
    have hle' := env.le_after d.operations
    have hd' : d.operations = env.after t.machine.operations := by rw [← hd]; rfl
    cases hp' : env.passes d.operations with
    | true =>
      have hregisters : (d.touch env w.register).registers =
          w.apply writable t.machine.registers := by
        rw [← hd]
        rfl
      have hwrites : (d.touch env w.register).writes = t.machine.writes ++ [w] := by
        rw [← hd]
        rfl
      have hoperations : t.machine.operations ≤ (d.touch env w.register).operations := by
        show _ ≤ env.after d.operations
        omega
      refine wp_when (fun _ => wp_modify ?_) fun _ => ?_
      · exact h _ false hoperations nofun (.inl hregisters) (.inr hwrites)
      · exact h _ t.success hoperations id (.inl hregisters) (.inr hwrites)
    | false =>
      refine wp_when (fun _ => wp_modify ?_) fun hne => absurd nofun hne
      refine h _ false ?_ nofun (.inr ⟨rfl, ?_⟩) (.inr ?_)
      · show _ ≤ env.after d.operations
        omega
      · obtain ⟨i, hi, hlt, hf⟩ := PortEnv.exists_fails hp'
        exact ⟨i, by omega, hlt, hf⟩
      · rw [← hd]; rfl

/-- The state `u` of the cleanup that starts in `t`, where the registers `X` are due. -/
structure Cleaning (env : PortEnv) (W : List ConfigWrite) (device function : BitVec 32)
    (X : BitVec 32 → BitVec 32) (t u : BarTransaction Bus) : Prop where
  registers : u.machine.registers = X ∨ u.success = false ∧
    ∃ i, t.machine.operations ≤ i ∧ i < u.machine.operations ∧ env.fails i = true
  writes : ∃ W', u.machine.writes = W ++ W' ∧ ∀ w ∈ W', SizingWrite device function w
  operations : t.machine.operations ≤ u.machine.operations
  success : u.success = true → t.success = true
  resource : u.resource = t.resource

/-- A step of the cleanup, where a write with its check makes the registers `X'` of `X`. -/
theorem Cleaning.next {W : List ConfigWrite} {X X' : BitVec 32 → BitVec 32}
    {t u : BarTransaction Bus} {w : ConfigWrite} (h : Cleaning env W device function X t u)
    (hX : w.apply writable X = X') (hw : SizingWrite device function w) {b : Bus} {success : Bool}
    (hle : u.machine.operations ≤ b.operations) (hsuccess : success = true → u.success = true)
    (hregisters : b.registers = w.apply writable u.machine.registers ∨ success = false ∧
      ∃ i, u.machine.operations ≤ i ∧ i < b.operations ∧ env.fails i = true)
    (hwrites : b.writes = u.machine.writes ∨ b.writes = u.machine.writes ++ [w]) :
    Cleaning env W device function X' t { u with machine := b, success } := by
  obtain ⟨W', hW, hall⟩ := h.writes
  refine ⟨?_, ?_, h.operations.trans hle, fun hs => h.success (hsuccess hs), h.resource⟩
  · rcases hregisters with hb | ⟨hs, i, hi, hlt, hf⟩
    · rcases h.registers with hu | ⟨hs, i, hi, hlt, hf⟩
      · exact .inl (by rw [hb, hu, hX])
      · refine .inr ⟨?_, i, hi, hlt.trans_le hle, hf⟩
        cases hcase : success with
        | false => rfl
        | true => exact nomatch (hsuccess hcase).symm.trans hs
    · exact .inr ⟨hs, i, h.operations.trans hi, hlt, hf⟩
  · rcases hwrites with hb | hb
    · exact ⟨W', hb.trans hW, hall⟩
    · refine ⟨W' ++ [w], ?_, List.forall_mem_append.mpr ⟨hall, List.forall_mem_singleton.mpr hw⟩⟩
      rw [← List.append_assoc, ← hW]
      exact hb

theorem restoreE1000Bar_wp {W : List ConfigWrite} {t : BarTransaction Bus}
    (h : Sized writable R W identity.device identity.function bar t) :
    wp (restoreE1000Bar (busMachine writable env) identity slot) (fun _ _ => False)
      (fun success u => success = u.success ∧
        Cleaning env W identity.device identity.function R t u) t := by
  have hindex : (0 : BitVec 32) < PCI_BAR_COUNT := by decide
  unfold restoreE1000Bar
  rw [show PCI_BAR0_OFF = barOffset 0 from rfl]
  refine wp_bind (wp_get ?_)
  have hstart : Cleaning env W identity.device identity.function t.machine.registers t t :=
    ⟨.inl rfl, h.writes, Nat.le_refl _, id, rfl⟩
  -- The BAR.
  refine wp_seq (Q := fun _ u => u.commandChanged = t.commandChanged ∧
    u.originalCommand = t.originalCommand ∧ Cleaning env W identity.device identity.function
      (if t.commandChanged then quietRegisters writable R identity.device identity.function else R)
      t u) (E := fun _ _ => False) (wp_when (fun htouched => ?_) fun htouched => ?_)
    (fun _ _ h => h.elim) ?_
  · obtain ⟨x, hx⟩ := h.registers
    rw [if_pos htouched] at hx
    have hback : (ConfigWrite.dword (barAddress identity.device identity.function 0)
        (R (barAddress identity.device identity.function 0))).apply writable t.machine.registers =
        quietRegisters writable R identity.device identity.function := by
      rw [hx, probedRegisters_again, probedRegisters_original hindex]
    rw [h.originalBar htouched, h.changed htouched, if_pos rfl]
    refine restoreVerified_wp (w := .dword (barAddress identity.device identity.function 0)
      (R (barAddress identity.device identity.function 0)))
      (fun b => writeConfigDword_bus) (fun b => ⟨_, readConfigDword_bus⟩)
      fun b success hle hsuccess hregisters hwrites => ⟨(h.changed htouched), rfl, ?_⟩
    exact hstart.next hback rfl hle hsuccess hregisters hwrites
  · obtain ⟨x, hx⟩ := h.registers
    rw [if_neg htouched] at hx
    exact ⟨rfl, rfl, hx ▸ hstart⟩
  rintro - u ⟨hchanged, hcommand, hu⟩
  -- The command register.
  refine wp_seq (Q := fun _ v => Cleaning env W identity.device identity.function R t v)
    (E := fun _ _ => False) (wp_when (fun hc => ?_) fun hc => ?_) (fun _ _ h => h.elim) ?_
  · rw [h.originalCommand hc]
    rw [hc, if_pos rfl] at hu
    refine restoreVerified_wp (w := .word (commandAddress identity.device identity.function) false
      (halfOf false (R (commandAddress identity.device identity.function))))
      (fun b => writeConfigWord_bus) (fun b => ⟨_, readConfigWord_bus⟩)
      fun b success hle hsuccess hregisters hwrites => ?_
    exact hu.next commandBack_quiet ⟨rfl, rfl⟩ hle hsuccess hregisters hwrites
  · rwa [if_neg hc] at hu
  · rintro - v hv
    refine wp_bind (wp_modify (wp_bind (wp_get (wp_ret ⟨rfl, ?_⟩))))
    simpa only [releaseConfigIoport_bus] using hv

/-! ## The function -/

/-- The state in which the cleanup phase of a call starts, if it has one. -/
def e1000Cleanup {δ : Type} (m : Machine δ) (identity : E1000Identity) (s : BarTransaction δ) :
    Option (BarTransaction δ) :=
  if identity.device ≥ 32 ∨ identity.function ≥ 8 ∨
      identity.vendorId ≠ SELINOS_QEMU_E1000_VENDOR_ID ∨
      identity.deviceId ≠ SELINOS_QEMU_E1000_DEVICE_ID then
    none
  else
    (acquireConfigIoport m s.machine).1.bind fun slot =>
      (sizeE1000Bar m identity slot
        (.enter (acquireConfigIoport m s.machine).2 s.resource)).final

/-- What a call from `s` leaves in `t`, with its cleanup phase from the state `cleanup` on. -/
structure RangeOutcome (env : PortEnv) (bar : MemoryBar32) (identity : E1000Identity)
    (cleanup : Option (BarTransaction Bus)) (s : BarTransaction Bus) (success : Bool)
    (t : BarTransaction Bus) : Prop where
  succeeds : success = true → t.machine.registers = s.machine.registers ∧
    t.resource = barRange bar
      (s.machine.registers (barAddress identity.device identity.function 0)) ∧
    (s.machine.registers (barAddress identity.device identity.function 0) &&&
      PCI_BAR_MEMORY_MASK).toNat + 2 ^ bar.order ≤ 2 ^ 32
  fails : success = false →
    (∀ u, cleanup = some u → ∀ i, u.machine.operations ≤ i → i < t.machine.operations →
      env.fails i = false) → t.machine.registers = s.machine.registers
  writes : ∃ W, t.machine.writes = s.machine.writes ++ W ∧
    ∀ w ∈ W, SizingWrite identity.device identity.function w

/-- **The e1000 BAR range**, with any I/O-port errors: a call that succeeds gives the range of the
BAR, which ends in the 32-bit address space; all registers are then as they were, and also where
the call fails and no operation of its cleanup does; only the BAR 0 and the command half of the
command and status register are ever written. -/
theorem readE1000BarRange_restores {s : BarTransaction Bus}
    (hbar : bar.At writable s.machine.registers
      (barAddress identity.device identity.function 0)) :
    ∃ success t, readE1000BarRange (busMachine writable env) identity s = .ret success t ∧
      RangeOutcome env bar identity (e1000Cleanup (busMachine writable env) identity s) s
        success t := by
  refine exists_returns ?_
  unfold readE1000BarRange
  refine wp_bind (wp_modify (wp_ite (fun _ => wp_ret ?_) fun hguard => ?_))
  · exact ⟨nofun, fun _ _ => rfl, [], (List.append_nil _).symm, by simp⟩
  refine wp_bind ?_
  obtain ⟨slot, hacquire⟩ := acquireConfigIoport_bus writable env s.machine
  refine wp_access hacquire ?_
  cases hcase : env.acquires s.machine.operations with
  | false =>
    exact wp_ret ⟨nofun, fun _ _ => rfl, [], (List.append_nil _).symm, by simp⟩
  | true =>
    rw [hcase] at hacquire
    have hcleanup : e1000Cleanup (busMachine writable env) identity s =
        (sizeE1000Bar (busMachine writable env) identity slot
          (.enter s.machine s.resource)).final := by
      rw [e1000Cleanup, if_neg hguard, hacquire]
      rfl
    have hend : ∀ t, Sized writable s.machine.registers s.machine.writes identity.device
        identity.function bar t ∧ (sizeE1000Bar (busMachine writable env) identity slot
          (.enter s.machine s.resource)).final = some t →
        wp (restoreE1000Bar (busMachine writable env) identity slot) (fun _ _ => False)
          (RangeOutcome env bar identity
            (e1000Cleanup (busMachine writable env) identity s) s) t := by
      rintro t ⟨ht, hfinal⟩
      refine wp_mono (restoreE1000Bar_wp ht) (fun _ _ h => h) ?_
      rintro success u ⟨rfl, hu⟩
      refine ⟨fun hsuccess => ?_, fun _ hall => ?_, hu.writes⟩
      · rcases hu.registers with hregisters | ⟨hfalse, -⟩
        · rw [hu.resource]
          exact ⟨hregisters, ht.success (hu.success hsuccess)⟩
        · exact nomatch hsuccess.symm.trans hfalse
      · rcases hu.registers with hregisters | ⟨-, i, hi, hlt, hfails⟩
        · exact hregisters
        · exact nomatch hfails.symm.trans (hall t (hcleanup.trans hfinal) i hi hlt)
    have hat : s.machine.At s.machine.operations s.machine.registers s.machine.writes :=
      ⟨rfl, rfl, rfl⟩
    exact wp_label (wp_mono (wp_final (sizeE1000Bar_wp hbar hat)) (fun _ => hend) fun _ => hend)

/-- Device 3 is the e1000, with a BAR of 4096 bytes. -/
def e1000Identity : E1000Identity :=
  ⟨3, 0, SELINOS_QEMU_E1000_VENDOR_ID, SELINOS_QEMU_E1000_DEVICE_ID⟩

def e1000Bus : Bus :=
  { deviceBus 0xfeb80000 with
    registers := Function.update (deviceBus 0xfeb80000).registers
      (configAddress 3 0 PCI_VENDOR_DEVICE_OFF) 0x100e8086 }

def e1000Start : BarTransaction Bus := .enter e1000Bus ⟨0, 0, 0⟩

/-- The call where these operations fail, and where its cleanup phase starts. -/
def e1000Call (fails : Nat → Bool) : Res Bool (BarTransaction Bus) Unit :=
  readE1000BarRange (busMachine deviceWritable (portsWith fails)) e1000Identity e1000Start

def e1000CallCleanup (fails : Nat → Bool) : Option (BarTransaction Bus) :=
  e1000Cleanup (busMachine deviceWritable (portsWith fails)) e1000Identity e1000Start

/-- The call that ends at operation `last`, with its cleanup phase from operation `first` on. -/
def E1000Ends (fails : Nat → Bool) (success : Bool) (first last : Nat) : Prop :=
  (e1000CallCleanup fails).map (·.machine.operations) = some first ∧
    ∃ t, e1000Call fails = .ret success t ∧ t.machine.operations = last ∧
      RangeOutcome (portsWith fails) (pageBar false) e1000Identity (e1000CallCleanup fails)
        e1000Start success t

theorem e1000Ends {fails : Nat → Bool} {success : Bool} {first last : Nat}
    (hcleanup : (e1000CallCleanup fails).map (·.machine.operations) = some first)
    (hrun : (e1000Call fails).returned.map (fun r => (r.1, r.2.machine.operations)) =
      some (success, last))
    (houtcome : ∃ success t, e1000Call fails = .ret success t ∧
      RangeOutcome (portsWith fails) (pageBar false) e1000Identity (e1000CallCleanup fails)
        e1000Start success t) : E1000Ends fails success first last := by
  obtain ⟨success', t, hret, hend⟩ := houtcome
  rw [hret] at hrun
  obtain ⟨rfl, hlast⟩ := Prod.mk.inj (Option.some.inj hrun)
  exact ⟨hcleanup, t, hret, hlast, hend⟩

set_option maxRecDepth 100000 in
/-- A call without errors, one where the read of the sizing mask fails, and one where the last
operation of the cleanup phase fails. -/
theorem readE1000BarRange_restores_page :
    E1000Ends (fun _ => false) true 16 20 ∧ E1000Ends (· == 10) false 11 19 ∧
      E1000Ends (· == 19) false 16 20 := by
  have hbar : (pageBar false).At deviceWritable e1000Start.machine.registers
      (barAddress 3 0 0) := ⟨by decide, by decide⟩
  exact ⟨e1000Ends (by decide +kernel) (by decide +kernel) (readE1000BarRange_restores hbar),
    e1000Ends (by decide +kernel) (by decide +kernel) (readE1000BarRange_restores hbar),
    e1000Ends (by decide +kernel) (by decide +kernel) (readE1000BarRange_restores hbar)⟩

end SeLinOS.Pci
