import SeLinOS.Pci.Steady

/-!
# The notification address

The address to which queue zero is notified is the start of the notification capability plus an
offset of the device times a multiplier. The stages that use it compute it with 64-bit words, and
subtract sizes and addresses in their tests.

* `NotifyRange.Exact`: the address is what the exact arithmetic gives.
* `NotifyRange.Framed`: the page of the address lies in the capability, and has both bytes of the
  write.
* `notification_exact`: what a run records, maps and writes to.
-/

namespace SeLinOS.Pci

open CLogic Sel4 Prog

variable {env : Env} {range : CommonRange} {notifyRange : NotifyRange}

/-- `paddr` is the address of the offset in exact arithmetic, in the capability with the byte behind
it. -/
structure NotifyRange.Exact (notifyRange : NotifyRange) (queueNotifyOff : Nat) (paddr : Word) :
    Prop where
  product : (notifyRange.relative queueNotifyOff).toNat =
    queueNotifyOff * notifyRange.capability.notifyOffMultiplier.toNat
  sum : paddr.toNat = notifyRange.notificationCapPaddr.toNat +
    queueNotifyOff * notifyRange.capability.notifyOffMultiplier.toNat
  fits : paddr.toNat + 2 ≤
    notifyRange.notificationCapPaddr.toNat + notifyRange.capability.length.toNat

/-- The page `base` of `paddr` lies in the capability, and has both bytes at `paddr`: no subtraction
of the tests of the page is below zero. -/
structure NotifyRange.Framed (notifyRange : NotifyRange) (paddr base : Word) : Prop where
  start : notifyRange.notificationCapPaddr.toNat ≤ base.toNat
  finish : base.toNat + pageSize.toNat ≤
    notifyRange.notificationCapPaddr.toNat + notifyRange.capability.length.toNat
  le : base.toNat ≤ paddr.toNat
  bytes : paddr.toNat + 2 ≤ base.toNat + pageSize.toNat

/-! ## The arithmetic -/

theorem NotifyRange.toNat_relative (notifyRange : NotifyRange) {queueNotifyOff : Nat}
    (h : queueNotifyOff < 2 ^ (8 * 2)) :
    (notifyRange.relative queueNotifyOff).toNat =
      queueNotifyOff * notifyRange.capability.notifyOffMultiplier.toNat := by
  have hmultiplier := notifyRange.capability.notifyOffMultiplier.isLt
  have hlt : queueNotifyOff * notifyRange.capability.notifyOffMultiplier.toNat < 2 ^ 64 :=
    Nat.lt_of_lt_of_le (Nat.mul_lt_mul'' h hmultiplier) (by decide)
  rw [relative, BitVec.toNat_mul, BitVec.toNat_ofNat, BitVec.toNat_setWidth,
    Nat.mod_eq_of_lt (show queueNotifyOff < 2 ^ 64 by omega),
    Nat.mod_eq_of_lt (show notifyRange.capability.notifyOffMultiplier.toNat < 2 ^ 64 by omega),
    Nat.mod_eq_of_lt hlt]

theorem Addressed.exact {log : List Event} {queueNotifyOff : Nat}
    (h : Addressed range notifyRange log queueNotifyOff) :
    notifyRange.Exact queueNotifyOff (notifyRange.address queueNotifyOff) := by
  have hproduct := notifyRange.toNat_relative h.lt
  obtain ⟨hsum, hlength, hroom⟩ := h.reaches
  have hmax : UINTPTR_MAX.toNat = 2 ^ 64 - 1 := rfl
  have htwo : (2 : Word).toNat = 2 := rfl
  -- each subtraction is safe by the test before it
  rw [BitVec.le_def, BitVec.toNat_sub_of_le (by rw [BitVec.le_def, hmax]; omega), hmax] at hsum
  rw [BitVec.le_def, BitVec.toNat_sub_of_le hlength, htwo] at hroom
  rw [BitVec.le_def] at hlength
  simp only [BitVec.toNat_setWidth] at hlength hroom
  have hpaddr : (notifyRange.address queueNotifyOff).toNat =
      notifyRange.notificationCapPaddr.toNat + (notifyRange.relative queueNotifyOff).toNat := by
    rw [NotifyRange.address, BitVec.toNat_add, Nat.mod_eq_of_lt (by omega)]
  refine ⟨hproduct, by rw [hpaddr, hproduct], ?_⟩
  rw [hpaddr]
  omega

theorem NotifyRange.PageIn.framed {paddr : Word} (h : notifyRange.PageIn paddr) :
    notifyRange.Framed paddr (pageBase paddr) := by
  obtain ⟨hsize, hstart, hbytes, hfinish⟩ := h
  have hle : pageBase paddr ≤ paddr := by
    rw [BitVec.le_def, pageBase, BitVec.toNat_and]
    exact Nat.and_le_left
  have htwo : (pageSize - 2).toNat = 4094 := rfl
  have hpage : pageSize.toNat = 4096 := rfl
  rw [BitVec.le_def, BitVec.toNat_sub_of_le hle, htwo] at hbytes
  rw [BitVec.le_def, BitVec.toNat_sub_of_le hstart, BitVec.toNat_sub_of_le hsize] at hfinish
  rw [BitVec.le_def] at hsize hstart hle
  simp only [BitVec.toNat_setWidth] at hsize hfinish
  constructor <;> omega

/-! ## Runs -/

/-- The events of a run are those of a stage, and the notification address of its record is the one
of the caller or that of an offset of the device. -/
def Noted (range : CommonRange) (notifyRange : NotifyRange) (last : Nat) (record : Record)
    (s : Stage) : Prop :=
  Within range notifyRange last s ∧
    (s.record.notificationPaddr = record.notificationPaddr ∨
      ∃ queueNotifyOff, Addressed range notifyRange s.log queueNotifyOff ∧
        s.record.notificationPaddr = notifyRange.address queueNotifyOff)

theorem steady_noted (range : CommonRange) (notifyRange : NotifyRange) (last : Nat)
    (record : Record) :
    Steady range notifyRange last (Noted range notifyRange last record) where
  same s s' hlog haddress hcommon := by
    rintro ⟨hwithin, hrecord⟩
    refine ⟨(steady_within range notifyRange last).same s s' hlog haddress hcommon hwithin, ?_⟩
    rw [hlog, haddress]
    exact hrecord
  append s e he := by
    rintro ⟨hwithin, hrecord⟩
    refine ⟨(steady_within range notifyRange last).append s e he hwithin, hrecord.imp_right ?_⟩
    rintro ⟨queueNotifyOff, haddressed, hpaddr⟩
    exact ⟨queueNotifyOff, haddressed.mono (List.subset_append_left _ _), hpaddr⟩
  address s s' queueNotifyOff hlog haddressed haddress hcommon := by
    rintro ⟨hwithin, -⟩
    have hsteady := steady_within range notifyRange last
    refine ⟨hsteady.address s s' _ hlog haddressed haddress hcommon hwithin, .inr ?_⟩
    rw [hlog]
    exact ⟨queueNotifyOff, haddressed, haddress⟩
  located _ h := h

/-- **The notification address**: a stage comes to an end, whatever the kernel and the device
answer; if that is the store through NULL, the log is the one before it. The address that it
records, the page that it takes for the notification and the place to which it writes are those of
an offset that the device has given, in exact arithmetic. -/
theorem notification_exact (kind : StageKind) (env : Env) (range : CommonRange)
    (notifyRange : NotifyRange) (record : Record) :
    ∃ s, (kind.run env range notifyRange (.enter record)).final = some s ∧
      (s.record.notificationPaddr = record.notificationPaddr ∨ ∃ queueNotifyOff,
        range.gives queueNotifyOff ∈ s.log ∧
        notifyRange.Exact queueNotifyOff s.record.notificationPaddr) ∧
      (∀ base ok, .allocFrameAt .notification base ok ∈ s.log → ∃ queueNotifyOff paddr,
        range.gives queueNotifyOff ∈ s.log ∧ notifyRange.Exact queueNotifyOff paddr ∧
        notifyRange.Framed paddr base) ∧
      ∀ place width value, .write .notification place width value ∈ s.log →
        ∃ queueNotifyOff paddr base, range.gives queueNotifyOff ∈ s.log ∧
          notifyRange.Exact queueNotifyOff paddr ∧ notifyRange.Framed paddr base ∧
          .allocFrameAt .notification base true ∈ s.log ∧ base.toNat + place = paddr.toNat ∧
          width = 2 := by
  have hstart : Noted range notifyRange kind.registersEnd record (.enter record) :=
    ⟨fun e he => (by cases he), .inl rfl⟩
  have hkeeps : Keeps (Noted range notifyRange kind.registersEnd record)
      (kind.run env range notifyRange) :=
    kind.keeps (steady_noted range notifyRange kind.registersEnd record)
  obtain ⟨s, hs, hwithin, hrecord⟩ := exists_final (hkeeps _ hstart)
  refine ⟨s, hs, hrecord.imp_right ?_, fun base ok he => ?_, fun place width value he => ?_⟩
  · rintro ⟨queueNotifyOff, haddressed, hpaddr⟩
    exact ⟨queueNotifyOff, haddressed.given, hpaddr ▸ haddressed.exact⟩
  · obtain ⟨queueNotifyOff, haddressed, hpage, rfl⟩ := hwithin _ he
    exact ⟨queueNotifyOff, _, haddressed.given, haddressed.exact, hpage.framed⟩
  · obtain ⟨queueNotifyOff, haddressed, hpage, halloc, rfl, hwidth⟩ := hwithin _ he
    refine ⟨queueNotifyOff, _, _, haddressed.given, haddressed.exact, hpage.framed, halloc, ?_,
      hwidth⟩
    have hle := hpage.framed.le
    rw [BitVec.toNat_sub_of_le hle]
    omega

end SeLinOS.Pci
