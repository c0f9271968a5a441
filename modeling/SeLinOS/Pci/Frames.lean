import SeLinOS.Pci.PageBound

/-!
# The frame of the common configuration

The functions that map the common configuration take the frame of the page in which it starts. The
validation tests that the bytes of the capability are in the BAR: `frames_in_bar_iff` is when the
whole page is in it too, and `small_bar` a BAR that a validation accepts and that is smaller than
the page.

* `CommonUser`: the functions.
* `PageInBar`, `page_in_bar_iff`: the BARs that contain the page.
-/

namespace SeLinOS.Pci

open CLogic Sel4 Prog

variable {ε : Type} {env : Env} {range : CommonRange} {notifyRange : NotifyRange}

/-- The functions that map the page of the common configuration. -/
inductive CommonUser where
  | features
  | stage (kind : StageKind)
  deriving Repr, DecidableEq

/-- The log of a call. -/
def CommonUser.log (env : Env) (range : CommonRange) (notifyRange : NotifyRange)
    (record : Record) : CommonUser → List Event
  | features => logOf (observeFeatures env range (.enter record))
  | stage kind => kind.log env range notifyRange record

/-- A frame that is taken for the common configuration is in the BAR. -/
def Event.FrameIn (barPaddr barSize : Nat) : Event → Prop
  | .allocFrameAt .common paddr true =>
    barPaddr ≤ paddr.toNat ∧ paddr.toNat + pageSize.toNat ≤ barPaddr + barSize
  | _ => True

/-! ## Runs -/

theorem CommonUser.log_frames (user : CommonUser) (record : Record) {paddr : Word} {ok : Bool}
    (h : .allocFrameAt .common paddr ok ∈ user.log env range notifyRange record) :
    paddr = range.pagePaddr := by
  cases user with
  | features =>
    exact log_follows_of_keeps (steady_within range notifyRange _).keeps_observeFeatures record _ h
  | stage kind => exact kind.log_follows record _ h

/-- The kernel grants a frame, and nothing after it. -/
def grudging : Env := fun n => ⟨n == 0, false, 0⟩

/-- The frame of the common configuration is taken. -/
def Taken (range : CommonRange) (s : Stage) : Prop :=
  .allocFrameAt .common range.pagePaddr true ∈ s.log

theorem steady_taken (range : CommonRange) (notifyRange : NotifyRange) :
    Steady range notifyRange (VIRTIO_COMMON_DEVICE_STATUS_OFF + 1) (Taken range) where
  same s s' hlog _ _ h := by rwa [Taken, hlog]
  append s e _ h := List.mem_append_left _ h
  address s s' _ hlog _ _ _ h := by rwa [Taken, hlog]
  located _ h := h

theorem wp_taken {s : Stage} (hs : s.asked = 0) {Q : Bool → Stage → Prop} {E : ε → Stage → Prop}
    (hQ : ∀ s', s'.asked = 1 → Taken range s' → Q true s') :
    wp (allocFrameAt grudging .common range.pagePaddr) Q E s := by
  refine wp_bind (wp_of_run (show ask grudging s = _ from rfl) ?_)
  have hok : (grudging s.asked).ok = true := by
    rw [hs]
    rfl
  rw [hok]
  refine wp_bind (wp_modify (wp_bind (wp_when (fun _ => wp_modify ?_) fun h => absurd rfl h)))
  exact wp_pure (hQ _ (congrArg (· + 1) hs) (List.mem_append_right _ (List.mem_singleton.mpr rfl)))

/-- The kernel does not map it. -/
theorem wp_mapPage_grudging {s : Stage} {p : Prog Unit Stage Unit} {Q : Unit → Stage → Prop}
    (hs : s.asked = 1) (h : Taken range s) :
    wp (mapPage grudging .common >>= fun _ => p) Q (fun _ => Taken range) s := by
  have hok : (grudging s.asked).ok = false := by
    rw [hs]
    rfl
  refine wp_bind (wp_bind (wp_of_run (show ask grudging s = _ from rfl) (wp_bind (wp_modify ?_))))
  refine wp_bind (wp_modify (wp_bind (wp_when (fun _ => wp_ret ?_) fun hn => ?_)))
  · exact List.mem_append_left _ h
  · rw [hok] at hn
    exact absurd (not_not.mp hn).1 Bool.noConfusion

theorem taken_commonStage {valid : Prop} [Decidable valid] {body : Prog Unit Stage Unit}
    (hvalid : valid) (record : Record) :
    wp (commonStage grudging range valid body) (fun _ => Taken range) (fun _ => Taken range)
      (.enter record) := by
  refine wp_ite (fun hn => absurd hvalid hn) fun _ => wp_bind (wp_taken rfl fun s hasked hs => ?_)
  refine wp_ite (fun hn => absurd rfl hn) fun _ => wp_label ?_
  refine wp_mono (wp_mapPage_grudging hasked hs) (fun _ _ h => False.elim h) ?_
  have hsteady := steady_taken range (.beside range)
  exact fun _ s' hs' => hsteady.keeps_releaseCommon (Nat.le_refl _) s' hs'

theorem taken_layoutStage {valid : Prop} [Decidable valid] {body : Prog Unit Stage Unit}
    {out : Prog Exit Stage Unit} (hvalid : valid) (hout : Keeps (Taken range) out)
    (record : Record) :
    wp (layoutStage grudging range valid body out) (fun _ => Taken range) (fun _ => Taken range)
      (.enter record) := by
  refine wp_ite (fun hn => absurd hvalid hn) fun _ => wp_bind (wp_taken rfl fun s hasked hs => ?_)
  refine wp_ite (fun hn => absurd rfl hn) fun _ => wp_label (wp_bind ?_)
  have hok : (grudging s.asked).ok = false := by
    rw [hasked]
    rfl
  refine wp_bind (wp_of_run (show ask grudging s = _ from rfl) (wp_bind (wp_modify ?_)))
  refine wp_bind (wp_when (fun _ => wp_ret (hout _ (List.mem_append_left _ hs))) fun hn => ?_)
  rw [hok] at hn
  exact absurd (not_not.mp hn) Bool.noConfusion

section Taken

variable (hsane : range.Sane) (hlength : 0x38 ≤ range.capability.length.toNat)

include hsane hlength

theorem StageKind.taken (kind : StageKind) (record : Record) :
    .allocFrameAt .common range.pagePaddr true ∈
      kind.log grudging range (.beside range) record := by
  have hsteady := steady_taken range (.beside range)
  have hlayout := hsteady.keeps_releaseLayout (Nat.le_refl _)
  have hmatches : (NotifyRange.beside range).Matches range := ⟨rfl, rfl, rfl⟩
  have hbeside := NotifyRange.beside_sane hsane
  have hend : ∀ {n : Nat}, n ≤ 0x38 → n ≤ range.capability.length.toNat :=
    fun hn => Nat.le_trans hn hlength
  refine logOf_of_wp (P := fun log => .allocFrameAt .common range.pagePaddr true ∈ log) ?_
  cases kind with
  | zeroFeatures => exact taken_commonStage ⟨hsane, hend (by decide)⟩ record
  | driverReadyReset => exact taken_commonStage ⟨hsane, hend (by decide)⟩ record
  | queueZero => exact taken_commonStage ⟨hsane, hend (by decide)⟩ record
  | queueLayout => exact taken_layoutStage ⟨hsane, hlength, by decide⟩ hlayout record
  | queueEnableReset => exact taken_layoutStage ⟨hsane, hlength, by decide⟩ hlayout record
  | queueZeroNotification =>
    exact taken_commonStage ⟨hsane, hbeside, hmatches, hend (by decide)⟩ record
  | zeroDescriptorNotificationReset =>
    exact taken_layoutStage ⟨hsane, hbeside, hmatches, hlength, hend (by decide)⟩
      (hsteady.keeps_releaseNotification (Nat.le_refl _)) record

theorem CommonUser.taken (user : CommonUser) (record : Record) :
    .allocFrameAt .common range.pagePaddr true ∈
      user.log grudging range (.beside range) record := by
  cases user with
  | stage kind => exact kind.taken hsane hlength record
  | features =>
    refine logOf_of_wp (P := fun log => .allocFrameAt .common range.pagePaddr true ∈ log) ?_
    refine wp_ite (fun hn => absurd hsane hn) fun _ => wp_bind (wp_taken rfl fun s hasked hs => ?_)
    refine wp_ite (fun hn => absurd rfl hn) fun _ => wp_label ?_
    refine wp_mono (wp_mapPage_grudging hasked hs) (fun _ _ h => False.elim h) ?_
    have hsteady := steady_taken range (.beside range)
    have hout : Keeps (Taken range) releaseFeatures :=
      (hsteady.keeps_unmapPage _).bind fun _ => (hsteady.keeps_freeReservation _).bind fun _ =>
        (hsteady.keeps_freeFrame _).bind fun _ => Steady.keeps_returnSuccess
    exact fun _ s' hs' => hout s' hs'

end Taken

/-! ## The page and the BAR -/

/-- A BAR of `barSize` bytes at `barPaddr` contains the page of a capability at `offset`: it has at
least a page, and it starts with one, or the capability starts neither in the page in which the BAR
starts nor in the one in which it ends. -/
def PageInBar (barPaddr barSize offset : Nat) : Prop :=
  pageSize.toNat ≤ barSize ∧ (barPaddr % pageSize.toNat = 0 ∨
    pageSize.toNat ≤ barPaddr % pageSize.toNat + offset ∧
      barPaddr % pageSize.toNat + offset < barSize)

instance (barPaddr barSize offset : Nat) : Decidable (PageInBar barPaddr barSize offset) :=
  instDecidableAnd

/-- The size of a BAR is a power of two: it is a multiple of the page, or smaller. -/
theorem page_in_bar_iff {barPaddr offset k : Nat} (hoffset : offset < 2 ^ k) :
    barPaddr ≤ (barPaddr + offset) / pageSize.toNat * pageSize.toNat ∧
      (barPaddr + offset) / pageSize.toNat * pageSize.toNat + pageSize.toNat ≤
        barPaddr + 2 ^ k ↔ PageInBar barPaddr (2 ^ k) offset := by
  have hsize : pageSize.toNat = 4096 := rfl
  unfold PageInBar
  rw [hsize]
  rcases Nat.lt_or_ge k 12 with hk | hk
  · have hlt : 2 ^ k < 2 ^ 12 := Nat.pow_lt_pow_right Nat.one_lt_two hk
    omega
  · obtain ⟨pages, hpages⟩ := Nat.pow_dvd_pow 2 hk
    omega

/-- **The frame in the BAR**: with a range that a validation has accepted, the frames that a
function takes for the common configuration, whatever the kernel and the device answer, are in the
BAR exactly when the BAR contains the page in which the capability starts. -/
theorem frames_in_bar_iff {δ : Type} (m : Machine δ) (capability : CommonCapability)
    (start finish : Sizing δ) (user : CommonUser)
    (h : validateCommonRange m capability start = .ret true finish) :
    (∀ (env : Env) (notifyRange : NotifyRange) (record : Record),
      ∀ e ∈ user.log env finish.range notifyRange record,
        e.FrameIn finish.range.barPaddr.toNat finish.range.barSize.toNat) ↔
    PageInBar finish.range.barPaddr.toNat finish.range.barSize.toNat capability.offset.toNat := by
  obtain ⟨hsane, hcapability, hlength⟩ := wp_ret_of (validateCommonRange_wp start) h rfl
  obtain ⟨k, -, hk⟩ := wp_ret_of (validateCommonRange_powerSized start) h rfl
  have hpage := hsane.pagePaddr_eq
  have hin := hsane.lengthIn
  have hle := hsane.offsetIn
  rw [hcapability] at hpage hin hle
  have hoffset : capability.offset.toNat < 2 ^ k := by
    have hmin : VIRTIO_COMMON_CFG_MIN_LENGTH.toNat = 0x38 := rfl
    simp only [BitVec.le_def, BitVec.toNat_setWidth, BitVec.toNat_sub, hk, hmin] at hlength hin hle
    omega
  rw [hk, ← page_in_bar_iff hoffset, ← hpage]
  refine ⟨fun hall => ?_, fun hpageIn env notifyRange record e he => ?_⟩
  · rw [← hcapability] at hlength
    exact hall _ _ _ _ (user.taken hsane hlength default)
  · unfold Event.FrameIn
    split
    · rw [user.log_frames record he]
      exact hpageIn
    · trivial

theorem frames_in_bar_aligned :
    validateCommonRange (oneBar 0xffffc000) (blkCapability 0x1000) blkStart =
      .ret true (blkFinish 0x1000) ∧
    ∀ (env : Env) (notifyRange : NotifyRange) (record : Record),
      ∀ e ∈ CommonUser.log env (blkRange 0x1000) notifyRange record (.stage .queueLayout),
        e.FrameIn 0xfe000000 0x4000 := by
  have hvalid : validateCommonRange (oneBar 0xffffc000) (blkCapability 0x1000) blkStart =
      .ret true (blkFinish 0x1000) := by decide +kernel
  exact ⟨hvalid, (frames_in_bar_iff _ _ _ _ (.stage .queueLayout) hvalid).mpr (by decide)⟩

/-- The range of a capability at the start of a BAR of 0x80 bytes at 0xfe000080. -/
def smallRange : CommonRange := ⟨blkCapability 0, 0xfe000080, 0x80, 0xfe000080, 0xfe000000, 0x80⟩

/-- A BAR of 0x80 bytes is accepted, and the frame starts before it and ends behind it. -/
theorem small_bar :
    validateCommonRange (oneBar 0xffffff80) (blkCapability 0)
        (.enter ⟨0, 6, 0xfe000080⟩ smallRange) =
      .ret true ⟨⟨0x80000804, 6, 0xfe000080⟩, smallRange, 6, 0xfe000080, 0, true, true, true⟩ ∧
    .allocFrameAt .common 0xfe000000 true ∈
      CommonUser.log (willing []) smallRange (.beside smallRange) default .features ∧
    ¬ (Event.allocFrameAt .common 0xfe000000 true).FrameIn 0xfe000080 0x80 := by
  refine ⟨by decide +kernel, by decide +kernel, fun h => ?_⟩
  exact absurd h.1 (by decide)

end SeLinOS.Pci
