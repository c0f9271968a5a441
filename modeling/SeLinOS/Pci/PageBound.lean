import SeLinOS.Pci.Steady

/-!
# The registers in the mapped page

A stage maps one page, the one in which the common configuration starts, and uses its registers
there. The validation tests only that the registers of the feature observation are in the page:
`accesses_in_page_iff` is what the other stages need, and `straddling_status` a capability that a
validation accepts and whose status register is not in the page.

* `Takes`, `Stops`: the parts of a run with a device that gives fixed values.
* `StageKind.reaches`: a device with which the stage uses its last register.
-/

namespace SeLinOS.Pci

open CLogic Sel4 Prog

variable {ε : Type} {env : Env} {range : CommonRange}

/-- A notification range of the same function and BAR. -/
def NotifyRange.beside (range : CommonRange) : NotifyRange where
  capability := ⟨range.capability.identity, 0, range.capability.barIndex, 0,
    VIRTIO_NOTIFY_CFG_MIN_LENGTH, 1⟩
  barPaddr := range.barPaddr
  barSize := 0x14
  notificationCapPaddr := range.barPaddr

theorem NotifyRange.beside_sane (h : range.Sane) : (NotifyRange.beside range).Sane where
  identity := h.identity
  barIndex := h.barIndex
  length := BitVec.le_refl _
  multiplier := show (1 : BitVec 32) ≠ 0 by decide
  bar := ⟨h.bar.1, show (0x14 : Word) ≠ 0 by decide⟩
  le := BitVec.le_refl _
  offset := BitVec.sub_self _
  offsetIn := show (0 : BitVec 32).zeroExtend 64 ≤ (0x14 : Word) by decide
  lengthIn := show VIRTIO_NOTIFY_CFG_MIN_LENGTH.zeroExtend 64 ≤
    (0x14 : Word) - (0 : BitVec 32).zeroExtend 64 by decide

/-! ## A run that uses the last register -/

/-- There has been an access that ends at `n`. -/
def Touched (n : Nat) (s : Stage) : Prop := ∃ e ∈ s.log, e.commonEnd = n

theorem steady_touched (range : CommonRange) (notifyRange : NotifyRange) (last n : Nat) :
    Steady range notifyRange last (Touched n) where
  same s s' hlog _ _ h := by rwa [Touched, hlog]
  append s x _ := by
    rintro ⟨e, he, hn⟩
    exact ⟨e, List.mem_append_left _ he, hn⟩
  address s s' _ hlog _ _ _ h := by rwa [Touched, hlog]
  located _ h := h

theorem touched_readCommon {off width : Nat} {s : Stage} {E : ε → Stage → Prop} :
    wp (readCommon env range off width)
      (fun _ => Touched (range.pageOffset.toNat + (off + width))) E s :=
  wp_bind (wp_of_run (show ask env s = _ from rfl) (wp_bind (wp_modify (wp_pure
    ⟨_, List.mem_append_right _ (List.mem_singleton.mpr rfl), Nat.add_assoc _ _ _⟩))))

/-- The kernel grants everything, and the device gives the values in their order. -/
def willing (values : List Word) : Env := fun n => ⟨true, true, values.getD n 0⟩

/-- `p` takes `n` answers and falls through. -/
def Takes (n : Nat) {α : Type} (p : Prog Unit Stage α) (P : α → Prop) (s : Stage) : Prop :=
  wp p (fun a s' => P a ∧ s'.asked = s.asked + n) (fun _ _ => False) s

/-- `p` goes to `out`, with an access that ends at `n`. -/
def Stops (n : Nat) {α : Type} (p : Prog Unit Stage α) (s : Stage) : Prop :=
  wp p (fun _ _ => False) (fun _ => Touched n) s

section Willing

variable {values : List Word} {s : Stage} {n : Nat}

theorem Takes.seq {k : Nat} {α β : Type} {p : Prog Unit Stage α} {P : α → Prop}
    {f : α → Prog Unit Stage β} {Q : β → Stage → Prop} {E : Unit → Stage → Prop}
    (hp : Takes k p P s) (hf : ∀ a s', P a → s'.asked = s.asked + k → wp (f a) Q E s') :
    wp (p >>= f) Q E s :=
  wp_seq hp (fun _ _ h => h.elim) fun a s' h => hf a s' h.1 h.2

theorem Stops.bind {α β : Type} {p : Prog Unit Stage α} {f : α → Prog Unit Stage β}
    (hp : Stops n p s) : Stops n (p >>= f) s :=
  wp_seq hp (fun _ _ h => h) fun _ _ h => h.elim

theorem stops_orOut {c : Prop} [Decidable c] (hs : Touched n s) (hc : ¬ c) : Stops n (orOut c) s :=
  wp_when (fun _ => wp_ret hs) fun h => absurd (not_not.mp h) hc

theorem takes_mapPage (page : Page) : Takes 2 (mapPage (willing values) page) (fun _ => True) s :=
  wp_of_run (show mapPage _ _ s = .ok () _ from rfl) ⟨trivial, rfl⟩

theorem takes_readCommon (off width : Nat) :
    Takes 1 (readCommon (willing values) range off width)
      (· = (values.getD s.asked 0).toNat % 2 ^ (8 * width)) s :=
  wp_of_run (show readCommon _ _ _ _ s = .ok _ _ from rfl) ⟨rfl, rfl⟩

/-- A register that is not read back as it should be, after the access that counts. -/
theorem stops_readCommon {off width expected : Nat} (hs : Touched n s)
    (hne : (values.getD s.asked 0).toNat % 2 ^ (8 * width) ≠ expected) :
    wp (readCommon (willing values) range off width : Prog Unit Stage Nat)
      (fun observed s' => Stops n (orOut (observed = expected)) s') (fun _ => Touched n) s := by
  have hsteady := steady_touched range (.beside range) (off + width) n
  have hkeeps : Keeps (Touched n)
      (readCommon (willing values) range off width : Prog Unit Stage Nat) :=
    hsteady.keeps_readCommon (Nat.le_refl _)
  refine wp_mono (wp_and (takes_readCommon off width) (hkeeps s hs)) ?_ fun _ _ h => h.2
  rintro observed s' ⟨⟨rfl, -⟩, hs'⟩
  exact stops_orOut hs' hne

theorem takes_setStatus {status : Nat}
    (h : (values.getD s.asked 0).toNat % 2 ^ (8 * 1) = status) :
    Takes 1 (setStatus (willing values) range status) (fun _ => True) s := by
  refine wp_bind (wp_bind (wp_modify (wp_mono (takes_readCommon _ _) ?_ fun _ _ h => h)))
  rintro a s' ⟨rfl, hs'⟩
  exact wp_when (fun hn => absurd h hn) fun _ => ⟨trivial, hs'⟩

/-- The status register is used even if the device does nothing. -/
theorem stops_startDriver
    (h : ∀ i < 2, (values.getD (s.asked + i) 0).toNat % 2 ^ (8 * 1) = 0) :
    Stops (range.pageOffset.toNat + (VIRTIO_COMMON_DEVICE_STATUS_OFF + 1))
      (startDriver (willing values) range) s := by
  refine (takes_setStatus (h 0 (by decide))).seq fun _ s₁ _ h₁ => Stops.bind ?_
  have hsame : ∀ s₂ : Stage, s₂.asked = s₁.asked →
      (values.getD s₂.asked 0).toNat % 2 ^ (8 * 1) ≠ VIRTIO_STATUS_ACKNOWLEDGE := by
    intro s₂ h₂
    rw [h₂, h₁, h 1 (by decide)]
    decide
  refine wp_bind (wp_bind (wp_modify (stops_readCommon ?_ (hsame _ rfl))))
  exact ⟨_, List.mem_append_right _ (List.mem_singleton.mpr rfl), Nat.add_assoc _ _ _⟩

/-- The values that the status register has to give. -/
def statusValues : List Nat :=
  [0, VIRTIO_STATUS_ACKNOWLEDGE, VIRTIO_STATUS_ACKNOWLEDGE ||| VIRTIO_STATUS_DRIVER, featuresOk,
    driverOk]

theorem takes_startDevice
    (h : ∀ i < 5, (values.getD (s.asked + i) 0).toNat % 2 ^ (8 * 1) = statusValues.getD i 0) :
    Takes 5 (startDevice (willing values) range) (fun _ => True) s := by
  unfold startDevice startDriver Takes
  refine wp_bind ?_
  refine (takes_setStatus (h 0 (by decide))).seq fun _ s₁ _ h₁ => ?_
  refine (takes_setStatus (by rw [h₁]; exact h 1 (by decide))).seq fun _ s₂ _ h₂ => ?_
  refine wp_mono (takes_setStatus (s := s₂) (by rw [h₂, h₁]; exact h 2 (by decide))) ?_
    fun _ _ h => h.elim
  rintro _ s₃ ⟨-, h₃⟩
  refine (takes_setStatus (by rw [h₃, h₂, h₁]; exact h 3 (by decide))).seq fun _ s₄ _ h₄ => ?_
  refine wp_mono (takes_setStatus (by rw [h₄, h₃, h₂, h₁]; exact h 4 (by decide))) ?_
    fun _ _ h => h
  rintro _ s₅ ⟨-, h₅⟩
  exact ⟨trivial, by omega⟩

theorem takes_zeroLayout : Takes 0 zeroLayout (fun _ => True) s := by
  refine wp_mono (wp_forUp (fun _ s' => s'.asked = s.asked) 0 _ s rfl ?_)
    (fun _ _ h => ⟨trivial, h⟩) fun _ _ h => h
  exact fun i s' _ _ h => wp_modify h

theorem takes_layoutFrame (h : values.getD s.asked 0 = 0x1000) :
    Takes 5 (layoutFrame (willing values)) (· = 0x1000) s := by
  unfold layoutFrame Takes
  refine wp_bind (wp_of_run (show ask _ s = _ from rfl) (wp_bind (wp_modify ?_)))
  rw [show (willing values s.asked).value = 0x1000 from h]
  refine wp_bind (wp_when (fun hn => absurd (by decide) hn) fun _ => wp_bind (wp_modify ?_))
  refine wp_bind (wp_when (fun hn => absurd (by decide) hn) fun _ => ?_)
  refine (takes_mapPage _).seq fun _ s₁ _ h₁ => (takes_mapPage _).seq fun _ s₂ _ h₂ => ?_
  refine takes_zeroLayout.seq fun _ s₃ _ h₃ => wp_bind (wp_modify (wp_pure ⟨rfl, ?_⟩))
  rw [h₃, h₂, h₁]

theorem takes_readRings
    (h : ∀ i < 4, (values.getD (s.asked + i) 0).toNat % 2 ^ (8 * 2) = 0) :
    Takes 4 (readRings (willing values)) (· = [0, 0, 0, 0]) s := by
  have hread : ∀ (i place : Nat) (s' : Stage), i < 4 → s'.asked = s.asked + i →
      Takes 1 (read (willing values) .layout place 2) (· = 0) s' := by
    intro i place s' hi hs'
    refine wp_of_run (show read _ _ _ _ s' = .ok _ _ from rfl) ⟨?_, rfl⟩
    show (values.getD s'.asked 0).toNat % 2 ^ (8 * 2) = 0
    rw [hs']
    exact h i hi
  unfold readRings Takes
  refine (hread 0 _ s (by decide) rfl).seq fun a s₁ ha h₁ => ?_
  refine (hread 1 _ s₁ (by decide) h₁).seq fun b s₂ hb h₂ => ?_
  refine (hread 2 _ s₂ (by decide) (by omega)).seq fun c s₃ hc h₃ => ?_
  refine (hread 3 _ s₃ (by decide) (by omega)).seq fun d s₄ hd h₄ => wp_pure ⟨?_, by omega⟩
  rw [ha, hb, hc, hd]

theorem takes_notificationFrame (h : values.getD s.asked 0 = 0x1000)
    (hrings : ∀ i < 4, (values.getD (s.asked + 5 + i) 0).toNat % 2 ^ (8 * 2) = 0) :
    Takes 9 (notificationFrame (willing values)) (· = 0x1000) s := by
  unfold notificationFrame Takes
  refine wp_bind (wp_of_run (show ask _ s = _ from rfl) (wp_bind (wp_modify ?_)))
  rw [show (willing values s.asked).value = 0x1000 from h]
  refine wp_bind (wp_when (fun hn => absurd (by decide) hn) fun _ => ?_)
  refine (takes_mapPage _).seq fun _ s₁ _ h₁ => (takes_mapPage _).seq fun _ s₂ _ h₂ => ?_
  refine takes_zeroLayout.seq fun _ s₃ _ h₃ => ?_
  replace h₃ : s₃.asked = s.asked + 5 := by rw [h₃, h₂, h₁]
  refine (takes_readRings (by rw [h₃]; exact hrings)).seq fun _ s₄ hring h₄ => ?_
  refine wp_bind (wp_modify (wp_bind (wp_when (fun hn => absurd hring hn) fun _ => ?_)))
  exact wp_bind (wp_modify (wp_pure ⟨rfl, by rw [h₄, h₃]⟩))

/-- The queue registers are used once the programmed size is read back. -/
theorem stops_programQueue {framePaddr : Word}
    (hsize : (values.getD s.asked 0).toNat % 2 ^ (8 * 2) = VIRTIO_COMMON_QUEUE_LAYOUT_SIZE)
    (hdesc : (values.getD (s.asked + 1) 0).toNat % 2 ^ (8 * 4) ≠
      lo (framePaddr + VIRTIO_SPLIT_DESC_OFFSET)) :
    Stops (range.pageOffset.toNat + VIRTIO_COMMON_QUEUE_LAYOUT_END)
      (programQueue (willing values) range framePaddr) s := by
  unfold programQueue
  refine wp_bind (wp_modify ((takes_readCommon _ _).seq fun a s₁ ha h₁ => ?_))
  refine wp_bind (wp_modify (wp_bind (wp_when (fun hn => absurd (ha.trans hsize) hn) fun _ => ?_)))
  iterate 6 refine wp_bind (wp_modify ?_)
  refine wp_bind (wp_mono (stops_readCommon ?_ ?_) (fun _ _ h => h.bind) fun _ _ h => h)
  · exact ⟨_, List.mem_append_right _ (List.mem_singleton.mpr rfl), Nat.add_assoc _ _ _⟩
  · show (values.getD s₁.asked 0).toNat % 2 ^ (8 * 4) ≠ _
    rw [h₁]
    exact hdesc

/-- What the device gives for a stage that programs the queue: the status values, the selected
queue, its size, that it is not enabled. -/
structure QueueReady (values : List Word) (n : Nat) : Prop where
  status : ∀ i < 5, (values.getD (n + i) 0).toNat % 2 ^ (8 * 1) = statusValues.getD i 0
  select : (values.getD (n + 5) 0).toNat % 2 ^ (8 * 2) = VIRTIO_COMMON_QUEUE_ZERO
  maximum : (values.getD (n + 6) 0).toNat % 2 ^ (8 * 2) ≠ 0
  enable : (values.getD (n + 7) 0).toNat % 2 ^ (8 * 2) = 0

/-- The start of a stage with a layout frame stops as its queue does. -/
theorem stops_layoutQueue {framePaddr : Word} (hready : QueueReady values s.asked)
    (hsize : (values.getD (s.asked + 8) 0).toNat % 2 ^ (8 * 2) = VIRTIO_COMMON_QUEUE_LAYOUT_SIZE)
    (hdesc : (values.getD (s.asked + 9) 0).toNat % 2 ^ (8 * 4) ≠
      lo (framePaddr + VIRTIO_SPLIT_DESC_OFFSET)) :
    Stops (range.pageOffset.toNat + VIRTIO_COMMON_QUEUE_LAYOUT_END)
      (layoutQueue (willing values) range framePaddr) s := by
  unfold layoutQueue
  refine (takes_startDevice hready.status).seq fun _ s₁ _ h₁ => wp_bind (wp_modify ?_)
  refine (takes_readCommon _ _).seq fun a s₂ ha h₂ => ?_
  refine (takes_readCommon _ _).seq fun b s₃ hb h₃ => ?_
  refine (takes_readCommon _ _).seq fun c s₄ hc h₄ => wp_bind (wp_modify (wp_bind ?_))
  replace h₂ : s₂.asked = s.asked + 5 + 1 := h₂.trans (by rw [h₁])
  have hqueue : a = VIRTIO_COMMON_QUEUE_ZERO ∧ b ≠ 0 ∧ c = 0 := by
    refine ⟨?_, ?_, ?_⟩
    · rw [ha, h₁]
      exact hready.select
    · rw [hb, h₂]
      exact hready.maximum
    · rw [hc, h₃, h₂]
      exact hready.enable
  replace h₄ : s₄.asked = s.asked + 8 := by rw [h₄, h₃, h₂]
  refine wp_when (fun hn => absurd hqueue hn) fun _ => stops_programQueue ?_ ?_
  · show (values.getD s₄.asked 0).toNat % 2 ^ (8 * 2) = _
    rw [h₄]
    exact hsize
  · show (values.getD (s₄.asked + 1) 0).toNat % 2 ^ (8 * 4) ≠ _
    rw [h₄]
    exact hdesc

theorem stops_commonStage {valid : Prop} [Decidable valid] {body : Prog Unit Stage Unit}
    (hvalid : valid) (hbody : ∀ s' : Stage, s'.asked = s.asked + 3 → Stops n body s') :
    wp (commonStage (willing values) range valid body) (fun _ => Touched n) (fun _ => Touched n)
      s := by
  have hsteady : Steady range (.beside range) (VIRTIO_COMMON_DEVICE_STATUS_OFF + 1) (Touched n) :=
    steady_touched _ _ _ _
  unfold commonStage
  refine wp_ite (fun hn => absurd hvalid hn) fun _ => ?_
  refine wp_bind (wp_of_run (show allocFrameAt _ _ _ s = .ok true _ from rfl) ?_)
  refine wp_ite (fun hn => absurd rfl hn) fun _ => wp_label ?_
  refine (takes_mapPage _).seq fun _ s' _ h' => wp_bind (wp_modify ?_)
  refine wp_mono (hbody _ h') (fun _ _ h => h.elim) ?_
  exact fun _ t ht => hsteady.keeps_releaseCommon (Nat.le_refl _) t ht

theorem stops_layoutStage {valid : Prop} [Decidable valid] {body : Prog Unit Stage Unit}
    {out : Prog Exit Stage Unit} (hvalid : valid) (hout : Keeps (Touched n) out)
    (hbody : ∀ s' : Stage, s'.asked = s.asked + 2 → Stops n body s') :
    wp (layoutStage (willing values) range valid body out) (fun _ => Touched n)
      (fun _ => Touched n) s := by
  unfold layoutStage
  refine wp_ite (fun hn => absurd hvalid hn) fun _ => ?_
  refine wp_bind (wp_of_run (show allocFrameAt _ _ _ s = .ok true _ from rfl) ?_)
  refine wp_ite (fun hn => absurd rfl hn) fun _ => wp_label ?_
  refine wp_bind (wp_of_run (show allocFrame _ _ _ = .ok () _ from rfl) ?_)
  exact wp_mono (hbody _ rfl) (fun _ _ h => h.elim) fun _ t ht => hout t ht

end Willing

/-- The values of a device that does what the stage asks until it has used its last register. -/
def StageKind.values : StageKind → List Word
  | zeroFeatures | driverReadyReset => []
  | queueZero | queueZeroNotification => [0, 0, 0, 0, 1, 3, 0xb, 0xf]
  | queueLayout | queueEnableReset => [0, 0, 0x1000, 0, 0, 0, 0, 0, 1, 3, 0xb, 0xf, 0, 1, 0, 1]
  | zeroDescriptorNotificationReset =>
    [0, 0, 0x1000, 0, 0, 0, 0, 0, 0, 0, 0, 0, 1, 3, 0xb, 0xf, 0, 1, 0, 0, 1]

/-- In all runs with such a device the stage has used its last register. -/
def StageKind.Reaches (kind : StageKind) (range : CommonRange) : Prop :=
  ∀ record, wp (kind.run (willing kind.values) range (.beside range))
    (fun _ => Touched (range.pageOffset.toNat + kind.registersEnd))
    (fun _ => Touched (range.pageOffset.toNat + kind.registersEnd)) (.enter record)

/-- The two stages with a layout frame of their own stop in the queue registers. -/
theorem stops_layout {s : Stage} {rest : Word → Prog Unit Stage Unit} (hs : s.asked = 2) :
    Stops (range.pageOffset.toNat + VIRTIO_COMMON_QUEUE_LAYOUT_END) (do
      let framePaddr ← layoutFrame (willing StageKind.queueLayout.values)
      layoutQueue (willing StageKind.queueLayout.values) range framePaddr
      rest framePaddr) s := by
  refine (takes_layoutFrame (by rw [hs]; rfl)).seq fun framePaddr s₁ hframe h₁ => Stops.bind ?_
  replace h₁ : s₁.asked = 7 := h₁.trans (by rw [hs])
  rw [hframe]
  refine stops_layoutQueue ?_ (by rw [h₁]; decide) (by rw [h₁]; decide)
  rw [h₁]
  exact ⟨by decide, by decide, by decide, by decide⟩

section Reaches

variable (hsane : range.Sane) (hlength : 0x38 ≤ range.capability.length.toNat)

include hsane hlength

theorem reaches_zeroFeatures : StageKind.zeroFeatures.Reaches range := by
  intro record
  refine stops_commonStage ⟨hsane, Nat.le_trans (by decide) hlength⟩ fun s _ => ?_
  exact (stops_startDriver fun i _ => by simp [StageKind.values]).bind

theorem reaches_driverReadyReset : StageKind.driverReadyReset.Reaches range := by
  intro record
  refine stops_commonStage ⟨hsane, Nat.le_trans (by decide) hlength⟩ fun s _ => ?_
  exact (stops_startDriver fun i _ => by simp [StageKind.values]).bind

theorem reaches_queueZero : StageKind.queueZero.Reaches range := by
  intro record
  refine stops_commonStage ⟨hsane, Nat.le_trans (by decide) hlength⟩ fun s hs => ?_
  replace hs : s.asked = 3 := hs
  refine (takes_startDevice (by rw [hs]; decide)).seq fun _ s₁ _ h₁ => wp_bind (wp_modify ?_)
  refine (takes_readCommon _ _).seq fun _ s₂ _ h₂ => ?_
  replace h₂ : s₂.asked = 9 := h₂.trans (by rw [show _ = _ from h₁, hs])
  -- the device has no queue
  refine wp_seq (wp_and (takes_readCommon _ _) touched_readCommon) (fun _ _ h => h.2) ?_
  rintro queueSize s₃ ⟨⟨hsize, -⟩, ht⟩
  refine wp_bind (wp_modify (Stops.bind (stops_orOut (by exact ht) ?_)))
  exact fun h => h.2 (hsize.trans (by rw [h₂]; rfl))

theorem reaches_queueLayout : StageKind.queueLayout.Reaches range := by
  intro record
  have hsteady := steady_touched range (.beside range) VIRTIO_COMMON_QUEUE_LAYOUT_END
    (range.pageOffset.toNat + VIRTIO_COMMON_QUEUE_LAYOUT_END)
  exact stops_layoutStage ⟨hsane, hlength, by decide⟩ (hsteady.keeps_releaseLayout (by decide))
    fun _ hs => stops_layout hs

theorem reaches_queueEnableReset : StageKind.queueEnableReset.Reaches range := by
  intro record
  have hsteady := steady_touched range (.beside range) VIRTIO_COMMON_QUEUE_LAYOUT_END
    (range.pageOffset.toNat + VIRTIO_COMMON_QUEUE_LAYOUT_END)
  exact stops_layoutStage ⟨hsane, hlength, by decide⟩ (hsteady.keeps_releaseLayout (by decide))
    fun _ hs => stops_layout hs

theorem reaches_queueZeroNotification : StageKind.queueZeroNotification.Reaches range := by
  intro record
  refine stops_commonStage ⟨hsane, NotifyRange.beside_sane hsane, ⟨rfl, rfl, rfl⟩,
    Nat.le_trans (by decide) hlength⟩ fun s hs => ?_
  replace hs : s.asked = 3 := hs
  refine (takes_startDevice (by rw [hs]; decide)).seq fun _ s₁ _ h₁ => wp_bind (wp_modify ?_)
  refine (takes_readCommon _ _).seq fun _ s₂ _ h₂ => ?_
  replace h₂ : s₂.asked = 9 := h₂.trans (by rw [show _ = _ from h₁, hs])
  refine (takes_readCommon _ _).seq fun maximumQueueSize s₃ hsize h₃ => ?_
  refine wp_seq touched_readCommon (fun _ _ h => h) fun _ s₄ ht => ?_
  refine wp_bind (wp_modify (Stops.bind (stops_orOut (by exact ht) ?_)))
  exact fun h => h.2.1 (hsize.trans (by rw [h₂]; rfl))

theorem reaches_zeroDescriptorNotificationReset :
    StageKind.zeroDescriptorNotificationReset.Reaches range := by
  intro record
  have hsteady := steady_touched range (.beside range) VIRTIO_COMMON_QUEUE_LAYOUT_END
    (range.pageOffset.toNat + VIRTIO_COMMON_QUEUE_LAYOUT_END)
  refine stops_layoutStage ⟨hsane, NotifyRange.beside_sane hsane, ⟨rfl, rfl, rfl⟩, hlength,
    Nat.le_trans (by decide) hlength⟩ (hsteady.keeps_releaseNotification (by decide))
    fun s hs => ?_
  replace hs : s.asked = 2 := hs
  refine (takes_notificationFrame (by rw [hs]; rfl) (by rw [hs]; decide)).seq
    fun framePaddr s₄ hframe h₄ => ?_
  replace h₄ : s₄.asked = 11 := by rw [h₄, hs]
  rw [hframe]
  -- the registers of the queue
  refine (takes_startDevice (by rw [h₄]; decide)).seq fun _ s₅ _ h₅ => wp_bind (wp_modify ?_)
  replace h₅ : s₅.asked = 16 := h₅.trans (by rw [h₄])
  refine (takes_readCommon _ _).seq fun a s₆ ha h₆ => ?_
  refine (takes_readCommon _ _).seq fun b s₇ hb h₇ => ?_
  refine (takes_readCommon _ _).seq fun c s₈ hc h₈ => ?_
  refine (takes_readCommon _ _).seq fun o s₉ ho h₉ => wp_bind (wp_modify (wp_bind ?_))
  replace h₆ : s₆.asked = 17 := h₆.trans (by rw [h₅])
  replace h₇ : s₇.asked = 18 := h₇.trans (by rw [h₆])
  replace h₈ : s₈.asked = 19 := h₈.trans (by rw [h₇])
  obtain rfl : a = 0 := ha.trans (by rw [h₅]; decide)
  obtain rfl : b = 1 := hb.trans (by rw [h₆]; decide)
  obtain rfl : c = 0 := hc.trans (by rw [h₇]; decide)
  obtain rfl : o = 0 := ho.trans (by rw [h₈]; decide)
  have hready : (0 : Nat) = VIRTIO_COMMON_QUEUE_ZERO ∧ 1 ≠ 0 ∧ 0 = 0 ∧
      (NotifyRange.beside range).Multiplies 0 := ⟨rfl, by decide, rfl, fun hn => absurd rfl hn⟩
  refine wp_when (fun hn => absurd hready hn) fun _ => wp_bind (wp_modify (wp_bind ?_))
  refine wp_when (fun hn => absurd (by decide) hn) fun _ =>
    Stops.bind (stops_programQueue ?_ ?_)
  · show (StageKind.zeroDescriptorNotificationReset.values.getD s₉.asked 0).toNat % 2 ^ (8 * 2) = _
    rw [h₉, h₈]
    decide
  · show (StageKind.zeroDescriptorNotificationReset.values.getD (s₉.asked + 1) 0).toNat %
      2 ^ (8 * 4) ≠ _
    rw [h₉, h₈]
    decide

end Reaches

/-- With such a device the stage uses its last register. -/
theorem StageKind.reaches (kind : StageKind) (hsane : range.Sane)
    (hlength : VIRTIO_COMMON_CFG_MIN_LENGTH ≤ range.capability.length) (record : Record) :
    ∃ e ∈ kind.log (willing kind.values) range (.beside range) record,
      e.commonEnd = range.pageOffset.toNat + kind.registersEnd := by
  have hreaches : kind.Reaches range := by
    cases kind with
    | zeroFeatures => exact reaches_zeroFeatures hsane hlength
    | driverReadyReset => exact reaches_driverReadyReset hsane hlength
    | queueZero => exact reaches_queueZero hsane hlength
    | queueLayout => exact reaches_queueLayout hsane hlength
    | queueEnableReset => exact reaches_queueEnableReset hsane hlength
    | queueZeroNotification => exact reaches_queueZeroNotification hsane hlength
    | zeroDescriptorNotificationReset =>
      exact reaches_zeroDescriptorNotificationReset hsane hlength
  exact logOf_of_wp (P := fun log => ∃ e ∈ log, e.commonEnd = _) (hreaches record)

/-- **The registers in the page**: with a range that a validation has accepted, all accesses of a
stage to the mapped page of the common configuration are in it, whatever the kernel and the device
answer, exactly when the registers that the stage uses end in the page in which the common
configuration starts. -/
theorem accesses_in_page_iff {δ : Type} (m : Machine δ) (capability : CommonCapability)
    (start finish : Sizing δ) (kind : StageKind)
    (h : validateCommonRange m capability start = .ret true finish) :
    (∀ (env : Env) (notifyRange : NotifyRange) (record : Record),
      ∀ e ∈ kind.log env finish.range notifyRange record, e.commonEnd ≤ pageSize.toNat) ↔
    (finish.range.barPaddr.toNat + capability.offset.toNat) % pageSize.toNat + kind.registersEnd ≤
      pageSize.toNat := by
  obtain ⟨hsane, hcapability, hlength⟩ := wp_ret_of (validateCommonRange_wp start) h rfl
  have hplace := hsane.pageOffset_eq
  rw [hcapability] at hplace
  rw [← hplace]
  refine ⟨fun hall => ?_, fun hend env notifyRange record e he => ?_⟩
  · obtain ⟨e, he, hn⟩ := kind.reaches hsane (by rw [hcapability]; exact hlength) default
    rw [← hn]
    exact hall _ _ _ e he
  · exact Nat.le_trans (kind.log_within record e he) hend

/-! ## Two capabilities -/

/-- A function with one BAR: the address register of the ports, the command register and the BAR. -/
structure OneBar where
  address : BitVec 32
  command : BitVec 16
  bar : BitVec 32
  deriving DecidableEq

/-- Its configuration space, where the BAR has the writable bits `mask`. No call fails. -/
def oneBar (mask : BitVec 32) : Machine OneBar where
  cspaceAlloc d := (some 1, d)
  cspaceFree _ d := d
  ioportIssue _ d := (true, d)
  cnodeDelete _ d := d
  out32 _ port value d :=
    if port = PCI_CONFIG_ADDRESS_PORT then (true, { d with address := value })
    else (true, { d with bar := value &&& mask })
  out16 _ _ value d := (true, { d with command := value })
  in32 _ _ d := (some d.bar, d)
  in16 _ _ d := (some d.command, d)

/-- A common configuration of 0x38 bytes at `offset` in BAR 4 of the block device. -/
def blkCapability (offset : BitVec 32) : CommonCapability :=
  ⟨⟨1, 0, SELINOS_QEMU_VIRTIO_VENDOR_ID, SELINOS_QEMU_VIRTIO_BLK_MODERN_DEVICE_ID⟩, 0x40, 4, offset,
    VIRTIO_COMMON_CFG_MIN_LENGTH⟩

/-- The range of that capability, in a BAR of 0x4000 bytes at 0xfe000000. -/
def blkRange (offset : BitVec 32) : CommonRange :=
  ⟨blkCapability offset, 0xfe000000, 0x4000, 0xfe000000 + offset.zeroExtend 64,
    pageBase (0xfe000000 + offset.zeroExtend 64),
    0xfe000000 + offset.zeroExtend 64 - pageBase (0xfe000000 + offset.zeroExtend 64)⟩

/-- Before the validation, and after it. -/
def blkStart : Sizing OneBar := .enter ⟨0, 6, 0xfe000000⟩ (blkRange 0)

def blkFinish (offset : BitVec 32) : Sizing OneBar :=
  ⟨⟨0x80000804, 6, 0xfe000000⟩, blkRange offset, 6, 0xfe000000, 0, true, true, true⟩

theorem accesses_in_page_aligned :
    (StageKind.queueLayout.log (willing StageKind.queueLayout.values) (blkRange 0x1000)
      (.beside (blkRange 0x1000)) default).all (·.commonEnd ≤ pageSize.toNat) = true := by
  have hvalid : validateCommonRange (oneBar 0xffffc000) (blkCapability 0x1000) blkStart =
      .ret true (blkFinish 0x1000) := by decide +kernel
  rw [List.all_eq_true]
  intro e he
  have hpage := (accesses_in_page_iff _ _ _ _ .queueLayout hvalid).mpr (by decide)
  exact decide_eq_true (hpage _ _ _ e he)

/-- A common configuration that starts 16 bytes before the end of a page is accepted, and its status
register is in the next page. -/
theorem straddling_status :
    validateCommonRange (oneBar 0xffffc000) (blkCapability 0xff0) blkStart =
      .ret true (blkFinish 0xff0) ∧
    .write .common 0x1004 1 0 ∈ StageKind.driverReadyReset.log (willing []) (blkRange 0xff0)
      (.beside (blkRange 0xff0)) default ∧
    ¬ ∀ e ∈ StageKind.driverReadyReset.log (willing []) (blkRange 0xff0)
      (.beside (blkRange 0xff0)) default, e.commonEnd ≤ pageSize.toNat := by
  decide +kernel

end SeLinOS.Pci
