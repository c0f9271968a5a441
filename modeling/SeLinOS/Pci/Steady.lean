import SeLinOS.Pci.Stage

/-!
# What the stages keep

A stage uses the registers of the common configuration up to a place that depends on the stage.

* `Event.commonEnd`, `StageKind`: what a run touches of the common page; the stages.
* `Steady`: what a run keeps, an assertion on its log; one lemma for each step and part of a stage.
* `StageKind.keeps`, `StageKind.log_within`: every stage, whatever the kernel and the device answer.
-/

namespace SeLinOS.Pci

open CLogic Sel4 Prog

variable {ε : Type} {env : Env} {range : CommonRange} {notifyRange : NotifyRange}

/-- The end of an access to the common page. -/
def Event.commonEnd : Event → Nat
  | .read .common place width _ => place + width
  | .write .common place width _ => place + width
  | _ => 0

/-- The stages that use the registers behind the features. -/
inductive StageKind where
  | zeroFeatures
  | driverReadyReset
  | queueZero
  | queueLayout
  | queueEnableReset
  | queueZeroNotification
  | zeroDescriptorNotificationReset
  deriving Repr, DecidableEq

/-- The stage function; the notification range is for two of them. -/
def StageKind.run (env : Env) (range : CommonRange) (notifyRange : NotifyRange) :
    StageKind → Prog Exit Stage Unit
  | zeroFeatures => Pci.zeroFeatures env range
  | driverReadyReset => Pci.driverReadyReset env range
  | queueZero => Pci.queueZero env range
  | queueLayout => Pci.queueLayout env range
  | queueEnableReset => Pci.queueEnableReset env range
  | queueZeroNotification => Pci.queueZeroNotification env range notifyRange
  | zeroDescriptorNotificationReset => Pci.zeroDescriptorNotificationReset env range notifyRange

/-- The end of the last register that the stage uses. -/
def StageKind.registersEnd : StageKind → Nat
  | zeroFeatures => VIRTIO_COMMON_DEVICE_STATUS_OFF + 1
  | driverReadyReset => VIRTIO_COMMON_DEVICE_STATUS_OFF + 1
  | queueZero => VIRTIO_COMMON_QUEUE_SIZE_OFF + 2
  | queueLayout => VIRTIO_COMMON_QUEUE_LAYOUT_END
  | queueEnableReset => VIRTIO_COMMON_QUEUE_LAYOUT_END
  | queueZeroNotification => VIRTIO_COMMON_QUEUE_NOTIFY_OFF + 2
  | zeroDescriptorNotificationReset => VIRTIO_COMMON_QUEUE_LAYOUT_END

/-- The log of a run, up to the fault if it ends with one. -/
def logOf : Res Exit Stage Unit → List Event
  | .ok _ s => s.log
  | .ret _ s => s.log
  | .fault _ => []

/-- The log of a call of the stage. -/
def StageKind.log (kind : StageKind) (env : Env) (range : CommonRange) (notifyRange : NotifyRange)
    (record : Record) : List Event :=
  logOf (kind.run env range notifyRange (.enter record))

theorem logOf_of_wp {p : Prog Exit Stage Unit} {s : Stage} {P : List Event → Prop}
    (h : wp p (fun _ s' => P s'.log) (fun _ s' => P s'.log) s) : P (logOf (p s)) := by
  cases hp : p s with
  | ok a s' => exact wp_ok h hp
  | ret e s' => exact wp_ret_of h hp
  | fault x => exact absurd hp (wp_noFault h x)

/-! ## What a run keeps -/

/-- The address to which a queue with the notification offset `queueNotifyOff` is notified. -/
def NotifyRange.address (notifyRange : NotifyRange) (queueNotifyOff : Nat) : Word :=
  notifyRange.notificationCapPaddr + notifyRange.relative queueNotifyOff

/-- The read in which the device gives the notification offset. -/
def CommonRange.gives (range : CommonRange) (queueNotifyOff : Nat) : Event :=
  .read .common (range.pageOffset.toNat + VIRTIO_COMMON_QUEUE_NOTIFY_OFF) 2 queueNotifyOff

/-- The device has given `queueNotifyOff`, which passes the tests before the address is used. -/
structure Addressed (range : CommonRange) (notifyRange : NotifyRange) (log : List Event)
    (queueNotifyOff : Nat) : Prop where
  given : range.gives queueNotifyOff ∈ log
  lt : queueNotifyOff < 2 ^ (8 * 2)
  multiplies : notifyRange.Multiplies queueNotifyOff
  reaches : notifyRange.Reaches (notifyRange.relative queueNotifyOff)

/-- The event can follow `log` in a stage that uses the registers up to `last`. -/
def Event.Follows (range : CommonRange) (notifyRange : NotifyRange) (last : Nat)
    (log : List Event) : Event → Prop
  | .read .common place width _ => place + width ≤ range.pageOffset.toNat + last
  | .write .common place width _ => place + width ≤ range.pageOffset.toNat + last
  | .allocFrameAt .common paddr _ => paddr = range.pagePaddr
  | .allocFrameAt .layout _ _ => False
  | .allocFrameAt .notification paddr _ => ∃ queueNotifyOff,
      Addressed range notifyRange log queueNotifyOff ∧
      notifyRange.PageIn (notifyRange.address queueNotifyOff) ∧
      paddr = pageBase (notifyRange.address queueNotifyOff)
  | .write .notification place width _ => ∃ queueNotifyOff,
      Addressed range notifyRange log queueNotifyOff ∧
      notifyRange.PageIn (notifyRange.address queueNotifyOff) ∧
      .allocFrameAt .notification (pageBase (notifyRange.address queueNotifyOff)) true ∈ log ∧
      place = (notifyRange.address queueNotifyOff -
        pageBase (notifyRange.address queueNotifyOff)).toNat ∧ width = 2
  | _ => True

/-- `I` is about the log, the notification address of the record and the pointer `common`, and stays
when the stage adds an event to the first, or sets one of the others. -/
structure Steady (range : CommonRange) (notifyRange : NotifyRange) (last : Nat)
    (I : Stage → Prop) : Prop where
  same : ∀ s s' : Stage, s'.log = s.log →
    s'.record.notificationPaddr = s.record.notificationPaddr → s'.common = s.common → I s → I s'
  append : ∀ (s : Stage) (e : Event), e.Follows range notifyRange last s.log → I s →
    I { s with log := s.log ++ [e] }
  address : ∀ (s s' : Stage) (queueNotifyOff : Nat), s'.log = s.log →
    Addressed range notifyRange s.log queueNotifyOff →
    s'.record.notificationPaddr = notifyRange.address queueNotifyOff → s'.common = s.common →
    I s → I s'
  located : ∀ s : Stage, I s → I { s with common := true }

theorem Addressed.mono {log log' : List Event} {queueNotifyOff : Nat}
    (h : Addressed range notifyRange log queueNotifyOff) (hsub : log ⊆ log') :
    Addressed range notifyRange log' queueNotifyOff :=
  ⟨hsub h.given, h.lt, h.multiplies, h.reaches⟩

theorem Event.Follows.mono {last : Nat} {log log' : List Event} {e : Event}
    (h : e.Follows range notifyRange last log) (hsub : log ⊆ log') :
    e.Follows range notifyRange last log' := by
  cases e with
  | allocFrameAt page paddr ok =>
    cases page with
    | common => exact h
    | layout => exact h
    | notification =>
      obtain ⟨queueNotifyOff, haddressed, hrest⟩ := h
      exact ⟨queueNotifyOff, haddressed.mono hsub, hrest⟩
  | write page place width value =>
    cases page with
    | common => exact h
    | layout => trivial
    | notification =>
      obtain ⟨queueNotifyOff, haddressed, hpage, halloc, hrest⟩ := h
      exact ⟨queueNotifyOff, haddressed.mono hsub, hpage, hsub halloc, hrest⟩
  | read page place width value =>
    cases page with
    | common => exact h
    | layout => trivial
    | notification => trivial
  | _ => trivial

/-- All events so far are those of a stage. -/
def Within (range : CommonRange) (notifyRange : NotifyRange) (last : Nat) (s : Stage) : Prop :=
  ∀ e ∈ s.log, e.Follows range notifyRange last s.log

theorem steady_within (range : CommonRange) (notifyRange : NotifyRange) (last : Nat) :
    Steady range notifyRange last (Within range notifyRange last) where
  same s s' hlog _ _ h := by
    rw [Within, hlog]
    exact h
  append s e he h := by
    have hsub : s.log ⊆ s.log ++ [e] := List.subset_append_left _ _
    intro x hx
    rcases List.mem_append.mp hx with hx | hx
    · exact (h x hx).mono hsub
    · rw [List.mem_singleton.mp hx]
      exact he.mono hsub
  address s s' _ hlog _ _ _ h := by
    rw [Within, hlog]
    exact h
  located _ h := h

theorem keeps_orOut {I : Stage → Prop} (c : Prop) [Decidable c] : Keeps I (orOut c) :=
  .when (.ret ())

/-- What follows a test has to keep `I` where the test holds. -/
theorem keeps_orOut_bind {α : Type} {I : Stage → Prop} {c : Prop} [Decidable c]
    {p : Prog Unit Stage α} (hp : c → Keeps I p) : Keeps I (orOut c >>= fun _ => p) :=
  fun s hs => wp_bind (wp_when (fun _ => wp_ret hs) fun hc => hp (not_not.mp hc) s hs)

theorem wp_allocFrameAt {page : Page} {paddr : Word} {s : Stage} {Q : Bool → Stage → Prop}
    {E : ε → Stage → Prop} (hQ : ∀ (ok : Bool) (s' : Stage),
      s'.log = s.log ++ [.allocFrameAt page paddr ok] → s'.record = s.record →
      s'.common = s.common → Q ok s') :
    wp (allocFrameAt env page paddr) Q E s := by
  refine wp_bind (wp_of_run (show ask env s = _ from rfl) (wp_bind (wp_modify (wp_bind ?_))))
  exact wp_when (fun _ => wp_modify (wp_pure (hQ _ _ rfl rfl rfl))) fun _ =>
    wp_pure (hQ _ _ rfl rfl rfl)

namespace Steady

variable {last : Nat} {I : Stage → Prop} (h : Steady range notifyRange last I)

include h

/-- An event that is in the log stays there. -/
theorem and_mem (e : Event) : Steady range notifyRange last (fun s => I s ∧ e ∈ s.log) where
  same s s' hlog haddress hcommon := by
    rintro ⟨hs, he⟩
    exact ⟨h.same s s' hlog haddress hcommon hs, hlog ▸ he⟩
  append s x hx := by
    rintro ⟨hs, he⟩
    exact ⟨h.append s x hx hs, List.mem_append_left _ he⟩
  address s s' queueNotifyOff hlog haddressed haddress hcommon := by
    rintro ⟨hs, he⟩
    exact ⟨h.address s s' queueNotifyOff hlog haddressed haddress hcommon hs, hlog ▸ he⟩
  located s := by
    rintro ⟨hs, he⟩
    exact ⟨h.located s hs, he⟩

theorem keeps_modify {f : Stage → Stage} (hlog : ∀ s, (f s).log = s.log)
    (hrecord : ∀ s, (f s).record.notificationPaddr = s.record.notificationPaddr)
    (hcommon : ∀ s, (f s).common = s.common) : Keeps I (Prog.modify f : Prog ε Stage Unit) :=
  .modify fun s hs => h.same s _ (hlog s) (hrecord s) (hcommon s) hs

theorem keeps_ask : Keeps I (ask env : Prog ε Stage Answer) := by
  intro s hs
  exact wp_of_run (show ask env s = _ from rfl) (h.same s _ rfl rfl rfl hs)

theorem keeps_emit {e : Event}
    (he : ∀ log, e.Follows range notifyRange last log) :
    Keeps I (emit e : Prog ε Stage Unit) :=
  .modify fun s hs => h.append s e (he _) hs

theorem keeps_setRecord {f : Record → Record}
    (hf : ∀ r, (f r).notificationPaddr = r.notificationPaddr) :
    Keeps I (setRecord f : Prog ε Stage Unit) :=
  h.keeps_modify (fun _ => rfl) (fun s => hf s.record) fun _ => rfl

theorem keeps_succeed (success : Bool) : Keeps I (succeed success : Prog ε Stage Unit) :=
  h.keeps_modify (fun _ => rfl) (fun _ => rfl) fun _ => rfl

theorem keeps_setCommon : Keeps I (setCommon : Prog ε Stage Unit) :=
  .modify fun s hs => h.located s hs

theorem keeps_read {page : Page} {place width : Nat}
    (he : ∀ value log, (Event.read page place width value).Follows range notifyRange last log) :
    Keeps I (read env page place width : Prog ε Stage Nat) :=
  h.keeps_ask.bind fun _ => (h.keeps_emit (he _)).bind fun _ => .pure _

theorem keeps_write {page : Page} {place width value : Nat}
    (he : ∀ value log, (Event.write page place width value).Follows range notifyRange last log) :
    Keeps I (write page place width value : Prog ε Stage Unit) :=
  h.keeps_emit (he _)

theorem keeps_allocFrameAt :
    Keeps I (allocFrameAt env .common range.pagePaddr : Prog ε Stage Bool) := by
  refine h.keeps_ask.bind fun answer => .bind (h.keeps_emit fun _ => rfl) fun _ => ?_
  refine Keeps.bind (.when ?_) fun _ => .pure _
  exact h.keeps_modify (fun _ => rfl) (fun _ => rfl) fun _ => rfl

theorem keeps_allocFrame (page : Page) : Keeps I (allocFrame env page) := by
  refine h.keeps_ask.bind fun answer => .bind (h.keeps_emit fun _ => trivial) fun _ => ?_
  exact (keeps_orOut _).bind fun _ => h.keeps_modify (fun _ => rfl) (fun _ => rfl) fun _ => rfl

theorem keeps_mapPage (page : Page) : Keeps I (mapPage env page) := by
  refine h.keeps_ask.bind fun _ => .bind (h.keeps_emit fun _ => trivial) fun _ => ?_
  refine Keeps.bind (h.keeps_modify (fun _ => rfl) (fun _ => rfl) fun _ => rfl) fun _ =>
    (keeps_orOut _).bind fun _ => ?_
  refine h.keeps_ask.bind fun _ => .bind (h.keeps_emit fun _ => trivial) fun _ => ?_
  exact (keeps_orOut _).bind fun _ => h.keeps_modify (fun _ => rfl) (fun _ => rfl) fun _ => rfl

/-- The three steps of a release look at a flag and add an event. -/
theorem keeps_release {c : Stage → Prop} [DecidablePred c] {e : Event}
    (he : ∀ log, e.Follows range notifyRange last log) :
    Keeps I (do
      let s ← Prog.get
      Prog.when (c s) (emit e) : Prog ε Stage Unit) :=
  Keeps.get.bind fun _ => .when (h.keeps_emit he)

theorem keeps_unmapPage (page : Page) : Keeps I (unmapPage page : Prog ε Stage Unit) :=
  h.keeps_release fun _ => trivial

theorem keeps_freeReservation (page : Page) : Keeps I (freeReservation page : Prog ε Stage Unit) :=
  h.keeps_release fun _ => trivial

theorem keeps_freeFrame (page : Page) : Keeps I (freeFrame page : Prog ε Stage Unit) :=
  h.keeps_release fun _ => trivial

end Steady

/-! ## The parts of a stage -/

namespace Steady

variable {last : Nat} {I : Stage → Prop} (h : Steady range notifyRange last I)

include h

theorem keeps_readCommon {off width : Nat} (hoff : off + width ≤ last) :
    Keeps I (readCommon env range off width : Prog ε Stage Nat) :=
  h.keeps_read fun _ _ => show range.pageOffset.toNat + off + width ≤ _ by omega

theorem keeps_writeCommon {off width value : Nat} (hoff : off + width ≤ last) :
    Keeps I (writeCommon range off width value : Prog ε Stage Unit) :=
  h.keeps_write fun _ _ => show range.pageOffset.toNat + off + width ≤ _ by omega

section Status

variable (hlast : VIRTIO_COMMON_DEVICE_STATUS_OFF + 1 ≤ last)

include hlast

theorem keeps_putStatus (status : Nat) :
    Keeps I (putStatus env range status : Prog ε Stage Nat) :=
  (h.keeps_writeCommon hlast).bind fun _ => h.keeps_readCommon hlast

theorem keeps_setStatus (status : Nat) : Keeps I (setStatus env range status) :=
  (h.keeps_putStatus hlast status).bind fun _ => keeps_orOut _

theorem keeps_startDriver : Keeps I (startDriver env range) :=
  (h.keeps_setStatus hlast _).bind fun _ => (h.keeps_setStatus hlast _).bind fun _ =>
    h.keeps_setStatus hlast _

theorem keeps_startDevice : Keeps I (startDevice env range) :=
  (h.keeps_startDriver hlast).bind fun _ => (h.keeps_setStatus hlast _).bind fun _ =>
    h.keeps_setStatus hlast _

theorem keeps_finishReset : Keeps I (finishReset env range) :=
  (h.keeps_putStatus hlast _).bind fun _ => .bind (h.keeps_setRecord fun _ => rfl) fun _ => .pure _

theorem keeps_resetUnlessSuccess : Keeps I (resetUnlessSuccess range) :=
  Keeps.get.bind fun _ => .when (.ite (h.keeps_writeCommon hlast) (.ret _))

omit h hlast in
theorem keeps_returnSuccess : Keeps I returnSuccess := Keeps.get.bind fun _ => .ret _

theorem keeps_releaseCommon : Keeps I (releaseCommon range) :=
  (h.keeps_resetUnlessSuccess hlast).bind fun _ => (h.keeps_unmapPage _).bind fun _ =>
    (h.keeps_freeReservation _).bind fun _ => (h.keeps_freeFrame _).bind fun _ =>
      keeps_returnSuccess

theorem keeps_releaseLayout : Keeps I (releaseLayout range) :=
  (h.keeps_resetUnlessSuccess hlast).bind fun _ => (h.keeps_unmapPage _).bind fun _ =>
    (h.keeps_freeReservation _).bind fun _ => (h.keeps_unmapPage _).bind fun _ =>
    (h.keeps_freeReservation _).bind fun _ => (h.keeps_freeFrame _).bind fun _ =>
    (h.keeps_freeFrame _).bind fun _ => keeps_returnSuccess

theorem keeps_releaseNotification : Keeps I (releaseNotification range) :=
  (h.keeps_resetUnlessSuccess hlast).bind fun _ =>
    (h.keeps_unmapPage _).bind fun _ => (h.keeps_freeReservation _).bind fun _ =>
    (h.keeps_freeFrame _).bind fun _ =>
    (h.keeps_unmapPage _).bind fun _ => (h.keeps_freeReservation _).bind fun _ =>
    (h.keeps_freeFrame _).bind fun _ =>
    (h.keeps_unmapPage _).bind fun _ => (h.keeps_freeReservation _).bind fun _ =>
    (h.keeps_freeFrame _).bind fun _ => keeps_returnSuccess

theorem keeps_commonStage {valid : Prop} [Decidable valid] {body : Prog Unit Stage Unit}
    (hbody : Keeps I body) : Keeps I (commonStage env range valid body) := by
  refine .ite (.ret _) (h.keeps_allocFrameAt.bind fun _ => .ite (.ret _) ?_)
  refine .label ((h.keeps_mapPage _).bind fun _ => ?_) (h.keeps_releaseCommon hlast)
  exact Keeps.bind h.keeps_setCommon fun _ => hbody

end Status

theorem keeps_zeroLayout : Keeps I (zeroLayout : Prog ε Stage Unit) :=
  .forUp fun _ _ _ => h.keeps_write fun _ _ => trivial

theorem keeps_layoutStage {valid : Prop} [Decidable valid] {body : Prog Unit Stage Unit}
    {out : Prog Exit Stage Unit} (hbody : Keeps I body) (hout : Keeps I out) :
    Keeps I (layoutStage env range valid body out) := by
  refine .ite (.ret _) (h.keeps_allocFrameAt.bind fun _ => .ite (.ret _) ?_)
  exact .label ((h.keeps_allocFrame _).bind fun _ => hbody) hout

theorem keeps_layoutFrame : Keeps I (layoutFrame env) := by
  refine h.keeps_ask.bind fun _ => .bind (h.keeps_setRecord fun _ => rfl) fun _ => ?_
  refine (keeps_orOut _).bind fun _ => .bind (h.keeps_setRecord fun _ => rfl) fun _ => ?_
  refine (keeps_orOut _).bind fun _ => (h.keeps_mapPage _).bind fun _ => ?_
  refine (h.keeps_mapPage _).bind fun _ => h.keeps_zeroLayout.bind fun _ => ?_
  exact Keeps.bind h.keeps_setCommon fun _ => .pure _

theorem keeps_readRings : Keeps I (readRings env) := by
  have hread : ∀ place, Keeps I (read env .layout place 2 : Prog Unit Stage Nat) :=
    fun place => h.keeps_read fun _ _ => trivial
  exact (hread _).bind fun _ => (hread _).bind fun _ => (hread _).bind fun _ =>
    (hread _).bind fun _ => .pure _

theorem keeps_notificationFrame : Keeps I (notificationFrame env) := by
  refine h.keeps_ask.bind fun _ => .bind (h.keeps_setRecord fun _ => rfl) fun _ => ?_
  refine (keeps_orOut _).bind fun _ => (h.keeps_mapPage _).bind fun _ => ?_
  refine (h.keeps_mapPage _).bind fun _ => h.keeps_zeroLayout.bind fun _ => ?_
  refine h.keeps_readRings.bind fun _ => .bind (h.keeps_setRecord fun _ => rfl) fun _ => ?_
  exact (keeps_orOut _).bind fun _ => .bind h.keeps_setCommon fun _ => .pure _

/-- The read of the notification offset, with the rest of the stage. -/
theorem keeps_readNotifyOff_bind {α : Type} {f : Nat → Prog Unit Stage α}
    (hlast : VIRTIO_COMMON_QUEUE_NOTIFY_OFF + 2 ≤ last)
    (hf : ∀ queueNotifyOff < 2 ^ (8 * 2),
      Keeps (fun s => I s ∧ range.gives queueNotifyOff ∈ s.log) (f queueNotifyOff)) :
    Keeps I (readCommon env range VIRTIO_COMMON_QUEUE_NOTIFY_OFF 2 >>= f) := by
  intro s hs
  refine wp_bind (wp_bind (wp_of_run (show ask env s = _ from rfl)
    (wp_bind (wp_modify (wp_pure ?_)))))
  refine wp_mono (hf _ (Nat.mod_lt _ (by decide)) _ ⟨?_, ?_⟩) (fun _ _ h => h.1) fun _ _ h => h.1
  · refine h.append _ _ ?_ (h.same s _ rfl rfl rfl hs)
    exact show range.pageOffset.toNat + VIRTIO_COMMON_QUEUE_NOTIFY_OFF + 2 ≤ _ by omega
  · exact List.mem_append_right _ (List.mem_singleton.mpr rfl)

theorem keeps_notify {queueNotifyOff : Nat} (hlt : queueNotifyOff < 2 ^ (8 * 2))
    (hmultiplies : notifyRange.Multiplies queueNotifyOff) :
    Keeps (fun s => I s ∧ range.gives queueNotifyOff ∈ s.log)
      (notify env notifyRange queueNotifyOff) := by
  have hgiven := h.and_mem (range.gives queueNotifyOff)
  refine keeps_orOut_bind fun hreaches => ?_
  have haddressed : ∀ s : Stage, range.gives queueNotifyOff ∈ s.log →
      Addressed range notifyRange s.log queueNotifyOff :=
    fun s hs => ⟨hs, hlt, hmultiplies, hreaches⟩
  refine Keeps.bind
    (.modify fun s hs => hgiven.address s _ _ rfl (haddressed s hs.2) rfl rfl hs) fun _ => ?_
  refine keeps_orOut_bind fun hpage s hs =>
    wp_bind (wp_allocFrameAt fun ok s' hlog hrecord hcommon => ?_)
  have hs' : I s' ∧ range.gives queueNotifyOff ∈ s'.log := by
    refine hgiven.same _ s' hlog (by rw [hrecord]) (by rw [hcommon]) (hgiven.append s _ ?_ hs)
    exact ⟨queueNotifyOff, haddressed s hs.2, hpage, rfl⟩
  refine wp_bind (wp_when (fun _ => wp_ret hs') fun hok => ?_)
  rw [not_not.mp hok] at hlog
  -- the frame of the write is in the log
  have halloc := hgiven.and_mem
    (.allocFrameAt .notification (pageBase (notifyRange.address queueNotifyOff)) true)
  refine wp_seq (halloc.keeps_mapPage .notification s' ⟨hs', ?_⟩) (fun _ _ h => h.1)
    fun _ t ht => wp_modify (hgiven.append t _ ?_ ht.1)
  · rw [hlog]
    exact List.mem_append_right _ (List.mem_singleton.mpr rfl)
  · exact ⟨queueNotifyOff, haddressed t ht.1.2, hpage, ht.2, rfl, rfl⟩

section Queue

variable (hlast : VIRTIO_COMMON_QUEUE_LAYOUT_END ≤ last)

include hlast

theorem keeps_programQueue (framePaddr : Word) : Keeps I (programQueue env range framePaddr) := by
  have hread : ∀ off, off + 4 ≤ VIRTIO_COMMON_QUEUE_LAYOUT_END →
      Keeps I (readCommon env range off 4 : Prog Unit Stage Nat) :=
    fun off hoff => h.keeps_readCommon (by omega)
  have hwrite : ∀ off value, off + 4 ≤ VIRTIO_COMMON_QUEUE_LAYOUT_END →
      Keeps I (writeCommon range off 4 value : Prog Unit Stage Unit) :=
    fun off value hoff => h.keeps_writeCommon (by omega)
  have hsize : VIRTIO_COMMON_QUEUE_SIZE_OFF + 2 ≤ last := Nat.le_trans (by decide) hlast
  refine (h.keeps_writeCommon hsize).bind fun _ => (h.keeps_readCommon hsize).bind fun _ => ?_
  refine .bind (h.keeps_setRecord fun _ => rfl) fun _ => (keeps_orOut _).bind fun _ => ?_
  iterate 6 refine (hwrite _ _ (by decide)).bind fun _ => ?_
  iterate 5 refine (hread _ (by decide)).bind fun _ => (keeps_orOut _).bind fun _ => ?_
  exact (hread _ (by decide)).bind fun _ => keeps_orOut _

theorem keeps_enableQueue : Keeps I (enableQueue env range) := by
  have henable : VIRTIO_COMMON_QUEUE_ENABLE_OFF + 2 ≤ last := Nat.le_trans (by decide) hlast
  refine (h.keeps_writeCommon henable).bind fun _ => (h.keeps_readCommon henable).bind fun _ => ?_
  exact .bind (h.keeps_setRecord fun _ => rfl) fun _ => keeps_orOut _

theorem keeps_finishEnabled : Keeps I (finishEnabled env range) := by
  refine (h.keeps_finishReset (Nat.le_trans (by decide) hlast)).bind fun _ => ?_
  refine (h.keeps_readCommon (Nat.le_trans (by decide) hlast)).bind fun _ => ?_
  exact .bind (h.keeps_setRecord fun _ => rfl) fun _ => h.keeps_succeed _

theorem keeps_layoutQueue (framePaddr : Word) : Keeps I (layoutQueue env range framePaddr) := by
  have hregister : ∀ off, off + 2 ≤ VIRTIO_COMMON_QUEUE_LAYOUT_END → off + 2 ≤ last :=
    fun off hoff => Nat.le_trans hoff hlast
  refine (h.keeps_startDevice (Nat.le_trans (by decide) hlast)).bind fun _ => ?_
  refine (h.keeps_writeCommon (hregister _ (by decide))).bind fun _ => ?_
  iterate 3 refine (h.keeps_readCommon (hregister _ (by decide))).bind fun _ => ?_
  refine .bind (h.keeps_setRecord fun _ => rfl) fun _ => (keeps_orOut _).bind fun _ => ?_
  exact h.keeps_programQueue hlast _

end Queue

end Steady

/-! ## The stages -/

/-- The observation of the features uses the registers up to these. -/
theorem Steady.keeps_observeFeatures {I : Stage → Prop}
    (h : Steady range notifyRange (VIRTIO_COMMON_DEVICE_FEATURE_OFF + 4) I) :
    Keeps I (observeFeatures env range) := by
  refine .ite (.ret _) (h.keeps_allocFrameAt.bind fun _ => .ite (.ret _) (.label ?_ ?_))
  · refine (h.keeps_mapPage _).bind fun _ => .bind (h.keeps_setRecord fun _ => rfl) fun _ => ?_
    refine (h.keeps_readCommon (by decide)).bind fun _ => ?_
    refine .bind (h.keeps_setRecord fun _ => rfl) fun _ => ?_
    refine (h.keeps_readCommon (by decide)).bind fun _ => ?_
    refine .bind (h.keeps_setRecord fun _ => rfl) fun _ => ?_
    exact h.keeps_succeed _
  · exact (h.keeps_unmapPage _).bind fun _ => (h.keeps_freeReservation _).bind fun _ =>
      (h.keeps_freeFrame _).bind fun _ => keeps_returnSuccess

/-- A stage keeps what is steady up to the end of its last register. -/
theorem StageKind.keeps (kind : StageKind) {I : Stage → Prop}
    (h : Steady range notifyRange kind.registersEnd I) :
    Keeps I (kind.run env range notifyRange) := by
  cases kind with
  | zeroFeatures =>
    have hlast : VIRTIO_COMMON_DEVICE_STATUS_OFF + 1 ≤ zeroFeatures.registersEnd := by decide
    refine h.keeps_commonStage hlast ((h.keeps_startDriver hlast).bind fun _ => ?_)
    refine (h.keeps_putStatus hlast _).bind fun _ => (keeps_orOut _).bind fun _ => ?_
    refine .bind (h.keeps_setRecord fun _ => rfl) fun _ => ?_
    refine (h.keeps_finishReset hlast).bind fun _ => ?_
    exact h.keeps_succeed _
  | driverReadyReset =>
    have hlast : VIRTIO_COMMON_DEVICE_STATUS_OFF + 1 ≤ driverReadyReset.registersEnd := by decide
    refine h.keeps_commonStage hlast ((h.keeps_startDriver hlast).bind fun _ => ?_)
    refine (h.keeps_setStatus hlast _).bind fun _ => (h.keeps_putStatus hlast _).bind fun _ => ?_
    refine .bind (h.keeps_setRecord fun _ => rfl) fun _ => (keeps_orOut _).bind fun _ => ?_
    refine .bind (h.keeps_setRecord fun _ => rfl) fun _ => ?_
    refine (h.keeps_finishReset hlast).bind fun _ => ?_
    exact h.keeps_succeed _
  | queueZero =>
    have hlast : VIRTIO_COMMON_DEVICE_STATUS_OFF + 1 ≤ queueZero.registersEnd := by decide
    refine h.keeps_commonStage hlast ((h.keeps_startDevice hlast).bind fun _ => ?_)
    refine (h.keeps_writeCommon (by decide)).bind fun _ => ?_
    iterate 2 refine (h.keeps_readCommon (by decide)).bind fun _ => ?_
    refine .bind (h.keeps_setRecord fun _ => rfl) fun _ => (keeps_orOut _).bind fun _ => ?_
    refine .bind (h.keeps_setRecord fun _ => rfl) fun _ => ?_
    refine (h.keeps_finishReset hlast).bind fun _ => ?_
    exact h.keeps_succeed _
  | queueLayout =>
    have hlast : VIRTIO_COMMON_QUEUE_LAYOUT_END ≤ queueLayout.registersEnd := Nat.le_refl _
    refine h.keeps_layoutStage ?_ (h.keeps_releaseLayout (by decide))
    refine h.keeps_layoutFrame.bind fun _ => (h.keeps_layoutQueue hlast _).bind fun _ => ?_
    refine (h.keeps_readCommon (by decide)).bind fun _ => ?_
    refine .bind (h.keeps_setRecord fun _ => rfl) fun _ => ?_
    refine (keeps_orOut _).bind fun _ => .bind (h.keeps_setRecord fun _ => rfl) fun _ => ?_
    exact (h.keeps_finishReset (by decide)).bind fun _ => h.keeps_succeed _
  | queueEnableReset =>
    have hlast : VIRTIO_COMMON_QUEUE_LAYOUT_END ≤ queueEnableReset.registersEnd := Nat.le_refl _
    refine h.keeps_layoutStage ?_ (h.keeps_releaseLayout (by decide))
    refine h.keeps_layoutFrame.bind fun _ => (h.keeps_layoutQueue hlast _).bind fun _ => ?_
    refine (h.keeps_enableQueue hlast).bind fun _ => ?_
    refine .bind (h.keeps_setRecord fun _ => rfl) fun _ => ?_
    exact h.keeps_finishEnabled hlast
  | queueZeroNotification =>
    have hlast : VIRTIO_COMMON_DEVICE_STATUS_OFF + 1 ≤ queueZeroNotification.registersEnd := by
      decide
    refine h.keeps_commonStage hlast ((h.keeps_startDevice hlast).bind fun _ => ?_)
    refine (h.keeps_writeCommon (by decide)).bind fun _ => ?_
    iterate 2 refine (h.keeps_readCommon (by decide)).bind fun _ => ?_
    refine h.keeps_readNotifyOff_bind (by decide) fun queueNotifyOff hlt => ?_
    replace h := h.and_mem (range.gives queueNotifyOff)
    refine .bind (h.keeps_setRecord fun _ => rfl) fun _ => keeps_orOut_bind fun hqueue => ?_
    refine keeps_orOut_bind fun hreaches => Keeps.bind (.modify fun s hs => ?_) fun _ => ?_
    · exact h.address s _ _ rfl ⟨hs.2, hlt, hqueue.2.2, hreaches⟩ rfl rfl hs
    · refine (keeps_orOut _).bind fun _ => .bind (h.keeps_setRecord fun _ => rfl) fun _ => ?_
      exact (h.keeps_finishReset hlast).bind fun _ => h.keeps_succeed _
  | zeroDescriptorNotificationReset =>
    have hlast : VIRTIO_COMMON_QUEUE_LAYOUT_END ≤
        zeroDescriptorNotificationReset.registersEnd := Nat.le_refl _
    refine h.keeps_layoutStage ?_ (h.keeps_releaseNotification (by decide))
    refine h.keeps_notificationFrame.bind fun _ => ?_
    refine (h.keeps_startDevice (by decide)).bind fun _ => ?_
    refine (h.keeps_writeCommon (by decide)).bind fun _ => ?_
    iterate 3 refine (h.keeps_readCommon (by decide)).bind fun _ => ?_
    refine h.keeps_readNotifyOff_bind (by decide) fun queueNotifyOff hlt => ?_
    have hgiven := h.and_mem (range.gives queueNotifyOff)
    refine .bind (hgiven.keeps_setRecord fun _ => rfl) fun _ => keeps_orOut_bind fun hqueue => ?_
    refine .bind (hgiven.keeps_setRecord fun _ => rfl) fun _ => (keeps_orOut _).bind fun _ => ?_
    refine (hgiven.keeps_programQueue hlast _).bind fun _ => ?_
    refine (hgiven.keeps_enableQueue hlast).bind fun _ => ?_
    refine (h.keeps_notify hlt hqueue.2.2.2).bind fun _ => ?_
    refine hgiven.keeps_readRings.bind fun _ => ?_
    refine .bind (hgiven.keeps_setRecord fun _ => rfl) fun _ => ?_
    refine (keeps_orOut _).bind fun _ => (hgiven.keeps_finishEnabled hlast).bind fun _ => ?_
    exact hgiven.keeps_setRecord fun _ => rfl

/-- What a function keeps that makes events of a stage only. -/
theorem log_follows_of_keeps {p : Prog Exit Stage Unit} {last : Nat}
    (h : Keeps (Within range notifyRange last) p) (record : Record) :
    ∀ e ∈ logOf (p (.enter record)), e.Follows range notifyRange last (logOf (p (.enter record))) :=
  logOf_of_wp (P := fun log => ∀ e ∈ log, e.Follows range notifyRange last log)
    (h _ fun e he => by cases he)

theorem StageKind.log_follows (kind : StageKind) (record : Record) :
    ∀ e ∈ kind.log env range notifyRange record, e.Follows range notifyRange kind.registersEnd
      (kind.log env range notifyRange record) :=
  log_follows_of_keeps (kind.keeps (steady_within range notifyRange _)) record

theorem Event.Follows.commonEnd_le {last : Nat} {log : List Event} {e : Event}
    (h : e.Follows range notifyRange last log) : e.commonEnd ≤ range.pageOffset.toNat + last := by
  unfold Event.commonEnd
  split
  · exact h
  · exact h
  · exact Nat.zero_le _

/-- No access of a stage is behind its last register. -/
theorem StageKind.log_within (kind : StageKind) (record : Record) :
    ∀ e ∈ kind.log env range notifyRange record,
      e.commonEnd ≤ range.pageOffset.toNat + kind.registersEnd :=
  fun e he => (kind.log_follows record e he).commonEnd_le

end SeLinOS.Pci
