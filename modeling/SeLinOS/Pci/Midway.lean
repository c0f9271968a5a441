import SeLinOS.Pci.Script

/-!
# The body of a stage

A point in the body of a stage, by what was done to the device and what is held, and one lemma for
each step of a body: it leads to such a point, also where it leaves the body.

* `Played`, `Holding`, `Midway`: the points; `Ended`: the points at which a body is left.
* `Midway.keeps_ask`, …: the steps that neither control the device nor acquire.
* `Midway.wp_setStatus`, …: the steps of the script, and the reset at the end.
* `Midway.wp_allocFrameAt`, `Midway.wp_mapPage`, …: the acquisitions.
-/

namespace SeLinOS.Pci

open CLogic Sel4 Prog

variable {ε : Type} {env : Env} {range : CommonRange} {notifyRange : NotifyRange}
  {script tail : List Control} {pages : List Page} {located : Bool} {n : Nat}
  {held done : List (Page × Resource)} {s s' : Stage} {e : Event} {c : Control}
  {x : Page × Resource} {page : Page}

/-- What the locals of the function say of a resource. -/
def Stage.holds (s : Stage) : Page × Resource → Bool
  | (page, .frame) => s.frameAllocated page
  | (page, .reservation) => s.reserved page
  | (page, .mapping) => s.mapped page

/-! ## Points of a body -/

/-- The first `n` controls of the script were played, and then `tail`. A stage that has succeeded
has reset the device. -/
structure Played (range : CommonRange) (script : List Control) (n : Nat) (tail : List Control)
    (s : Stage) : Prop where
  controls : controls range s.log = script.take n ++ tail
  resets : ∀ c ∈ tail, c.Resets
  success : s.success = true → .statusWrite 0 ∈ tail

/-- The resources `held`, of `pages`, are acquired and not yet released. -/
structure Holding (pages : List Page) (held : List (Page × Resource)) (s : Stage) : Prop where
  pages : ∀ x ∈ held, x.1 ∈ pages
  holds : ∀ x, s.holds x = decide (x ∈ held)
  uses : ∀ x, uses s.log x = if x ∈ held then [.acquire] else []

/-- A point of a body, before or after the pointer `common` is `located`. The script starts with the
mapping of the common page. -/
structure Midway (range : CommonRange) (script : List Control) (pages : List Page)
    (located : Bool) (n : Nat) (tail : List Control) (held : List (Page × Resource)) (s : Stage) :
    Prop where
  played : Played range script n tail s
  holding : Holding pages held s
  mapped : (.common, .mapping) ∈ held ↔ 0 < n
  start : n = 0 → tail = []
  common : s.common = located

/-- A point at which a body is left. -/
def Ended (range : CommonRange) (script : List Control) (pages : List Page) (located : Bool)
    (s : Stage) : Prop :=
  ∃ n tail held, Midway range script pages located n tail held s

/-- An event that neither controls the device nor is about a resource. -/
def Event.Plain (range : CommonRange) (e : Event) : Prop := e.use = none ∧ e.control range = none

namespace Played

variable (h : Played range script n tail s)

include h

theorem same (hlog : s'.log = s.log) (hsuccess : s'.success = s.success) :
    Played range script n tail s' := by
  refine ⟨?_, h.resets, ?_⟩
  · rw [hlog, h.controls]
  · rw [hsuccess]
    exact h.success

theorem silent (hlog : s'.log = s.log ++ [e]) (hsuccess : s'.success = s.success)
    (he : e.control range = none) : Played range script n tail s' := by
  refine ⟨?_, h.resets, ?_⟩
  · rw [hlog, controls_snoc, he, h.controls]
    exact List.append_nil _
  · rw [hsuccess]
    exact h.success

omit h in
/-- The next control of the script. -/
theorem advance (h : Played range script n [] s) (hlog : s'.log = s.log ++ [e])
    (hsuccess : s'.success = s.success) (he : e.control range = some c)
    (hc : script[n]? = some c) : Played range script (n + 1) [] s' := by
  refine ⟨?_, h.resets, ?_⟩
  · rw [hlog, controls_snoc, he, h.controls, List.take_add_one, hc]
    simp
  · rw [hsuccess]
    exact h.success

end Played

namespace Holding

variable (h : Holding pages held s)

include h

theorem same (hlog : s'.log = s.log) (hholds : ∀ x, s'.holds x = s.holds x) :
    Holding pages held s' := by
  refine ⟨h.pages, fun x => (hholds x).trans (h.holds x), ?_⟩
  rw [hlog]
  exact h.uses

theorem idle (hlog : s'.log = s.log ++ [e]) (hholds : ∀ x, s'.holds x = s.holds x)
    (he : e.use = none) : Holding pages held s' := by
  refine ⟨h.pages, fun x => (hholds x).trans (h.holds x), fun x => ?_⟩
  rw [hlog, uses_snoc_of_none he]
  exact h.uses x

theorem acquire (hlog : s'.log = s.log ++ [e]) (he : e.use = some (x, .acquire))
    (hholds : ∀ y, s'.holds y = (decide (y = x) || s.holds y)) (hx : x ∉ held)
    (hpage : x.1 ∈ pages) : Holding pages (x :: held) s' := by
  refine ⟨List.forall_mem_cons.mpr ⟨hpage, h.pages⟩, fun y => ?_, fun y => ?_⟩
  · rw [hholds, h.holds]
    simp
  · rw [hlog, uses_snoc_of_some he, h.uses]
    by_cases hy : x = y
    · subst hy
      simp [hx]
    · simp [hy, Ne.symm hy]

end Holding

namespace Midway

/-- A resource that is not the mapping of the common page. -/
theorem acquire (h : Midway range script pages located n tail held s) (hlog : s'.log = s.log ++ [e])
    (hsuccess : s'.success = s.success) (he : e.use = some (x, .acquire))
    (hcontrol : e.control range = none)
    (hholds : ∀ y, s'.holds y = (decide (y = x) || s.holds y)) (hlocated : s'.common = s.common)
    (hx : x ∉ held) (hpage : x.1 ∈ pages) (hcommon : x ≠ (.common, .mapping)) :
    Midway range script pages located n tail (x :: held) s' := by
  refine ⟨h.played.silent hlog hsuccess hcontrol, h.holding.acquire hlog he hholds hx hpage, ?_,
    h.start, hlocated.trans h.common⟩
  rw [List.mem_cons, or_iff_right hcommon.symm]
  exact h.mapped

theorem next (h : Midway range script pages located n [] held s) (hlog : s'.log = s.log ++ [e])
    (hsuccess : s'.success = s.success) (hholds : ∀ x, s'.holds x = s.holds x)
    (hlocated : s'.common = s.common) (huse : e.use = none) (he : e.control range = some c)
    (hc : script[n]? = some c) (hn : 0 < n) :
    Midway range script pages located (n + 1) [] held s' := by
  refine ⟨h.played.advance hlog hsuccess he hc, h.holding.idle hlog hholds huse, ?_, ?_,
    hlocated.trans h.common⟩
  · rw [h.mapped]
    omega
  · exact fun _ => rfl

theorem keeps_ask :
    Keeps (Midway range script pages located n tail held) (ask env : Prog ε Stage Answer) := by
  intro s h
  exact wp_of_run (show ask env s = _ from rfl)
    ⟨h.played.same rfl rfl, h.holding.same rfl fun _ => rfl, h.mapped, h.start, h.common⟩

theorem keeps_emit (he : e.Plain range) :
    Keeps (Midway range script pages located n tail held) (emit e : Prog ε Stage Unit) :=
  .modify fun _ h => ⟨h.played.silent rfl rfl he.2, h.holding.idle rfl (fun _ => rfl) he.1,
    h.mapped, h.start, h.common⟩

theorem keeps_setRecord (f : Record → Record) :
    Keeps (Midway range script pages located n tail held) (setRecord f : Prog ε Stage Unit) :=
  .modify fun _ h => ⟨h.played.same rfl rfl, h.holding.same rfl fun _ => rfl, h.mapped, h.start,
    h.common⟩

theorem keeps_read {place width : Nat}
    (he : ∀ value, (Event.read page place width value).Plain range) :
    Keeps (Midway range script pages located n tail held)
      (read env page place width : Prog ε Stage Nat) :=
  keeps_ask.bind fun _ => (keeps_emit (he _)).bind fun _ => .pure _

/-- The registers other than the device status. -/
theorem keeps_readCommon {off width : Nat} (hoff : off ≠ VIRTIO_COMMON_DEVICE_STATUS_OFF) :
    Keeps (Midway range script pages located n tail held)
      (readCommon env range off width : Prog ε Stage Nat) := by
  refine keeps_read fun value => ⟨rfl, if_neg ?_⟩
  unfold CommonRange.place
  omega

theorem keeps_writeCommon {off width value : Nat} (hoff : off ≠ VIRTIO_COMMON_DEVICE_STATUS_OFF ∧
      off ≠ VIRTIO_COMMON_QUEUE_ENABLE_OFF) :
    Keeps (Midway range script pages located n tail held)
      (writeCommon range off width value : Prog ε Stage Unit) := by
  refine keeps_emit ⟨rfl, (if_neg ?_).trans (if_neg ?_)⟩ <;> unfold CommonRange.place <;> omega

theorem keeps_zeroLayout :
    Keeps (Midway range script pages located n tail held) (zeroLayout : Prog ε Stage Unit) :=
  .forUp fun _ _ _ => keeps_emit ⟨rfl, rfl⟩

theorem keeps_readRings :
    Keeps (Midway range script pages located n tail held) (readRings env) := by
  have hread : ∀ place, Keeps (Midway range script pages located n tail held)
      (read env .layout place 2 : Prog Unit Stage Nat) :=
    fun place => keeps_read fun _ => ⟨rfl, rfl⟩
  exact (hread _).bind fun _ => (hread _).bind fun _ => (hread _).bind fun _ =>
    (hread _).bind fun _ => .pure _

theorem keeps_programQueue (framePaddr : Word) :
    Keeps (Midway range script pages located n tail held) (programQueue env range framePaddr) := by
  refine (keeps_writeCommon (by decide)).bind fun _ => ?_
  refine (keeps_readCommon (by decide)).bind fun _ => (keeps_setRecord _).bind fun _ => ?_
  refine (keeps_orOut _).bind fun _ => ?_
  iterate 6 refine (keeps_writeCommon (by decide)).bind fun _ => ?_
  iterate 5 refine (keeps_readCommon (by decide)).bind fun _ => (keeps_orOut _).bind fun _ => ?_
  exact (keeps_readCommon (by decide)).bind fun _ => keeps_orOut _

/-! ## Steps of the script -/

end Midway

/-! ## Acquisitions -/

theorem holds_frame (hframe : s'.frameAllocated = Function.update s.frameAllocated page true)
    (hreserved : s'.reserved = s.reserved) (hmapped : s'.mapped = s.mapped) :
    s'.holds x = (decide (x = (page, .frame)) || s.holds x) := by
  obtain ⟨page', resource⟩ := x
  cases resource <;> by_cases hpage : page' = page <;>
    simp [Stage.holds, hframe, hreserved, hmapped, hpage, Function.update_of_ne]

namespace Midway

theorem wp_allocFrameAt {paddr : Word} {Q : Bool → Stage → Prop} {E : ε → Stage → Prop}
    (h : Midway range script pages located n tail held s) (hx : (page, .frame) ∉ held)
    (hpage : page ∈ pages) (hfail : (env s.asked).ok = false →
      ∀ s', Midway range script pages located n tail held s' → Q false s')
    (hQ : (env s.asked).ok = true → ∀ s', s'.asked = s.asked + 1 →
      Midway range script pages located n tail ((page, .frame) :: held) s' → Q true s') :
    wp (allocFrameAt env page paddr) Q E s := by
  refine wp_bind (wp_of_run (show ask env s = _ from rfl) (wp_bind (wp_modify (wp_bind ?_))))
  cases hok : (env s.asked).ok with
  | false =>
    exact wp_when (fun h => by cases h) fun _ => wp_pure (hfail hok _
      ⟨h.played.silent rfl rfl rfl, h.holding.idle rfl (fun _ => rfl) rfl, h.mapped, h.start,
        h.common⟩)
  | true =>
    exact wp_when (fun _ => wp_modify (wp_pure (hQ hok _ rfl (h.acquire rfl rfl rfl rfl
      (fun _ => holds_frame rfl rfl rfl) rfl hx hpage (by simp))))) fun h => absurd rfl h

end Midway

end SeLinOS.Pci
