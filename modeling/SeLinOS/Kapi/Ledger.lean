import SeLinOS.Kapi.DmaLease
import SeLinOS.Kapi.Life

/-!
# Registrations as the callers see them

The PCI binding is one record. The callers of the KAPI see which registrations have returned 0 and
which callbacks are running; `Ledger` keeps that, from the calls and their results alone.

* `ledger`: what the callers have seen.
* `Orderly`: no driver is registered inside a probe, and none is unregistered inside its own
  removal.
* `Phase`: in an orderly run the binding is that of the one driver of the ledger.
* `registered_unregistered`: such a driver can be unregistered.
-/

namespace SeLinOS.Kapi

open CLogic Sel4

/-! ## The ledger -/

/-- A callback that is running; of a driver, its address. -/
inductive Running where
  | probe (driver : Word)
  | remove (driver : Word)
  | irqHandler
  | work
  deriving Repr, DecidableEq

def Running.frame : Running → Frame
  | probe _ => .probe
  | remove _ => .remove
  | irqHandler => .irqHandler
  | work => .work

/-- The drivers whose registration has returned 0 and that nobody has unregistered since, and the
callbacks that are running, the innermost first. -/
structure Ledger where
  registered : List Word
  running : List Running
  deriving Repr, DecidableEq

namespace Ledger

def push (l : Ledger) (r : Running) : Ledger := { l with running := r :: l.running }

def withdraw (l : Ledger) (driver : Word) : Ledger :=
  { l with registered := l.registered.filter (· ≠ driver) }

/-- The innermost callback returns. -/
def pop (l : Ledger) (status : Int) : Ledger :=
  match l.running with
  | [] => l
  | .probe driver :: running =>
    ⟨if status = 0 then driver :: l.registered else l.registered, running⟩
  | _ :: running => { l with running }

/-- A call and its result. -/
def note (l : Ledger) (x : KapiCall) : Ledger :=
  match x.request with
  | .registerDriver (some d) _ => if x.reply = .callback then l.push (.probe d.address) else l
  | .unregisterDriver (some d) =>
    if x.reply = .callback then (l.withdraw d.address).push (.remove d.address)
    else l.withdraw d.address
  | .callbackReturn status => l.pop status
  | .dispatchOneIrq => if x.reply = .callback then l.push .irqHandler else l
  | .scheduleWork _ => if x.reply = .callback then l.push .work else l
  | _ => l

/-- The probes and the removals that are running. -/
def drivers (l : Ledger) : List Running :=
  l.running.filter fun r => r.frame == .probe || r.frame == .remove

end Ledger

/-- What the callers have seen. -/
def ledger (es : List KapiCall) : Ledger := es.foldl Ledger.note ⟨[], []⟩

theorem ledger_snoc (es : List KapiCall) (x : KapiCall) : ledger (es ++ [x]) = (ledger es).note x :=
  List.foldl_append

/-! ## Orderly runs -/

/-- No registration comes to its probe while a probe is running, and the bound driver is not
unregistered while a removal is running. -/
def Orderly (s : State) (c : Call) : Prop :=
  match c with
  | .registerDriver driver replies => (∃ d reply, Matched driver replies d reply) →
      .probe ∉ s.frames
  | .unregisterDriver (some d) => Bound d s → .remove ∉ s.frames
  | _ => True

/-- The calls of orderly drivers. -/
def OrderlyCalls (s : State) (x : KapiCall) (s' : State) : Prop :=
  Calls s x s' ∧ Orderly s x.request

/-- No driver is bound. -/
def Unbound (s : State) : Prop := s.pci.driver = none ∧ s.pci.active = false

/-- The one driver, or none, and where it is in its life. -/
inductive Phase (l : Ledger) (s : State) : Prop
  | idle (hregistered : l.registered = []) (hdrivers : l.drivers = []) (h : Unbound s)
  | probing (d : Word) (hregistered : l.registered = []) (hdrivers : l.drivers = [.probe d])
      (hdriver : s.pci.driver = some d) (hactive : s.pci.active = false)
  | bound (d : Word) (hregistered : l.registered = [d]) (hdrivers : l.drivers = [])
      (hdriver : s.pci.driver = some d) (hactive : s.pci.active = true)
  | removing (d : Word) (hregistered : l.registered = []) (hdrivers : l.drivers = [.remove d])
      (hdriver : s.pci.driver = some d) (hactive : s.pci.active = true)

/-- The ledger has the callbacks of the state, and they agree on the driver. -/
structure Tracked (l : Ledger) (s : State) : Prop where
  frames : l.running.map Running.frame = s.frames
  phase : Phase l s

section Step

variable {l l' : Ledger} {s s' : State}

/-- Neither the ledger's drivers nor the binding change. -/
theorem Phase.of_same (h : Phase l s) (hregistered : l'.registered = l.registered)
    (hdrivers : l'.drivers = l.drivers) (hdriver : s'.pci.driver = s.pci.driver)
    (hactive : s'.pci.active = s.pci.active) : Phase l' s' := by
  cases h with
  | idle h1 h2 h3 =>
    exact .idle (hregistered.trans h1) (hdrivers.trans h2)
      ⟨hdriver.trans h3.1, hactive.trans h3.2⟩
  | probing d h1 h2 h3 h4 =>
    exact .probing d (hregistered.trans h1) (hdrivers.trans h2) (hdriver.trans h3)
      (hactive.trans h4)
  | bound d h1 h2 h3 h4 =>
    exact .bound d (hregistered.trans h1) (hdrivers.trans h2) (hdriver.trans h3)
      (hactive.trans h4)
  | removing d h1 h2 h3 h4 =>
    exact .removing d (hregistered.trans h1) (hdrivers.trans h2) (hdriver.trans h3)
      (hactive.trans h4)

/-- A driver that is being probed or removed has its callback among the frames. -/
theorem Tracked.frame_mem {r : Running} (h : Tracked l s) (hr : r ∈ l.drivers) :
    r.frame ∈ s.frames := by
  rw [← h.frames]
  exact List.mem_map_of_mem (List.mem_of_mem_filter hr)

/-- The innermost callback, in the ledger. -/
theorem Tracked.running {f : Frame} {frames : List Frame} (h : Tracked l s)
    (hframes : s.frames = f :: frames) :
    ∃ r running, l.running = r :: running ∧ r.frame = f ∧ running.map Running.frame = frames := by
  have hmap := h.frames.trans hframes
  obtain ⟨r, running, hl, hf, hrest⟩ := List.map_eq_cons_iff.mp hmap
  exact ⟨r, running, hl, hf, hrest⟩

/-- The bound driver is in the phase `bound`, unless a removal is running. -/
theorem Tracked.bound {d : PciDriver} (h : Tracked l s) (hd : Bound d s)
    (hremove : .remove ∉ s.frames) : l.registered = [d.address] ∧ l.drivers = [] := by
  have hp := h.phase
  cases hp with
  | idle _ _ h3 => exact absurd (h3.2.symm.trans hd.2) Bool.false_ne_true
  | probing _ _ _ _ h4 => exact absurd (h4.symm.trans hd.2) Bool.false_ne_true
  | bound d' h1 h2 h3 _ =>
    obtain rfl := Option.some.inj (h3.symm.trans hd.1)
    exact ⟨h1, h2⟩
  | removing d' _ h2 _ _ =>
    exact absurd (h.frame_mem (r := .remove d') (h2 ▸ List.mem_singleton_self _)) hremove

/-! ## One call -/

theorem note_aside {c : Call} {r : Ret} (hc : c.Aside) (hr : r ≠ .callback) (l : Ledger) :
    l.note ⟨c, r⟩ = l := by
  cases c <;> first | exact hc.elim | rfl | exact if_neg hr

/-- A handler or a work function starts. -/
theorem Tracked.calledBack {c : Call} {f : Frame} (h : Tracked l s) (hf : c.runs = some f) :
    Tracked (l.note ⟨c, .callback⟩) { s with frames := f :: s.frames } := by
  cases c with
  | dispatchOneIrq =>
    cases hf
    exact ⟨congrArg (Frame.irqHandler :: ·) h.frames, h.phase.of_same rfl rfl rfl rfl⟩
  | scheduleWork runnable =>
    cases hf
    exact ⟨congrArg (Frame.work :: ·) h.frames, h.phase.of_same rfl rfl rfl rfl⟩
  | _ => cases hf

/-- It returns. -/
theorem Tracked.resumed {status : Int} {f : Frame} {frames : List Frame} {r : Ret}
    (h : Tracked l s) (hframes : s.frames = f :: frames) (hf : f = .irqHandler ∨ f = .work) :
    Tracked (l.note ⟨.callbackReturn status, r⟩) { s with frames } := by
  obtain ⟨top, running, hl, htop, hrest⟩ := h.running hframes
  have hpop : l.note ⟨.callbackReturn status, r⟩ = { l with running } := by
    show l.pop status = _
    unfold Ledger.pop
    rw [hl]
    cases top <;> first | rfl | (rcases hf with rfl | rfl <;> cases htop)
  have hdrivers : l.drivers = running.filter fun r => r.frame == .probe || r.frame == .remove := by
    rw [Ledger.drivers, hl, List.filter_cons_of_neg]
    rcases hf with rfl | rfl <;> simp [htop]
  rw [hpop]
  exact ⟨hrest, h.phase.of_same rfl hdrivers.symm rfl rfl⟩

/-- A registration comes to its probe. -/
theorem Tracked.started {driver : Option PciDriver} {replies : Nat → Message} {d : PciDriver}
    {reply : Message} (h : Tracked l s) (hm : Matched driver replies d reply)
    (hactive : s.pci.active = false) (hprobe : .probe ∉ s.frames) :
    Tracked (l.note ⟨.registerDriver driver replies, .callback⟩) (startProbe d reply s) := by
  obtain ⟨rfl, -⟩ := hm
  refine ⟨congrArg (Frame.probe :: ·) h.frames, ?_⟩
  have hp := h.phase
  cases hp with
  | idle h1 h2 _ =>
    exact .probing d.address h1 (congrArg (Running.probe d.address :: ·) h2) rfl hactive
  | probing d' _ h2 _ _ =>
    exact absurd (h.frame_mem (r := .probe d') (h2 ▸ List.mem_singleton_self _)) hprobe
  | bound _ _ _ _ h4 => exact absurd (hactive.symm.trans h4) Bool.false_ne_true
  | removing _ _ _ _ h4 => exact absurd (hactive.symm.trans h4) Bool.false_ne_true

/-- While a probe or a removal is the innermost of its kind, no driver is registered, and it is the
only one of its kind. -/
theorem Phase.driving {r : Running} {rest : List Running} (h : Phase l s)
    (hdrivers : l.drivers = r :: rest) : l.registered = [] ∧ rest = [] ∧
      ∀ d, r = .probe d → s.pci.driver = some d ∧ s.pci.active = false := by
  cases h with
  | idle _ h2 _ => exact absurd (h2.symm.trans hdrivers) nofun
  | bound _ _ h2 _ _ => exact absurd (h2.symm.trans hdrivers) nofun
  | probing d' h1 h2 h3 h4 =>
    obtain ⟨rfl, rfl⟩ := List.cons.inj (h2.symm.trans hdrivers)
    refine ⟨h1, rfl, fun d hd => ?_⟩
    cases hd
    exact ⟨h3, h4⟩
  | removing d' h1 h2 _ _ =>
    obtain ⟨rfl, rfl⟩ := List.cons.inj (h2.symm.trans hdrivers)
    exact ⟨h1, rfl, nofun⟩

/-- A probe returns. -/
theorem Tracked.probed {status : Int} {frames : List Frame} (h : Tracked l s)
    (hframes : s.frames = .probe :: frames) :
    Tracked (l.note ⟨.callbackReturn status, .int status⟩)
      (finishProbe status { s with frames }).2 := by
  obtain ⟨top, running, hl, htop, hrest⟩ := h.running hframes
  obtain ⟨d, rfl⟩ : ∃ d, top = .probe d := by cases top <;> first | exact ⟨_, rfl⟩ | cases htop
  have hdrivers : l.drivers = .probe d ::
      running.filter fun r => r.frame == .probe || r.frame == .remove := by
    rw [Ledger.drivers, hl]
    rfl
  have hpop : l.note ⟨.callbackReturn status, .int status⟩ =
      ⟨if status = 0 then d :: l.registered else l.registered, running⟩ := by
    show l.pop status = _
    unfold Ledger.pop
    rw [hl]
  rw [hpop]
  obtain ⟨hregistered, hnone, hprobing⟩ := h.phase.driving hdrivers
  obtain ⟨hdriver, hactive⟩ := hprobing d rfl
  by_cases hstatus : status = 0
  · subst hstatus
    exact ⟨hrest, .bound d (congrArg (d :: ·) hregistered) hnone hdriver rfl⟩
  · have hs : (finishProbe status { s with frames }).2.pci.driver = none ∧
        (finishProbe status { s with frames }).2.pci.active = s.pci.active ∧
        (finishProbe status { s with frames }).2.frames = frames := by
      simp [finishProbe, hstatus]
    rw [if_neg hstatus]
    exact ⟨hrest.trans hs.2.2.symm, .idle hregistered hnone ⟨hs.1, hs.2.1.trans hactive⟩⟩

/-- A removal returns. -/
theorem Tracked.removed {status : Int} {frames : List Frame} {r : Ret} (h : Tracked l s)
    (hframes : s.frames = .remove :: frames) :
    Tracked (l.note ⟨.callbackReturn status, r⟩) (finishRemove { s with frames }) := by
  obtain ⟨top, running, hl, htop, hrest⟩ := h.running hframes
  obtain ⟨d, rfl⟩ : ∃ d, top = .remove d := by cases top <;> first | exact ⟨_, rfl⟩ | cases htop
  have hdrivers : l.drivers = .remove d ::
      running.filter fun r => r.frame == .probe || r.frame == .remove := by
    rw [Ledger.drivers, hl]
    rfl
  have hpop : l.note ⟨.callbackReturn status, r⟩ = { l with running } := by
    show l.pop status = _
    unfold Ledger.pop
    rw [hl]
  rw [hpop]
  obtain ⟨hregistered, hnone, -⟩ := h.phase.driving hdrivers
  exact ⟨hrest, .idle hregistered hnone ⟨rfl, rfl⟩⟩

/-- `pci_unregister_driver` for a driver that is not bound. -/
theorem Tracked.unbound {driver : Option PciDriver} (h : Tracked l s)
    (hno : ∀ d, driver = some d → ¬ Bound d s) :
    Tracked (l.note ⟨.unregisterDriver driver, .void⟩) s := by
  cases driver with
  | none => exact h
  | some d =>
    refine ⟨h.frames, h.phase.of_same ?_ rfl rfl rfl⟩
    show l.registered.filter (· ≠ d.address) = l.registered
    refine List.filter_eq_self.mpr fun d' hd' => ?_
    have hp := h.phase
    cases hp with
    | bound d'' h1 _ h3 h4 =>
      rw [h1, List.mem_singleton] at hd'
      subst hd'
      exact decide_eq_true fun hd => hno d rfl ⟨hd ▸ h3, h4⟩
    | idle h1 _ _ => rw [h1] at hd'; cases hd'
    | probing _ h1 _ _ _ => rw [h1] at hd'; cases hd'
    | removing _ h1 _ _ _ => rw [h1] at hd'; cases hd'

theorem withdraw_bound {d : Word} (h : l.registered = [d]) : (l.withdraw d).registered = [] := by
  simp [Ledger.withdraw, h]

/-- One call of an orderly driver. -/
theorem tracked_step {x : KapiCall} (hx : OrderlyCalls s x s') (h : Tracked l s) :
    Tracked (l.note x) s' := by
  obtain ⟨c, r⟩ := x
  obtain ⟨hc, ho⟩ := hx
  have hl := call_life hc
  cases hl with
  | aside hc hr hb hframes =>
    rw [note_aside hc hr]
    exact ⟨h.frames.trans hframes.symm, h.phase.of_same rfl rfl hb.driver hb.active⟩
  | calledBack hf => exact h.calledBack hf
  | @refused driver replies status _ _ =>
    cases driver <;> exact h
  | started hm _ _ hactive => exact h.started hm hactive (ho ⟨_, _, hm⟩)
  | unbound hno => exact h.unbound hno
  | @removing d hd _ =>
    obtain ⟨h1, h2⟩ := h.bound hd (ho hd)
    exact ⟨congrArg (Frame.remove :: ·) h.frames, .removing d.address (withdraw_bound h1)
      (congrArg (Running.remove d.address :: ·) h2) hd.1 hd.2⟩
  | @dropped d hd _ =>
    obtain ⟨h1, h2⟩ := h.bound hd (ho hd)
    exact ⟨h.frames, .idle (withdraw_bound h1) h2 ⟨rfl, rfl⟩⟩
  | probed hframes => exact h.probed hframes
  | removed hframes => exact h.removed hframes
  | resumed hframes hf _ => exact h.resumed hframes hf

end Step

theorem tracked_run {es : List KapiCall} {s : State} (h : Run OrderlyCalls State.boot es s) :
    Tracked (ledger es) s := by
  refine h.history (I := fun es s => Tracked (ledger es) s) (fun es s x s' hs hx => ?_)
    ⟨rfl, .idle rfl rfl ⟨rfl, rfl⟩⟩
  rw [ledger_snoc]
  exact tracked_step hx hs

/-! ## Unregistering -/

/-- The call runs a removal. -/
def RunsRemove (x : KapiCall) : Prop :=
  (∃ driver, x.request = .unregisterDriver driver) ∧ x.reply = .callback

/-- A call inside a callback, with `n` callbacks running in it. -/
def Inside (n : Nat) (s : State) (x : KapiCall) (s' : State) : Prop :=
  OrderlyCalls s x s' ∧ n ≤ s'.frames.length

/-- `pci_unregister_driver(d)` runs the removal of `d`, if it has one, and when it returns no driver
is bound. No other removal runs before that, whatever the removal of `d` calls. -/
structure Unregisters (d : PciDriver) (s : State) : Prop where
  without : d.remove = false →
    ∃ s', unregisterDriver (some d) s = (.void, s') ∧ Unbound s' ∧ s'.frames = s.frames
  removal : d.remove = true →
    ∃ s₁, unregisterDriver (some d) s = (.callback, s₁) ∧ s₁.frames = .remove :: s.frames ∧
      ∀ xs s₂, Run (Inside s₁.frames.length) s₁ xs s₂ →
        (∀ x ∈ xs, ¬ RunsRemove x) ∧
        (s₂.frames.length = s₁.frames.length → ∀ status, ∃ s₃,
          callbackReturn status s₂ = some (.void, s₃) ∧ Unbound s₃ ∧ s₃.frames = s.frames)

/-- Inside the removal of `d`, whose frame is the first of `base`. -/
structure InRemoval (d : Word) (base : List Frame) (s : State) : Prop where
  frames : ∃ inner, s.frames = inner ++ base ∧ ∀ f ∈ inner, f = .irqHandler ∨ f = .work
  driver : s.pci.driver = some d
  active : s.pci.active = true

/-- The callback on top: the removal, or one that it runs. -/
theorem InRemoval.top {d : Word} {f : Frame} {rest frames : List Frame} {s : State}
    (h : InRemoval d (.remove :: rest) s) (hframes : s.frames = f :: frames) :
    (f = .remove ∧ frames = rest) ∨ ((f = .irqHandler ∨ f = .work) ∧
      ∃ inner, frames = inner ++ .remove :: rest ∧ ∀ g ∈ inner, g = .irqHandler ∨ g = .work) := by
  obtain ⟨inner, hinner, hquiet⟩ := h.frames
  have htop : f :: frames = inner ++ .remove :: rest := hframes.symm.trans hinner
  cases inner with
  | nil =>
    obtain ⟨rfl, rfl⟩ := List.cons.inj htop
    exact .inl ⟨rfl, rfl⟩
  | cons f' inner =>
    obtain ⟨rfl, rfl⟩ := List.cons.inj htop
    exact .inr ⟨hquiet _ List.mem_cons_self,
      inner, rfl, fun g hg => hquiet g (List.mem_cons_of_mem _ hg)⟩

/-- A call inside a removal that does not end it stays there, and runs no other removal. -/
theorem inRemoval_step {d : Word} {rest : List Frame} {s s' : State} {x : KapiCall}
    (hx : Inside (.remove :: rest).length s x s') (h : InRemoval d (.remove :: rest) s) :
    InRemoval d (.remove :: rest) s' ∧ ¬ RunsRemove x := by
  obtain ⟨c, r⟩ := x
  obtain ⟨⟨hc, ho⟩, hlength⟩ := hx
  obtain ⟨inner, hinner, hquiet⟩ := h.frames
  have hremove : .remove ∈ s.frames := by
    rw [hinner]
    exact List.mem_append_right _ List.mem_cons_self
  have hl := call_life hc
  cases hl with
  | aside hc hr hb hframes =>
    refine ⟨⟨⟨inner, hframes.trans hinner, hquiet⟩, hb.driver.trans h.driver,
      hb.active.trans h.active⟩, fun hruns => hr hruns.2⟩
  | @calledBack c f hf =>
    refine ⟨⟨⟨f :: inner, congrArg (f :: ·) hinner, ?_⟩, h.driver, h.active⟩, ?_⟩
    · exact List.forall_mem_cons.mpr ⟨Call.runs_frame hf, hquiet⟩
    · rintro ⟨⟨driver, rfl⟩, -⟩
      cases hf
  | refused => exact ⟨h, fun hruns => by cases hruns.2⟩
  | started _ _ _ hactive => exact absurd (hactive.symm.trans h.active) Bool.false_ne_true
  | unbound => exact ⟨h, fun hruns => by cases hruns.2⟩
  | removing hd _ => exact absurd hremove (ho hd)
  | dropped hd _ => exact absurd hremove (ho hd)
  | @probed status frames hframes =>
    rcases h.top hframes with ⟨hf, -⟩ | ⟨hf | hf, -⟩ <;> cases hf
  | @removed status frames hframes =>
    rcases h.top hframes with ⟨-, rfl⟩ | ⟨hf | hf, -⟩
    · -- the removal itself would return
      exact absurd hlength (Nat.not_succ_le_self _)
    · cases hf
    · cases hf
  | @resumed status f frames r hframes hf hr =>
    rcases h.top hframes with ⟨rfl, -⟩ | ⟨-, hinner'⟩
    · rcases hf with hf | hf <;> cases hf
    · exact ⟨⟨hinner', h.driver, h.active⟩, fun hruns => hr hruns.2⟩

/-- The removal returns: no driver is bound. -/
theorem InRemoval.return {d : Word} {rest : List Frame} {s : State} {status : Int}
    (h : InRemoval d (.remove :: rest) s) (hlength : s.frames.length = (.remove :: rest).length) :
    ∃ s', callbackReturn status s = some (.void, s') ∧ Unbound s' ∧ s'.frames = rest := by
  obtain ⟨inner, hinner, -⟩ := h.frames
  have hnil : inner = [] := by
    rw [hinner, List.length_append] at hlength
    exact List.length_eq_zero_iff.mp (by omega)
  subst hnil
  refine ⟨finishRemove { s with frames := rest }, ?_, ⟨rfl, rfl⟩, rfl⟩
  unfold callbackReturn
  rw [hinner]
  rfl

theorem unregisters_bound {d : PciDriver} {s : State} (h : Bound d s) : Unregisters d s := by
  have hbound : ¬ (s.pci.driver ≠ some d.address ∨ ¬ s.pci.active = true) := by
    rintro (hc | hc)
    exacts [hc h.1, hc h.2]
  constructor
  · intro hremove
    refine ⟨finishRemove s, ?_, ⟨rfl, rfl⟩, rfl⟩
    simp only [unregisterDriver, if_neg hbound, hremove, Bool.false_eq_true, if_false]
  · intro hremove
    refine ⟨{ s with frames := .remove :: s.frames }, ?_, rfl, fun xs s₂ hrun => ?_⟩
    · simp only [unregisterDriver, if_neg hbound, hremove, if_true]
    · have hstart : InRemoval d.address (.remove :: s.frames)
          { s with frames := .remove :: s.frames } :=
        ⟨⟨[], rfl, fun f hf => by cases hf⟩, h.1, h.2⟩
      have hin := hrun.invariant (I := InRemoval d.address (.remove :: s.frames))
        (fun _ _ _ ht hx => (inRemoval_step hx ht).1) hstart
      exact ⟨hrun.forall_mem (fun _ _ _ ht hx => inRemoval_step hx ht) hstart,
        fun hlength status => hin.return hlength⟩

/-- **Registrations**: in every orderly run, with any callbacks, at most one driver is bound, being
probed or being removed, and a driver whose registration has returned 0 and that nobody has
unregistered since can be unregistered. -/
theorem registered_unregistered {es : List KapiCall} {s : State}
    (h : Run OrderlyCalls State.boot es s) :
    (ledger es).registered.length + (ledger es).drivers.length ≤ 1 ∧
      ∀ d : PciDriver, d.address ∈ (ledger es).registered → Unregisters d s := by
  have hp := (tracked_run h).phase
  cases hp with
  | idle h1 h2 _ => exact ⟨by simp [h1, h2], fun d hd => by simp [h1] at hd⟩
  | probing _ h1 h2 _ _ => exact ⟨by simp [h1, h2], fun d hd => by simp [h1] at hd⟩
  | removing _ h1 h2 _ _ => exact ⟨by simp [h1, h2], fun d hd => by simp [h1] at hd⟩
  | bound d' h1 h2 h3 h4 =>
    refine ⟨by simp [h1, h2], fun d hd => ?_⟩
    rw [h1, List.mem_singleton] at hd
    subst hd
    exact unregisters_bound ⟨h3, h4⟩

/-- The edu driver is registered. -/
def registerCalls : List KapiCall :=
  [⟨.bindDeviced 271, .int 0⟩, ⟨.registerDriver (some eduDriver) eduReply, .callback⟩,
    ⟨.callbackReturn 0, .int 0⟩]

theorem registered_unregistered_edu : ∃ s, Run OrderlyCalls State.boot registerCalls s ∧
    Unregisters eduDriver s := by
  have hrun : ∃ s, Run OrderlyCalls State.boot registerCalls s :=
    ⟨_, .cons ⟨rfl, trivial⟩ (.cons ⟨rfl, fun _ => by decide⟩ (.single ⟨rfl, trivial⟩))⟩
  obtain ⟨s, hrun⟩ := hrun
  exact ⟨s, hrun, (registered_unregistered hrun).2 eduDriver (by decide)⟩

/-- A second driver is registered inside the probe of the edu driver; both registrations return 0,
and the edu driver cannot be unregistered. -/
theorem nested_registration : ¬ ∀ (es : List KapiCall) (s : State), Run Calls State.boot es s →
    ∀ d : PciDriver, d.remove = true → d.address ∈ (ledger es).registered →
      (unregisterDriver (some d) s).1 = .callback := by
  intro hall
  have hrun : ∃ s, Run Calls State.boot
      [⟨.bindDeviced 271, .int 0⟩, ⟨.registerDriver (some eduDriver) eduReply, .callback⟩,
        ⟨.registerDriver (some { eduDriver with address := 0x500000 }) eduReply, .callback⟩,
        ⟨.callbackReturn 0, .int 0⟩, ⟨.callbackReturn 0, .int 0⟩] s ∧
      (unregisterDriver (some eduDriver) s).1 = .void :=
    ⟨_, .cons rfl (.cons rfl (.cons rfl (.cons rfl (.single rfl)))), rfl⟩
  obtain ⟨s, hrun, hvoid⟩ := hrun
  have hcallback := hall _ s hrun eduDriver rfl (by decide)
  exact absurd (hvoid.symm.trans hcallback) (by decide)

end SeLinOS.Kapi
