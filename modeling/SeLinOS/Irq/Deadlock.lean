import SeLinOS.Irq.Agreement

/-!
# When the driver and the interrupt server wait for each other

`free_irq` while `irqd` is inside `handle_hardware_irq` blocks both: `irqd` waits for a completion
that only the driver can send, the driver for the answer to its request. Nothing else does:

* `Undisturbed`: what a driver in a call needs over `Linked` not to be deadlocked;
* `undisturbed_step`: every event keeps it, but for a release at the wrong moment (`Quiet`);
* `no_deadlock`: the run result, with what a release at the wrong moment ends in. `deadlocked_step`:
  the deadlock stays.
-/

namespace SeLinOS.Irq

open CLogic Sel4

namespace Joint

/-- While the driver is in a call, `irqd` does not wait for a completion, and does not handle an
interrupt either if the call is a release. -/
def Undisturbed (j : Joint) : Prop :=
  ∀ c, j.driver.calling = some c →
    j.server.pc ≠ .completeRecv ∧ (c = .unregister → j.server.pc ≠ .hardware)

theorem Undisturbed.not_deadlocked {j : Joint} (h : j.Undisturbed) : ¬ j.Deadlocked := by
  rintro ⟨hpc, hd⟩
  obtain ⟨c, hc⟩ := Option.ne_none_iff_exists'.mp hd
  exact (h c hc).1 hpc

theorem undisturbed_of_none {j : Joint} (hc : j.driver.calling = none) : j.Undisturbed :=
  fun c hcall => by rw [hc] at hcall; cases hcall

/-- A driver in `request_irq` has no registration. -/
theorem Agrees.not_registered {j : Joint} (h : j.Agrees)
    (hc : j.driver.calling = some .register) : j.server.registeredIrq = 0 := by
  unfold Agrees at h
  cases hd : j.driver <;> rw [hd] at h hc <;> cases hc
  exact h.2

/-- A driver about to release has its line registered. -/
theorem Agrees.releasing {j : Joint} (h : j.Agrees) (hd : j.driver = .freeSignal) :
    j.server.registeredIrq ≠ 0 := by
  unfold Agrees at h
  rw [hd] at h
  rw [h.2.1]
  exact h.2.2

/-! ## Events -/

/-- A wait that returns while the driver is in a call goes to the handler of the call. -/
theorem undisturbed_wait {j j' : Joint} (h : j.Linked) (hn : j.next .wait = some j') :
    j'.Undisturbed := by
  have hawaited := (linked_step h hn).awaited
  obtain ⟨server, hs, rfl⟩ := serve_some hn
  obtain ⟨badge, -, -, rfl⟩ := next_wait hs
  intro c hc
  refine ⟨afterWait_ne_completeRecv badge, fun hu hpc => ?_⟩
  obtain ⟨hbadge, -⟩ | ⟨-, hrecv⟩ := hawaited.of_some hc
  · cases c <;> cases hbadge
  · rw [hpc] at hrecv
    cases c <;> cases hrecv

/-- `irqd` drops an interrupt while the driver is in a call: the call is a registration. -/
theorem undisturbed_handle {j j' : Joint} {ack : Bool} (h : j.Linked) (hu : j.Undisturbed)
    (hn : j.next (.handle ack) = some j') : j'.Undisturbed := by
  obtain ⟨server, hs, rfl⟩ := serve_some hn
  obtain ⟨hpc, ⟨-, rfl⟩ | ⟨hr, rfl⟩⟩ := next_handle hs
  · exact fun c hc => ⟨by simp, by simp⟩
  · intro c hc
    cases c with
    | register => exact absurd (h.agrees.not_registered hc) hr
    | unregister => exact absurd hpc ((hu _ hc).2 rfl)

theorem undisturbed_signal {j j' : Joint} (h : j.Linked) (hq : Quiet j .signal)
    (hn : j.next .signal = some j') : j'.Undisturbed := by
  obtain ⟨handler, devId, hd, rfl⟩ | ⟨hd, rfl⟩ := signal_sent hn <;> intro c hc
  · obtain rfl : Control.register = c := Option.some.inj hc
    have hfree : j.server.registeredIrq = 0 := by
      have ha := h.agrees
      unfold Agrees at ha
      rw [hd] at ha
      exact ha.2
    exact ⟨fun hpc => h.completing hpc hfree, fun hc => by cases hc⟩
  · obtain ⟨hq1, hq2⟩ := hq rfl hd
    exact ⟨hq2, fun _ => hq1⟩

theorem undisturbed_step {j j' : Joint} {e : JointEvent} (h : j.Linked) (hu : j.Undisturbed)
    (hn : j.next e = some j') (hq : Quiet j e) : j'.Undisturbed := by
  cases e with
  | hardware =>
    obtain ⟨server, hs, rfl⟩ := serve_some hn
    obtain ⟨-, rfl⟩ := next_hardware hs
    exact hu
  | wait => exact undisturbed_wait h hn
  | handle ack => exact undisturbed_handle h hu hn
  | signal => exact undisturbed_signal h hq hn
  | call k =>
    have hrecv := fun c hc => (h.awaited.recv_of_call (c := c) hc hn).2
    exact undisturbed_of_none (agrees_call h.agrees hrecv hn).2.1
  | complete ack =>
    obtain ⟨-, -, masked, rfl⟩ := completion_received hn
    exact undisturbed_of_none rfl
  | _ => exact undisturbed_of_none (next_own hn (by simp)).2.1

/-! ## Runs -/

/-- The events of the driver and `irqd`, without a release while `irqd` handles an interrupt. -/
def QuietStep (j : Joint) (e : JointEvent) (j' : Joint) : Prop := Next next j e j' ∧ Quiet j e

theorem undisturbed_run {irq : BitVec 32} {deviceToken activeToken : Word} {es : List JointEvent}
    {j : Joint} (h : Run QuietStep (start irq deviceToken activeToken) es j) :
    j.Linked ∧ j.Undisturbed :=
  h.invariant (I := fun j => j.Linked ∧ j.Undisturbed)
    (fun _ _ _ hi hstep =>
      ⟨linked_step hi.1 hstep.1, undisturbed_step hi.1 hi.2 hstep.1 hstep.2⟩)
    ⟨linked_start irq deviceToken activeToken, undisturbed_of_none rfl⟩

/-- A release at the wrong moment: the two are deadlocked at once, or as soon as `irqd` goes on. -/
theorem Linked.deadlock_of_not_quiet {j j' : Joint} (h : j.Linked) (hn : j.next .signal = some j')
    (hq : ¬ Quiet j .signal) :
    j'.Deadlocked ∨ ∀ ack, ∃ j'', j'.next (.handle ack) = some j'' ∧ j''.Deadlocked := by
  simp only [Quiet, true_implies, Classical.not_imp, not_and_or, not_not] at hq
  obtain ⟨hd, hpc⟩ := hq
  have hr := h.agrees.releasing hd
  obtain ⟨handler, devId, hd', -⟩ | ⟨-, rfl⟩ := signal_sent hn
  · rw [hd] at hd'
    cases hd'
  rcases hpc with hpc | hpc
  · refine .inr fun ack => ⟨{ j with
      driver := .freeCall
      server := { j.server with
        notification := signal j.server.notification Control.unregister.badge
        pc := .completeRecv
        driverNotified := true
        hwHandled := true } }, ?_, rfl, by simp [DriverPc.calling]⟩
    simpa [next, serve, Server.next, hpc] using hr
  · exact .inl ⟨hpc, by simp [DriverPc.calling]⟩

/-- **No deadlock**: in every run in which `free_irq` signals only while `irqd` is not handling an
interrupt, the two parties never wait for each other; and a signal at another moment, after such a
run, ends in the deadlock. -/
theorem no_deadlock {irq : BitVec 32} {deviceToken activeToken : Word} {es : List JointEvent}
    {j : Joint} (h : Run QuietStep (start irq deviceToken activeToken) es j) :
    ¬ j.Deadlocked ∧ ∀ j', j.next .signal = some j' → ¬ Quiet j .signal →
      j'.Deadlocked ∨ ∀ ack, ∃ j'', j'.next (.handle ack) = some j'' ∧ j''.Deadlocked :=
  ⟨(undisturbed_run h).2.not_deadlocked,
    fun _ hn hq => (undisturbed_run h).1.deadlock_of_not_quiet hn hq⟩

/-- A driver that registers, takes an interrupt, dispatches it and releases the line. -/
def orderlyRun : List JointEvent :=
  [.requestIrq 11 (some 1) 5, .signal, .wait, .call ⟨true, true⟩, .return_, .dispatch, .hardware,
    .wait, .handle true, .notified, .handlerEnd, .complete true, .freeIrq 11 5, .signal, .wait,
    .call ⟨true, true⟩, .return_]

instance (j : Joint) (e : JointEvent) : Decidable (Quiet j e) :=
  inferInstanceAs (Decidable (_ → _ → _ ∧ _))

theorem no_deadlock_orderly : ∃ j, exec next (start 11 7 7) orderlyRun = some j ∧
    ¬ j.Deadlocked := by
  have hsome : (exec (fun j e => if Quiet j e then next j e else none) (start 11 7 7)
      orderlyRun).isSome := by decide
  obtain ⟨j, hj⟩ := Option.isSome_iff_exists.mp hsome
  have hrun : Run QuietStep (start 11 7 7) orderlyRun j := (exec_iff.mp hj).mono
    fun s e s' hstep => by
      simp only [Next] at hstep
      split at hstep
      · exact ⟨hstep, ‹_›⟩
      · cases hstep
  exact ⟨j, exec_iff.mpr (hrun.mono fun _ _ _ h => h.1), (no_deadlock hrun).1⟩

/-- The line interrupts, and the driver releases it before it dispatches the interrupt. -/
theorem release_deadlocks : ¬ ∀ (irq : BitVec 32) (deviceToken activeToken : Word)
    (es : List JointEvent) (j : Joint),
    Run (Next next) (start irq deviceToken activeToken) es j → ¬ j.Deadlocked := by
  intro hall
  have hdead : ((exec next (start 11 7 7) [.requestIrq 11 (some 1) 5, .signal, .wait,
      .call ⟨true, true⟩, .return_, .hardware, .wait, .handle true, .freeIrq 11 5,
      .signal]).any fun j => decide j.Deadlocked) = true := by decide
  obtain ⟨j, hj, hd⟩ := (Option.any_eq_true _ _).mp hdead
  exact hall 11 7 7 _ j (exec_iff.mp hj) (by simpa using hd)

/-- The deadlock stays: only the line can still change anything. -/
theorem deadlocked_step {j j' : Joint} {e : JointEvent} (h : j.Deadlocked)
    (hn : j.next e = some j') : e = .hardware ∧ j'.Deadlocked := by
  obtain ⟨hpc, hc⟩ := h
  cases e with
  | hardware =>
    obtain ⟨server, hs, rfl⟩ := serve_some hn
    obtain ⟨-, rfl⟩ := next_hardware hs
    exact ⟨rfl, hpc, hc⟩
  | _ =>
    exfalso
    cases hd : j.driver <;> rw [hd] at hc <;>
      simp_all [next, serve, answer, handleRequest, Server.next, DriverPc.calling]

end Joint

end SeLinOS.Irq
