import SeLinOS.Irq.Driver

/-!
# What the driver and the interrupt server agree on

`request_irq` and `free_irq` install and remove the handler after the answer of `irqd`, which
changes its registration before it. In between the two sides differ; otherwise the driver has a
handler exactly when `irqd` has its line registered, whatever happens: interrupts at any time,
failures of the teardown, and also when the two are deadlocked.

* `Agrees`: the two sides, for each place of the driver. `agrees_step`: every event keeps it, given
  that a call is answered by its own handler.
* `Awaited`: a driver in a call is the one that `irqd` has a control signal of, or receives from.
* `Linked`: the invariant of every run, and `registration_agreement`: the run result.
-/

namespace SeLinOS.Irq

open CLogic Sel4

/-- A call of `request_irq` or `free_irq` has started, and has not returned. -/
def DriverPc.inFlight : DriverPc → Bool
  | requestSignal .. | requestCall .. | requestReply .. => true
  | freeSignal | freeCall | freeReply _ => true
  | _ => false

namespace Joint

/-- The control bits that are pending. -/
def pending (j : Joint) : Word := j.server.notification.getD 0

/-- `irqd` has the driver's line registered. -/
def Registered (j : Joint) : Prop :=
  j.server.registeredIrq = j.binding.irq ∧ j.binding.irq ≠ 0

/-- What the driver's handler says about the registration; a reply that the driver has not seen to
yet is ahead of it. -/
def Agrees (j : Joint) : Prop :=
  match j.driver with
  | .requestSignal .. | .requestCall .. => j.binding.handler = none ∧ j.server.registeredIrq = 0
  | .requestReply _ _ value => j.binding.handler = none ∧
      if value = REGISTER_ACCEPTED then j.Registered else j.server.registeredIrq = 0
  | .freeSignal | .freeCall => j.binding.handler ≠ none ∧ j.Registered
  | .freeReply value => j.binding.handler ≠ none ∧
      if value = UNREGISTER_ACCEPTED then j.server.registeredIrq = 0 else j.Registered
  | _ => if j.binding.handler = none then j.server.registeredIrq = 0 else j.Registered

theorem serve_some {j j' : Joint} {e : Event} (h : j.serve e = some j') :
    ∃ server, j.server.next e = some server ∧ j' = { j with server } := by
  obtain ⟨server, hs, rfl⟩ := Option.map_eq_some_iff.mp h
  exact ⟨server, hs, rfl⟩

/-- The control signal of a function: the driver goes on to the call, and the badge is pending. -/
theorem signal_sent {j j' : Joint} (hn : j.next .signal = some j') :
    (∃ handler devId, j.driver = .requestSignal handler devId ∧ j' = { j with
      driver := .requestCall handler devId
      server := { j.server with
        notification := signal j.server.notification Control.register.badge } }) ∨
    j.driver = .freeSignal ∧ j' = { j with
      driver := .freeCall
      server := { j.server with
        notification := signal j.server.notification Control.unregister.badge } } := by
  simp only [next] at hn
  split at hn
  · rename_i handler devId hd
    obtain ⟨server, hs, rfl⟩ := serve_some hn
    obtain rfl := next_control hs
    exact .inl ⟨handler, devId, hd, rfl⟩
  · rename_i hd
    obtain ⟨server, hs, rfl⟩ := serve_some hn
    obtain rfl := next_control hs
    exact .inr ⟨hd, rfl⟩
  · cases hn

/-- The completion message of the dispatch is received: `irqd` goes back to its wait. -/
theorem completion_received {j j' : Joint} {ack : Bool} (hn : j.next (.complete ack) = some j') :
    j.driver = .dispatchSend ∧ j.server.pc = .completeRecv ∧ ∃ masked, j' = { j with
      driver := .running
      server := { j.server with pc := .wait, lineMasked := masked } } := by
  simp only [next] at hn
  split at hn
  · cases hn
  · rename_i hd
    obtain ⟨server, hs, rfl⟩ := serve_some hn
    obtain ⟨hpc, masked, rfl⟩ := next_complete hs
    exact ⟨not_not.mp hd, hpc, masked, rfl⟩

/-! ## Events that leave the registration alone -/

/-- The agreement sees of `irqd` its registration only. -/
theorem Agrees.of_server {j : Joint} (h : j.Agrees) {server : Server}
    (hr : server.registeredIrq = j.server.registeredIrq) : Agrees { j with server } := by
  unfold Agrees Registered at *
  simpa only [hr] using h

/-- What a driver outside the two functions knows. -/
theorem agrees_running {j : Joint} (h : j.Agrees) (hd : j.driver = .running) :
    if j.binding.handler = none then j.server.registeredIrq = 0 else j.Registered := by
  unfold Agrees at h
  rwa [hd] at h

theorem requestChecks_some {b : Binding} {irq : BitVec 32} {handler : Option Nat} {f : Nat}
    (h : requestChecks b irq handler = some f) : b.handler = none := by
  unfold requestChecks at h
  split at h
  · cases h
  · rename_i hc
    simp only [not_or, not_not] at hc
    exact hc.2.1

theorem agrees_requestIrq {j j' : Joint} {irq : BitVec 32} {handler : Option Nat} {devId : Nat}
    (h : j.Agrees) (hn : j.next (.requestIrq irq handler devId) = some j') : j'.Agrees := by
  simp only [next] at hn
  split at hn
  · cases hn
  · rename_i hrun
    have ha := agrees_running h (not_not.mp hrun)
    split at hn
    · obtain rfl := Option.some.inj hn
      exact h
    · rename_i f hchecks
      obtain rfl := Option.some.inj hn
      have hnone := requestChecks_some hchecks
      rw [if_pos hnone] at ha
      exact ⟨hnone, ha⟩

theorem agrees_freeIrq {j j' : Joint} {irq : BitVec 32} {devId : Nat} (h : j.Agrees)
    (hn : j.next (.freeIrq irq devId) = some j') : j'.Agrees := by
  simp only [next] at hn
  split at hn
  · cases hn
  · rename_i hrun
    have ha := agrees_running h (not_not.mp hrun)
    split at hn
    · rename_i hchecks
      obtain rfl := Option.some.inj hn
      simp only [freeChecks, Bool.and_eq_true, bne_iff_ne] at hchecks
      have hsome := hchecks.1.1.1
      rw [if_neg hsome] at ha
      exact ⟨hsome, ha⟩
    · obtain rfl := Option.some.inj hn
      exact h

theorem agrees_dispatch {j j' : Joint} (h : j.Agrees) (hn : j.next .dispatch = some j') :
    j'.Agrees := by
  simp only [next] at hn
  split at hn
  · cases hn
  · rename_i hrun
    have ha := agrees_running h (not_not.mp hrun)
    split at hn
    · obtain rfl := Option.some.inj hn
      exact h
    · obtain rfl := Option.some.inj hn
      exact ha

theorem agrees_notified {j j' : Joint} (h : j.Agrees) (hn : j.next .notified = some j') :
    j'.Agrees := by
  simp only [next] at hn
  split at hn
  · cases hn
  · rename_i hc
    simp only [not_or, not_not] at hc
    obtain rfl := Option.some.inj hn
    unfold Agrees at h
    rw [hc.1] at h
    exact h

theorem agrees_handlerEnd {j j' : Joint} (h : j.Agrees) (hn : j.next .handlerEnd = some j') :
    j'.Agrees := by
  simp only [next] at hn
  split at hn
  · cases hn
  · rename_i hc
    simp only [not_or, not_not] at hc
    obtain rfl := Option.some.inj hn
    have ha := agrees_running h hc.1
    exact ha

theorem agrees_complete {j j' : Joint} {ack : Bool} (h : j.Agrees)
    (hn : j.next (.complete ack) = some j') : j'.Agrees := by
  obtain ⟨hd, -, masked, rfl⟩ := completion_received hn
  unfold Agrees at h
  rw [hd] at h
  exact h

theorem agrees_signal {j j' : Joint} (h : j.Agrees) (hn : j.next .signal = some j') :
    j'.Agrees := by
  unfold Agrees at h
  obtain ⟨handler, devId, hd, rfl⟩ | ⟨hd, rfl⟩ := signal_sent hn <;> rw [hd] at h <;> exact h

theorem agrees_return {j j' : Joint} (h : j.Agrees) (hn : j.next .return_ = some j') :
    j'.Agrees := by
  unfold Agrees at h
  simp only [next] at hn
  split at hn
  · rename_i handler devId value hd
    rw [hd] at h
    obtain ⟨hnone, hreg⟩ := h
    split at hn <;> rename_i hv <;> obtain rfl := Option.some.inj hn
    · rw [if_neg hv] at hreg
      simpa [Agrees, hnone] using hreg
    · rw [if_pos (not_not.mp hv)] at hreg
      exact hreg
  · rename_i value hd
    rw [hd] at h
    obtain ⟨hsome, hreg⟩ := h
    split at hn <;> rename_i hv <;> obtain rfl := Option.some.inj hn
    · rw [if_neg hv] at hreg
      unfold Agrees
      rw [if_neg hsome]
      exact hreg
    · rw [if_pos (not_not.mp hv)] at hreg
      exact hreg
  · cases hn

/-! ## Answers -/

/-- The answer to `request_irq`: `irqd` goes back to its wait, and the answer tells the
registration. -/
theorem answer_register {j j' : Joint} {k : Teardown} {reply : Word → DriverPc}
    (hpc : j.server.pc = Control.register.recv) (h0 : j.server.registeredIrq = 0)
    (hn : j.answer (requestMessage j.binding) k reply = some j') : ∃ server value,
      j' = { j with server, driver := reply value } ∧ server.pc = .wait ∧
      server.notification = j.server.notification ∧
      if value = REGISTER_ACCEPTED then server.registeredIrq = j.binding.irq ∧ j.binding.irq ≠ 0
      else server.registeredIrq = 0 := by
  unfold answer handleRequest at hn
  rw [hpc] at hn
  simp only [Control.recv, Option.map_some, Option.some.injEq] at hn
  have hwait : afterRegister CONTROL_REGISTER_BADGE = .wait := by decide
  obtain he | ⟨-, -, hirq, -, -, he⟩ :=
    handleRegisterRequest_cases j.server (requestMessage j.binding) <;> rw [he] at hn
  · exact ⟨_, 0, hn.symm, hwait, rfl, h0⟩
  · rw [show (requestMessage j.binding).mr 1 = j.binding.irq.setWidth 64 from rfl] at hirq hn
    refine ⟨_, REGISTER_ACCEPTED, hn.symm, hwait, rfl, ?_, fun hz => hirq (by rw [hz]; rfl)⟩
    show ((j.binding.irq.setWidth 64).setWidth 32) = j.binding.irq
    rw [BitVec.setWidth_setWidth_of_le _ (by decide), BitVec.setWidth_eq]

/-- The answer to `free_irq`. -/
theorem answer_unregister {j j' : Joint} {m : Message} {k : Teardown} {reply : Word → DriverPc}
    (hpc : j.server.pc = Control.unregister.recv) (hr : j.Registered)
    (hn : j.answer m k reply = some j') :
    ∃ server value, j' = { j with server, driver := reply value } ∧ server.pc = .wait ∧
      server.notification = j.server.notification ∧
      if value = UNREGISTER_ACCEPTED then server.registeredIrq = 0
      else server.registeredIrq = j.binding.irq ∧ j.binding.irq ≠ 0 := by
  unfold answer handleRequest at hn
  rw [hpc] at hn
  simp only [Control.recv, Option.map_some, Option.some.injEq] at hn
  have hwait : afterUnregister CONTROL_UNREGISTER_BADGE = .wait := by decide
  obtain he | ⟨-, -, -, -, -, -, -, he⟩ := handleUnregisterRequest_cases j.server m k <;>
    rw [he] at hn
  · exact ⟨_, 0, hn.symm, hwait, rfl, hr⟩
  · exact ⟨_, UNREGISTER_ACCEPTED, hn.symm, hwait, rfl, rfl⟩

/-- A call is answered while `irqd` is at one of its two request handlers only. -/
theorem answer_none {j : Joint} {m : Message} {k : Teardown} {reply : Word → DriverPc}
    (hpc : j.server.pc = .wait ∨ j.server.pc = .hardware ∨ j.server.pc = .completeRecv) :
    j.answer m k reply = none := by
  unfold answer handleRequest
  rcases hpc with hpc | hpc | hpc <;> rw [hpc] <;> rfl

/-- An answered call: by the handler of the call, and with the agreement after it. -/
theorem agrees_call {j j' : Joint} {k : Teardown} (h : j.Agrees)
    (hpc : ∀ c, j.driver.calling = some c → j.server.pc = c.recv)
    (hn : j.next (.call k) = some j') :
    j'.Agrees ∧ j'.driver.calling = none ∧ j'.server.pc = .wait ∧
      j'.server.notification = j.server.notification := by
  unfold Agrees at h
  simp only [next] at hn
  split at hn
  · rename_i handler devId hd
    rw [hd] at h hpc
    obtain ⟨server, value, rfl, hpc', hnot, hval⟩ := answer_register (hpc .register rfl) h.2 hn
    exact ⟨⟨h.1, hval⟩, rfl, hpc', hnot⟩
  · rename_i hd
    rw [hd] at h hpc
    obtain ⟨server, value, rfl, hpc', hnot, hval⟩ := answer_unregister (hpc .unregister rfl) h.2 hn
    exact ⟨⟨h.1, hval⟩, rfl, hpc', hnot⟩
  · cases hn

/-- Every event keeps the agreement, if `irqd` is at the handler of a call that it answers. -/
theorem agrees_step {j j' : Joint} {e : JointEvent} (h : j.Agrees) (hn : j.next e = some j')
    (hpc : ∀ k, e = .call k → ∀ c, j.driver.calling = some c → j.server.pc = c.recv) :
    j'.Agrees := by
  cases e with
  | hardware =>
    obtain ⟨server, hs, rfl⟩ := serve_some hn
    obtain ⟨-, rfl⟩ := next_hardware hs
    exact h.of_server rfl
  | wait =>
    obtain ⟨server, hs, rfl⟩ := serve_some hn
    obtain ⟨badge, -, -, rfl⟩ := next_wait hs
    exact h.of_server rfl
  | handle ack =>
    obtain ⟨server, hs, rfl⟩ := serve_some hn
    obtain ⟨-, ⟨-, rfl⟩ | ⟨-, rfl⟩⟩ := next_handle hs <;> exact h.of_server rfl
  | requestIrq irq handler devId => exact agrees_requestIrq h hn
  | freeIrq irq devId => exact agrees_freeIrq h hn
  | dispatch => exact agrees_dispatch h hn
  | signal => exact agrees_signal h hn
  | call k => exact (agrees_call h (hpc k rfl) hn).1
  | return_ => exact agrees_return h hn
  | notified => exact agrees_notified h hn
  | handlerEnd => exact agrees_handlerEnd h hn
  | complete ack => exact agrees_complete h hn

/-! ## Where irqd is -/

/-- `irqd` is not at a request handler. -/
def AtRest (j : Joint) : Prop :=
  j.server.pc = .wait ∨ j.server.pc = .hardware ∨ j.server.pc = .completeRecv

/-- For a driver in a call, its control signal is pending, or `irqd` is at the handler of the call;
otherwise no signal is pending and `irqd` is at no request handler. -/
def Awaited (j : Joint) : Prop :=
  match j.driver.calling with
  | none => j.pending = 0 ∧ j.AtRest
  | some c => j.pending = c.badge ∧ j.AtRest ∨ j.pending = 0 ∧ j.server.pc = c.recv

theorem Awaited.of_none {j : Joint} (h : j.Awaited) (hc : j.driver.calling = none) :
    j.pending = 0 ∧ j.AtRest := by
  unfold Awaited at h
  rwa [hc] at h

theorem Awaited.of_some {j : Joint} (h : j.Awaited) {c : Control} (hc : j.driver.calling = some c) :
    j.pending = c.badge ∧ j.AtRest ∨ j.pending = 0 ∧ j.server.pc = c.recv := by
  unfold Awaited at h
  rwa [hc] at h

theorem awaited_none {j : Joint} (hc : j.driver.calling = none) (h : j.pending = 0)
    (hpc : j.AtRest) : j.Awaited := by
  unfold Awaited
  rw [hc]
  exact ⟨h, hpc⟩

/-- `irqd` moves from one place outside its request handlers to another one. -/
theorem Awaited.of_rest {j j' : Joint} (h : j.Awaited) (hd : j'.driver = j.driver)
    (hp : j'.pending = j.pending) (hpc : j.AtRest) (hpc' : j'.AtRest) : j'.Awaited := by
  unfold Awaited at *
  rw [hd, hp]
  cases hc : j.driver.calling with
  | none => exact ⟨by rw [hc] at h; exact h.1, hpc'⟩
  | some c =>
    rw [hc] at h
    rcases h with ⟨hb, -⟩ | ⟨-, hrecv⟩
    · exact .inl ⟨hb, hpc'⟩
    · unfold AtRest at hpc
      rw [hrecv] at hpc
      cases c <;> simp [Control.recv] at hpc

/-- The driver goes on outside a call, and `irqd` stays where it is. -/
theorem Awaited.of_driver {j j' : Joint} (h : j.Awaited) (hc : j.driver.calling = none)
    (hc' : j'.driver.calling = none) (hp : j'.pending = j.pending)
    (hpc : j'.server.pc = j.server.pc) : j'.Awaited := by
  obtain ⟨h0, hrest⟩ := h.of_none hc
  refine awaited_none hc' (hp.trans h0) ?_
  unfold AtRest at *
  rwa [hpc]

/-- An answered call is one that the driver is blocked in. -/
theorem next_call {j j' : Joint} {k : Teardown} (hn : j.next (.call k) = some j') :
    ∃ c, j.driver.calling = some c := by
  simp only [next] at hn
  split at hn
  · rename_i hd
    exact ⟨.register, by rw [hd]; rfl⟩
  · rename_i hd
    exact ⟨.unregister, by rw [hd]; rfl⟩
  · cases hn

/-- A call that `irqd` answers is answered by its handler. -/
theorem Awaited.recv_of_call {j j' : Joint} {c : Control} {k : Teardown} (h : j.Awaited)
    (hc : j.driver.calling = some c) (hn : j.next (.call k) = some j') : j.pending = 0 ∧
      j.server.pc = c.recv := by
  obtain ⟨-, hrest⟩ | hrecv := h.of_some hc
  · simp only [next] at hn
    split at hn
    · rw [answer_none hrest] at hn
      cases hn
    · rw [answer_none hrest] at hn
      cases hn
    · cases hn
  · exact hrecv

/-- A control signal is the only one that is pending. -/
theorem signal_pending {j : Joint} (c : Control) (h0 : j.pending = 0) :
    (signal j.server.notification c.badge).getD 0 = c.badge := by
  show j.pending ||| c.badge = _
  rw [h0]
  exact BitVec.zero_or

theorem awaited_signal {j j' : Joint} (h : j.Awaited) (hn : j.next .signal = some j') :
    j'.Awaited := by
  obtain ⟨handler, devId, hd, rfl⟩ | ⟨hd, rfl⟩ := signal_sent hn
  · obtain ⟨h0, hrest⟩ := h.of_none (by rw [hd]; rfl)
    exact .inl ⟨signal_pending .register h0, hrest⟩
  · obtain ⟨h0, hrest⟩ := h.of_none (by rw [hd]; rfl)
    exact .inl ⟨signal_pending .unregister h0, hrest⟩

/-- The events of the driver alone: outside a call before and after them, and `irqd` keeps its
place, its notification and its registration. -/
theorem next_own {j j' : Joint} {e : JointEvent} (hn : j.next e = some j')
    (he : e = .dispatch ∨ e = .return_ ∨ e = .notified ∨ e = .handlerEnd ∨
      (∃ irq handler devId, e = .requestIrq irq handler devId) ∨
      ∃ irq devId, e = .freeIrq irq devId) :
    j.driver.calling = none ∧ j'.driver.calling = none ∧ j'.pending = j.pending ∧
      j'.server.pc = j.server.pc ∧ j'.server.registeredIrq = j.server.registeredIrq := by
  rcases he with rfl | rfl | rfl | rfl | ⟨irq, handler, devId, rfl⟩ | ⟨irq, devId, rfl⟩ <;>
    simp only [next] at hn <;> split at hn <;> try split at hn
  all_goals
    first
    | cases hn; done
    | obtain rfl := Option.some.inj hn
      simp_all [DriverPc.calling, pending]

/-- Every event keeps the place of `irqd`. -/
theorem awaited_step {j j' : Joint} {e : JointEvent} (h : j.Awaited) (ha : j.Agrees)
    (hn : j.next e = some j') : j'.Awaited := by
  cases e with
  | hardware =>
    obtain ⟨server, hs, rfl⟩ := serve_some hn
    obtain ⟨-, rfl⟩ := next_hardware hs
    unfold Awaited AtRest pending at *
    simpa [signal] using h
  | wait =>
    obtain ⟨server, hs, rfl⟩ := serve_some hn
    obtain ⟨badge, hpc, hb, rfl⟩ := next_wait hs
    have hp : j.pending = badge := by rw [pending, hb]; rfl
    cases hd : j.driver.calling with
    | none =>
      -- no control bit is pending, so the wait goes to `handle_hardware_irq`
      obtain ⟨h0, -⟩ := h.of_none hd
      rw [hp] at h0
      subst h0
      exact awaited_none hd rfl (.inr (.inl rfl))
    | some c =>
      obtain ⟨hbadge, -⟩ | ⟨-, hrecv⟩ := h.of_some hd
      · rw [hp] at hbadge
        subst hbadge
        unfold Awaited
        rw [hd]
        exact .inr ⟨rfl, afterWait_badge c⟩
      · rw [hpc] at hrecv
        cases c <;> cases hrecv
  | handle ack =>
    obtain ⟨server, hs, rfl⟩ := serve_some hn
    obtain ⟨hpc, ⟨-, rfl⟩ | ⟨-, rfl⟩⟩ := next_handle hs
    · exact h.of_rest rfl rfl (.inr (.inl hpc)) (.inl rfl)
    · exact h.of_rest rfl rfl (.inr (.inl hpc)) (.inr (.inr rfl))
  | complete ack =>
    obtain ⟨hd, -, masked, rfl⟩ := completion_received hn
    exact awaited_none rfl (h.of_none (by rw [hd]; rfl)).1 (.inl rfl)
  | signal => exact awaited_signal h hn
  | call k =>
    obtain ⟨-, hcall, hpc, hnot⟩ := agrees_call ha (fun c hc => (h.recv_of_call hc hn).2) hn
    have h0 : j.pending = 0 := by
      obtain ⟨c, hc⟩ := next_call hn
      exact (h.recv_of_call hc hn).1
    exact awaited_none hcall (by rw [pending, hnot]; exact h0) (.inl hpc)
  | _ =>
    obtain ⟨hc, hc', hp, hpc, -⟩ := next_own hn (by simp)
    exact h.of_driver hc hc' hp hpc

/-- `irqd` goes on to a completion only for a line that is registered. -/
theorem completing_step {j j' : Joint} {e : JointEvent} (ha : j.Awaited) (hg : j.Agrees)
    (h : j.server.pc = .completeRecv → j.server.registeredIrq ≠ 0) (hn : j.next e = some j') :
    j'.server.pc = .completeRecv → j'.server.registeredIrq ≠ 0 := by
  cases e with
  | hardware =>
    obtain ⟨server, hs, rfl⟩ := serve_some hn
    obtain ⟨-, rfl⟩ := next_hardware hs
    exact h
  | wait =>
    obtain ⟨server, hs, rfl⟩ := serve_some hn
    obtain ⟨badge, -, -, rfl⟩ := next_wait hs
    exact fun hc => absurd hc (afterWait_ne_completeRecv badge)
  | handle ack =>
    obtain ⟨server, hs, rfl⟩ := serve_some hn
    obtain ⟨-, ⟨-, rfl⟩ | ⟨hr, rfl⟩⟩ := next_handle hs
    · exact fun hc => by cases hc
    · exact fun _ => hr
  | complete ack =>
    obtain ⟨-, -, masked, rfl⟩ := completion_received hn
    exact fun hc => by cases hc
  | signal => obtain ⟨handler, devId, -, rfl⟩ | ⟨-, rfl⟩ := signal_sent hn <;> exact h
  | call k =>
    obtain ⟨-, -, hpc, -⟩ := agrees_call hg (fun c hc => (ha.recv_of_call hc hn).2) hn
    exact fun hc => by rw [hpc] at hc; cases hc
  | _ =>
    obtain ⟨-, -, -, hpc, hr⟩ := next_own hn (by simp)
    rw [hpc, hr]
    exact h

/-! ## Runs -/

/-- The invariant of the two sides: the agreement, where `irqd` is, and that it waits for a
completion only of a line that is registered. -/
structure Linked (j : Joint) : Prop where
  agrees : j.Agrees
  awaited : j.Awaited
  completing : j.server.pc = .completeRecv → j.server.registeredIrq ≠ 0

theorem linked_start (irq : BitVec 32) (deviceToken activeToken : Word) :
    (start irq deviceToken activeToken).Linked :=
  ⟨rfl, ⟨rfl, .inl rfl⟩, fun h => by cases h⟩

theorem linked_step {j j' : Joint} {e : JointEvent} (h : j.Linked) (hn : j.next e = some j') :
    j'.Linked := by
  refine ⟨agrees_step h.agrees hn ?_, awaited_step h.awaited h.agrees hn,
    completing_step h.awaited h.agrees h.completing hn⟩
  rintro k rfl c hc
  exact (h.awaited.recv_of_call hc hn).2

theorem linked_run {irq : BitVec 32} {deviceToken activeToken : Word} {es : List JointEvent}
    {j : Joint} (h : Run (Next next) (start irq deviceToken activeToken) es j) : j.Linked :=
  h.invariant (fun _ _ _ hl hn => linked_step hl hn) (linked_start irq deviceToken activeToken)

/-- No event binds the driver to another line. -/
theorem next_irq {j j' : Joint} {e : JointEvent} (hn : j.next e = some j') :
    j'.binding.irq = j.binding.irq := by
  cases e <;> simp only [next, serve, answer] at hn <;> repeat' split at hn
  all_goals
    first
    | cases hn; done
    | obtain ⟨_, -, rfl⟩ := Option.map_eq_some_iff.mp hn
      rfl
    | obtain rfl := Option.some.inj hn
      rfl

theorem binding_irq_run {irq : BitVec 32} {deviceToken activeToken : Word} {es : List JointEvent}
    {j : Joint} (h : Run (Next next) (start irq deviceToken activeToken) es j) :
    j.binding.irq = irq :=
  h.invariant (I := fun j => j.binding.irq = irq) (fun _ _ _ hi hn => (next_irq hn).trans hi) rfl

/-- **Registration agreement**: in every run, with no request in flight, the driver has a handler
exactly when `irqd` has its line registered. -/
theorem registration_agreement {irq : BitVec 32} {deviceToken activeToken : Word}
    {es : List JointEvent} {j : Joint} (hirq : 1 ≤ irq.toNat ∧ irq.toNat ≤ 255)
    (h : Run (Next next) (start irq deviceToken activeToken) es j)
    (hidle : ¬ j.driver.inFlight) :
    j.binding.handler ≠ none ↔ j.server.registeredIrq = irq := by
  have hbound := binding_irq_run h
  have hne : irq ≠ 0 := by
    rintro rfl
    exact absurd hirq.1 (by decide)
  have ha := (linked_run h).agrees
  have hcases : if j.binding.handler = none then j.server.registeredIrq = 0 else j.Registered := by
    unfold Agrees at ha
    cases hd : j.driver <;> rw [hd] at ha hidle <;>
      first | exact ha | exact absurd rfl hidle
  by_cases hnone : j.binding.handler = none
  · rw [if_pos hnone] at hcases
    rw [hcases]
    exact ⟨fun hsome => absurd hnone hsome, fun h0 => absurd h0.symm hne⟩
  · rw [if_neg hnone] at hcases
    exact ⟨fun _ => hbound ▸ hcases.1, fun _ => hnone⟩

/-- A driver that registers, while the line interrupts, and fails to release because the kernel does
not delete its capability. -/
def failedRelease : List JointEvent :=
  [.requestIrq 11 (some 1) 5, .signal, .hardware, .wait, .call ⟨true, true⟩, .return_,
    .freeIrq 11 5, .signal, .wait, .call ⟨true, false⟩, .return_]

theorem registration_agreement_failedRelease : ∃ j,
    exec next (start 11 7 7) failedRelease = some j ∧
      (j.binding.handler ≠ none ↔ j.server.registeredIrq = 11) := by
  have hidle : (exec next (start 11 7 7) failedRelease).any (fun j => !j.driver.inFlight) =
      true := by
    decide
  obtain ⟨j, hj, hd⟩ := (Option.any_eq_true _ _).mp hidle
  exact ⟨j, hj, registration_agreement (by decide) (exec_iff.mp hj) (by simpa using hd)⟩

end Joint

end SeLinOS.Irq
