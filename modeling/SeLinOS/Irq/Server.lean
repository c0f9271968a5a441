import SeLinOS.CLogic.Run
import SeLinOS.Sel4.Ipc

/-!
# The interrupt server

`irqd` (`servers/irqd.c`) as a machine: the seL4 objects that it uses (its notification, the
interrupt line, the driver's notification and capability) and its place in `main` (`Pc`). Each
system call that blocks or that another party sees is one event; what the code computes in between
belongs to the event before it.

* `handleRegisterRequest`, `handleUnregisterRequest`: the two request handlers, as functions of the
  message and of what the kernel answers.
* `Server.next`: one event. The driver domain may signal at any time and send any message.
* `no_interrupt_dropped`: which interrupts the main loop handles.
-/

namespace SeLinOS.Irq

open CLogic Sel4

def CONTROL_REGISTER_BADGE : Word := 0x1
def CONTROL_UNREGISTER_BADGE : Word := 0x2
def CONTROL_REQUEST_WORDS : Nat := 3
def COMPLETE_MAGIC : Word := 0x53494c34
def REGISTER_MAGIC : Word := 0x53495251
def REGISTER_ACCEPTED : Word := 0x53495241
def UNREGISTER_MAGIC : Word := 0x53495551
def UNREGISTER_ACCEPTED : Word := 0x53495541

/-- Where `irqd` is: at the `seL4_Wait` of `main`, at the `seL4_Recv` of one of the two request
handlers (with the badge that the wait returned), at the entry of `handle_hardware_irq`, or at its
`seL4_Recv`. -/
inductive Pc where
  | wait
  | registerRecv (badge : Word)
  | unregisterRecv (badge : Word)
  | hardware
  | completeRecv
  deriving Repr, DecidableEq

/-- The state of `irqd` and of the kernel objects around it. -/
structure Server where
  registeredIrq : BitVec 32
  activeDeviceToken : Word
  pc : Pc
  /-- The word of the hardware notification; `none` when no signal is pending. -/
  notification : Option Word
  /-- The kernel masks the line when it signals, until the acknowledgement. -/
  lineMasked : Bool
  /-- A signal is pending on the driver's notification. -/
  driverNotified : Bool
  /-- The driver's notification capability is gone from its CNode. -/
  capDeleted : Bool
  /-- Not read by the code: a hardware signal is in the notification word, the last wait consumed
  one, and `handle_hardware_irq` ran since. -/
  hwPending : Bool
  hwConsumed : Bool
  hwHandled : Bool
  deriving Repr, DecidableEq

/-- The two control capabilities that `mint_edu_control_cap` makes. -/
inductive Control where
  | register | unregister
  deriving Repr, DecidableEq

def Control.badge : Control → Word
  | register => CONTROL_REGISTER_BADGE
  | unregister => CONTROL_UNREGISTER_BADGE

/-- Where `irqd` receives the request that the signal announces. -/
def Control.recv : Control → Pc
  | register => .registerRecv CONTROL_REGISTER_BADGE
  | unregister => .unregisterRecv CONTROL_UNREGISTER_BADGE

/-- What the kernel answers to the revoke and the delete of the driver's capability. -/
structure Teardown where
  revoke : Bool
  delete : Bool
  deriving Repr, DecidableEq

inductive Event where
  /-- The line interrupts: the kernel masks it and signals with badge 0. -/
  | hardware
  /-- The driver signals a control capability. -/
  | control (c : Control)
  /-- `seL4_Wait` returns. -/
  | wait
  /-- A request message is received, handled and answered. -/
  | request (m : Message) (k : Teardown)
  /-- `handle_hardware_irq` up to its receive; `ack`: the kernel acknowledges. -/
  | handle (ack : Bool)
  /-- A completion message is received. -/
  | complete (m : Message) (ack : Bool)
  deriving Repr, DecidableEq

/-- A signal ORs its badge into the word. -/
def signal (word : Option Word) (badge : Word) : Option Word := some (word.getD 0 ||| badge)

/-! ## The handlers -/

/-- `handle_register_request` on the message `m`: the state after it and the reply. -/
def handleRegisterRequest (s : Server) (m : Message) : Server × Word :=
  if m.length ≠ CONTROL_REQUEST_WORDS ∨ m.mr 0 ≠ REGISTER_MAGIC ∨ m.mr 1 = 0 ∨
      m.mr 2 ≠ s.activeDeviceToken ∨ s.registeredIrq ≠ 0 then
    (s, 0)
  else
    ({ s with registeredIrq := (m.mr 1).setWidth 32 }, REGISTER_ACCEPTED)

/-- `handle_unregister_request` on the message `m`: the state after it and the reply. -/
def handleUnregisterRequest (s : Server) (m : Message) (k : Teardown) : Server × Word :=
  if m.length ≠ CONTROL_REQUEST_WORDS ∨ m.mr 0 ≠ UNREGISTER_MAGIC ∨ s.registeredIrq = 0 ∨
      m.mr 1 ≠ s.registeredIrq.signExtend 64 ∨ m.mr 2 ≠ s.activeDeviceToken then
    (s, 0)
  else if ¬ k.revoke then (s, 0)
  else if ¬ k.delete then (s, 0)
  else ({ s with registeredIrq := 0, capDeleted := true }, UNREGISTER_ACCEPTED)

/-- What `handle_register_request` can do: refuse and change nothing, or register the line. -/
theorem handleRegisterRequest_cases (s : Server) (m : Message) :
    handleRegisterRequest s m = (s, 0) ∨ m.length = CONTROL_REQUEST_WORDS ∧
      m.mr 0 = REGISTER_MAGIC ∧ m.mr 1 ≠ 0 ∧ m.mr 2 = s.activeDeviceToken ∧ s.registeredIrq = 0 ∧
      handleRegisterRequest s m =
        ({ s with registeredIrq := (m.mr 1).setWidth 32 }, REGISTER_ACCEPTED) := by
  unfold handleRegisterRequest
  split
  · exact .inl rfl
  · rename_i hc
    simp only [not_or, not_not] at hc
    exact .inr ⟨hc.1, hc.2.1, hc.2.2.1, hc.2.2.2.1, hc.2.2.2.2, rfl⟩

/-- What `handle_unregister_request` can do: refuse and change nothing, or, when the kernel takes
the driver's capability back, release the line. -/
theorem handleUnregisterRequest_cases (s : Server) (m : Message) (k : Teardown) :
    handleUnregisterRequest s m k = (s, 0) ∨ m.length = CONTROL_REQUEST_WORDS ∧
      m.mr 0 = UNREGISTER_MAGIC ∧ s.registeredIrq ≠ 0 ∧ m.mr 1 = s.registeredIrq.signExtend 64 ∧
      m.mr 2 = s.activeDeviceToken ∧ k.revoke ∧ k.delete ∧ handleUnregisterRequest s m k =
        ({ s with registeredIrq := 0, capDeleted := true }, UNREGISTER_ACCEPTED) := by
  unfold handleUnregisterRequest
  split
  · exact .inl rfl
  · rename_i hc
    simp only [not_or, not_not] at hc
    split
    · exact .inl rfl
    · rename_i hr
      split
      · exact .inl rfl
      · rename_i hd
        exact .inr ⟨hc.1, hc.2.1, hc.2.2.1, hc.2.2.2.1, hc.2.2.2.2, not_not.mp hr, not_not.mp hd,
          rfl⟩

/-! ## The main loop -/

/-- `main` after the unregister branch, with the badge of its wait. -/
def afterUnregister (badge : Word) : Pc :=
  if badge &&& (CONTROL_REGISTER_BADGE ||| CONTROL_UNREGISTER_BADGE) = 0 then .hardware else .wait

/-- `main` after the register branch. -/
def afterRegister (badge : Word) : Pc :=
  if badge &&& CONTROL_UNREGISTER_BADGE ≠ 0 then .unregisterRecv badge else afterUnregister badge

/-- `main` after its wait. -/
def afterWait (badge : Word) : Pc :=
  if badge &&& CONTROL_REGISTER_BADGE ≠ 0 then .registerRecv badge else afterRegister badge

/-- A request at the handler where `irqd` waits for it: the state after it and the reply. -/
def handleRequest (s : Server) (m : Message) (k : Teardown) : Option (Server × Word) :=
  match s.pc with
  | .registerRecv badge =>
    let (s', reply) := handleRegisterRequest s m
    some ({ s' with pc := afterRegister badge }, reply)
  | .unregisterRecv badge =>
    let (s', reply) := handleUnregisterRequest s m k
    some ({ s' with pc := afterUnregister badge }, reply)
  | _ => none

/-- One event; `none` where it cannot happen. -/
def Server.next (s : Server) : Event → Option Server
  | .hardware =>
    if s.lineMasked then none
    else some { s with
      notification := signal s.notification 0
      lineMasked := true
      hwPending := true }
  | .control c => some { s with notification := signal s.notification c.badge }
  | .wait =>
    match s.pc, s.notification with
    | .wait, some badge => some { s with
        pc := afterWait badge
        notification := none
        hwPending := false
        hwConsumed := s.hwPending
        hwHandled := false }
    | _, _ => none
  | .request m k => (handleRequest s m k).map Prod.fst
  | .handle ack =>
    if s.pc ≠ .hardware then none
    else if s.registeredIrq = 0 then
      some { s with pc := .wait, lineMasked := s.lineMasked && !ack, hwHandled := true }
    else
      some { s with pc := .completeRecv, driverNotified := true, hwHandled := true }
  | .complete m ack =>
    if s.pc ≠ .completeRecv then none
    else if m.length ≠ 1 ∨ m.mr 0 ≠ COMPLETE_MAGIC then some { s with pc := .wait }
    else some { s with pc := .wait, lineMasked := s.lineMasked && !ack }

/-- `irqd` at the first wait, with the device token that `root` gave it. -/
def Server.start (token : Word) : Server where
  registeredIrq := 0
  activeDeviceToken := token
  pc := .wait
  notification := none
  lineMasked := false
  driverNotified := false
  capDeleted := false
  hwPending := false
  hwConsumed := false
  hwHandled := false

/-! ## What a wait consumes -/

/-- A control signal is pending in the word. -/
def controlBits (badge : Word) : Bool :=
  badge &&& (CONTROL_REGISTER_BADGE ||| CONTROL_UNREGISTER_BADGE) != 0

/-- If the last wait consumed a hardware signal, its loop iteration has called
`handle_hardware_irq`, or calls it next. -/
def Handled (s : Server) : Prop := s.hwConsumed → s.hwHandled ∨ s.pc = .hardware

instance (s : Server) : Decidable (Handled s) := inferInstanceAs (Decidable (_ → _ ∨ _))

/-- The wait that the event is consumes no hardware signal together with a control signal. -/
def Apart (s : Server) (e : Event) : Prop :=
  e = .wait → ∀ badge, s.notification = some badge → ¬ (s.hwPending ∧ controlBits badge)

/-- Both control bits are clear. -/
theorem not_controlBits_iff {b : Word} : ¬ controlBits b ↔
    b &&& CONTROL_REGISTER_BADGE = 0 ∧ b &&& CONTROL_UNREGISTER_BADGE = 0 := by
  rw [controlBits, bne_iff_ne, not_not, BitVec.and_or_distrib_left]
  exact BitVec.or_eq_zero_iff

/-- A wait goes to `handle_hardware_irq` exactly when no control bit is set. -/
theorem afterWait_eq_hardware {badge : Word} :
    afterWait badge = .hardware ↔ ¬ controlBits badge := by
  have hc := not_controlBits_iff (b := badge)
  unfold afterWait afterRegister afterUnregister
  rw [controlBits, bne_iff_ne, not_not] at hc ⊢
  split
  · rename_i h1
    exact ⟨fun h => (by cases h), fun h => absurd (hc.mp h).1 h1⟩
  · split
    · rename_i h2
      exact ⟨fun h => (by cases h), fun h => absurd (hc.mp h).2 h2⟩
    · split <;> simp_all

/-- A wait that returns one control signal goes to its handler. -/
theorem afterWait_badge (c : Control) : afterWait c.badge = c.recv := by
  cases c <;> decide

theorem afterWait_ne_completeRecv (badge : Word) : afterWait badge ≠ .completeRecv := by
  unfold afterWait afterRegister afterUnregister
  repeat' split
  all_goals simp

theorem afterRegister_ne_completeRecv (badge : Word) : afterRegister badge ≠ .completeRecv := by
  unfold afterRegister afterUnregister
  split
  · simp
  · split <;> simp

theorem afterUnregister_ne_completeRecv (badge : Word) : afterUnregister badge ≠ .completeRecv := by
  unfold afterUnregister
  split <;> simp

/-! ## One event -/

section Inversion

variable {s s' : Server}

theorem next_hardware (h : s.next .hardware = some s') : s.lineMasked = false ∧
    s' = { s with
      notification := signal s.notification 0
      lineMasked := true
      hwPending := true } := by
  simp only [Server.next] at h
  split at h
  · cases h
  · rename_i hm
    exact ⟨by simpa using hm, (Option.some.inj h).symm⟩

theorem next_control {c : Control} (h : s.next (.control c) = some s') :
    s' = { s with notification := signal s.notification c.badge } :=
  (Option.some.inj h).symm

theorem next_wait (h : s.next .wait = some s') : ∃ badge, s.pc = .wait ∧
    s.notification = some badge ∧
    s' = { s with
      pc := afterWait badge
      notification := none
      hwPending := false
      hwConsumed := s.hwPending
      hwHandled := false } := by
  simp only [Server.next] at h
  split at h
  · exact ⟨_, ‹_›, ‹_›, (Option.some.inj h).symm⟩
  · cases h

theorem next_request {m : Message} {k : Teardown} (h : s.next (.request m k) = some s') :
    ∃ reply, handleRequest s m k = some (s', reply) := by
  obtain ⟨⟨s₁, reply⟩, hr, rfl⟩ := Option.map_eq_some_iff.mp h
  exact ⟨reply, hr⟩

theorem next_handle {ack : Bool} (h : s.next (.handle ack) = some s') : s.pc = .hardware ∧
    (s.registeredIrq = 0 ∧
      s' = { s with pc := .wait, lineMasked := s.lineMasked && !ack, hwHandled := true } ∨
    s.registeredIrq ≠ 0 ∧
      s' = { s with pc := .completeRecv, driverNotified := true, hwHandled := true }) := by
  simp only [Server.next] at h
  split at h
  · cases h
  · rename_i hpc
    refine ⟨not_not.mp hpc, ?_⟩
    split at h
    · exact .inl ⟨‹_›, (Option.some.inj h).symm⟩
    · exact .inr ⟨‹_›, (Option.some.inj h).symm⟩

theorem next_complete {m : Message} {ack : Bool} (h : s.next (.complete m ack) = some s') :
    s.pc = .completeRecv ∧ ∃ masked, s' = { s with pc := .wait, lineMasked := masked } := by
  simp only [Server.next] at h
  split at h
  · cases h
  · rename_i hpc
    refine ⟨not_not.mp hpc, ?_⟩
    split at h
    · exact ⟨s.lineMasked, (Option.some.inj h).symm⟩
    · exact ⟨_, (Option.some.inj h).symm⟩

end Inversion

/-! ## What happens to a consumed interrupt -/

/-- A handler changes the registration only. -/
theorem handleRequest_frame {s s' : Server} {m : Message} {k : Teardown} {reply : Word}
    (h : handleRequest s m k = some (s', reply)) :
    s'.hwConsumed = s.hwConsumed ∧ s'.hwHandled = s.hwHandled ∧ s.pc ≠ .hardware := by
  unfold handleRequest at h
  cases hpc : s.pc <;> rw [hpc] at h <;> simp only [Option.some.injEq, Prod.mk.injEq,
    reduceCtorEq] at h
  · obtain ⟨rfl, -⟩ := h
    obtain he | ⟨-, -, -, -, -, he⟩ := handleRegisterRequest_cases s m <;> rw [he] <;>
      exact ⟨rfl, rfl, by simp⟩
  · obtain ⟨rfl, -⟩ := h
    obtain he | ⟨-, -, -, -, -, -, -, he⟩ := handleUnregisterRequest_cases s m k <;> rw [he] <;>
      exact ⟨rfl, rfl, by simp⟩

/-- A handler runs outside `handle_hardware_irq`; it signals nobody and acknowledges nothing. -/
theorem handleRequest_idle {s s' : Server} {m : Message} {k : Teardown} {reply : Word}
    (h : handleRequest s m k = some (s', reply)) :
    s.pc ≠ .completeRecv ∧ s'.pc ≠ .completeRecv ∧ s'.driverNotified = s.driverNotified ∧
      s'.lineMasked = s.lineMasked := by
  unfold handleRequest at h
  cases hpc : s.pc <;> rw [hpc] at h <;> simp only [Option.some.injEq, Prod.mk.injEq,
    reduceCtorEq] at h
  · obtain ⟨rfl, -⟩ := h
    refine ⟨by simp, afterRegister_ne_completeRecv _, ?_⟩
    obtain he | ⟨-, -, -, -, -, he⟩ := handleRegisterRequest_cases s m <;> rw [he] <;>
      exact ⟨rfl, rfl⟩
  · obtain ⟨rfl, -⟩ := h
    refine ⟨by simp, afterUnregister_ne_completeRecv _, ?_⟩
    obtain he | ⟨-, -, -, -, -, -, -, he⟩ := handleUnregisterRequest_cases s m k <;> rw [he] <;>
      exact ⟨rfl, rfl⟩

theorem handled_of_wait {s s' : Server} (h : s.next .wait = some s') :
    Handled s' ↔ Apart s .wait := by
  obtain ⟨badge, -, hn, rfl⟩ := next_wait h
  simp only [Handled, Apart, Bool.false_eq_true, false_or, afterWait_eq_hardware, hn,
    Option.some.injEq, forall_eq', true_implies, not_and]

theorem handled_step {s s' : Server} {e : Event} (h : s.next e = some s') (ha : Apart s e)
    (hs : Handled s) : Handled s' := by
  cases e with
  | hardware =>
    obtain ⟨-, rfl⟩ := next_hardware h
    exact hs
  | control c =>
    obtain rfl := next_control h
    exact hs
  | wait => exact (handled_of_wait h).mpr ha
  | request m k =>
    obtain ⟨reply, hr⟩ := next_request h
    obtain ⟨h1, h2, h3⟩ := handleRequest_frame hr
    intro hc
    rw [h1] at hc
    rcases hs hc with hh | hh
    · exact .inl (h2.trans hh)
    · exact absurd hh h3
  | handle ack =>
    obtain ⟨-, ⟨-, rfl⟩ | ⟨-, rfl⟩⟩ := next_handle h <;> exact fun _ => .inl rfl
  | complete m ack =>
    obtain ⟨hpc, masked, rfl⟩ := next_complete h
    exact fun hc => .inl ((hs hc).resolve_right (by rw [hpc]; simp))

/-- **The main loop**: in every run whose waits consume no hardware signal together with a control
signal, every consumed hardware signal is handled in the iteration of its wait. -/
theorem no_interrupt_dropped {token : Word} {es : List Event} {s : Server}
    (h : Run (fun s e s' => Next Server.next s e s' ∧ Apart s e) (Server.start token) es s) :
    Handled s :=
  h.invariant (fun _ _ _ hs hstep => handled_step hstep.1 hstep.2 hs) fun hc => by cases hc

/-- One interrupt, handled alone. -/
theorem no_interrupt_dropped_alone : ∃ s,
    exec Server.next (Server.start 7) [.hardware, .wait, .handle true] = some s ∧ Handled s := by
  have hrun : ∃ s, exec Server.next (Server.start 7) [.hardware, .wait, .handle true] = some s ∧
      Run (fun s e s' => Next Server.next s e s' ∧ Apart s e) (Server.start 7)
        [.hardware, .wait, .handle true] s := by
    refine ⟨_, rfl, .cons ⟨rfl, by rintro ⟨⟩⟩ (.cons ⟨rfl, ?_⟩ (.single ⟨rfl, by rintro ⟨⟩⟩))⟩
    rintro - badge hb ⟨-, hc⟩
    obtain rfl := Option.some.inj hb
    exact absurd hc (by decide)
  obtain ⟨s, hs, hr⟩ := hrun
  exact ⟨s, hs, no_interrupt_dropped hr⟩

/-- An interrupt and a registration that are pending at one wait: the iteration ends, and the
interrupt is consumed and not handled. -/
theorem interrupt_dropped : ¬ ∀ (token : Word) (es : List Event) (s : Server),
    Run (Next Server.next) (Server.start token) es s → Handled s := by
  intro hall
  have hrun : (exec Server.next (Server.start 7) [.hardware, .control .register, .wait,
      .request (.ofWords [REGISTER_MAGIC, 11, 7]) ⟨true, true⟩]).isSome := by decide
  obtain ⟨s, hs⟩ := Option.isSome_iff_exists.mp hrun
  have hlost : ∀ s, exec Server.next (Server.start 7) [.hardware, .control .register, .wait,
      .request (.ofWords [REGISTER_MAGIC, 11, 7]) ⟨true, true⟩] = some s →
      s.pc = .wait ∧ ¬ Handled s := by
    rintro s ⟨⟩
    decide
  exact (hlost s hs).2 (hall 7 _ s (exec_iff.mp hs))

end SeLinOS.Irq
