import SeLinOS.Irq.Agreement

/-!
# Acknowledgements come after the handler

`irqd` acknowledges an interrupt that it has signalled to the driver when the driver's completion
message arrives. The line stays masked until then, so that each such acknowledgement follows one run
of the handler.

* `registered`: the handler that an interrupt is for. `Mark`, `emits`: what the two sides do that
  the order is about. `sinceSignal`: the marks since the last signal to the driver.
* `Phase`: how far the handling is, for each place of the two sides.
* `acknowledged_after_handler`: the run result, and what a malformed completion does.
-/

namespace SeLinOS.Irq

open CLogic Sel4

/-- The kernel calls of `irqd` on the driver's notification and on the interrupt handler. -/
inductive KernelCall where
  | signalDriver
  | irqHandlerAck
  deriving Repr, DecidableEq

/-- The calls in one event, whatever the kernel answers. -/
def Server.calls (s : Server) : Event → List KernelCall
  | .handle _ => if s.registeredIrq = 0 then [.irqHandlerAck] else [.signalDriver]
  | .complete m _ => if m.length ≠ 1 ∨ m.mr 0 ≠ COMPLETE_MAGIC then [] else [.irqHandlerAck]
  | _ => []

/-- Something that happens in a run of the two sides: a kernel call of `irqd`, with the handler that
the driver has registered when it is made; or the driver's handler starts or returns (`none`: NULL
is called). -/
inductive Mark where
  | kernel (call : KernelCall) (registered : Option Nat)
  | handlerRuns (handler : Option Nat)
  | handlerReturns
  deriving Repr, DecidableEq

/-- The handler that was registered at a signal, and the marks since it. -/
abbrev Since : Type := Option (Option Nat × List Mark)

/-- Since the last signal to the driver; `none` before the first one. -/
def sinceSignal (marks : List Mark) : Since :=
  marks.foldl (fun since mark => match mark with
    | .kernel .signalDriver registered => some (registered, [])
    | mark => since.map fun (registered, marks) => (registered, marks ++ [mark])) none

theorem sinceSignal_signal (marks : List Mark) (registered : Option Nat) :
    sinceSignal (marks ++ [.kernel .signalDriver registered]) = some (registered, []) := by
  simp [sinceSignal]

theorem sinceSignal_snoc (marks : List Mark) {mark : Mark}
    (h : ∀ registered, mark ≠ .kernel .signalDriver registered) : sinceSignal (marks ++ [mark]) =
      (sinceSignal marks).map fun (registered, marks) => (registered, marks ++ [mark]) := by
  rw [sinceSignal, List.foldl_append, List.foldl_cons, List.foldl_nil]
  split
  · exact absurd rfl (h _)
  · rfl

namespace Joint

/-- The handler of the registration: the one in the binding, or the one that `request_irq` installs
when it returns, if `irqd` has accepted it. `irqd` may signal in between. -/
def registered (j : Joint) : Option Nat :=
  match j.driver with
  | .requestReply handler _ value =>
    if value = REGISTER_ACCEPTED then some handler else j.binding.handler
  | _ => j.binding.handler

/-- The marks of an event. -/
def emits (j : Joint) : JointEvent → List Mark
  | .handle ack => (j.server.calls (.handle ack)).map (.kernel · j.registered)
  | .complete ack =>
    (j.server.calls (.complete completeMessage ack)).map (.kernel · j.registered)
  | .notified => [.handlerRuns j.binding.handler]
  | .handlerEnd => [.handlerReturns]
  | _ => []

/-- How far the handling of an interrupt is, with the marks since its signal. -/
inductive Phase (j : Joint) : Since → Prop
  /-- `irqd` does not wait for a completion, and the driver has no signal to take. -/
  | idle {since : Since} (hpc : j.server.pc ≠ .completeRecv)
      (hn : j.server.driverNotified = false) (hd : j.depth = 0) (hs : j.driver ≠ .dispatchSend) :
      Phase j since
  | signalled (hpc : j.server.pc = .completeRecv) (hn : j.server.driverNotified = true)
      (hd : j.depth = 0) (hs : j.driver ≠ .dispatchSend) : Phase j (some (j.registered, []))
  | running (f : Nat) (hpc : j.server.pc = .completeRecv) (hn : j.server.driverNotified = false)
      (hd : j.depth = 1) (hs : j.driver ≠ .dispatchSend) :
      Phase j (some (some f, [.handlerRuns (some f)]))
  | returned (f : Nat) (hpc : j.server.pc = .completeRecv) (hn : j.server.driverNotified = false)
      (hd : j.depth = 0) (hs : j.driver = .dispatchSend) :
      Phase j (some (some f, [.handlerRuns (some f), .handlerReturns]))

/-- The phase, and a driver that waits for an interrupt has a handler for it. -/
structure Handling (j : Joint) (since : Since) : Prop where
  phase : j.Phase since
  waiting : j.driver = .dispatchWait → j.binding.handler ≠ none

/-- The event leaves the two sides where they are in the handling. -/
theorem Phase.of_same {j j' : Joint} {since : Since} (h : j.Phase since)
    (hpc : j'.server.pc = .completeRecv ↔ j.server.pc = .completeRecv)
    (hn : j'.server.driverNotified = j.server.driverNotified) (hd : j'.depth = j.depth)
    (hs : j'.driver = .dispatchSend ↔ j.driver = .dispatchSend)
    (hr : j.server.pc = .completeRecv → j'.registered = j.registered) : j'.Phase since := by
  cases h with
  | idle h1 h2 h3 h4 =>
    exact .idle (fun hc => h1 (hpc.mp hc)) (hn.trans h2) (hd.trans h3) fun hc => h4 (hs.mp hc)
  | signalled h1 h2 h3 h4 =>
    rw [← hr h1]
    exact .signalled (hpc.mpr h1) (hn.trans h2) (hd.trans h3) fun hc => h4 (hs.mp hc)
  | running f h1 h2 h3 h4 =>
    exact .running f (hpc.mpr h1) (hn.trans h2) (hd.trans h3) fun hc => h4 (hs.mp hc)
  | returned f h1 h2 h3 h4 =>
    exact .returned f (hpc.mpr h1) (hn.trans h2) (hd.trans h3) (hs.mpr h4)

/-- The phases in which `irqd` does not wait for a completion. -/
theorem Phase.idle_of {j : Joint} {since : Since} (h : j.Phase since)
    (hpc : j.server.pc ≠ .completeRecv) :
    j.server.driverNotified = false ∧ j.depth = 0 ∧ j.driver ≠ .dispatchSend := by
  cases h with
  | idle _ h2 h3 h4 => exact ⟨h2, h3, h4⟩
  | signalled h1 => exact absurd h1 hpc
  | running f h1 => exact absurd h1 hpc
  | returned f h1 => exact absurd h1 hpc

/-! ## Events -/

/-- An event of the driver that starts or ends no handler. -/
theorem Handling.of_driver {j : Joint} {since : Since}
    (h : j.Handling since) {driver : DriverPc} {binding : Binding}
    (hs : driver = .dispatchSend ↔ j.driver = .dispatchSend)
    (hr : j.server.pc = .completeRecv →
      registered { j with driver, binding } = j.registered)
    (hw : driver = .dispatchWait → binding.handler ≠ none) :
    Handling { j with driver, binding } since :=
  ⟨h.phase.of_same Iff.rfl rfl rfl hs hr, hw⟩

theorem handling_handle {j j' : Joint} {ack : Bool} {marks : List Mark}
    (h : j.Handling (sinceSignal marks)) (hn : j.next (.handle ack) = some j') :
    j'.Handling (sinceSignal (marks ++ j.emits (.handle ack))) := by
  obtain ⟨server, hs, rfl⟩ := serve_some hn
  obtain ⟨hpc, ⟨-, rfl⟩ | ⟨hr, rfl⟩⟩ := next_handle hs
  all_goals obtain ⟨h1, h2, h3⟩ := h.phase.idle_of (by rw [hpc]; simp)
  · exact ⟨.idle (by simp) h1 h2 h3, h.waiting⟩
  · rw [emits, Server.calls, if_neg hr, List.map_singleton, sinceSignal_signal]
    exact ⟨.signalled rfl rfl h2 h3, h.waiting⟩

/-- The wait of the dispatch returns only for a signal, and the handler that it runs is there. -/
theorem handling_notified {j j' : Joint} {marks : List Mark} (h : j.Handling (sinceSignal marks))
    (hn : j.next .notified = some j') : j'.Handling (sinceSignal (marks ++ j.emits .notified)) := by
  simp only [next] at hn
  split at hn
  · cases hn
  · rename_i hc
    simp only [not_or, not_not] at hc
    obtain rfl := Option.some.inj hn
    obtain ⟨f, hf⟩ := Option.ne_none_iff_exists'.mp (h.waiting hc.1)
    have hregistered : j.registered = some f := by rw [registered, hc.1, hf]
    have hsince := h.phase
    rw [emits, hf, sinceSignal_snoc _ (by simp)]
    generalize sinceSignal marks = since at hsince ⊢
    cases hsince with
    | idle _ hno => exact absurd hc.2.1 (by simp [hno])
    | signalled hpc _ hd =>
      rw [hregistered]
      exact ⟨.running f hpc rfl (by simp [hd]) (by simp), fun hw => by cases hw⟩
    | running _ _ hno => exact absurd hc.2.1 (by simp [hno])
    | returned _ _ hno => exact absurd hc.2.1 (by simp [hno])

theorem handling_handlerEnd {j j' : Joint} {marks : List Mark} (h : j.Handling (sinceSignal marks))
    (hn : j.next .handlerEnd = some j') :
    j'.Handling (sinceSignal (marks ++ j.emits .handlerEnd)) := by
  simp only [next] at hn
  split at hn
  · cases hn
  · rename_i hc
    simp only [not_or, not_not] at hc
    obtain rfl := Option.some.inj hn
    have hsince := h.phase
    rw [emits, sinceSignal_snoc _ (by simp)]
    generalize sinceSignal marks = since at hsince ⊢
    cases hsince with
    | idle _ _ hd => exact absurd hd hc.2
    | signalled _ _ hd => exact absurd hd hc.2
    | running f hpc hno hd =>
      exact ⟨.returned f hpc hno (by simp [hd]) rfl, fun hw => by cases hw⟩
    | returned _ _ _ hd => exact absurd hd hc.2

/-- The completion message is sent after the handler has returned. -/
theorem handling_complete {j j' : Joint} {ack : Bool} {since : Since}
    (h : j.Handling since) (hn : j.next (.complete ack) = some j') :
    (∃ f, since = some (some f, [.handlerRuns (some f), .handlerReturns])) ∧
      ∀ since', j'.Handling since' := by
  obtain ⟨hd, hpc, masked, rfl⟩ := completion_received hn
  have hsince := h.phase
  cases hsince with
  | idle hpc' => exact absurd hpc hpc'
  | signalled _ _ _ hs' => exact absurd hd hs'
  | running _ _ _ _ hs' => exact absurd hd hs'
  | returned f _ hno hdep =>
    exact ⟨⟨f, rfl⟩, fun _ => ⟨.idle (by simp) hno hdep (by simp), fun hw => by cases hw⟩⟩

theorem handling_signal {j j' : Joint} {since : Since} (h : j.Handling since)
    (hn : j.next .signal = some j') : j'.Handling since := by
  obtain ⟨handler, devId, hd, rfl⟩ | ⟨hd, rfl⟩ := signal_sent hn <;>
    exact ⟨h.phase.of_same Iff.rfl rfl rfl (by simp [hd]) (by simp [registered, hd]),
      fun hw => by cases hw⟩

/-- At a call `irqd` is at a request handler, so no interrupt is being handled. -/
theorem handling_call {j j' : Joint} {k : Teardown} {since : Since}
    (h : j.Handling since) (hn : j.next (.call k) = some j') : j'.Handling since := by
  simp only [next] at hn
  split at hn
  · obtain ⟨⟨server, value⟩, hr, rfl⟩ := Option.map_eq_some_iff.mp hn
    obtain ⟨hpc, hpc', hno, -⟩ := handleRequest_idle hr
    obtain ⟨h1, h2, -⟩ := h.phase.idle_of hpc
    exact ⟨.idle hpc' (hno.trans h1) h2 (by simp), fun hw => by cases hw⟩
  · obtain ⟨⟨server, value⟩, hr, rfl⟩ := Option.map_eq_some_iff.mp hn
    obtain ⟨hpc, hpc', hno, -⟩ := handleRequest_idle hr
    obtain ⟨h1, h2, -⟩ := h.phase.idle_of hpc
    exact ⟨.idle hpc' (hno.trans h1) h2 (by simp), fun hw => by cases hw⟩
  · cases hn

/-- `request_irq` installs the handler that is registered already. `free_irq` removes one that is
not registered any more, for which no completion is open. -/
theorem handling_return {j j' : Joint} {since : Since} (hl : j.Linked) (h : j.Handling since)
    (hn : j.next .return_ = some j') : j'.Handling since := by
  simp only [next] at hn
  split at hn
  · rename_i handler devId value hd
    split at hn <;> rename_i hv <;> obtain rfl := Option.some.inj hn <;>
      exact h.of_driver (by simp [hd]) (fun _ => by simp_all [registered]) fun hw => by cases hw
  · rename_i value hd
    split at hn <;> rename_i hv <;> obtain rfl := Option.some.inj hn
    · exact h.of_driver (by simp [hd]) (fun _ => by simp [registered, hd]) fun hw => by cases hw
    · refine h.of_driver (by simp [hd]) (fun hpc => absurd ?_ (hl.completing hpc))
        fun hw => by cases hw
      have ha := hl.agrees
      unfold Agrees at ha
      rw [hd] at ha
      exact (if_pos (not_not.mp hv) ▸ ha.2 :)
  · cases hn

/-- The events that the marks do not tell: `irqd` is not at the completion before and after them, or
stays where it is. -/
theorem handling_other {j j' : Joint} {e : JointEvent} {since : Since} (hl : j.Linked)
    (h : j.Handling since) (hn : j.next e = some j') (he : j.emits e = [])
    (hc : ∀ ack, e ≠ .complete ack) : j'.Handling since := by
  have hphase := h.phase
  cases e with
  | hardware =>
    obtain ⟨server, hs, rfl⟩ := serve_some hn
    obtain ⟨-, rfl⟩ := next_hardware hs
    exact ⟨hphase.of_same Iff.rfl rfl rfl Iff.rfl fun _ => rfl, h.waiting⟩
  | wait =>
    obtain ⟨server, hs, rfl⟩ := serve_some hn
    obtain ⟨badge, hpc, -, rfl⟩ := next_wait hs
    obtain ⟨h1, h2, h3⟩ := hphase.idle_of (by rw [hpc]; simp)
    exact ⟨.idle (afterWait_ne_completeRecv badge) h1 h2 h3, h.waiting⟩
  | handle ack => simp [emits, Server.calls] at he; split at he <;> cases he
  | complete ack => exact absurd rfl (hc ack)
  | notified => cases he
  | handlerEnd => cases he
  | requestIrq irq handler devId =>
    simp only [next] at hn
    split at hn
    · cases hn
    · rename_i hrun
      rw [ne_eq, not_not] at hrun
      split at hn <;> obtain rfl := Option.some.inj hn
      · exact h
      · exact h.of_driver (by simp [hrun]) (fun _ => by simp [registered, hrun])
          fun hw => by cases hw
  | freeIrq irq devId =>
    simp only [next] at hn
    split at hn
    · cases hn
    · rename_i hrun
      rw [ne_eq, not_not] at hrun
      split at hn <;> obtain rfl := Option.some.inj hn
      · exact h.of_driver (by simp [hrun]) (fun _ => by simp [registered, hrun])
          fun hw => by cases hw
      · exact h
  | dispatch =>
    simp only [next] at hn
    split at hn
    · cases hn
    · rename_i hrun
      rw [ne_eq, not_not] at hrun
      split at hn <;> rename_i hcheck <;> obtain rfl := Option.some.inj hn
      · exact h
      · exact h.of_driver (by simp [hrun]) (fun _ => by simp [registered, hrun])
          fun _ hnone => hcheck (.inl hnone)
  | signal => exact handling_signal h hn
  | call k => exact handling_call h hn
  | return_ => exact handling_return hl h hn

theorem handling_step {j j' : Joint} {e : JointEvent} {marks : List Mark} (hl : j.Linked)
    (h : j.Handling (sinceSignal marks)) (hn : j.next e = some j') :
    j'.Handling (sinceSignal (marks ++ j.emits e)) := by
  cases e with
  | handle ack => exact handling_handle h hn
  | complete ack => exact (handling_complete h hn).2 _
  | notified => exact handling_notified h hn
  | handlerEnd => exact handling_handlerEnd h hn
  | _ =>
    simp only [emits, List.append_nil]
    exact handling_other hl h hn rfl (by simp)

/-! ## Runs -/

theorem handling_run {irq : BitVec 32} {deviceToken activeToken : Word} {es : List JointEvent}
    {j : Joint} (h : Run (Next next) (start irq deviceToken activeToken) es j) :
    j.Handling (sinceSignal (emitted next emits (start irq deviceToken activeToken) es)) := by
  refine (h.history (I := fun es j => Run (Next next) (start irq deviceToken activeToken) es j ∧
    j.Handling (sinceSignal (emitted next emits (start irq deviceToken activeToken) es)))
    (fun before t e t' hb ht => ⟨hb.1.snoc ht, ?_⟩) ⟨.nil, ?_⟩).2
  · rw [emitted_snoc hb.1]
    exact handling_step (linked_run hb.1) hb.2 ht
  · exact ⟨.idle (by simp [start, Server.start]) rfl rfl (by simp [start]), fun hw => by cases hw⟩

/-- **Acknowledge after handling**: in every run, `irqd` acknowledges an interrupt that it signalled
when since that signal exactly one handler has run and returned, and it is the handler that was
registered at the signal. A completion message of another length or magic is not acknowledged, and
leaves the line masked. -/
theorem acknowledged_after_handler {irq : BitVec 32} {deviceToken activeToken : Word}
    {es : List JointEvent} {j : Joint}
    (h : Run (Next next) (start irq deviceToken activeToken) es j) :
    (∀ before ack, before ++ [.complete ack] <+: es → ∃ f,
      sinceSignal (emitted next emits (start irq deviceToken activeToken) before) =
        some (some f, [.handlerRuns (some f), .handlerReturns])) ∧
    ∀ (s s' : Server) (m : Message) (ack : Bool), (m.length ≠ 1 ∨ m.mr 0 ≠ COMPLETE_MAGIC) →
      s.next (.complete m ack) = some s' →
      KernelCall.irqHandlerAck ∉ s.calls (.complete m ack) ∧ s'.lineMasked = s.lineMasked := by
  constructor
  · intro before ack hp
    obtain ⟨t, t', hb, ht⟩ := h.at_label hp
    exact (handling_complete (handling_run hb) ht).1
  · intro s s' m ack hbad hn
    refine ⟨by simp [Server.calls, hbad], ?_⟩
    simp only [Server.next] at hn
    split at hn
    · cases hn
    · obtain rfl := Option.some.inj hn
      rfl

/-- A driver that registers, takes an interrupt that `irqd` signals before the registration returns,
and dispatches it. -/
def dispatchedRun : List JointEvent :=
  [.requestIrq 11 (some 1) 5, .signal, .wait, .call ⟨true, true⟩, .hardware, .wait, .handle true,
    .return_, .dispatch, .notified, .handlerEnd, .complete true]

theorem acknowledged_after_dispatch : (exec next (start 11 7 7) dispatchedRun).isSome ∧
    ∃ f, sinceSignal (emitted next emits (start 11 7 7) dispatchedRun.dropLast) =
      some (some f, [.handlerRuns (some f), .handlerReturns]) := by
  have hsome : (exec next (start 11 7 7) dispatchedRun).isSome := by decide
  obtain ⟨j, hj⟩ := Option.isSome_iff_exists.mp hsome
  exact ⟨hsome, (acknowledged_after_handler (exec_iff.mp hj)).1 _ true ⟨[], rfl⟩⟩

end Joint

end SeLinOS.Irq
