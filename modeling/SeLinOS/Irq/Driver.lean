import SeLinOS.Irq.Server

/-!
# The driver domain and the interrupt server

`request_irq`, `free_irq` and `selinos_kapi_dispatch_one_irq` (`kapi/src/kapi_core.c`) as a machine
next to `irqd`. The driver domain calls the three functions in any order and with any arguments,
also from within its handler; it is one thread, so it stops where a function blocks. The two parties
meet at three places: a control signal, a call on the request endpoint, a message on the completion
endpoint. An event of the driver that concerns `irqd` is an event of `Server.next`.

`Joint.next` is one event of the two, and `Deadlocked` the state in which each waits for the other.
-/

namespace SeLinOS.Irq

open CLogic Sel4

/-- `selinos_irq_binding`; `bound`: `selinos_kapi_bind_irq` has set its capabilities. `handler` is
`none` for NULL. -/
structure Binding where
  irq : BitVec 32
  deviceToken : Word
  bound : Bool
  handler : Option Nat
  devId : Nat
  deriving Repr, DecidableEq

/-- Where the driver is: in its own code, or in one of the functions, before the signal, blocked in
the call, or with the reply to it; blocked in `seL4_Wait` or in `seL4_Send` of the dispatch. -/
inductive DriverPc where
  | running
  | requestSignal (handler devId : Nat)
  | requestCall (handler devId : Nat)
  | requestReply (handler devId : Nat) (value : Word)
  | freeSignal
  | freeCall
  | freeReply (value : Word)
  | dispatchWait
  | dispatchSend
  deriving Repr, DecidableEq

/-- The control signal that precedes the call in which the driver is blocked, if it is in one. -/
def DriverPc.calling : DriverPc → Option Control
  | requestCall .. => some .register
  | freeCall => some .unregister
  | _ => none

/-- The two parties. `depth` counts the dispatches whose handler is running. -/
structure Joint where
  server : Server
  binding : Binding
  driver : DriverPc
  depth : Nat
  deriving Repr, DecidableEq

/-- An event of the two parties. -/
inductive JointEvent where
  /-- The line interrupts; `irqd` returns from its wait; it enters `handle_hardware_irq`. -/
  | hardware
  | wait
  | handle (ack : Bool)
  /-- The driver calls a function of the KAPI. -/
  | requestIrq (irq : BitVec 32) (handler : Option Nat) (devId : Nat)
  | freeIrq (irq : BitVec 32) (devId : Nat)
  | dispatch
  /-- The control signal of `request_irq` or `free_irq`. -/
  | signal
  /-- Its call: `irqd` receives, handles and answers. -/
  | call (k : Teardown)
  /-- The function returns. -/
  | return_
  /-- The wait of the dispatch returns and the handler starts; the handler ends; the completion
  message is received. -/
  | notified
  | handlerEnd
  | complete (ack : Bool)
  deriving Repr, DecidableEq

/-- The checks at the start of `request_irq`, with the handler that it installs. -/
def requestChecks (b : Binding) (irq : BitVec 32) (handler : Option Nat) : Option Nat :=
  if ¬ b.bound ∨ b.handler ≠ none ∨ b.irq ≠ irq ∨ b.deviceToken = 0 then none else handler

/-- The checks at the start of `free_irq`. -/
def freeChecks (b : Binding) (irq : BitVec 32) (devId : Nat) : Bool :=
  b.handler != none && b.irq == irq && b.devId == devId && b.deviceToken != 0

/-- The message of `request_irq`. -/
def requestMessage (b : Binding) : Message :=
  .ofWords [REGISTER_MAGIC, b.irq.setWidth 64, b.deviceToken]

/-- The message of `free_irq`. -/
def freeMessage (b : Binding) : Message :=
  .ofWords [UNREGISTER_MAGIC, b.irq.setWidth 64, b.deviceToken]

/-- The completion message of the dispatch. -/
def completeMessage : Message := .ofWords [COMPLETE_MAGIC]

namespace Joint

/-- An event of `irqd` alone. -/
def serve (j : Joint) (e : Event) : Option Joint :=
  (j.server.next e).map fun server => { j with server }

/-- A call on the request endpoint with the message `m`; `reply` is where the driver goes on. -/
def answer (j : Joint) (m : Message) (k : Teardown) (reply : Word → DriverPc) : Option Joint :=
  (handleRequest j.server m k).map fun (server, value) => { j with server, driver := reply value }

/-- One event; `none` where it cannot happen. A function whose checks fail returns at once. -/
def next (j : Joint) : JointEvent → Option Joint
  | .hardware => j.serve .hardware
  | .wait => j.serve .wait
  | .handle ack => j.serve (.handle ack)
  | .requestIrq irq handler devId =>
    if j.driver ≠ .running then none
    else match requestChecks j.binding irq handler with
      | none => some j
      | some handler => some { j with driver := .requestSignal handler devId }
  | .freeIrq irq devId =>
    if j.driver ≠ .running then none
    else if freeChecks j.binding irq devId then some { j with driver := .freeSignal }
    else some j
  | .dispatch =>
    if j.driver ≠ .running then none
    else if j.binding.handler = none ∨ ¬ j.binding.bound then some j
    else some { j with driver := .dispatchWait }
  | .signal =>
    match j.driver with
    | .requestSignal handler devId =>
      { j with driver := .requestCall handler devId }.serve (.control .register)
    | .freeSignal => { j with driver := .freeCall }.serve (.control .unregister)
    | _ => none
  | .call k =>
    match j.driver with
    | .requestCall handler devId =>
      j.answer (requestMessage j.binding) k (.requestReply handler devId)
    | .freeCall => j.answer (freeMessage j.binding) k .freeReply
    | _ => none
  | .return_ =>
    match j.driver with
    | .requestReply handler devId value =>
      if value ≠ REGISTER_ACCEPTED then some { j with driver := .running }
      else some { j with
        driver := .running
        binding := { j.binding with handler := some handler, devId } }
    | .freeReply value =>
      if value ≠ UNREGISTER_ACCEPTED then some { j with driver := .running }
      else some { j with
        driver := .running
        binding := { j.binding with handler := none, devId := 0 } }
    | _ => none
  | .notified =>
    if j.driver ≠ .dispatchWait ∨ ¬ j.server.driverNotified ∨ j.server.capDeleted then none
    else some { j with
      driver := .running
      depth := j.depth + 1
      server := { j.server with driverNotified := false } }
  | .handlerEnd =>
    if j.driver ≠ .running ∨ j.depth = 0 then none
    else some { j with driver := .dispatchSend, depth := j.depth - 1 }
  | .complete ack =>
    if j.driver ≠ .dispatchSend then none
    else { j with driver := .running }.serve (.complete completeMessage ack)

/-- The start: `root` has bound the line `irq`, and given both sides their tokens. -/
def start (irq : BitVec 32) (deviceToken activeToken : Word) : Joint where
  server := Server.start activeToken
  binding := ⟨irq, deviceToken, true, none, 0⟩
  driver := .running
  depth := 0

/-- `irqd` waits for a completion while the driver waits for the answer to a request. -/
def Deadlocked (j : Joint) : Prop := j.server.pc = .completeRecv ∧ j.driver.calling ≠ none

instance (j : Joint) : Decidable j.Deadlocked := inferInstanceAs (Decidable (_ ∧ _))

/-- The event is no release of the line while `irqd` is inside `handle_hardware_irq`, or about to
enter it. -/
def Quiet (j : Joint) (e : JointEvent) : Prop :=
  e = .signal → j.driver = .freeSignal →
    j.server.pc ≠ .hardware ∧ j.server.pc ≠ .completeRecv

end Joint

end SeLinOS.Irq
