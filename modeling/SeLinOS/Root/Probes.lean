import SeLinOS.Taskd.DynamicAlloc
import SeLinOS.Taskd.Inventory

/-!
# The probes of the servers with a loop

Four bundles of a server and its probe: the inventories of objectd and memd, the dynamic allocation
of taskd, whose probe also signals the root task, and `selinos_root_dispatch_m0_once`, where the
root task is the server.

* `Fixture`: a server, its probe and the root task; `Bundle.fixture`: the four bundles.
* `probe_run`: what a bundle does, in every order in which its threads are scheduled.
-/

namespace SeLinOS.Root.Probes

open CLogic Sel4 Taskd

/-- Of the root task too, where it is the server. -/
def SERVER_ENDPOINT_SLOT : Slot := 8

def PROBE_ENDPOINT_SLOT : Slot := 8

/-- Of the root task too, which waits for the notification. -/
def PROBE_SUCCESS_NOTIFY_SLOT : Slot := 9

def DISPATCH_REQUEST : Word := 0x52444d3052455151
def DISPATCH_READY : Word := 0x52444d3052445930
def DISPATCH_SLOT : Word := 1
def DISPATCH_GENERATION : Word := 1

/-- `seL4_InvalidArgument`. -/
def InvalidArgument : Word := 1

inductive Thread
  | server
  | probe
  | root
  deriving Repr, DecidableEq

inductive Object
  | endpoint
  | success
  deriving Repr, DecidableEq

/-- A server, with the probe and the root task beside it. -/
structure Fixture where
  τ : Type
  [decidableText : DecidableEq τ]
  σ : Type
  start : σ
  serve : Message → σ → Loop σ τ
  probe : Code τ
  root : Code τ

/-! ## The inventories -/

/-- `call_reserve_expect`. -/
def callReserveExpect (k : Inventory.Service) (expectedStatus : Word)
    (rejected accepted : Code Inventory.Text) : Code Inventory.Text :=
  .call Inventory.PROBE_ENDPOINT_SLOT (.ofWords [k.RESERVE, Inventory.SLOT]) none fun reply =>
    if ¬ Exact [expectedStatus] reply then rejected else accepted

/-- `main` of `objectd_m1_probe.c` and `memd_m1_probe.c`. -/
def inventoryProbe (k : Inventory.Service) : Code Inventory.Text :=
  callReserveExpect k k.RESERVED (.putString .probeRejected .yield) <|
  callReserveExpect k k.EBUSY (.putString .probeRejected .yield) <|
  .putString .probePassed .yield

/-! ## The dynamic allocation -/

inductive AllocText
  | lifecycleFailed
  | lifecyclePassed
  | prerequisitePassed
  | nothingCreated
  deriving Repr, DecidableEq

/-- `call`. -/
def call (op status generation : Word) (rejected accepted : Code AllocText) : Code AllocText :=
  .call PROBE_ENDPOINT_SLOT (.ofWords [op, Taskd.SLOT]) none fun r =>
    if ¬ Exact [status, Taskd.SLOT, generation] r then rejected else accepted

/-- `main` of `taskd_dynamic_alloc_m0_probe.c`. -/
def allocProbe : Code AllocText :=
  let failed := .putString .lifecycleFailed .yield
  call RESERVE RESERVED 1 failed <|
  call RESERVE EBUSY 1 failed <|
  call RELEASE RELEASED 1 failed <|
  call RESERVE RESERVED 2 failed <|
  .signal PROBE_SUCCESS_NOTIFY_SLOT <|
  .putString .lifecyclePassed .yield

/-- The end of `start_taskd_dynamic_alloc_m0_bundle`, with what
`selinos_domain_manager_start` prints after it. -/
def allocRoot : Code AllocText :=
  .wait PROBE_SUCCESS_NOTIFY_SLOT <|
  .putString .prerequisitePassed <|
  .putString .nothingCreated .yield

/-! ## The dispatch of the root task -/

inductive DispatchText
  | requestAccepted
  | replyIssued
  | replyRejected
  | transactionPassed
  deriving Repr, DecidableEq

/-- `selinos_root_dispatch_m0_once` after the receive. -/
def dispatchOnce (message : Message) (_ : Unit) : Loop Unit DispatchText :=
  if ¬ (Exact [DISPATCH_REQUEST, DISPATCH_SLOT, DISPATCH_GENERATION] message ∧
      message.extraCaps = 0) then
    ⟨none, [.reply ⟨InvalidArgument, 0, [DISPATCH_REQUEST, DISPATCH_SLOT, DISPATCH_GENERATION]⟩
      none]⟩
  else
    ⟨none, [.print .requestAccepted,
      .reply (.ofWords [DISPATCH_READY, DISPATCH_SLOT, DISPATCH_GENERATION]) none,
      .print .replyIssued]⟩

/-- `main` of `root_dispatch_m0_probe.c`. -/
def dispatchProbe : Code DispatchText :=
  .call PROBE_ENDPOINT_SLOT (.ofWords [DISPATCH_REQUEST, DISPATCH_SLOT, DISPATCH_GENERATION]) none
    fun reply =>
      if ¬ (Exact [DISPATCH_READY, DISPATCH_SLOT, DISPATCH_GENERATION] reply ∧
          reply.extraCaps = 0) then
        .putString .replyRejected .yield
      else .putString .transactionPassed .yield

/-! ## The bundles -/

inductive Bundle
  | inventory (k : Inventory.Service)
  | dynamicAlloc
  | rootDispatch
  deriving Repr, DecidableEq

def Bundle.fixture : Bundle → Fixture
  | .inventory k => ⟨Inventory.Text, Bool, false, Inventory.serve k, inventoryProbe k, .yield⟩
  | .dynamicAlloc => ⟨AllocText, Server, Server.start,
      fun m s => ⟨(handle m s).2, [.reply (handle m s).1 none]⟩, allocProbe, allocRoot⟩
  | .rootDispatch => ⟨DispatchText, Unit, (), dispatchOnce, dispatchProbe, .yield⟩

instance (f : Fixture) : DecidableEq f.τ := f.decidableText

/-- The states of the threads. -/
def States (f : Fixture) : Thread → Type
  | .server => Loop f.σ f.τ
  | .probe => Code f.τ
  | .root => Code f.τ

def act (f : Fixture) : ∀ i, States f i → Act f.τ (States f i)
  | .server => Loop.act SERVER_ENDPOINT_SLOT f.serve
  | .probe => Code.act
  | .root => Code.act

def main (f : Fixture) : ∀ i, States f i
  | .server => .enter f.start
  | .probe => f.probe
  | .root => f.root

/-- The capabilities that the bundles copy, and those of the root task. -/
def caps (b : Bundle) : Thread → Slot → Option (Cap Thread Object)
  | .server, 8 => some (.endpoint .probe .endpoint)
  | .probe, 8 => some (.endpoint .server .endpoint)
  | .probe, 9 | .root, 9 => if b = .dynamicAlloc then some (.notification .success) else none
  | _, _ => none

def waiter : Object → Option Thread
  | .success => some .root
  | .endpoint => none

def network (b : Bundle) : Net (Name Thread Object) (Event Thread Object b.fixture.τ)
    (Component Thread Object (States b.fixture)) :=
  net ⟨act b.fixture, waiter⟩

def bundle (b : Bundle) : (x : Name Thread Object) → Component Thread Object (States b.fixture) x :=
  start (main b.fixture) (caps b) fun _ => false

/-! ## What a bundle does -/

def names : List (Name Thread Object) :=
  [.thread .server, .thread .probe, .thread .root, .notification .endpoint, .notification .success]

theorem mem_names (x : Name Thread Object) : x ∈ names := by
  rcases x with i | n
  · cases i <;> simp [names]
  · cases n <;> simp [names]

/-- A call of the probe, with what the server prints before and after its reply. -/
def exchange {τ : Type} (request : List Word) (before : List τ) (reply : List Word)
    (after : List τ) : List (Event Thread Object τ) :=
  [.call .probe .server .endpoint (.ofWords request)] ++ before.map (.print .server) ++
    [.reply .server .probe (.ofWords reply) none] ++ after.map (.print .server)

def script : (b : Bundle) → List (Event Thread Object b.fixture.τ)
  | .inventory k =>
    exchange [k.RESERVE, Inventory.SLOT] [] [k.RESERVED] [Inventory.Text.slotReserved] ++
    exchange [k.RESERVE, Inventory.SLOT] [] [k.EBUSY]
      [Inventory.Text.duplicateRejected, Inventory.Text.proofPassed] ++
    [.print .probe Inventory.Text.probePassed]
  | .dynamicAlloc =>
    exchange [RESERVE, Taskd.SLOT] [] [RESERVED, Taskd.SLOT, 1] [] ++
    exchange [RESERVE, Taskd.SLOT] [] [EBUSY, Taskd.SLOT, 1] [] ++
    exchange [RELEASE, Taskd.SLOT] [] [RELEASED, Taskd.SLOT, 1] [] ++
    exchange [RESERVE, Taskd.SLOT] [] [RESERVED, Taskd.SLOT, 2] [] ++
    [.signal .probe .success,
      .print .probe AllocText.lifecyclePassed,
      .wake .success .root,
      .print .root AllocText.prerequisitePassed,
      .print .root AllocText.nothingCreated]
  | .rootDispatch =>
    exchange [DISPATCH_REQUEST, DISPATCH_SLOT, DISPATCH_GENERATION]
      [DispatchText.requestAccepted] [DISPATCH_READY, DISPATCH_SLOT, DISPATCH_GENERATION]
      [DispatchText.replyIssued] ++
    [.print .probe DispatchText.transactionPassed]

theorem script_plays (b : Bundle) : ∃ t, (network b).Plays (script b) (bundle b) t := by
  cases b with
  | inventory k => cases k <;> exact Net.plays_of_check mem_names (by decide +kernel)
  | dynamicAlloc => exact Net.plays_of_check mem_names (by decide +kernel)
  | rootDispatch => exact Net.plays_of_check mem_names (by decide +kernel)

/-- **The probes**: in every order in which the threads of a bundle are scheduled, each does the
beginning of its part of `script`, and the bundle stops only when the probe has passed. -/
theorem probe_run {b : Bundle} {es : List (Event Thread Object b.fixture.τ)}
    {s : ∀ x, Component Thread Object (States b.fixture) x}
    (h : Run (network b).Step (bundle b) es s) :
    (network b).Performs (script b) (bundle b) es s := by
  obtain ⟨t, ht⟩ := script_plays b
  exact ht.run h

theorem probe_run_sample : ∃ s, Run (network .dynamicAlloc).Step (bundle .dynamicAlloc)
    (script .dynamicAlloc) s ∧ (network .dynamicAlloc).Performs (script .dynamicAlloc)
      (bundle .dynamicAlloc) (script .dynamicAlloc) s := by
  obtain ⟨t, ht⟩ := script_plays .dynamicAlloc
  exact ⟨t, ht.exists_run, probe_run ht.exists_run⟩

/-- The inventory of objectd, with its probe. -/
theorem inventory_run_probe : Inventory.Answers .objectd
    (requests .server (script (.inventory .objectd)))
    (Inventory.statuses (outputs .server (script (.inventory .objectd)))) := by
  obtain ⟨t, ht⟩ := script_plays (.inventory .objectd)
  exact @Inventory.inventory_run _ _ _ _ _ _ .objectd .server id _ _ _ (fun l => Act.map_id _) rfl
    ht.exists_run

end SeLinOS.Root.Probes
