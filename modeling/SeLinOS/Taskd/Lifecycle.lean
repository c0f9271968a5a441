import SeLinOS.Taskd.Reservation

/-!
# The life of a fixed child

`taskd_m1.c` with its client `task_lifecycle_probe.c` and the child `task_lifecycle_child.c`, as
`start_taskd_fixed_child_lifecycle_m1_bundle` wires them: taskd starts the child by a notification,
waits for its completion, suspends and resumes it, and starts it a second time. The client may send
any message.

* `taskd`, `child`, `probe`: the programs; `caps`: the capabilities of each.
* `lives`: what the bundle does, in every order in which its threads are scheduled.
-/

namespace SeLinOS.Taskd.Lifecycle

open CLogic Sel4

def START : Word := 0x544d315354415254
def CHILD_DONE : Word := 0x544d31444f4e4521
def CHILD_ID : Word := 1
def FIRST_GENERATION : Word := 1
def SECOND_GENERATION : Word := 2
def CLIENT_ENDPOINT_SLOT : Slot := 8
def CHILD_COMPLETION_SLOT : Slot := 9
def CHILD_START_SLOT : Slot := 10
def CHILD_TCB_SLOT : Slot := 11
def PROBE_SUCCESS_SLOT : Slot := 12
def CHILD_START_WAIT_SLOT : Slot := 8
def CHILD_COMPLETION_SEND_SLOT : Slot := 9
def PROBE_CLIENT_ENDPOINT_SLOT : Slot := 8
def PROBE_SUCCESS_WAIT_SLOT : Slot := 9

inductive Thread
  | taskd
  | child
  | probe
  deriving Repr, DecidableEq

inductive Object
  | clientEndpoint
  | childCompletionEndpoint
  | childStartNotification
  | probeSuccessNotification
  deriving Repr, DecidableEq

/-- The texts that the programs print, without their wording. -/
inductive Text
  | malformedRequest
  | startAccepted
  | firstRejected
  | firstValidated
  | suspendResumeFailed
  | suspendedAndResumed
  | secondRejected
  | secondValidated
  | lifecycleCompleted
  | probePassed
  deriving Repr, DecidableEq

/-! ## The programs -/

/-- `receive_exact_child_completion`, with what follows where it returns false and where it returns
true. -/
def receiveExactChildCompletion (generation : Word) (rejected accepted : Code Text) : Code Text :=
  .recv CHILD_COMPLETION_SLOT fun message =>
    if ¬ Exact [CHILD_DONE, CHILD_ID, generation] message then rejected else accepted

/-- `start_fixed_child`. -/
def startFixedChild (next : Code Text) : Code Text := .signal CHILD_START_SLOT next

/-- `main` of `taskd_m1.c` after an exact request. -/
def conduct : Code Text :=
  .putString .startAccepted <|
  startFixedChild <|
  receiveExactChildCompletion FIRST_GENERATION (.putString .firstRejected .yield) <|
  .putString .firstValidated <|
  .suspend CHILD_TCB_SLOT fun noError =>
    if ¬ noError then .putString .suspendResumeFailed .yield
    else
      .resume CHILD_TCB_SLOT fun noError =>
        if ¬ noError then .putString .suspendResumeFailed .yield
        else
          .putString .suspendedAndResumed <|
          startFixedChild <|
          receiveExactChildCompletion SECOND_GENERATION (.putString .secondRejected .yield) <|
          .putString .secondValidated <|
          .signal PROBE_SUCCESS_SLOT <|
          .putString .lifecycleCompleted .yield

def taskd : Code Text :=
  .recv CLIENT_ENDPOINT_SLOT fun message =>
    if ¬ Exact [START, CHILD_ID] message then .putString .malformedRequest .yield else conduct

/-- `send_completion`. -/
def sendCompletion (generation : Word) (next : Code Text) : Code Text :=
  .send CHILD_COMPLETION_SEND_SLOT (.ofWords [CHILD_DONE, CHILD_ID, generation]) next

/-- `main` of `task_lifecycle_child.c`. -/
def child : Code Text :=
  .wait CHILD_START_WAIT_SLOT <|
  sendCompletion FIRST_GENERATION <|
  .wait CHILD_START_WAIT_SLOT <|
  sendCompletion SECOND_GENERATION .yield

/-- `main` of `task_lifecycle_probe.c`, with the message that it sends. -/
def probe (request : Message) : Code Text :=
  fixedClient PROBE_CLIENT_ENDPOINT_SLOT PROBE_SUCCESS_WAIT_SLOT request .probePassed

/-- The client after its request. -/
def probeWait : Code Text := .wait PROBE_SUCCESS_WAIT_SLOT <| .putString .probePassed .yield

def main (taskd probe : Code Text) : Thread → Code Text
  | .taskd => taskd
  | .child => child
  | .probe => probe

/-- The capabilities that `start_taskd_fixed_child_lifecycle_m1_bundle` copies. -/
def caps : Thread → Slot → Option (Cap Thread Object)
  | .taskd, 8 => some (.endpoint .probe .clientEndpoint)
  | .taskd, 9 => some (.endpoint .child .childCompletionEndpoint)
  | .taskd, 10 => some (.notification .childStartNotification)
  | .taskd, 11 => some (.tcb .child)
  | .taskd, 12 => some (.notification .probeSuccessNotification)
  | .child, 8 => some (.notification .childStartNotification)
  | .child, 9 => some (.endpoint .taskd .childCompletionEndpoint)
  | .probe, 8 => some (.endpoint .taskd .clientEndpoint)
  | .probe, 9 => some (.notification .probeSuccessNotification)
  | _, _ => none

/-- The bundle with the programs at which taskd and the client are. -/
def bundle (taskd probe : Code Text) :
    (x : Name Thread Object) → Component Thread Object (fun _ => Code Text) x :=
  start (main taskd probe) caps fun _ => false

def waiter : Object → Option Thread
  | .childStartNotification => some .child
  | .probeSuccessNotification => some .probe
  | _ => none

def kernel : System Thread Object Text fun _ => Code Text := ⟨fun _ => Code.act, waiter⟩

def network : Net (Name Thread Object) (Event Thread Object Text)
    (Component Thread Object fun _ => Code Text) :=
  net kernel

/-! ## What the bundle does -/

def names : List (Name Thread Object) :=
  [.thread .taskd, .thread .child, .thread .probe, .notification .clientEndpoint,
    .notification .childCompletionEndpoint, .notification .childStartNotification,
    .notification .probeSuccessNotification]

theorem mem_names (x : Name Thread Object) : x ∈ names := by
  rcases x with i | n
  · cases i <;> simp [names]
  · cases n <;> simp [names]

/-- The child runs for one generation. -/
def generation (n : Word) : List (Event Thread Object Text) :=
  [.signal .taskd .childStartNotification,
    .wake .childStartNotification .child,
    .send .child .taskd .childCompletionEndpoint (.ofWords [CHILD_DONE, CHILD_ID, n])]

/-- A request that taskd accepts. -/
def lifecycle : List (Event Thread Object Text) :=
  [.print .taskd .startAccepted] ++ generation FIRST_GENERATION ++
  [.print .taskd .firstValidated,
    .suspend .taskd .child,
    .resume .taskd .child,
    .print .taskd .suspendedAndResumed] ++ generation SECOND_GENERATION ++
  [.print .taskd .secondValidated,
    .signal .taskd .probeSuccessNotification,
    .print .taskd .lifecycleCompleted,
    .wake .probeSuccessNotification .probe,
    .print .probe .probePassed]

/-- What follows a request of the client. -/
def script (request : Message) : List (Event Thread Object Text) :=
  .send .probe .taskd .clientEndpoint request ::
    if Exact [START, CHILD_ID] request then lifecycle else [.print .taskd .malformedRequest]

theorem lifecycle_plays : ∃ t, network.Plays lifecycle (bundle conduct probeWait) t :=
  Net.plays_of_check mem_names (by decide +kernel)

theorem refusal_plays : ∃ t, network.Plays [.print .taskd .malformedRequest]
    (bundle (.putString .malformedRequest .yield) probeWait) t :=
  Net.plays_of_check mem_names (by decide +kernel)

theorem asks (request : Message) :
    Asks kernel (main taskd (probe request)) caps (fun _ => false) .probe .taskd .clientEndpoint
      request probeWait fun message =>
        if ¬ Exact [START, CHILD_ID] message then .putString .malformedRequest .yield
        else conduct where
  ne := by decide
  send := ⟨_, rfl, rfl⟩
  recv := ⟨_, rfl, rfl⟩
  runs := ⟨rfl, rfl⟩
  others k hk := by cases k <;> first | rfl | contradiction

/-- The child waits during the request. -/
theorem after_request (request : Message) (handled : Code Text) :
    ∀ k, k ≠ .probe → k ≠ .taskd →
      main handled probeWait k = main taskd (probe request) k := by
  intro k hprobe htaskd
  cases k <;> first | rfl | contradiction

/-- **The lifecycle**: for every message of the client and every order in which the threads are
scheduled, each thread does the beginning of its part of `script`, and the bundle stops only when
the script is done. -/
theorem lives {request : Message} {es : List (Event Thread Object Text)}
    {s : ∀ x, Component Thread Object (fun _ => Code Text) x}
    (h : Run network.Step (bundle taskd (probe request)) es s) :
    network.Performs (script request) (bundle taskd (probe request)) es s := by
  unfold script
  split
  · rename_i hexact
    obtain ⟨t, ht⟩ := lifecycle_plays
    exact (asks request).run rfl (if_neg (not_not.mpr hexact)).symm (after_request request _) ht h
  · rename_i hexact
    obtain ⟨t, ht⟩ := refusal_plays
    exact (asks request).run rfl (if_pos hexact).symm (after_request request _) ht h

/-- The request of `task_lifecycle_probe.c`. -/
def REQUEST : Message := .ofWords [START, CHILD_ID]

theorem lives_sample : ∃ s, Run network.Step (bundle taskd (probe REQUEST)) (script REQUEST) s ∧
    network.Performs (script REQUEST) (bundle taskd (probe REQUEST)) (script REQUEST) s := by
  obtain ⟨t, ht⟩ := lifecycle_plays
  have hstep := (asks REQUEST).step rfl rfl (after_request REQUEST conduct)
  exact ⟨t, .cons hstep ht.exists_run, lives (.cons hstep ht.exists_run)⟩

end SeLinOS.Taskd.Lifecycle
