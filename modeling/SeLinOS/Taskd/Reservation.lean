import SeLinOS.Sel4.Bundle

/-!
# The combined reservation of taskd

`taskd_reservation_m1.c` with its client `taskd_reservation_m1_probe.c` and the two servers
`objectd_reservation_m2.c` and `memd_reservation_m2.c`, as
`start_taskd_combined_reservation_m1_bundle` wires them. The client may send any message.

* `taskd`, `reservationServer`, `probe`: the programs; `caps`: the capabilities of each.
* `reserves`: what the bundle does, in every order in which its threads are scheduled.
-/

namespace SeLinOS.Taskd

open CLogic Sel4

/-- `main` of the clients that wait for a notification after their request. -/
def fixedClient {τ : Type} (endpoint success : Slot) (request : Message) (passed : τ) : Code τ :=
  .send endpoint request <| .wait success <| .putString passed .yield

namespace Reservation

def RESERVE_BUNDLES : Word := 0x54524d3152535642
def OBJECT_RESERVE : Word := 0x4f524d3152535653
def OBJECT_RESERVED : Word := 0x4f524d3152454459
def MEM_RESERVE : Word := 0x4d524d3152535653
def MEM_RESERVED : Word := 0x4d524d3152454459
def SLOT : Word := 1
def CLIENT_ENDPOINT_SLOT : Slot := 8
def OBJECT_ENDPOINT_SLOT : Slot := 9
def MEM_ENDPOINT_SLOT : Slot := 10
def SUCCESS_NOTIFY_SLOT : Slot := 11
def OBJECT_SERVER_ENDPOINT_SLOT : Slot := 8
def MEM_SERVER_ENDPOINT_SLOT : Slot := 8
def PROBE_CLIENT_ENDPOINT_SLOT : Slot := 8
def PROBE_SUCCESS_NOTIFY_SLOT : Slot := 9

inductive Thread
  | taskd
  | objectd
  | memd
  | probe
  deriving Repr, DecidableEq

inductive Object
  | clientEndpoint
  | objectEndpoint
  | memEndpoint
  | successNotification
  deriving Repr, DecidableEq

/-- The texts that the programs print, without their wording. -/
inductive Text
  | malformedRequest
  | requestAccepted
  | objectRejected
  | objectValidated
  | mappingRejected
  | mappingValidated
  | bothPending
  | objectdMalformed
  | objectdReturned
  | memdMalformed
  | memdReturned
  | probePassed
  deriving Repr, DecidableEq

/-! ## The programs -/

/-- `call_exact_downstream`, with what follows where it returns false and where it returns true. -/
def callExactDownstream (endpoint : Slot) (request expectedReply : Word)
    (rejected accepted : Code Text) : Code Text :=
  .call endpoint (.ofWords [request, SLOT]) none fun reply =>
    if ¬ Exact [expectedReply] reply then rejected else accepted

/-- `main` of `taskd_reservation_m1.c` after an exact request. -/
def coordinate : Code Text :=
  .putString .requestAccepted <|
  callExactDownstream OBJECT_ENDPOINT_SLOT OBJECT_RESERVE OBJECT_RESERVED
    (.putString .objectRejected .yield) <|
  .putString .objectValidated <|
  callExactDownstream MEM_ENDPOINT_SLOT MEM_RESERVE MEM_RESERVED
    (.putString .mappingRejected .yield) <|
  .putString .mappingValidated <|
  .signal SUCCESS_NOTIFY_SLOT <|
  .putString .bothPending .yield

def taskd : Code Text :=
  .recv CLIENT_ENDPOINT_SLOT fun message =>
    if ¬ Exact [RESERVE_BUNDLES, SLOT] message then .putString .malformedRequest .yield
    else coordinate

/-- `main` of the two servers. -/
def reservationServer (endpoint : Slot) (request reserved : Word) (malformed returned : Text) :
    Code Text :=
  .recv endpoint fun message =>
    if ¬ Exact [request, SLOT] message then .putString malformed .yield
    else .reply (.ofWords [reserved]) none <| .putString returned .yield

def objectd : Code Text :=
  reservationServer OBJECT_SERVER_ENDPOINT_SLOT OBJECT_RESERVE OBJECT_RESERVED .objectdMalformed
    .objectdReturned

def memd : Code Text :=
  reservationServer MEM_SERVER_ENDPOINT_SLOT MEM_RESERVE MEM_RESERVED .memdMalformed .memdReturned

/-- `main` of `taskd_reservation_m1_probe.c`, with the message that it sends. -/
def probe (request : Message) : Code Text :=
  fixedClient PROBE_CLIENT_ENDPOINT_SLOT PROBE_SUCCESS_NOTIFY_SLOT request .probePassed

/-- The client after its request. -/
def probeWait : Code Text := .wait PROBE_SUCCESS_NOTIFY_SLOT <| .putString .probePassed .yield

def main (taskd probe : Code Text) : Thread → Code Text
  | .taskd => taskd
  | .objectd => objectd
  | .memd => memd
  | .probe => probe

/-- The capabilities that `start_taskd_combined_reservation_m1_bundle` copies. -/
def caps : Thread → Slot → Option (Cap Thread Object)
  | .taskd, 8 => some (.endpoint .probe .clientEndpoint)
  | .taskd, 9 => some (.endpoint .objectd .objectEndpoint)
  | .taskd, 10 => some (.endpoint .memd .memEndpoint)
  | .taskd, 11 => some (.notification .successNotification)
  | .objectd, 8 => some (.endpoint .taskd .objectEndpoint)
  | .memd, 8 => some (.endpoint .taskd .memEndpoint)
  | .probe, 8 => some (.endpoint .taskd .clientEndpoint)
  | .probe, 9 => some (.notification .successNotification)
  | _, _ => none

/-- The bundle with the programs at which taskd and the client are. -/
def bundle (taskd probe : Code Text) :
    (x : Name Thread Object) → Component Thread Object (fun _ => Code Text) x :=
  start (main taskd probe) caps fun _ => false

def waiter : Object → Option Thread
  | .successNotification => some .probe
  | _ => none

def kernel : System Thread Object Text fun _ => Code Text := ⟨fun _ => Code.act, waiter⟩

def network : Net (Name Thread Object) (Event Thread Object Text)
    (Component Thread Object fun _ => Code Text) :=
  net kernel

/-! ## What the bundle does -/

def names : List (Name Thread Object) :=
  [.thread .taskd, .thread .objectd, .thread .memd, .thread .probe, .notification .clientEndpoint,
    .notification .objectEndpoint, .notification .memEndpoint, .notification .successNotification]

theorem mem_names (x : Name Thread Object) : x ∈ names := by
  rcases x with i | n
  · cases i <;> simp [names]
  · cases n <;> simp [names]

/-- A request that taskd accepts: each server is called once, the second only after the reply of
the first, and the client hears of it after both. -/
def reservation : List (Event Thread Object Text) :=
  [.print .taskd .requestAccepted,
    .call .taskd .objectd .objectEndpoint (.ofWords [OBJECT_RESERVE, SLOT]),
    .reply .objectd .taskd (.ofWords [OBJECT_RESERVED]) none,
    .print .objectd .objectdReturned,
    .print .taskd .objectValidated,
    .call .taskd .memd .memEndpoint (.ofWords [MEM_RESERVE, SLOT]),
    .reply .memd .taskd (.ofWords [MEM_RESERVED]) none,
    .print .memd .memdReturned,
    .print .taskd .mappingValidated,
    .signal .taskd .successNotification,
    .print .taskd .bothPending,
    .wake .successNotification .probe,
    .print .probe .probePassed]

/-- What follows a request of the client. -/
def script (request : Message) : List (Event Thread Object Text) :=
  .send .probe .taskd .clientEndpoint request ::
    if Exact [RESERVE_BUNDLES, SLOT] request then reservation
    else [.print .taskd .malformedRequest]

theorem reservation_plays : ∃ t, network.Plays reservation (bundle coordinate probeWait) t :=
  Net.plays_of_check mem_names (by decide +kernel)

theorem refusal_plays : ∃ t, network.Plays [.print .taskd .malformedRequest]
    (bundle (.putString .malformedRequest .yield) probeWait) t :=
  Net.plays_of_check mem_names (by decide +kernel)

theorem asks (request : Message) :
    Asks kernel (main taskd (probe request)) caps (fun _ => false) .probe .taskd
      .clientEndpoint request probeWait fun message =>
        if ¬ Exact [RESERVE_BUNDLES, SLOT] message then .putString .malformedRequest .yield
        else coordinate where
  ne := by decide
  send := ⟨_, rfl, rfl⟩
  recv := ⟨_, rfl, rfl⟩
  runs := ⟨rfl, rfl⟩
  others k hk := by cases k <;> first | rfl | contradiction

/-- The servers wait during the request. -/
theorem after_request (request : Message) (handled : Code Text) :
    ∀ k, k ≠ .probe → k ≠ .taskd →
      main handled probeWait k = main taskd (probe request) k := by
  intro k hprobe htaskd
  cases k <;> first | rfl | contradiction

/-- **The reservation**: for every message of the client and every order in which the threads are
scheduled, each thread does the beginning of its part of `script`, and the bundle stops only when
the script is done. -/
theorem reserves {request : Message} {es : List (Event Thread Object Text)}
    {s : ∀ x, Component Thread Object (fun _ => Code Text) x}
    (h : Run network.Step (bundle taskd (probe request)) es s) :
    network.Performs (script request) (bundle taskd (probe request)) es s := by
  unfold script
  split
  · rename_i hexact
    obtain ⟨t, ht⟩ := reservation_plays
    exact (asks request).run rfl (if_neg (not_not.mpr hexact)).symm (after_request request _) ht h
  · rename_i hexact
    obtain ⟨t, ht⟩ := refusal_plays
    exact (asks request).run rfl (if_pos hexact).symm (after_request request _) ht h

/-- The request of `taskd_reservation_m1_probe.c`. -/
def REQUEST : Message := .ofWords [RESERVE_BUNDLES, SLOT]

theorem reserves_sample : ∃ s, Run network.Step (bundle taskd (probe REQUEST)) (script REQUEST) s ∧
    network.Performs (script REQUEST) (bundle taskd (probe REQUEST)) (script REQUEST) s := by
  obtain ⟨t, ht⟩ := reservation_plays
  have hstep := (asks REQUEST).step rfl rfl (after_request REQUEST coordinate)
  exact ⟨t, .cons hstep ht.exists_run, reserves (.cons hstep ht.exists_run)⟩

end Reservation

end SeLinOS.Taskd
