import SeLinOS.Taskd.Reservation

/-!
# Capabilities that objectd lends to taskd

Three bundles of the domain manager: a notification that stands for nothing
(`start_opaque_lease_m1_bundle`), the TCB of a child that is never started
(`start_tcb_control_lease_m1_bundle`), and the TCB of a suspended child that taskd then resumes
(`start_transferred_tcb_single_resume_m2_bundle`). In each a client asks taskd, taskd asks objectd
with a receive path set, and objectd's reply carries the capability. The client may send any
message.

* `taskd`, `objectd`, `child`, `probe`: the programs of each bundle; `caps`: their capabilities.
* `lends`: what a bundle does, in every order in which its threads are scheduled.
-/

namespace SeLinOS.Taskd

open CLogic Sel4

/-- The bundles, by the capability that is lent. -/
inductive Lease
  | opaqueToken
  | tcbControl
  | tcbResume
  deriving Repr, DecidableEq

namespace Lease

def REQUEST : Lease → Word
  | opaqueToken => 0x4f4c4d3152455154
  | tcbControl => 0x54434d3152455154
  | tcbResume => 0x54524d3252455154

def GRANTED : Lease → Word
  | opaqueToken => 0x4f4c4d3147524e54
  | tcbControl => 0x54434d3147524e54
  | tcbResume => 0x54524d3247524e54

def CHILD_RAN : Word := 0x54524d3243484c44
def SLOT : Word := 1
def GENERATION : Word := 1
def REPLY_CAPS : Nat := 1
def TASKD_CLIENT_ENDPOINT_SLOT : Slot := 8
def TASKD_OBJECT_ENDPOINT_SLOT : Slot := 9
def TASKD_CHILD_COMPLETION_SLOT : Slot := 10

def TASKD_SUCCESS_NOTIFY_SLOT : Lease → Slot
  | opaqueToken | tcbControl => 10
  | tcbResume => 11

/-- `TASKD_TOKEN_DEST_SLOT`, `TASKD_TCB_DEST_SLOT`. -/
def TASKD_DEST_SLOT : Lease → Slot
  | opaqueToken | tcbControl => 11
  | tcbResume => 12

def OBJECT_ENDPOINT_SLOT : Slot := 8

/-- `OBJECT_TOKEN_SOURCE_SLOT`, `OBJECT_TCB_SOURCE_SLOT`. -/
def OBJECT_SOURCE_SLOT : Slot := 9

def CHILD_COMPLETION_SEND_SLOT : Slot := 8
def PROBE_CLIENT_ENDPOINT_SLOT : Slot := 8
def PROBE_SUCCESS_NOTIFY_SLOT : Slot := 9

inductive Thread
  | taskd
  | objectd
  | child
  | probe
  deriving Repr, DecidableEq

inductive Object
  | clientEndpoint
  | objectEndpoint
  | childCompletionEndpoint
  | successNotification
  | opaqueToken
  deriving Repr, DecidableEq

/-- The texts that the programs print, without their wording. -/
inductive Text
  | malformedRequest
  | requestAccepted
  | lengthRejected
  | capsRejected
  | statusRejected
  | replyRejected
  | resumeRejected
  | resumed
  | completionRejected
  | taskdDone
  | objectdMalformed
  | transferred
  | childRan
  | probePassed
  deriving Repr, DecidableEq

/-! ## The programs -/

/-- The end of taskd. -/
def success (l : Lease) : Code Text :=
  .signal l.TASKD_SUCCESS_NOTIFY_SLOT <| .putString .taskdDone .yield

/-- `main` of `taskd_opaque_lease_m1.c` after the reply. -/
def opaqueReply (reply : Message) : Code Text :=
  if reply.label ≠ 0 ∨ reply.length ≠ 1 then .putString .lengthRejected .yield
  else if reply.extraCaps ≠ REPLY_CAPS then .putString .capsRejected .yield
  else if reply.mr 0 ≠ opaqueToken.GRANTED then .putString .statusRejected .yield
  else success .opaqueToken

/-- `main` of `taskd_tcb_lease_m1.c` after the reply. -/
def tcbReply (reply : Message) : Code Text :=
  if ¬ (Exact [tcbControl.GRANTED] reply ∧ reply.extraCaps = REPLY_CAPS) then
    .putString .replyRejected .yield
  else success .tcbControl

/-- `main` of `taskd_tcb_resume_m2.c` after the reply. -/
def resumeReply (reply : Message) : Code Text :=
  if ¬ (Exact [tcbResume.GRANTED] reply ∧ reply.extraCaps = REPLY_CAPS) then
    .putString .replyRejected .yield
  else
    .resume tcbResume.TASKD_DEST_SLOT fun noError =>
      if ¬ noError then .putString .resumeRejected .yield
      else
        .putString .resumed <|
        .recv TASKD_CHILD_COMPLETION_SLOT fun message =>
          if ¬ Exact [CHILD_RAN, SLOT, GENERATION] message then
            .putString .completionRejected .yield
          else success .tcbResume

def reply : Lease → Message → Code Text
  | opaqueToken => opaqueReply
  | tcbControl => tcbReply
  | tcbResume => resumeReply

/-- taskd after an exact request. -/
def ask (l : Lease) : Code Text :=
  .putString .requestAccepted <|
  .call TASKD_OBJECT_ENDPOINT_SLOT (.ofWords [l.REQUEST, SLOT]) (some l.TASKD_DEST_SLOT) l.reply

/-- `main` of the three `taskd_*.c`. -/
def taskd (l : Lease) : Code Text :=
  .recv TASKD_CLIENT_ENDPOINT_SLOT fun message =>
    if ¬ Exact [l.REQUEST, SLOT] message then .putString .malformedRequest .yield else l.ask

/-- `main` of the three `objectd_*.c`. -/
def objectd (l : Lease) : Code Text :=
  .recv OBJECT_ENDPOINT_SLOT fun message =>
    if ¬ Exact [l.REQUEST, SLOT] message then .putString .objectdMalformed .yield
    else
      .reply ⟨0, REPLY_CAPS, [l.GRANTED]⟩ (some OBJECT_SOURCE_SLOT) <|
      .putString .transferred .yield

/-- `main` of `tcb_lease_suspended_child.c` and `tcb_resume_m2_child.c`. The first bundle has no
child. -/
def child : Lease → Code Text
  | opaqueToken => .yield
  | tcbControl => .putString .childRan .yield
  | tcbResume =>
    .send CHILD_COMPLETION_SEND_SLOT (.ofWords [CHILD_RAN, SLOT, GENERATION]) <|
    .putString .childRan .yield

/-- `main` of the clients, with the message that they send. -/
def probe (request : Message) : Code Text :=
  fixedClient PROBE_CLIENT_ENDPOINT_SLOT PROBE_SUCCESS_NOTIFY_SLOT request .probePassed

/-- The client after its request. -/
def probeWait : Code Text := .wait PROBE_SUCCESS_NOTIFY_SLOT <| .putString .probePassed .yield

def main (l : Lease) (taskd probe : Code Text) : Thread → Code Text
  | .taskd => taskd
  | .objectd => l.objectd
  | .child => l.child
  | .probe => probe

/-- The capability that objectd holds for taskd. -/
def lent : Lease → Cap Thread Object
  | opaqueToken => .notification .opaqueToken
  | tcbControl | tcbResume => .tcb .child

/-- The capabilities that the bundles copy. -/
def caps (l : Lease) : Thread → Slot → Option (Cap Thread Object)
  | .taskd, slot =>
    if slot = TASKD_CLIENT_ENDPOINT_SLOT then some (.endpoint .probe .clientEndpoint)
    else if slot = TASKD_OBJECT_ENDPOINT_SLOT then some (.endpoint .objectd .objectEndpoint)
    else if slot = l.TASKD_SUCCESS_NOTIFY_SLOT then some (.notification .successNotification)
    else if l = .tcbResume ∧ slot = TASKD_CHILD_COMPLETION_SLOT then
      some (.endpoint .child .childCompletionEndpoint)
    else none
  | .objectd, 8 => some (.endpoint .taskd .objectEndpoint)
  | .objectd, 9 => some l.lent
  | .child, 8 => if l = .tcbResume then some (.endpoint .taskd .childCompletionEndpoint) else none
  | .probe, 8 => some (.endpoint .taskd .clientEndpoint)
  | .probe, 9 => some (.notification .successNotification)
  | _, _ => none

/-- The child is configured, or spawned without being resumed. -/
def suspended : Thread → Bool
  | .child => true
  | _ => false

/-- The bundle with the programs at which taskd and the client are. -/
def bundle (l : Lease) (taskd probe : Code Text) :
    (x : Name Thread Object) → Component Thread Object (fun _ => Code Text) x :=
  start (l.main taskd probe) l.caps suspended

def waiter : Object → Option Thread
  | .successNotification => some .probe
  | _ => none

def kernel : System Thread Object Text fun _ => Code Text := ⟨fun _ => Code.act, waiter⟩

def network : Net (Name Thread Object) (Event Thread Object Text)
    (Component Thread Object fun _ => Code Text) :=
  net kernel

/-! ## What a bundle does -/

def names : List (Name Thread Object) :=
  [.thread .taskd, .thread .objectd, .thread .child, .thread .probe, .notification .clientEndpoint,
    .notification .objectEndpoint, .notification .childCompletionEndpoint,
    .notification .successNotification, .notification .opaqueToken]

theorem mem_names (x : Name Thread Object) : x ∈ names := by
  rcases x with i | n
  · cases i <;> simp [names]
  · cases n <;> simp [names]

/-- What taskd and the child do with the capability: the first two bundles nothing. -/
def exercise : Lease → List (Event Thread Object Text)
  | opaqueToken | tcbControl => []
  | tcbResume =>
    [.resume .taskd .child,
      .print .taskd .resumed,
      .send .child .taskd .childCompletionEndpoint (.ofWords [CHILD_RAN, SLOT, GENERATION]),
      .print .child .childRan]

/-- A request that taskd accepts. -/
def lending (l : Lease) : List (Event Thread Object Text) :=
  [.print .taskd .requestAccepted,
    .call .taskd .objectd .objectEndpoint (.ofWords [l.REQUEST, SLOT]),
    .reply .objectd .taskd ⟨0, REPLY_CAPS, [l.GRANTED]⟩ (some l.lent),
    .print .objectd .transferred] ++ l.exercise ++
  [.signal .taskd .successNotification,
    .print .taskd .taskdDone,
    .wake .successNotification .probe,
    .print .probe .probePassed]

/-- What follows a request of the client. -/
def script (l : Lease) (request : Message) : List (Event Thread Object Text) :=
  .send .probe .taskd .clientEndpoint request ::
    if Exact [l.REQUEST, SLOT] request then l.lending else [.print .taskd .malformedRequest]

theorem lending_plays (l : Lease) :
    ∃ t, network.Plays l.lending (l.bundle l.ask probeWait) t := by
  cases l <;> exact Net.plays_of_check mem_names (by decide +kernel)

theorem refusal_plays (l : Lease) : ∃ t, network.Plays [.print .taskd .malformedRequest]
    (l.bundle (.putString .malformedRequest .yield) probeWait) t := by
  cases l <;> exact Net.plays_of_check mem_names (by decide +kernel)

theorem lending_ends (l : Lease) :
    (network.perform l.lending (l.bundle l.ask probeWait)).map
      (fun t => (t (.thread .taskd)).caps l.TASKD_DEST_SLOT) = some (some l.lent) := by
  cases l <;> decide +kernel

theorem asks (l : Lease) (request : Message) :
    Asks kernel (l.main l.taskd (probe request)) l.caps suspended .probe .taskd
      .clientEndpoint request probeWait fun message =>
        if ¬ Exact [l.REQUEST, SLOT] message then .putString .malformedRequest .yield
        else l.ask where
  ne := by decide
  send := ⟨_, rfl, rfl⟩
  recv := ⟨_, rfl, rfl⟩
  runs := ⟨rfl, rfl⟩
  others k hk := by cases k <;> first | rfl | contradiction

/-- Taskd and the client go on after the request. -/
theorem after_request (l : Lease) (request : Message) (handled : Code Text) :
    ∀ k, k ≠ .probe → k ≠ .taskd →
      l.main handled probeWait k = l.main l.taskd (probe request) k := by
  intro k hprobe htaskd
  cases k <;> first | rfl | contradiction

theorem step_exact (l : Lease) {request : Message} (h : Exact [l.REQUEST, SLOT] request) :
    network.Step (l.bundle l.taskd (probe request))
      (.send .probe .taskd .clientEndpoint request) (l.bundle l.ask probeWait) :=
  (l.asks request).step rfl (if_neg (not_not.mpr h)).symm (l.after_request request _)

theorem performs {l : Lease} {request : Message} {es : List (Event Thread Object Text)}
    {s : ∀ x, Component Thread Object (fun _ => Code Text) x}
    (h : Run network.Step (l.bundle l.taskd (probe request)) es s) :
    network.Performs (l.script request) (l.bundle l.taskd (probe request)) es s := by
  unfold script
  split
  · rename_i hexact
    obtain ⟨t, ht⟩ := l.lending_plays
    exact (l.asks request).run rfl (if_neg (not_not.mpr hexact)).symm
      (l.after_request request _) ht h
  · rename_i hexact
    obtain ⟨t, ht⟩ := l.refusal_plays
    exact (l.asks request).run rfl (if_pos hexact).symm (l.after_request request _) ht h

/-- What holds after every run of a bundle. -/
structure Lends (l : Lease) (request : Message) (es : List (Event Thread Object Text))
    (s : ∀ x, Component Thread Object (fun _ => Code Text) x) : Prop where
  performs : network.Performs (l.script request) (l.bundle l.taskd (probe request)) es s
  /-- Only taskd gets a capability, the lent one, and only for an exact request. -/
  confined : ∀ i slot, (s (.thread i)).caps slot = l.caps i slot ∨
    i = .taskd ∧ Exact [l.REQUEST, SLOT] request ∧ (s (.thread i)).caps slot = some l.lent
  /-- The child does nothing before taskd has resumed it. -/
  waits : ∀ e ∈ es, e.owner = .thread .child → l = .tcbResume ∧ .resume .taskd .child ∈ es
  /-- When the bundle stops after an exact request, taskd has the capability. -/
  lent : Exact [l.REQUEST, SLOT] request → es.length = (l.script request).length →
    (s (.thread .taskd)).caps l.TASKD_DEST_SLOT = some l.lent

/-- A reply with a capability is the one of objectd. -/
theorem mem_script {l : Lease} {request m : Message} {i j : Thread} {cap : Cap Thread Object}
    (h : .reply j i m (some cap) ∈ l.script request) :
    i = .taskd ∧ Exact [l.REQUEST, SLOT] request ∧ cap = l.lent := by
  unfold script at h
  split at h
  · rename_i hexact
    cases l <;> simp [lending, exercise] at h <;> exact ⟨h.2.1, hexact, h.2.2.2⟩
  · simp at h

theorem child_share (l : Lease) (request : Message) :
    network.share (.thread .child) (l.script request) = [] ∨
      l = .tcbResume ∧ network.share (.thread .child) (l.script request) =
        .resume .taskd .child :: l.exercise.drop 2 := by
  unfold script
  split
  · cases l
    · exact .inl rfl
    · exact .inl rfl
    · exact .inr ⟨rfl, rfl⟩
  · exact .inl rfl

/-- **Leases**: for every message of the client and every order in which the threads are scheduled,
each thread does the beginning of its part of `script`, the bundle stops only when the script is
done, and no capability goes anywhere but from objectd to taskd. -/
theorem lends {l : Lease} {request : Message} {es : List (Event Thread Object Text)}
    {s : ∀ x, Component Thread Object (fun _ => Code Text) x}
    (h : Run network.Step (l.bundle l.taskd (probe request)) es s) : Lends l request es s := by
  have hperforms := performs h
  refine ⟨hperforms, fun i slot => ?_, fun e he howner => ?_, fun hexact hall => ?_⟩
  · rcases caps_of_run h i slot with heq | ⟨j, m, cap, hmem, -, heq⟩
    · exact .inl heq
    · obtain ⟨hi, hexact, rfl⟩ := mem_script (hperforms.mem hmem)
      exact .inr ⟨hi, hexact, heq⟩
  · rcases child_share l request with hnone | ⟨hl, hfirst⟩
    · have := hperforms.mem_share he (.inl howner)
      simp [hnone] at this
    · exact ⟨hl, hperforms.head hfirst he (.inl howner)⟩
  · have hends := hperforms.ends hall
    unfold script at hends
    rw [if_pos hexact] at hends
    cases hends with
    | cons hfirst hrest =>
      obtain rfl := (l.step_exact hexact).unique hfirst
      have hlent := l.lending_ends
      rw [Net.perform_of_run hrest] at hlent
      exact Option.some.inj hlent

theorem lends_sample : ∃ s, Lends .tcbResume (.ofWords [tcbResume.REQUEST, SLOT])
    (script .tcbResume (.ofWords [tcbResume.REQUEST, SLOT])) s := by
  obtain ⟨t, ht⟩ := lending_plays .tcbResume
  exact ⟨t, lends (.cons (step_exact .tcbResume (by decide)) ht.exists_run)⟩

end Lease

end SeLinOS.Taskd
