import SeLinOS.CLogic.Choreography
import SeLinOS.Sel4.Ipc

/-!
# seL4 threads

Threads with their capability spaces, endpoints, notifications and TCBs, as a network: a thread
wants the system call that it is at.

* `Code`: what a thread does, as a tree of system calls; `Tcb`: a thread.
* An endpoint is held by two threads, without a badge. A send waits for the receiver; a call is a
  send after which the receiver holds the reply.
* A notification is a flag, with the thread that waits for it: when the flag is set, the thread is
  woken and the flag cleared.
* `net`: the network of the threads and notifications.
-/

namespace SeLinOS.Sel4

open CLogic

abbrev Slot : Type := Nat

/-- A capability: an endpoint with the other thread that holds it, a notification, a TCB. -/
inductive Cap (ι ν : Type)
  | endpoint (peer : ι) (e : ν)
  | notification (n : ν)
  | tcb (t : ι)
  deriving Repr, DecidableEq

/-- The next system call of a thread, with what the thread does after it. -/
inductive Act (τ σ : Type)
  /-- `for (;;) seL4_Yield();` -/
  | yield
  | putString (text : τ) (next : σ)
  | recv (slot : Slot) (next : Message → σ)
  | send (slot : Slot) (m : Message) (next : σ)
  /-- `seL4_Call`, with the slot of the receive path; the thread is then at `await`. -/
  | call (slot : Slot) (m : Message) (path : Option Slot) (next : σ)
  | await (next : Message → σ)
  /-- `seL4_Reply`, with the slot of the capability that goes with it. -/
  | reply (m : Message) (cap : Option Slot) (next : σ)
  | signal (slot : Slot) (next : σ)
  | wait (slot : Slot) (next : σ)
  /-- `seL4_TCB_Resume`: whether the result is `seL4_NoError`. -/
  | resume (slot : Slot) (next : Bool → σ)
  | suspend (slot : Slot) (next : Bool → σ)

/-- A program, as the tree of its system calls. -/
inductive Code (τ : Type)
  | yield
  | putString (text : τ) (next : Code τ)
  | recv (slot : Slot) (next : Message → Code τ)
  | send (slot : Slot) (m : Message) (next : Code τ)
  | call (slot : Slot) (m : Message) (path : Option Slot) (next : Message → Code τ)
  | await (next : Message → Code τ)
  | reply (m : Message) (cap : Option Slot) (next : Code τ)
  | signal (slot : Slot) (next : Code τ)
  | wait (slot : Slot) (next : Code τ)
  | resume (slot : Slot) (next : Bool → Code τ)
  | suspend (slot : Slot) (next : Bool → Code τ)

def Code.act {τ : Type} : Code τ → Act τ (Code τ)
  | yield => .yield
  | putString text next => .putString text next
  | recv slot next => .recv slot next
  | send slot m next => .send slot m next
  | call slot m path next => .call slot m path (.await next)
  | await next => .await next
  | reply m cap next => .reply m cap next
  | signal slot next => .signal slot next
  | wait slot next => .wait slot next
  | resume slot next => .resume slot next
  | suspend slot next => .suspend slot next

/-- A thread. `caller`: the thread that waits for its reply. -/
structure Tcb (ι ν σ : Type) where
  code : σ
  caps : Slot → Option (Cap ι ν)
  path : Option Slot
  caller : Option ι
  suspended : Bool

/-- The actions of the network. -/
inductive Event (ι ν τ : Type)
  | print (i : ι) (text : τ)
  | send (i j : ι) (e : ν) (m : Message)
  | call (i j : ι) (e : ν) (m : Message)
  | reply (j i : ι) (m : Message) (cap : Option (Cap ι ν))
  /-- A reply that nobody waits for. -/
  | unheard (j : ι) (m : Message)
  | signal (i : ι) (n : ν)
  | wake (n : ν) (i : ι)
  | resume (i t : ι)
  | suspend (i t : ι)
  /-- A call on a TCB without its capability. -/
  | refused (i : ι)
  deriving Repr, DecidableEq

/-- The components of the network. -/
inductive Name (ι ν : Type)
  | thread (i : ι)
  | notification (n : ν)
  deriving Repr, DecidableEq

variable {ι ν τ : Type} {S : ι → Type}

/-- The state of a component. -/
@[reducible] def Component (ι ν : Type) (S : ι → Type) : Name ι ν → Type
  | .thread i => Tcb ι ν (S i)
  | .notification _ => Bool

namespace Event

def owner : Event ι ν τ → Name ι ν
  | print i _ | send i .. | call i .. | reply i .. | unheard i _ | signal i _ | resume i _
  | suspend i _ | refused i => .thread i
  | wake n _ => .notification n

def partner : Event ι ν τ → Option (Name ι ν)
  | send _ j .. | call _ j .. | reply _ j .. | wake _ j | resume _ j | suspend _ j =>
    some (.thread j)
  | signal _ n => some (.notification n)
  | print .. | unheard .. | refused _ => none

end Event

namespace Tcb

variable {σ : Type}

/-- The action that a thread wants, for the system call that it is at. -/
def wants [DecidableEq ι] (i : ι) (t : Tcb ι ν σ) : Act τ σ → Option (Event ι ν τ)
  | .yield | .recv .. | .await _ | .wait .. => none
  | .putString text _ => some (.print i text)
  | .send slot m _ =>
    match t.caps slot with
    | some (.endpoint j e) => if j = i then none else some (.send i j e m)
    | _ => none
  | .call slot m _ _ =>
    match t.caps slot with
    | some (.endpoint j e) => if j = i then none else some (.call i j e m)
    | _ => none
  | .reply m cap _ =>
    match t.caller with
    | none => some (.unheard i m)
    | some j => if j = i then none else some (.reply i j m (cap.bind t.caps))
  | .signal slot _ =>
    match t.caps slot with
    | some (.notification n) => some (.signal i n)
    | _ => none
  | .resume slot _ =>
    match t.caps slot with
    | some (.tcb j) => if j = i then none else some (.resume i j)
    | none => some (.refused i)
    | _ => none
  | .suspend slot _ =>
    match t.caps slot with
    | some (.tcb j) => if j = i then none else some (.suspend i j)
    | none => some (.refused i)
    | _ => none

/-- The thread after the system call. -/
def after (t : Tcb ι ν σ) : Act τ σ → Event ι ν τ → Tcb ι ν σ
  | .putString _ next, _ | .send _ _ next, _ | .signal _ next, _ => { t with code := next }
  | .call _ _ path next, _ => { t with code := next, path := path <|> t.path }
  | .reply _ _ next, _ => { t with code := next, caller := none }
  | .resume _ next, .refused _ | .suspend _ next, .refused _ => { t with code := next false }
  | .resume _ next, _ | .suspend _ next, _ => { t with code := next true }
  | .yield, _ | .recv .., _ | .await _, _ | .wait .., _ => t

/-- A capability that comes with a reply goes to the slot of the receive path, if it is empty. -/
def receive (t : Tcb ι ν σ) (cap : Option (Cap ι ν)) : Bool × Tcb ι ν σ :=
  match cap, t.path with
  | some cap, some slot =>
    if (t.caps slot).isNone then
      (true, { t with caps := Function.update t.caps slot (some cap) })
    else (false, t)
  | _, _ => (false, t)

/-- A message of a thread that holds the same endpoint. -/
def deliver [DecidableEq ν] (t : Tcb ι ν σ) (e : ν) (m : Message) (caller : Option ι) :
    Act τ σ → Option (Tcb ι ν σ)
  | .recv slot next =>
    match t.caps slot with
    | some (.endpoint _ e') => if e' = e then some { t with code := next m, caller } else none
    | _ => none
  | _ => none

/-- What the partner of an event is after it. -/
def accepts [DecidableEq ι] [DecidableEq ν] (t : Tcb ι ν σ) (a : Act τ σ) :
    Event ι ν τ → Option (Tcb ι ν σ)
  | .send _ _ e m => if t.suspended then none else t.deliver e m none a
  | .call i _ e m => if t.suspended then none else t.deliver e m (some i) a
  | .reply _ _ m cap =>
    match a with
    | .await next =>
      let (received, t) := t.receive cap
      some { t with code := next { m with extraCaps := if received then 1 else 0 } }
    | _ => some t
  | .wake n _ =>
    match a with
    | .wait slot next =>
      if t.suspended ∨ t.caps slot ≠ some (.notification n) then none
      else some { t with code := next }
    | _ => none
  | .resume .. => some { t with suspended := false }
  | .suspend .. => some { t with suspended := true }
  | _ => none

end Tcb

@[simp]
theorem Tcb.after_caps {σ : Type} (t : Tcb ι ν σ) (a : Act τ σ) (e : Event ι ν τ) :
    (t.after a e).caps = t.caps := by
  cases a <;> first | rfl | (cases e <;> rfl)

theorem Tcb.receive_caps {σ : Type} (t : Tcb ι ν σ) (cap : Option (Cap ι ν)) :
    (t.receive cap).2.caps = t.caps ∨ ∃ c slot, cap = some c ∧ t.caps slot = none ∧
      (t.receive cap).2.caps = Function.update t.caps slot (some c) := by
  unfold Tcb.receive
  split
  · rename_i c slot _
    split
    · rename_i hempty
      exact .inr ⟨c, slot, rfl, Option.isNone_iff_eq_none.mp hempty, rfl⟩
    · exact .inl rfl
  · exact .inl rfl

/-- A message reaches a thread that waits for it. -/
theorem Tcb.deliver_some {σ : Type} [DecidableEq ν] {t t' : Tcb ι ν σ} {e : ν} {m : Message}
    {caller : Option ι} {a : Act τ σ} (h : t.deliver e m caller a = some t') :
    ∃ slot next, a = .recv slot next ∧ t' = { t with code := next m, caller } := by
  unfold Tcb.deliver at h
  split at h
  · rename_i slot next
    split at h
    · split at h
      · exact ⟨slot, next, rfl, (Option.some.inj h).symm⟩
      · cases h
    · cases h
  · cases h

/-- A thread gets capabilities with replies only, in slots that were empty. -/
theorem Tcb.accepts_caps {σ : Type} [DecidableEq ι] [DecidableEq ν] {t t' : Tcb ι ν σ} {a : Act τ σ}
    {e : Event ι ν τ} (h : t.accepts a e = some t') : t'.caps = t.caps ∨
      ∃ j i m c slot, e = .reply j i m (some c) ∧ t.caps slot = none ∧
        t'.caps = Function.update t.caps slot (some c) := by
  cases e with
  | reply j i m cap =>
    cases a with
    | await next =>
      obtain rfl := Option.some.inj h
      rcases t.receive_caps cap with heq | ⟨c, slot, rfl, hempty, heq⟩
      · exact .inl heq
      · exact .inr ⟨j, i, m, c, slot, rfl, hempty, heq⟩
    | _ =>
      obtain rfl := Option.some.inj h
      exact .inl rfl
  | send | call =>
    simp only [Tcb.accepts] at h
    split at h
    · cases h
    · obtain ⟨_, _, _, rfl⟩ := Tcb.deliver_some h
      exact .inl rfl
  | wake n i =>
    cases a with
    | wait slot next =>
      simp only [Tcb.accepts] at h
      split at h
      · cases h
      · obtain rfl := Option.some.inj h
        exact .inl rfl
    | _ => cases h
  | resume | suspend =>
    obtain rfl := Option.some.inj h
    exact .inl rfl
  | _ => cases h

/-- A thread owns what it wants, and is not its own partner. -/
theorem Tcb.wants_parts {σ : Type} [DecidableEq ι] {i : ι} {t : Tcb ι ν σ} {a : Act τ σ}
    {e : Event ι ν τ} (h : t.wants i a = some e) :
    e.owner = .thread i ∧ e.partner ≠ some (.thread i) := by
  cases a <;> grind [Tcb.wants, Event.owner, Event.partner]

variable [DecidableEq ι]

/-- How the threads behave, and which thread waits for a notification. -/
structure System (ι ν τ : Type) (S : ι → Type) where
  act : ∀ i, S i → Act τ (S i)
  waiter : ν → Option ι

variable (b : System ι ν τ S)

def wants : (x : Name ι ν) → Component ι ν S x → Option (Event ι ν τ)
  | .thread i, t => if t.suspended then none else t.wants i (b.act i t.code)
  | .notification n, flag => if flag then (b.waiter n).map (.wake n) else none

theorem parts_of_wants {b : System ι ν τ S} {x : Name ι ν} {s : Component ι ν S x} {e : Event ι ν τ}
    (h : wants b x s = some e) : e.owner = x ∧ e.partner ≠ some x := by
  cases x with
  | notification n =>
    have h : (if s then (b.waiter n).map (.wake n) else none) = some e := h
    split at h
    · obtain ⟨i, -, rfl⟩ := Option.map_eq_some_iff.mp h
      exact ⟨rfl, by simp [Event.partner]⟩
    · cases h
  | thread i =>
    have h : (if s.suspended then none else s.wants i (b.act i s.code)) = some e := h
    split at h
    · cases h
    · exact Tcb.wants_parts h

def after : (x : Name ι ν) → Event ι ν τ → Component ι ν S x → Component ι ν S x
  | .thread i, e, t => t.after (b.act i t.code) e
  | .notification _, _, _ => false

variable [DecidableEq ν]

def accepts : (x : Name ι ν) → Event ι ν τ → Component ι ν S x → Option (Component ι ν S x)
  | .thread i, e, t => t.accepts (b.act i t.code) e
  | .notification _, .signal .., _ => some true
  | .notification _, _, _ => none

/-- The network of the threads and their notifications. -/
def net : Net (Name ι ν) (Event ι ν τ) (Component ι ν S) where
  owner := Event.owner
  partner := Event.partner
  wants := wants b
  after := after b
  accepts := accepts b
  owner_of_wants h := (parts_of_wants h).1
  partner_of_wants h := (parts_of_wants h).2

end SeLinOS.Sel4
