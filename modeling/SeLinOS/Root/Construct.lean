import SeLinOS.CLogic.Serve
import SeLinOS.Sel4.Ipc

/-!
# The construction endpoint of the root task

`selinos_root_construct_m1_start_bundle` and the dispatch loop of `root_construct_m1.c`, with the
lease of the child's TCB (`root_construct_m2.c`) enabled and the later gates off. One endpoint
serves both: a message with the opcode of a lease goes to `selinos_root_construct_m2_try_dispatch`,
every other one to the construction.

* `startBundle`, `dispatch`: the code, with what the calls of the process library and of the
  allocator give.
* `Step`: what a message can do, one case for each branch; `dispatch_step`.
* `Protocol`, `construction_protocol`: what holds of the replies of every run.
-/

namespace SeLinOS.Root

open CLogic Sel4

/-- `seL4_CPtr`. -/
abbrev CPtr : Type := Word

def CapNull : CPtr := 0
def M1_REQUEST : Word := 0x52434d3152455154
def M1_CONSTRUCTED : Word := 0x52434d31434e5354
def M1_REJECTED : Word := 0x52434d3152454a43
def M1_SLOT : Word := 1
def M1_GENERATION : Word := 1
def M1_REQUEST_WORDS : Nat := 3
def M1_TASKD_REQUEST_ENDPOINT_SLOT : CPtr := 8
def M2_LEASE_TCB : Word := 0x52434d324c454153
def M2_LEASE_GRANTED : Word := 0x52434d324752414e
def M2_REJECTED : Word := 0x52434d3252454a43
def M2_SLOT : Word := 1
def M2_GENERATION : Word := 1
def M2_REQUEST_WORDS : Nat := 3
def M2_GRANTED_CAPS : Nat := 1
def M2_REJECTED_CAPS : Nat := 0

/-- `enum selinos_root_construct_m1_state`. -/
inductive M1State where
  | free | rootConstructing | rootConstructed | rejected
  deriving Repr, DecidableEq

/-- The variables of the two files; of the two pointers, whether they are set. -/
structure State where
  vka : Bool
  vspace : Bool
  endpoint : CPtr
  m1State : M1State
  childTcb : CPtr
  leaseGranted : Bool
  deriving Repr, DecidableEq

/-- The values before `main`. -/
def State.boot : State := ⟨false, false, CapNull, .rejected, CapNull, false⟩

/-- What the calls of `selinos_root_construct_m1_start_bundle` give. -/
structure Bundle where
  configure : Bool
  endpoint : Option CPtr
  taskdRequestSlot : CPtr
  spawn : Bool
  deriving Repr, DecidableEq

/-- What the calls of `construct_root_fixed_child_m1` give, with the TCB of the child. -/
structure Construction where
  configure : Bool
  childTcb : CPtr
  spawn : Bool
  deriving Repr, DecidableEq

/-- A message at the endpoint, and what a construction gives while it is handled. -/
structure Request where
  badge : Word
  message : Message
  construction : Construction
  deriving Repr, DecidableEq

/-- A reply, with the capabilities that it transfers. -/
structure Reply where
  label : Word
  caps : List CPtr
  words : List Word
  deriving Repr, DecidableEq

/-- The first word of a reply. -/
def Reply.status (r : Reply) : Word := r.words.getD 0 0

/-- The reply to a message, and whether `construct_root_fixed_child_m1` was called for it. -/
structure Response where
  constructs : Bool
  reply : Reply
  deriving Repr, DecidableEq

/-! ## The lease -/

/-- `reply_root_construct_m2`: the reply has the first `extraCaps` of the capabilities that are set,
the child's TCB for a grant and none otherwise. -/
def replyM2 (s : State) (status : Word) (extraCaps : Nat) : Reply :=
  let cap := if extraCaps = M2_GRANTED_CAPS then s.childTcb else CapNull
  ⟨0, [cap].take extraCaps, [status, M2_SLOT, M2_GENERATION]⟩

/-- `selinos_root_construct_m2_record_child_tcb`. -/
def recordChildTcb (childTcb : CPtr) (s : State) : Bool × State :=
  if childTcb = CapNull ∨ s.childTcb ≠ CapNull ∨ s.leaseGranted then (false, s)
  else (true, { s with childTcb })

/-- The message has the opcode of a lease. -/
def IsLease (m : Message) : Prop := m.length ≠ 0 ∧ m.mr 0 = M2_LEASE_TCB

instance (m : Message) : Decidable (IsLease m) := inferInstanceAs (Decidable (_ ∧ _))

/-- `exact_request` of the lease. -/
def ExactLease (badge : Word) (m : Message) : Prop :=
  badge = 0 ∧ m.label = 0 ∧ m.length = M2_REQUEST_WORDS ∧ m.extraCaps = 0 ∧ m.mr 1 = M2_SLOT ∧
    m.mr 2 = M2_GENERATION

instance (badge : Word) (m : Message) : Decidable (ExactLease badge m) :=
  inferInstanceAs (Decidable (_ ∧ _))

/-- `selinos_root_construct_m2_try_dispatch`: `none` where it returns false. -/
def tryDispatchM2 (badge : Word) (m : Message) (s : State) : Option (Reply × State) :=
  if ¬ IsLease m then none
  else if ¬ ExactLease badge m ∨ s.childTcb = CapNull ∨ s.leaseGranted then
    some (replyM2 s M2_REJECTED M2_REJECTED_CAPS, s)
  else
    let s := { s with leaseGranted := true }
    some (replyM2 s M2_LEASE_GRANTED M2_GRANTED_CAPS, s)

/-! ## The construction -/

/-- `reply_root_construct_m1`. -/
def replyM1 (status : Word) : Reply := ⟨0, [], [status, M1_SLOT, M1_GENERATION]⟩

/-- `construct_root_fixed_child_m1`. -/
def constructRootFixedChildM1 (c : Construction) (s : State) : Bool × State :=
  if ¬ s.vka ∨ ¬ s.vspace ∨ ¬ c.configure then (false, s)
  else if ¬ c.spawn then (false, s)
  else recordChildTcb c.childTcb s

/-- `exact_request` of the construction. -/
def ExactConstruct (badge : Word) (m : Message) : Prop :=
  badge = 0 ∧ m.label = 0 ∧ m.length = M1_REQUEST_WORDS ∧ m.extraCaps = 0 ∧ m.mr 0 = M1_REQUEST ∧
    m.mr 1 = M1_SLOT ∧ m.mr 2 = M1_GENERATION

instance (badge : Word) (m : Message) : Decidable (ExactConstruct badge m) :=
  inferInstanceAs (Decidable (_ ∧ _))

/-- `selinos_root_construct_m1_start_bundle`: its result, and the state after it. -/
def startBundle (rootVka rootVspace : Bool) (b : Bundle) (s : State) : Bool × State :=
  if ¬ rootVka ∨ ¬ rootVspace ∨ s.endpoint ≠ CapNull ∨ s.m1State ≠ .rejected ∨ ¬ b.configure then
    (false, s)
  else
    match b.endpoint with
    | none => (false, s)
    | some endpoint =>
      if b.taskdRequestSlot ≠ M1_TASKD_REQUEST_ENDPOINT_SLOT then (false, s)
      else
        let s := { s with vka := rootVka, vspace := rootVspace, endpoint, m1State := .free }
        if ¬ b.spawn then (false, { s with m1State := .rejected, endpoint := CapNull })
        else (true, s)

/-- One iteration of `selinos_root_construct_m1_dispatch_loop`. -/
def dispatch (r : Request) (s : State) : Response × State :=
  match tryDispatchM2 r.badge r.message s with
  | some (reply, s) => (⟨false, reply⟩, s)
  | none =>
    if ¬ ExactConstruct r.badge r.message ∨ s.m1State ≠ .free then
      (⟨false, replyM1 M1_REJECTED⟩, { s with
        m1State := if s.m1State = .rootConstructed then .rootConstructed else .rejected })
    else
      let s := { s with m1State := .rootConstructing }
      let (constructed, s) := constructRootFixedChildM1 r.construction s
      if ¬ constructed then (⟨true, replyM1 M1_REJECTED⟩, { s with m1State := .rejected })
      else (⟨true, replyM1 M1_CONSTRUCTED⟩, { s with m1State := .rootConstructed })

/-! ## What a message can do -/

/-- The branches of the loop, with what each leaves. -/
inductive Step (r : Request) (s : State) : Response → State → Prop
  | leaseRejected (hlease : IsLease r.message) :
      Step r s ⟨false, ⟨0, [], [M2_REJECTED, M2_SLOT, M2_GENERATION]⟩⟩ s
  | leaseGranted (hlease : IsLease r.message) (hexact : ExactLease r.badge r.message)
      (hchild : s.childTcb ≠ CapNull) (hfirst : s.leaseGranted = false) :
      Step r s ⟨false, ⟨0, [s.childTcb], [M2_LEASE_GRANTED, M2_SLOT, M2_GENERATION]⟩⟩
        { s with leaseGranted := true }
  | refused (hlease : ¬ IsLease r.message) :
      Step r s ⟨false, replyM1 M1_REJECTED⟩ { s with
        m1State := if s.m1State = .rootConstructed then .rootConstructed else .rejected }
  | failed (hexact : ExactConstruct r.badge r.message) (hfree : s.m1State = .free) :
      Step r s ⟨true, replyM1 M1_REJECTED⟩ { s with m1State := .rejected }
  | constructed (hexact : ExactConstruct r.badge r.message) (hfree : s.m1State = .free)
      (hnone : s.childTcb = CapNull) (hchild : r.construction.childTcb ≠ CapNull) :
      Step r s ⟨true, replyM1 M1_CONSTRUCTED⟩ { s with
        m1State := .rootConstructed
        childTcb := r.construction.childTcb }

/-- The two opcodes differ. -/
theorem not_isLease_of_exact {badge : Word} {m : Message} (h : ExactConstruct badge m) :
    ¬ IsLease m := by
  rintro ⟨-, hop⟩
  rw [h.2.2.2.2.1] at hop
  exact absurd hop (by decide)

/-- The construction either leaves the state, or records the TCB of the child that it made. -/
theorem construct_cases (c : Construction) (s : State) :
    constructRootFixedChildM1 c s = (false, s) ∨ c.childTcb ≠ CapNull ∧ s.childTcb = CapNull ∧
      constructRootFixedChildM1 c s = (true, { s with childTcb := c.childTcb }) := by
  unfold constructRootFixedChildM1 recordChildTcb
  split
  · exact .inl rfl
  · split
    · exact .inl rfl
    · split
      · exact .inl rfl
      · rename_i hc
        simp only [not_or, not_not] at hc
        exact .inr ⟨hc.1, hc.2.1, rfl⟩

theorem dispatch_step (r : Request) (s : State) : Step r s (dispatch r s).1 (dispatch r s).2 := by
  unfold dispatch tryDispatchM2
  by_cases hlease : IsLease r.message
  · rw [if_neg (not_not.mpr hlease)]
    split
    · rename_i reply s' heq
      split at heq
      · cases heq
        exact .leaseRejected hlease
      · rename_i hc
        simp only [not_or, not_not, Bool.not_eq_true] at hc
        cases heq
        exact .leaseGranted hlease hc.1 hc.2.1 hc.2.2
    · rename_i heq
      split at heq <;> cases heq
  · rw [if_pos hlease]
    simp only
    split
    · exact .refused hlease
    · rename_i hc
      simp only [not_or, not_not] at hc
      rcases construct_cases r.construction { s with m1State := .rootConstructing } with
        he | ⟨hchild, hnone, he⟩ <;> rw [he]
      · exact .failed hc.1 hc.2
      · exact .constructed hc.1 hc.2 hnone hchild

/-! ## Runs -/

/-- The exchanges with a reply of the status. -/
def replied (status : Word) (es : List (Exchange Request Response)) : Nat :=
  es.countP (·.reply.reply.status == status)

/-- The exchanges for which a construction was attempted. -/
def attempts (es : List (Exchange Request Response)) : Nat := es.countP (·.reply.constructs)

/-- A grant carries the TCB of the child whose construction was answered `CONSTRUCTED` before it. -/
def Provenance (before : List (Exchange Request Response)) (x : Exchange Request Response) : Prop :=
  x.reply.reply.status = M2_LEASE_GRANTED → ∃ y ∈ before,
    y.reply.reply.status = M1_CONSTRUCTED ∧ x.reply.reply.caps = [y.request.construction.childTcb]

/-- What the replies of a run keep to. -/
structure Protocol (es : List (Exchange Request Response)) : Prop where
  constructsOnce : attempts es ≤ 1
  constructedOnce : replied M1_CONSTRUCTED es ≤ 1
  grantedOnce : replied M2_LEASE_GRANTED es ≤ 1
  granted : ∀ before x, before ++ [x] <+: es → Provenance before x
  caps : ∀ x ∈ es, x.reply.reply.caps ≠ [] → x.reply.reply.status = M2_LEASE_GRANTED

/-- The state knows what has been replied. -/
structure Tracks (es : List (Exchange Request Response)) (s : State) : Prop where
  protocol : Protocol es
  free : s.m1State = .free → attempts es = 0 ∧ s.childTcb = CapNull
  notConstructed : s.m1State ≠ .rootConstructed →
    replied M1_CONSTRUCTED es = 0 ∧ s.childTcb = CapNull
  child : s.childTcb ≠ CapNull → ∃ y ∈ es,
    y.reply.reply.status = M1_CONSTRUCTED ∧ s.childTcb = y.request.construction.childTcb
  notGranted : s.leaseGranted = false → replied M2_LEASE_GRANTED es = 0

theorem replied_snoc (status : Word) (es : List (Exchange Request Response))
    (x : Exchange Request Response) : replied status (es ++ [x]) =
      replied status es + if x.reply.reply.status = status then 1 else 0 := by
  simp [replied, List.countP_append, List.countP_singleton]

theorem attempts_snoc (es : List (Exchange Request Response)) (x : Exchange Request Response) :
    attempts (es ++ [x]) = attempts es + if x.reply.constructs then 1 else 0 := by
  simp [attempts, List.countP_append, List.countP_singleton]

theorem lease_ne : M2_LEASE_GRANTED ≠ M1_CONSTRUCTED ∧ M1_CONSTRUCTED ≠ M2_LEASE_GRANTED := by
  decide

theorem rejected_ne : M1_REJECTED ≠ M1_CONSTRUCTED ∧ M1_REJECTED ≠ M2_LEASE_GRANTED := by decide

/-- The protocol after one more exchange. -/
theorem Protocol.snoc {es : List (Exchange Request Response)} {x : Exchange Request Response}
    (h : Protocol es) (hattempt : x.reply.constructs → attempts es = 0)
    (hconstructed : x.reply.reply.status = M1_CONSTRUCTED → replied M1_CONSTRUCTED es = 0)
    (hgranted : x.reply.reply.status = M2_LEASE_GRANTED → replied M2_LEASE_GRANTED es = 0)
    (hprov : Provenance es x)
    (hcaps : x.reply.reply.caps ≠ [] → x.reply.reply.status = M2_LEASE_GRANTED) :
    Protocol (es ++ [x]) := by
  constructor
  · rw [attempts_snoc]
    split
    · rw [hattempt ‹_›]
    · exact h.constructsOnce
  · rw [replied_snoc]
    split
    · rw [hconstructed ‹_›]
    · exact h.constructedOnce
  · rw [replied_snoc]
    split
    · rw [hgranted ‹_›]
    · exact h.grantedOnce
  · intro before y hp
    rcases List.prefix_concat_iff.mp hp with heq | hp
    · obtain ⟨rfl, hy⟩ := List.append_inj' heq rfl
      obtain rfl := List.singleton_inj.mp hy
      exact hprov
    · exact h.granted before y hp
  · intro y hy
    rcases List.mem_append.mp hy with hy | hy
    · exact h.caps y hy
    · obtain rfl := List.mem_singleton.mp hy
      exact hcaps

/-- A later exchange finds the construction of the child among the exchanges before it. -/
theorem Tracks.child_snoc {es : List (Exchange Request Response)} {s : State} (h : Tracks es s)
    (x : Exchange Request Response) (hc : s.childTcb ≠ CapNull) : ∃ y ∈ es ++ [x],
    y.reply.reply.status = M1_CONSTRUCTED ∧ s.childTcb = y.request.construction.childTcb := by
  obtain ⟨y, hy, hst, htcb⟩ := h.child hc
  exact ⟨y, List.mem_append_left _ hy, hst, htcb⟩

/-- An exchange that attempts nothing and whose reply is a refusal. -/
theorem Tracks.refusal {es : List (Exchange Request Response)} {s : State} (h : Tracks es s)
    {x : Exchange Request Response} (hx : x.reply.constructs = false)
    (hstatus : x.reply.reply.status = M1_REJECTED ∨ x.reply.reply.status = M2_REJECTED)
    (hcaps : x.reply.reply.caps = []) : Tracks (es ++ [x]) s := by
  have h1 : x.reply.reply.status ≠ M1_CONSTRUCTED := by
    rcases hstatus with he | he <;> rw [he] <;> decide
  have h2 : x.reply.reply.status ≠ M2_LEASE_GRANTED := by
    rcases hstatus with he | he <;> rw [he] <;> decide
  have ha : attempts (es ++ [x]) = attempts es := by simp [attempts_snoc, hx]
  have hr : replied M1_CONSTRUCTED (es ++ [x]) = replied M1_CONSTRUCTED es := by
    simp [replied_snoc, h1]
  have hg : replied M2_LEASE_GRANTED (es ++ [x]) = replied M2_LEASE_GRANTED es := by
    simp [replied_snoc, h2]
  refine ⟨h.protocol.snoc (by simp [hx]) (fun he => absurd he h1) (fun he => absurd he h2)
    (fun he => absurd he h2) fun hne => absurd hcaps hne, ?_, ?_, h.child_snoc x, ?_⟩
  · rw [ha]
    exact h.free
  · rw [hr]
    exact h.notConstructed
  · rw [hg]
    exact h.notGranted

/-- A request that is refused leaves the construction done, or closes it. -/
theorem Tracks.close {es : List (Exchange Request Response)} {s : State} (h : Tracks es s) :
    Tracks es { s with
      m1State := if s.m1State = .rootConstructed then .rootConstructed else .rejected } := by
  refine ⟨h.protocol, fun hf => ?_, fun hn => h.notConstructed fun hc => hn (if_pos hc), h.child,
    h.notGranted⟩
  simp only at hf
  split at hf <;> cases hf

theorem tracks_step {es : List (Exchange Request Response)} {s : State} (h : Tracks es s)
    (r : Request) : Tracks (es ++ [⟨r, (dispatch r s).1⟩]) (dispatch r s).2 := by
  have hstep := dispatch_step r s
  generalize (dispatch r s).1 = response, (dispatch r s).2 = s' at hstep
  cases hstep with
  | leaseRejected hlease => exact h.refusal rfl (.inr rfl) rfl
  | refused hlease => exact (h.refusal rfl (.inl rfl) rfl).close
  | leaseGranted hlease hexact hchild hfirst =>
    -- the TCB is there, so the construction has been answered
    refine ⟨h.protocol.snoc (fun hc => absurd hc (by simp)) (fun he => absurd he lease_ne.1)
      (fun _ => h.notGranted hfirst) (fun _ => ?_) fun _ => rfl, ?_, ?_, h.child_snoc _, ?_⟩
    · obtain ⟨y, hy, hst, htcb⟩ := h.child hchild
      exact ⟨y, hy, hst, congrArg (fun c => [c]) htcb⟩
    · intro hf
      exact absurd (h.free hf).2 hchild
    · intro hn
      exact absurd (h.notConstructed hn).2 hchild
    · intro hn
      cases hn
  | failed hexact hfree =>
    obtain ⟨h0, hnone⟩ := h.free hfree
    have hr := (h.notConstructed (by rw [hfree]; simp)).1
    refine ⟨h.protocol.snoc (fun _ => h0) (fun he => absurd he rejected_ne.1)
      (fun he => absurd he rejected_ne.2) (fun he => absurd he rejected_ne.2)
      fun hne => absurd rfl hne, ?_, ?_, h.child_snoc _, ?_⟩
    · intro hf
      cases hf
    · intro _
      refine ⟨?_, hnone⟩
      rw [replied_snoc, hr, Nat.zero_add]
      exact if_neg rejected_ne.1
    · intro hn
      rw [replied_snoc, h.notGranted hn, Nat.zero_add]
      exact if_neg rejected_ne.2
  | constructed hexact hfree hnone hchild =>
    obtain ⟨h0, -⟩ := h.free hfree
    have hr := (h.notConstructed (by rw [hfree]; simp)).1
    refine ⟨h.protocol.snoc (fun _ => h0) (fun _ => hr) (fun he => absurd he lease_ne.2)
      (fun he => absurd he lease_ne.2) fun hne => absurd rfl hne, ?_, ?_, ?_, ?_⟩
    · intro hf
      cases hf
    · intro hn
      exact absurd rfl hn
    · intro _
      exact ⟨_, List.mem_append_right _ (List.mem_singleton.mpr rfl), rfl, rfl⟩
    · intro hn
      rw [replied_snoc, h.notGranted hn, Nat.zero_add]
      exact if_neg lease_ne.2

/-- A started bundle has no child yet. -/
theorem startBundle_free {rootVka rootVspace : Bool} {b : Bundle} {s : State}
    (h : startBundle rootVka rootVspace b State.boot = (true, s)) :
    s.m1State = .free ∧ s.childTcb = CapNull := by
  unfold startBundle at h
  split at h
  · cases h
  · split at h
    · cases h
    · split at h
      · cases h
      · split at h
        · cases h
        · cases h
          exact ⟨rfl, rfl⟩

theorem tracks_start {s : State} (hchild : s.childTcb = CapNull) : Tracks [] s where
  protocol := ⟨by simp [attempts], by simp [replied], by simp [replied],
    fun before x hp => by simp at hp, by simp⟩
  free _ := ⟨rfl, hchild⟩
  notConstructed _ := ⟨rfl, hchild⟩
  child hc := absurd hchild hc
  notGranted _ := rfl

/-- **The construction protocol**: for all messages and all outcomes of the calls that construct the
child, a started root task attempts the construction at most once, answers `CONSTRUCTED` and
`LEASE_GRANTED` at most once each, and transfers one capability only, the TCB of the constructed
child, in the grant after that answer. A lease message never changes the state of the construction.
-/
theorem construction_protocol {rootVka rootVspace : Bool} {b : Bundle} {s₀ s : State}
    {es : List (Exchange Request Response)}
    (hstart : startBundle rootVka rootVspace b State.boot = (true, s₀))
    (h : Run (Serve dispatch) s₀ es s) :
    Protocol es ∧ ∀ (r : Request) (t : State), IsLease r.message →
      (dispatch r t).2.m1State = t.m1State := by
  constructor
  · obtain ⟨-, hchild⟩ := startBundle_free hstart
    have htracks : Tracks es s := Serve.history (fun _ _ r ht => tracks_step ht r) h
      (tracks_start hchild)
    exact htracks.protocol
  · intro r t hlease
    have hstep := dispatch_step r t
    generalize (dispatch r t).1 = response, (dispatch r t).2 = t' at hstep ⊢
    cases hstep with
    | leaseRejected => rfl
    | leaseGranted => rfl
    | refused hn => exact absurd hlease hn
    | failed hexact => exact absurd hlease (not_isLease_of_exact hexact)
    | constructed hexact => exact absurd hlease (not_isLease_of_exact hexact)

/-- The root task with its bundle started. -/
def State.started : State :=
  { State.boot with vka := true, vspace := true, endpoint := 100, m1State := .free }

/-- The fixed requests of the construction and of the lease, sent twice each. -/
theorem construction_protocol_twice : Protocol (serveAll dispatch State.started
    [⟨0, .ofWords [M1_REQUEST, M1_SLOT, M1_GENERATION], ⟨true, 200, true⟩⟩,
      ⟨0, .ofWords [M1_REQUEST, M1_SLOT, M1_GENERATION], ⟨true, 201, true⟩⟩,
      ⟨0, .ofWords [M2_LEASE_TCB, M2_SLOT, M2_GENERATION], ⟨true, 202, true⟩⟩,
      ⟨0, .ofWords [M2_LEASE_TCB, M2_SLOT, M2_GENERATION], ⟨true, 203, true⟩⟩]).1 := by
  have hstart : startBundle true true ⟨true, some 100, 8, true⟩ State.boot =
      (true, State.started) := by decide
  exact (construction_protocol hstart (Serve.run_serveAll dispatch State.started _)).1

end SeLinOS.Root
