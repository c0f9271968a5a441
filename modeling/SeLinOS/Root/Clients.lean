import SeLinOS.Root.Construct
import SeLinOS.Sel4.Loop

/-!
# The clients of the construction endpoint

The dispatch loop of the root task as a thread, with the taskd clients of the milestones M2, M3 and
M4 and the child that the root task constructs for each. A client asks for the construction twice,
then for the child's TCB twice; the one of M3 resumes the child with it, the one of M4 also waits
for the completion of the child. The construction may fail.

* `serve`: an iteration of the loop; `client`, `child`: the programs.
* `Phase`: what the loop remembers, without capability addresses; `behaves`.
* `conducts`: what the bundle does, in every order in which its threads are scheduled.
-/

namespace SeLinOS.Root

open CLogic Sel4

def M3_CHILD_TCB_SLOT : Slot := 9
def M4_CHILD_DONE : Word := 0x52434d34444f4e45
def M4_SLOT : Word := 1
def M4_GENERATION : Word := 1
def M4_CHILD_COMPLETION_ENDPOINT_SLOT : Slot := 8
def M4_TASKD_COMPLETION_ENDPOINT_SLOT : Slot := 9
def M4_TASKD_TCB_DEST_SLOT : Slot := 10
def TASKD_REQUEST_ENDPOINT_SLOT : Slot := 8
def M2_TASKD_TCB_DEST_SLOT : Slot := 9

/-- The last gate of the configuration that is on. -/
inductive Milestone
  | m2
  | m3
  | m4
  deriving Repr, DecidableEq

inductive Thread
  | root
  | taskd
  | child
  deriving Repr, DecidableEq

inductive Object
  | requestEndpoint
  | completionEndpoint
  deriving Repr, DecidableEq

/-- The texts that the programs print, without their wording. -/
inductive Text
  | requestRejected
  | requestAccepted
  | constructionFailed
  | constructed
  | leaseRejected
  | leaseDelivered
  | transactionRejected
  | leaseReplyRejected
  | duplicateLeaseRejected
  | invokingResume
  | resumeRejected
  | resumed
  | completionRejected
  | clientPassed
  | childRuns
  | completionSent
  deriving Repr, DecidableEq

/-! ## The root task -/

/-- The slots of the two capabilities of the root task that its replies and its loop use. -/
def REQUEST_ENDPOINT : Slot := 0
def CHILD_TCB : Slot := 1
def NO_CAP : Slot := 2

def slotOf (s : State) (childTcb cptr : CPtr) : Slot :=
  if cptr = s.endpoint then REQUEST_ENDPOINT else if cptr = childTcb then CHILD_TCB else NO_CAP

/-- The text that is printed after a reply. -/
def Response.text (r : Response) : Text :=
  if r.reply.status = M2_LEASE_GRANTED then .leaseDelivered
  else if r.reply.status = M2_REJECTED then .leaseRejected
  else if r.reply.status = M1_CONSTRUCTED then .constructed
  else if r.constructs then .constructionFailed
  else .requestRejected

/-- `dispatch`, with what is printed before and after the reply. -/
def serve (c : Construction) (m : Message) (s : State) : Loop State Text :=
  let (response, s') := dispatch ⟨0, m, c⟩ s
  let reply := response.reply
  let cap := reply.caps.head?.map (slotOf s c.childTcb)
  let before := if response.constructs then [.print .requestAccepted] else []
  ⟨s', before ++ [.reply ⟨reply.label, reply.caps.length, reply.words⟩ cap, .print response.text]⟩

/-! ## The programs -/

/-- `call_root_construct_m1`, with what follows where it returns false and where it returns true. -/
def callRootConstructM1 (expectedStatus : Word) (rejected accepted : Code Text) : Code Text :=
  .call TASKD_REQUEST_ENDPOINT_SLOT (.ofWords [M1_REQUEST, M1_SLOT, M1_GENERATION]) none
    fun reply =>
      if ¬ (Exact [expectedStatus, M1_SLOT, M1_GENERATION] reply ∧ reply.extraCaps = 0) then
        rejected
      else accepted

/-- `call_root_construct_m2_lease`. -/
def callRootConstructM2Lease (dest : Slot) (expectedStatus : Word) (expectedCaps : Nat)
    (rejected accepted : Code Text) : Code Text :=
  .call TASKD_REQUEST_ENDPOINT_SLOT (.ofWords [M2_LEASE_TCB, M2_SLOT, M2_GENERATION]) (some dest)
    fun reply =>
      if ¬ (Exact [expectedStatus, M2_SLOT, M2_GENERATION] reply ∧
          reply.extraCaps = expectedCaps) then
        rejected
      else accepted

/-- The four calls of a client. -/
def transaction (dest : Slot)
    (constructRejected leaseRejected duplicateRejected passed : Code Text) : Code Text :=
  callRootConstructM1 M1_CONSTRUCTED constructRejected <|
  callRootConstructM1 M1_REJECTED constructRejected <|
  callRootConstructM2Lease dest M2_LEASE_GRANTED M2_GRANTED_CAPS leaseRejected <|
  callRootConstructM2Lease dest M2_REJECTED M2_REJECTED_CAPS duplicateRejected passed

def reject (text : Text) : Code Text := .putString text .yield

/-- `main` of `taskd_root_construct_m2_client.c`. -/
def clientM2 : Code Text :=
  transaction M2_TASKD_TCB_DEST_SLOT (reject .transactionRejected) (reject .leaseReplyRejected)
    (reject .duplicateLeaseRejected) <|
  .putString .clientPassed .yield

/-- `main` of `taskd_root_construct_m3_client.c`. -/
def clientM3 : Code Text :=
  transaction M2_TASKD_TCB_DEST_SLOT (reject .transactionRejected) (reject .transactionRejected)
    (reject .transactionRejected) <|
  .putString .invokingResume <|
  .resume M3_CHILD_TCB_SLOT fun noError =>
    if ¬ noError then reject .resumeRejected else .putString .clientPassed .yield

/-- `main` of `taskd_root_construct_m4_client.c`, with `receive_exact_child_completion`. -/
def clientM4 : Code Text :=
  transaction M4_TASKD_TCB_DEST_SLOT (reject .transactionRejected) (reject .transactionRejected)
    (reject .transactionRejected) <|
  .resume M4_TASKD_TCB_DEST_SLOT fun noError =>
    if ¬ noError then reject .resumeRejected
    else
      .putString .resumed <|
      .recv M4_TASKD_COMPLETION_ENDPOINT_SLOT fun message =>
        if ¬ (Exact [M4_CHILD_DONE, M4_SLOT, M4_GENERATION] message ∧ message.extraCaps = 0) then
          reject .completionRejected
        else .putString .clientPassed .yield

def client : Milestone → Code Text
  | .m2 => clientM2
  | .m3 => clientM3
  | .m4 => clientM4

/-- `main` of the child that `construct_root_fixed_child_m1` selects. -/
def child : Milestone → Code Text
  | .m2 | .m3 => .putString .childRuns .yield
  | .m4 =>
    .putString .childRuns <|
    .send M4_CHILD_COMPLETION_ENDPOINT_SLOT (.ofWords [M4_CHILD_DONE, M4_SLOT, M4_GENERATION]) <|
    .putString .completionSent .yield

/-- The capabilities that `selinos_root_construct_m1_start_bundle`,
`selinos_root_construct_m4_prepare_taskd` and `selinos_root_construct_m4_prepare_child` copy. -/
def caps (g : Milestone) : Thread → Slot → Option (Cap Thread Object)
  | .root, 0 => some (.endpoint .taskd .requestEndpoint)
  | .root, 1 => some (.tcb .child)
  | .taskd, 8 => some (.endpoint .root .requestEndpoint)
  | .taskd, 9 => if g = .m4 then some (.endpoint .child .completionEndpoint) else none
  | .child, 8 => if g = .m4 then some (.endpoint .taskd .completionEndpoint) else none
  | _, _ => none

/-- The child is spawned suspended. -/
def suspended : Thread → Bool
  | .child => true
  | _ => false

/-- The states of the threads: `ρ` for the root task. -/
def States (ρ : Type) : Thread → Type
  | .root => ρ
  | _ => Code Text

def act {ρ : Type} (root : ρ → Act Text ρ) : ∀ i, States ρ i → Act Text (States ρ i)
  | .root => root
  | .taskd => Code.act
  | .child => Code.act

def main {ρ : Type} (g : Milestone) (root : ρ) : ∀ i, States ρ i
  | .root => root
  | .taskd => client g
  | .child => child g

def kernel {ρ : Type} (root : ρ → Act Text ρ) : System Thread Object Text (States ρ) :=
  ⟨act root, fun _ => none⟩

def bundle {ρ : Type} (g : Milestone) (root : ρ) :
    (x : Name Thread Object) → Component Thread Object (States ρ) x :=
  start (main g root) (caps g) suspended

/-- The threads with the root task in its loop. -/
abbrev Threads : Thread → Type := States (Loop State Text)

def network (c : Construction) :
    Net (Name Thread Object) (Event Thread Object Text) (Component Thread Object Threads) :=
  net (kernel (Loop.act REQUEST_ENDPOINT (serve c)))

/-! ## The root task without addresses -/

/-- What the loop remembers. -/
inductive Phase
  | free
  | constructed
  | leased
  | failed
  deriving Repr, DecidableEq

/-- The construction succeeds. -/
def Construction.Succeeds (c : Construction) : Prop :=
  c.configure ∧ c.spawn ∧ c.childTcb ≠ CapNull

instance (c : Construction) : Decidable c.Succeeds := inferInstanceAs (Decidable (_ ∧ _))

def replyM1Todo (status : Word) (text : Text) : List (Todo Text) :=
  [.reply (.ofWords [status, M1_SLOT, M1_GENERATION]) none, .print text]

/-- A message in a phase; `succeeds`: whether the construction does. -/
def Phase.serve (succeeds : Bool) (m : Message) (p : Phase) : Loop Phase Text :=
  if IsLease m then
    if ExactLease 0 m ∧ p = .constructed ∧ succeeds then
      ⟨some .leased, [.reply ⟨0, M2_GRANTED_CAPS, [M2_LEASE_GRANTED, M2_SLOT, M2_GENERATION]⟩
        (some CHILD_TCB), .print .leaseDelivered]⟩
    else
      ⟨some p, [.reply (.ofWords [M2_REJECTED, M2_SLOT, M2_GENERATION]) none,
        .print .leaseRejected]⟩
  else if ¬ ExactConstruct 0 m ∨ p ≠ .free then
    ⟨some (if p = .free then .failed else p), replyM1Todo M1_REJECTED .requestRejected⟩
  else if succeeds then
    ⟨some .constructed, .print .requestAccepted :: replyM1Todo M1_CONSTRUCTED .constructed⟩
  else ⟨some .failed, .print .requestAccepted :: replyM1Todo M1_REJECTED .constructionFailed⟩

/-- The child's TCB after the construction. -/
def Construction.recorded (c : Construction) : CPtr := if c.Succeeds then c.childTcb else CapNull

/-- The variables of the root task in a phase. -/
def Phase.state (endpoint : CPtr) (c : Construction) : Phase → State
  | free => ⟨true, true, endpoint, .free, CapNull, false⟩
  | constructed => ⟨true, true, endpoint, .rootConstructed, c.recorded, false⟩
  | leased => ⟨true, true, endpoint, .rootConstructed, c.recorded, true⟩
  | failed => ⟨true, true, endpoint, .rejected, CapNull, false⟩

variable {c : Construction} {endpoint : CPtr}

theorem recorded_eq_null : c.recorded = CapNull ↔ ¬ c.Succeeds := by
  unfold Construction.recorded
  split
  · rename_i h
    exact iff_of_false h.2.2 (not_not.mpr h)
  · rename_i h
    exact iff_of_true rfl h

theorem construct_free (c : Construction) (endpoint : CPtr) :
    constructRootFixedChildM1 c { Phase.free.state endpoint c with m1State := .rootConstructing } =
      (decide c.Succeeds, { Phase.free.state endpoint c with
        m1State := .rootConstructing
        childTcb := c.recorded }) := by
  obtain ⟨configure, childTcb, spawn⟩ := c
  cases configure <;> cases spawn <;> by_cases hchild : childTcb = CapNull <;>
    simp [constructRootFixedChildM1, recordChildTcb, Phase.state, Construction.Succeeds,
      Construction.recorded, hchild]

/-- No lease is left, or there is nothing to lease. -/
theorem refuses_iff (p : Phase) :
    (p.state endpoint c).childTcb = CapNull ∨ (p.state endpoint c).leaseGranted ↔
      ¬ (p = .constructed ∧ c.Succeeds) := by
  cases p <;> simp [Phase.state, recorded_eq_null]

theorem tryDispatch_phase (p : Phase) {m : Message} (h : IsLease m) :
    tryDispatchM2 0 m (p.state endpoint c) =
      if ExactLease 0 m ∧ p = .constructed ∧ c.Succeeds then
        some (⟨0, [c.childTcb], [M2_LEASE_GRANTED, M2_SLOT, M2_GENERATION]⟩,
          Phase.leased.state endpoint c)
      else some (⟨0, [], [M2_REJECTED, M2_SLOT, M2_GENERATION]⟩, p.state endpoint c) := by
  have hrefuses := @refuses_iff c endpoint p
  unfold tryDispatchM2
  rw [if_neg (not_not.mpr h)]
  by_cases hgrant : ExactLease 0 m ∧ p = .constructed ∧ c.Succeeds
  · rw [if_neg (by tauto), if_pos hgrant]
    obtain ⟨-, rfl, hc⟩ := hgrant
    have hrec : c.recorded = c.childTcb := if_pos hc
    simp [replyM2, Phase.state, hrec, M2_GRANTED_CAPS]
  · rw [if_pos (by tauto), if_neg hgrant]
    rfl

/-- The loop does what its phase does; the endpoint and the TCB of the child are different
capabilities. -/
theorem serve_phase (hne : endpoint ≠ c.childTcb) (m : Message) (p : Phase) :
    serve c m (p.state endpoint c) = (p.serve c.Succeeds m).map (Phase.state endpoint c) := by
  have hendpoint : (p.state endpoint c).endpoint = endpoint := by cases p <;> rfl
  unfold serve dispatch Phase.serve
  by_cases hlease : IsLease m
  · simp only [tryDispatch_phase p hlease, if_pos hlease, decide_eq_true_eq]
    by_cases hgrant : ExactLease 0 m ∧ p = .constructed ∧ c.Succeeds
    · rw [if_pos hgrant, if_pos hgrant]
      simp [Loop.map, slotOf, hendpoint, hne.symm, Response.text, Reply.status, M2_GRANTED_CAPS]
    · rw [if_neg hgrant, if_neg hgrant]
      rfl
  · have hno : tryDispatchM2 0 m (p.state endpoint c) = none := if_pos hlease
    have hfree : (p.state endpoint c).m1State = .free ↔ p = .free := by
      cases p <;> simp [Phase.state]
    simp only [hno, if_neg hlease]
    by_cases hrefused : ¬ ExactConstruct 0 m ∨ p ≠ .free
    · rw [if_pos (by rwa [ne_eq, hfree]), if_pos hrefused]
      cases p <;> rfl
    · rw [if_neg (by rwa [ne_eq, hfree]), if_neg hrefused]
      obtain rfl : p = .free := by tauto
      simp only [construct_free]
      by_cases hc : c.Succeeds
      · simp only [decide_eq_true hc, if_true]
        rfl
      · simp only [decide_eq_false hc, Construction.recorded, if_neg hc]
        rfl

/-- The threads with the root task in a phase. -/
abbrev Phases : Thread → Type := States (Loop Phase Text)

def concrete (endpoint : CPtr) (c : Construction) : ∀ i, Phases i → Threads i
  | .root => Loop.map (Phase.state endpoint c)
  | .taskd => id
  | .child => id

def phaseKernel (succeeds : Bool) : System Thread Object Text Phases :=
  kernel (Loop.act REQUEST_ENDPOINT fun m p => p.serve succeeds m)

theorem behaves (hne : endpoint ≠ c.childTcb) :
    Behaves (phaseKernel c.Succeeds) (kernel (Loop.act REQUEST_ENDPOINT (serve c)))
      (concrete endpoint c) where
  waiter := rfl
  act i s := by
    cases i with
    | root => exact Loop.act_map (fun m p => serve_phase hne m p) s
    | taskd => exact (Act.map_id s.act).symm
    | child => exact (Act.map_id s.act).symm

/-! ## What the bundle does -/

def names : List (Name Thread Object) :=
  [.thread .root, .thread .taskd, .thread .child, .notification .requestEndpoint,
    .notification .completionEndpoint]

theorem mem_names (x : Name Thread Object) : x ∈ names := by
  rcases x with i | n
  · cases i <;> simp [names]
  · cases n <;> simp [names]

/-- A call of the client, with the reply. -/
def exchange (request : Message) (before : List Text) (reply : Message)
    (cap : Option (Cap Thread Object)) (after : Text) : List (Event Thread Object Text) :=
  [.call .taskd .root .requestEndpoint request] ++ before.map (.print .root) ++
    [.reply .root .taskd reply cap, .print .root after]

def construction (before : List Text) (status : Word) (after : Text) :
    List (Event Thread Object Text) :=
  exchange (.ofWords [M1_REQUEST, M1_SLOT, M1_GENERATION]) before
    (.ofWords [status, M1_SLOT, M1_GENERATION]) none after

/-- What the client and the child do with the TCB. -/
def exercise : Milestone → List (Event Thread Object Text)
  | .m2 => [.print .taskd .clientPassed]
  | .m3 =>
    [.print .taskd .invokingResume,
      .resume .taskd .child,
      .print .taskd .clientPassed,
      .print .child .childRuns]
  | .m4 =>
    [.resume .taskd .child,
      .print .taskd .resumed,
      .print .child .childRuns,
      .send .child .taskd .completionEndpoint (.ofWords [M4_CHILD_DONE, M4_SLOT, M4_GENERATION]),
      .print .child .completionSent,
      .print .taskd .clientPassed]

/-- What the bundle does, whether the construction succeeds or not. -/
def script (g : Milestone) (succeeds : Bool) : List (Event Thread Object Text) :=
  if succeeds then
    construction [.requestAccepted] M1_CONSTRUCTED .constructed ++
    construction [] M1_REJECTED .requestRejected ++
    exchange (.ofWords [M2_LEASE_TCB, M2_SLOT, M2_GENERATION]) []
      ⟨0, M2_GRANTED_CAPS, [M2_LEASE_GRANTED, M2_SLOT, M2_GENERATION]⟩ (some (.tcb .child))
      .leaseDelivered ++
    exchange (.ofWords [M2_LEASE_TCB, M2_SLOT, M2_GENERATION]) []
      (.ofWords [M2_REJECTED, M2_SLOT, M2_GENERATION]) none .leaseRejected ++
    exercise g
  else
    construction [.requestAccepted] M1_REJECTED .constructionFailed ++
    [.print .taskd .transactionRejected]

theorem script_plays (g : Milestone) (succeeds : Bool) :
    ∃ t, (net (phaseKernel succeeds)).Plays (script g succeeds)
      (bundle g (Loop.enter (τ := Text) Phase.free)) t := by
  cases g <;> cases succeeds <;> exact Net.plays_of_check mem_names (by decide +kernel)

/-- A started bundle waits for the construction. -/
theorem startBundle_state {rootVka rootVspace : Bool} {b : Bundle} {s : State} (c : Construction)
    (h : startBundle rootVka rootVspace b State.boot = (true, s)) :
    s = Phase.free.state s.endpoint c := by
  unfold startBundle at h
  split at h
  · cases h
  · rename_i hc
    simp only [not_or, not_not] at hc
    split at h
    · cases h
    · split at h
      · cases h
      · split at h
        · cases h
        · obtain rfl := (Prod.mk.inj h).2
          simp [Phase.state, State.boot, hc.1, hc.2.1]

/-- The bundle with its loop, from the bundle with the phases. -/
theorem bundle_plays (g : Milestone) {rootVka rootVspace : Bool} {b : Bundle} {s₀ : State}
    (hstart : startBundle rootVka rootVspace b State.boot = (true, s₀))
    (hne : s₀.endpoint ≠ c.childTcb) :
    ∃ t, (network c).Plays (script g c.Succeeds) (bundle g (.enter s₀)) t := by
  obtain ⟨t, ht⟩ := script_plays g c.Succeeds
  have hplays := (behaves hne).maps.plays ht
  have hbundle : (fun x => Component.map (concrete s₀.endpoint c) x
      (bundle g (.enter Phase.free) x)) = bundle g (.enter s₀) := by
    funext x
    rw [startBundle_state c hstart]
    rcases x with i | n
    · cases i <;> rfl
    · rfl
  rw [hbundle] at hplays
  exact ⟨_, hplays⟩

/-- A reply with a capability carries the TCB of the child that was constructed. -/
theorem mem_script {g : Milestone} {succeeds : Bool} {i j : Thread} {m : Message}
    {cap : Cap Thread Object} (h : .reply j i m (some cap) ∈ script g succeeds) :
    i = .taskd ∧ succeeds ∧ cap = .tcb .child := by
  cases succeeds with
  | false => simp [script, construction, exchange] at h
  | true =>
    cases g <;> simp [script, construction, exchange, exercise] at h <;>
      exact ⟨h.2.1, rfl, h.2.2.2⟩

theorem child_share (c : Construction) (g : Milestone) (succeeds : Bool) :
    (network c).share (.thread .child) (script g succeeds) = [] ∨ g ≠ .m2 ∧ succeeds ∧
      ∃ rest, (network c).share (.thread .child) (script g succeeds) =
        .resume .taskd .child :: rest := by
  cases succeeds with
  | false => exact .inl rfl
  | true =>
    cases g with
    | m2 => exact .inl rfl
    | m3 => exact .inr ⟨by decide, rfl, _, rfl⟩
    | m4 => exact .inr ⟨by decide, rfl, _, rfl⟩

/-- What holds after every run of a bundle. -/
structure Conducts (g : Milestone) (c : Construction) (s₀ : State)
    (es : List (Event Thread Object Text))
    (s : ∀ x, Component Thread Object Threads x) : Prop where
  performs : (network c).Performs (script g c.Succeeds) (bundle g (.enter s₀)) es s
  /-- Only taskd gets a capability, the TCB of a child that was constructed. -/
  confined : ∀ i slot, (s (.thread i)).caps slot = caps g i slot ∨
    i = .taskd ∧ c.Succeeds ∧ (s (.thread i)).caps slot = some (.tcb .child)
  /-- The child does nothing before taskd has resumed it. -/
  waits : ∀ e ∈ es, e.owner = .thread .child →
    g ≠ .m2 ∧ c.Succeeds ∧ .resume .taskd .child ∈ es

/-- **The construction endpoint and its clients**: whether the construction succeeds or not, and in
every order in which the threads are scheduled, each thread does the beginning of its part of
`script`, the bundle stops only when the script is done, and the TCB of the child goes nowhere but
to taskd. -/
theorem conducts {g : Milestone} {c : Construction} {rootVka rootVspace : Bool} {b : Bundle}
    {s₀ : State} {es : List (Event Thread Object Text)}
    {s : ∀ x, Component Thread Object Threads x}
    (hstart : startBundle rootVka rootVspace b State.boot = (true, s₀))
    (hne : s₀.endpoint ≠ c.childTcb)
    (h : Run (network c).Step (bundle g (.enter s₀)) es s) :
    Conducts g c s₀ es s := by
  obtain ⟨t, ht⟩ := bundle_plays g hstart hne
  have hperforms := ht.run h
  refine ⟨hperforms, fun i slot => ?_, fun e he howner => ?_⟩
  · rcases caps_of_run h i slot with heq | ⟨j, m, cap, hmem, -, heq⟩
    · exact .inl heq
    · obtain ⟨hi, hc, rfl⟩ := mem_script (hperforms.mem hmem)
      exact .inr ⟨hi, of_decide_eq_true hc, heq⟩
  · rcases child_share c g c.Succeeds with hnone | ⟨hg, hc, rest, hfirst⟩
    · have := hperforms.mem_share he (.inl howner)
      simp [hnone] at this
    · exact ⟨hg, of_decide_eq_true hc, hperforms.head hfirst he (.inl howner)⟩

theorem conducts_sample :
    ∃ s, Conducts .m4 ⟨true, 200, true⟩ State.started (script .m4 true) s := by
  have hstart : startBundle true true ⟨true, some 100, 8, true⟩ State.boot =
      (true, State.started) := by decide
  have hne : State.started.endpoint ≠ 200 := by decide
  obtain ⟨t, ht⟩ := @bundle_plays ⟨true, 200, true⟩ .m4 _ _ _ _ hstart hne
  exact ⟨t, conducts hstart hne ht.exists_run⟩

end SeLinOS.Root
