import SeLinOS.CLogic.Prog
import SeLinOS.Dma.Server

/-!
# The teardown of the DMA server

One iteration of the loop of `main` (`servers/dmad.c`), with the kernel calls and the replies that
it makes in their order. `handle` is what is left of it when only the reply is looked at
(`serve_handle`).

* `Action`, `iteration`: what the server does, and the iteration; `serve` runs it.
* `serve_cases`: what a request does; `teardown_run`: what a run has done so far.
* `teardown_discipline`: the order of the three calls, and that they are made once.
-/

namespace SeLinOS.Dma

open CLogic Sel4

/-- What the server does while it handles a request: a call on the frame capability of the driver,
with its answer, or a reply. -/
inductive Action where
  /-- `seL4_X86_Page_Unmap`. -/
  | pageUnmap (ok : Bool)
  /-- `seL4_CNode_Revoke`. -/
  | cnodeRevoke (ok : Bool)
  /-- `seL4_CNode_Delete`. -/
  | cnodeDelete (ok : Bool)
  /-- `seL4_Reply`. -/
  | reply (m : Message)
  deriving Repr, DecidableEq

/-- The server, and what it has done since it received the request. -/
structure Iteration where
  server : Server
  actions : List Action

/-- A return is `continue`. -/
abbrev IterM : Type → Type := Prog Unit Iteration

def act (a : Action) : IterM Unit := Prog.modify fun s => { s with actions := s.actions ++ [a] }

def setServer (f : Server → Server) : IterM Unit :=
  Prog.modify fun s => { s with server := f s.server }

/-- `reply_rejected(); continue;` -/
def rejectAndContinue : IterM Unit := do
  act (.reply rejected)
  Prog.ret ()

/-- One iteration of the loop from the received message on. -/
def iteration (r : Request) : IterM Unit := do
  let length := r.message.length
  let magic := if length > 0 then r.message.mr 0 else 0
  let deviceToken := if length > 1 then r.message.mr 1 else 0
  let dmaAddress := if length > 2 then r.message.mr 2 else 0
  let size := if length > 3 then r.message.mr 3 else 0
  let s ← Prog.get
  Prog.when (¬ s.server.leaseActive ∨ length ≠ FREE_REQUEST_WORDS ∨ magic ≠ FREE_MAGIC ∨
    deviceToken ≠ s.server.activeDeviceToken ∨ dmaAddress = 0 ∨ size = 0) rejectAndContinue
  setServer fun s => { s with leaseActive := false }
  act (.pageUnmap r.kernel.unmap)
  Prog.when (r.kernel.unmap = false) rejectAndContinue
  setServer fun s => { s with pageMapped := false }
  act (.cnodeRevoke r.kernel.revoke)
  Prog.when (r.kernel.revoke = false) rejectAndContinue
  act (.cnodeDelete r.kernel.delete)
  Prog.when (r.kernel.delete = false) rejectAndContinue
  setServer fun s => { s with frameCap := false }
  act (.reply accepted)

/-- The actions of an iteration, and the state after it. -/
def serve (r : Request) (s : Server) : List Action × Server :=
  match iteration r ⟨s, []⟩ with
  | .ok _ t => (t.actions, t.server)
  | .ret _ t => (t.actions, t.server)
  | .fault _ => ([], s)

/-! ## One request -/

/-- The calls of the teardown, up to the first one that fails. -/
def Kernel.calls (k : Kernel) : List Action :=
  .pageUnmap k.unmap ::
    if k.unmap then
      .cnodeRevoke k.revoke :: if k.revoke then [.cnodeDelete k.delete] else []
    else []

/-- All three calls succeed. -/
def Kernel.allOk (k : Kernel) : Bool := k.unmap && k.revoke && k.delete

/-- The tests of the code, which look at a word only where the length covers it. -/
theorem tests_iff (r : Request) (s : Server) :
    (¬ s.leaseActive ∨ r.message.length ≠ FREE_REQUEST_WORDS ∨
      (if r.message.length > 0 then r.message.mr 0 else 0) ≠ FREE_MAGIC ∨
      (if r.message.length > 1 then r.message.mr 1 else 0) ≠ s.activeDeviceToken ∨
      (if r.message.length > 2 then r.message.mr 2 else 0) = 0 ∨
      (if r.message.length > 3 then r.message.mr 3 else 0) = 0) ↔
    ¬ s.leaseActive ∨ ¬ WellFormed s.activeDeviceToken r.message := by
  by_cases hlength : r.message.length = FREE_REQUEST_WORDS
  · have hlong : ∀ i < 4, r.message.length > i := fun i hi => hlength ▸ hi
    rw [if_pos (hlong 0 (by decide)), if_pos (hlong 1 (by decide)), if_pos (hlong 2 (by decide)),
      if_pos (hlong 3 (by decide))]
    simp only [WellFormed]
    tauto
  · simp [WellFormed, hlength]

/-- What a request does: nothing but a rejection, or the teardown. -/
theorem serve_cases (r : Request) (s : Server) :
    (¬ s.leaseActive ∨ ¬ WellFormed s.activeDeviceToken r.message) ∧
      serve r s = ([.reply rejected], s) ∨
    (s.leaseActive ∧ WellFormed s.activeDeviceToken r.message) ∧
      (serve r s).1 =
        r.kernel.calls ++ [.reply (if r.kernel.allOk then accepted else rejected)] ∧
      (serve r s).2.activeDeviceToken = s.activeDeviceToken ∧
      (serve r s).2.leaseActive = false := by
  have htests := tests_iff r s
  by_cases hc : ¬ s.leaseActive ∨ ¬ WellFormed s.activeDeviceToken r.message
  · refine .inl ⟨hc, ?_⟩
    rw [← htests] at hc
    unfold serve iteration
    simp only [Prog.bind_run, Prog.get_run, Prog.when, if_pos hc]
    rfl
  · refine .inr ⟨by tauto, ?_⟩
    rw [← htests] at hc
    unfold serve iteration
    simp only [Prog.bind_run, Prog.get_run, Prog.when, if_neg hc]
    -- one case for each call that may fail first
    obtain ⟨message, ⟨unmap, revoke, delete⟩⟩ := r
    cases unmap
    · exact ⟨rfl, rfl, rfl⟩
    · cases revoke
      · exact ⟨rfl, rfl, rfl⟩
      · cases delete <;> exact ⟨rfl, rfl, rfl⟩

/-- The iteration gives the reply and the state of `handle`. -/
theorem serve_handle (r : Request) (s : Server) :
    (serve r s).1.getLast? = some (.reply (handle r s).1) ∧ (serve r s).2 = (handle r s).2 := by
  have htests := tests_iff r s
  have hwords : (¬ s.leaseActive ∨ r.message.length ≠ FREE_REQUEST_WORDS ∨
      r.message.mr 0 ≠ FREE_MAGIC ∨ r.message.mr 1 ≠ s.activeDeviceToken ∨ r.message.mr 2 = 0 ∨
      r.message.mr 3 = 0) ↔ ¬ s.leaseActive ∨ ¬ WellFormed s.activeDeviceToken r.message := by
    simp only [WellFormed]
    tauto
  unfold handle serve iteration
  by_cases hc : ¬ s.leaseActive ∨ ¬ WellFormed s.activeDeviceToken r.message
  · rw [if_pos (hwords.mpr hc)]
    simp only [Prog.bind_run, Prog.get_run, Prog.when, if_pos (htests.mpr hc)]
    exact ⟨rfl, rfl⟩
  · rw [if_neg fun h => hc (hwords.mp h)]
    simp only [Prog.bind_run, Prog.get_run, Prog.when, if_neg fun h => hc (htests.mp h)]
    obtain ⟨message, ⟨unmap, revoke, delete⟩⟩ := r
    cases unmap
    · exact ⟨rfl, rfl⟩
    · cases revoke
      · exact ⟨rfl, rfl⟩
      · cases delete <;> exact ⟨rfl, rfl⟩

/-! ## Runs -/

def Action.isCall : Action → Bool
  | .reply _ => false
  | _ => true

def Action.accepts : Action → Bool
  | .reply m => m.mr 0 == FREE_ACCEPTED
  | _ => false

/-- A request with what the server did for it. -/
abbrev Served : Type := Exchange Request (List Action)

/-- The request led to a call on the frame capability. -/
def Tears (x : Served) : Bool := x.reply.any Action.isCall

/-- The request was accepted. -/
def Accepts (x : Served) : Bool := x.reply.any Action.accepts

/-- Every request is answered once; one request at most leads to the teardown, and one at most is
accepted; an accepted one after the three calls in their order, all with success. -/
structure Discipline (es : List Served) : Prop where
  answered : ∀ x ∈ es, x.reply.countP (!·.isCall) = 1
  tornOnce : es.countP Tears ≤ 1
  acceptedOnce : es.countP Accepts ≤ 1
  torn : ∀ x ∈ es, Accepts x →
    x.reply = [.pageUnmap true, .cnodeRevoke true, .cnodeDelete true, .reply accepted]

/-- An exchange that has the form of `serve_cases`. -/
inductive Answered : Served → Prop
  | rejected (r : Request) : Answered ⟨r, [.reply rejected]⟩
  | torn (r : Request) : Answered
      ⟨r, r.kernel.calls ++ [.reply (if r.kernel.allOk then accepted else rejected)]⟩

theorem Answered.once {x : Served} (h : Answered x) : x.reply.countP (!·.isCall) = 1 := by
  cases h with
  | rejected r => rfl
  | torn r => obtain ⟨message, ⟨_ | _, _ | _, _ | _⟩⟩ := r <;> rfl

theorem Answered.order {x : Served} (h : Answered x) (ha : Accepts x) : Tears x ∧
    x.reply = [.pageUnmap true, .cnodeRevoke true, .cnodeDelete true, .reply accepted] := by
  cases h with
  | rejected r => cases ha
  | torn r =>
    obtain ⟨message, ⟨unmap, revoke, delete⟩⟩ := r
    cases unmap
    · cases ha
    · cases revoke
      · cases ha
      · cases delete
        · cases ha
        · exact ⟨rfl, rfl⟩

/-- What the server has done: it has torn the lease down once if the lease is not active. -/
structure Torn (es : List Served) (s : Server) : Prop where
  answered : ∀ x ∈ es, Answered x
  once : es.countP Tears = if s.leaseActive then 0 else 1

theorem torn_step {es : List Served} {s : Server} (h : Torn es s) (r : Request) :
    Torn (es ++ [⟨r, (serve r s).1⟩]) (serve r s).2 := by
  obtain ⟨hanswered, honce⟩ := h
  have hsnoc : ∀ x, Answered x → ∀ y ∈ es ++ [x], Answered y := by
    intro x hx y hy
    rcases List.mem_append.mp hy with hy | hy
    · exact hanswered y hy
    · rwa [List.mem_singleton.mp hy]
  rcases serve_cases r s with ⟨-, he⟩ | ⟨⟨hl, -⟩, hactions, -, hend⟩
  · rw [he]
    refine ⟨hsnoc _ (.rejected r), ?_⟩
    rw [List.countP_append, honce]
    rfl
  · rw [hactions]
    refine ⟨hsnoc _ (.torn r), ?_⟩
    rw [List.countP_append, honce, if_pos hl, hend, Nat.zero_add]
    obtain ⟨message, ⟨unmap, revoke, delete⟩⟩ := r
    rfl

theorem torn_run {deviceToken : Word} {es : List Served} {s : Server}
    (h : Run (Serve serve) (.start deviceToken) es s) : Torn es s :=
  Serve.history (fun _ _ r ht => torn_step ht r) h ⟨fun _ hx => absurd hx List.not_mem_nil, rfl⟩

theorem Torn.discipline {es : List Served} {s : Server} (h : Torn es s) : Discipline es where
  answered x hx := (h.answered x hx).once
  tornOnce := by
    rw [h.once]
    split <;> decide
  acceptedOnce := by
    refine Nat.le_trans (List.countP_mono_left fun x hx ha => ((h.answered x hx).order ha).1) ?_
    rw [h.once]
    split <;> decide
  torn x hx ha := ((h.answered x hx).order ha).2

/-- **The teardown**: in every run, for all answers of the kernel, every request is answered once,
one at most is accepted, and only after the three calls, each made once and with success; no second
request leads to one of them. A request with another length, magic or token leaves the lease as it
is. -/
theorem teardown_discipline {deviceToken : Word} {es : List Served} {s : Server}
    (h : Run (Serve serve) (.start deviceToken) es s) :
    Discipline es ∧ ∀ (r : Request) (t : Server),
      r.message.length ≠ FREE_REQUEST_WORDS ∨ r.message.mr 0 ≠ FREE_MAGIC ∨
        r.message.mr 1 ≠ t.activeDeviceToken → (serve r t).2 = t := by
  refine ⟨(torn_run h).discipline, fun r t hbad => ?_⟩
  rcases serve_cases r t with ⟨-, he⟩ | ⟨⟨-, hw⟩, -⟩
  · rw [he]
  · obtain ⟨hlength, hmagic, htoken, -⟩ := hw
    rcases hbad with hbad | hbad | hbad
    · exact absurd hlength hbad
    · exact absurd hmagic hbad
    · exact absurd htoken hbad

/-- A teardown that fails at the second call, and a request after it; a request with a forged
token. -/
theorem teardown_discipline_failed :
    Discipline (serveAll serve (.start 1)
      [⟨.ofWords [FREE_MAGIC, 1, 0x02000000, 4096], ⟨true, false, true⟩⟩,
        freeRequest 1 0x02000000 4096]).1 ∧
    (serve (freeRequest 2 0x02000000 4096) (.start 1)).2 = .start 1 := by
  have hrun := teardown_discipline (Serve.run_serveAll serve (.start 1)
    [⟨.ofWords [FREE_MAGIC, 1, 0x02000000, 4096], ⟨true, false, true⟩⟩,
      freeRequest 1 0x02000000 4096])
  exact ⟨hrun.1, hrun.2 _ _ (by decide)⟩

end SeLinOS.Dma
