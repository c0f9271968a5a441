import SeLinOS.CLogic.Serve
import SeLinOS.Sel4.Ipc

/-!
# The dynamic allocation of taskd

The loop of `main` (`servers/taskd_dynamic_alloc_m0.c`): one slot, reserved and released by the
clients of the endpoint. A request does not say who sends it, and the server does not look at the
badge.

* `handle`: the server. A run has the client of each request beside it.
* `holder`: who has the slot, with the rule that a client may release its own reservation only
  (`Orderly`).
* `released_by_owner_iff`: every accepted release is the owner's exactly when the clients keep to
  the rule; the server does not make them.
-/

namespace SeLinOS.Taskd

open CLogic Sel4

def REQUEST_WORDS : Nat := 2
def RESERVE : Word := 1
def RELEASE : Word := 2
def SLOT : Word := 1
def RESERVED : Word := 0x50
def EBUSY : Word := 0x51
def RELEASED : Word := 0x52

/-- The locals of `main`. -/
structure Server where
  reserved : Bool
  generation : Word
  deriving Repr, DecidableEq

def Server.start : Server := ⟨false, 0⟩

/-- `reply`. -/
def reply (status generation : Word) : Message := .ofWords [status, SLOT, generation]

/-- One iteration of the loop: the reply, and the state after it. -/
def handle (m : Message) (s : Server) : Message × Server :=
  if m.label ≠ 0 ∨ m.length ≠ REQUEST_WORDS ∨ m.mr 1 ≠ SLOT then (reply EBUSY s.generation, s)
  else if m.mr 0 = RESERVE then
    if s.reserved then (reply EBUSY s.generation, s)
    else (reply RESERVED (s.generation + 1), ⟨true, s.generation + 1⟩)
  else if m.mr 0 = RELEASE ∧ s.reserved then
    (reply RELEASED s.generation, { s with reserved := false })
  else (reply EBUSY s.generation, s)

/-! ## What a request asks for -/

inductive Op where
  | reserve | release | other
  deriving Repr, DecidableEq

/-- The operation of a request, by its exact shape. -/
def op (m : Message) : Op :=
  if m.label ≠ 0 ∨ m.length ≠ REQUEST_WORDS ∨ m.mr 1 ≠ SLOT then .other
  else if m.mr 0 = RESERVE then .reserve
  else if m.mr 0 = RELEASE then .release
  else .other

/-- What the server does, by operation. -/
theorem handle_eq (m : Message) (s : Server) : handle m s =
    match op m, s.reserved with
    | .reserve, false => (reply RESERVED (s.generation + 1), ⟨true, s.generation + 1⟩)
    | .release, true => (reply RELEASED s.generation, { s with reserved := false })
    | _, _ => (reply EBUSY s.generation, s) := by
  unfold handle op
  by_cases hbad : m.label ≠ 0 ∨ m.length ≠ REQUEST_WORDS ∨ m.mr 1 ≠ SLOT
  · simp only [hbad, ↓reduceIte]
  · rw [if_neg hbad, if_neg hbad]
    by_cases h1 : m.mr 0 = RESERVE
    · cases hr : s.reserved <;> simp [h1]
    · by_cases h2 : m.mr 0 = RELEASE
      · cases hr : s.reserved <;> simp [h2, RESERVE, RELEASE]
      · simp [h1, h2]

/-! ## Who holds the slot -/

variable {ι : Type}

/-- The holder after a request: a reservation of the free slot gives it to its client, and a release
of the held slot frees it. -/
def holdNext (holder : Option ι) (request : ι × Message) : Option ι :=
  match op request.2, holder with
  | .reserve, none => some request.1
  | .release, some _ => none
  | _, holder => holder

/-- The client that holds the slot after the requests. -/
def holder (requests : List (ι × Message)) : Option ι := requests.foldl holdNext none

/-- Every release of the held slot comes from the client that holds it. -/
def Orderly (requests : List (ι × Message)) : Prop :=
  ∀ before r, before ++ [r] <+: requests → op r.2 = .release →
    ∀ owner ∈ holder before, owner = r.1

instance [DecidableEq ι] (requests : List (ι × Message)) : Decidable (Orderly requests) :=
  decidable_of_iff _ forall_prefix_iff.symm

theorem holder_snoc (requests : List (ι × Message)) (request : ι × Message) :
    holder (requests ++ [request]) = holdNext (holder requests) request := by
  simp [holder]

/-! ## Runs -/

/-- The server with the client of each request. -/
def serve (request : ι × Message) (s : Server) : Message × Server := handle request.2 s

/-- The client whose `RESERVE` was the last one answered `RESERVED`. -/
def lastReserver (es : List (Exchange (ι × Message) Message)) : Option ι :=
  ((es.filter (·.reply.mr 0 == RESERVED)).getLast?).map (·.request.1)

/-- Every release that is answered `RELEASED` was sent by the last reserver. -/
def ReleasedByOwner (es : List (Exchange (ι × Message) Message)) : Prop :=
  ∀ before x, before ++ [x] <+: es → x.reply.mr 0 = RELEASED →
    lastReserver before = some x.request.1

theorem lastReserver_snoc (es : List (Exchange (ι × Message) Message))
    (x : Exchange (ι × Message) Message) : lastReserver (es ++ [x]) =
      if x.reply.mr 0 = RESERVED then some x.request.1 else lastReserver es := by
  unfold lastReserver
  rw [List.filter_append]
  by_cases hx : x.reply.mr 0 = RESERVED <;> simp [hx]

/-- The state of the server says whether the slot is held, and its holder is the last reserver. -/
structure Tracks (es : List (Exchange (ι × Message) Message)) (s : Server) : Prop where
  reserved : s.reserved = (holder (es.map (·.request))).isSome
  owner : ∀ c, holder (es.map (·.request)) = some c → lastReserver es = some c

theorem tracks_step {es : List (Exchange (ι × Message) Message)} {s : Server}
    (h : Tracks es s) (request : ι × Message) :
    Tracks (es ++ [⟨request, (serve request s).1⟩]) (serve request s).2 := by
  obtain ⟨c, m⟩ := request
  have hres := h.reserved
  have hown := h.owner
  constructor
  · rw [List.map_append, List.map_singleton, holder_snoc]
    simp only [serve, handle_eq, holdNext]
    cases hop : op m <;> cases hh : holder (es.map (·.request)) <;> rw [hh] at hres <;>
      simp [hres]
  · intro owner
    rw [List.map_append, List.map_singleton, holder_snoc, lastReserver_snoc]
    simp only [serve, handle_eq, holdNext]
    cases hop : op m <;> cases hh : holder (es.map (·.request)) <;> rw [hh] at hres hown <;>
      simp_all [reply, Message.ofWords, Message.mr, RESERVED, RELEASED, EBUSY]

theorem tracks_run {es : List (Exchange (ι × Message) Message)} {s : Server}
    (h : Run (Serve serve) Server.start es s) : Tracks es s :=
  Serve.history (fun _ _ request ht => tracks_step ht request) h ⟨rfl, fun _ hc => by cases hc⟩

/-- A request is answered `RELEASED` exactly when it is a release and the slot is held. -/
theorem released_iff (m : Message) (s : Server) :
    (handle m s).1.mr 0 = RELEASED ↔ op m = .release ∧ s.reserved := by
  rw [handle_eq]
  cases op m <;> cases s.reserved <;>
    simp [reply, Message.ofWords, Message.mr, RESERVED, RELEASED, EBUSY]

/-- **Ownership**: in every run, every accepted release was sent by the last reserver exactly when
every release of the held slot comes from its holder. -/
theorem released_by_owner_iff {es : List (Exchange (ι × Message) Message)} {s : Server}
    (h : Run (Serve serve) Server.start es s) :
    ReleasedByOwner es ↔ Orderly (es.map (·.request)) := by
  constructor
  · rintro hrel before r hp hop owner howner
    obtain ⟨before, x, rfl, rfl, hpre⟩ := Exchange.of_requests hp
    obtain ⟨t, hb, hreply⟩ := Serve.at_label h hpre
    have ht := tracks_run hb
    have hrs : t.reserved := by rw [ht.reserved, howner]; rfl
    have hreleased : x.reply.mr 0 = RELEASED := by
      rw [← hreply]
      exact (released_iff x.request.2 t).mpr ⟨hop, hrs⟩
    have := hrel before x hpre hreleased
    rw [ht.owner owner howner] at this
    exact Option.some.inj this
  · intro hord before x hp hreleased
    obtain ⟨t, hb, hreply⟩ := Serve.at_label h hp
    have ht := tracks_run hb
    rw [← hreply] at hreleased
    obtain ⟨hop, hrs⟩ := (released_iff x.request.2 t).mp hreleased
    rw [ht.reserved, Option.isSome_iff_exists] at hrs
    obtain ⟨owner, howner⟩ := hrs
    have hreq : before.map (·.request) ++ [x.request] <+: es.map (·.request) := by
      simpa using hp.map (·.request)
    rw [← hord _ _ hreq hop owner howner]
    exact ht.owner owner howner

/-- A request of the protocol. -/
def request (operation : Word) : Message := .ofWords [operation, SLOT]

/-- The probe alone: reserve, a refused second reserve, release, reserve. -/
theorem released_by_owner_probe :
    ReleasedByOwner (serveAll serve Server.start [(0, request RESERVE), (0, request RESERVE),
      (0, request RELEASE), (0, request RESERVE)]).1 :=
  (released_by_owner_iff (Serve.run_serveAll serve Server.start _)).mpr (by decide)

/-- A client that has released its own reservation releases that of another client. -/
theorem stale_release_frees : ¬ ∀ (es : List (Exchange (Nat × Message) Message)) (s : Server),
    Run (Serve serve) Server.start es s → ReleasedByOwner es := by
  intro hall
  have hrun := Serve.run_serveAll serve Server.start
    [(0, request RESERVE), (0, request RELEASE), (1, request RESERVE), (0, request RELEASE)]
  have hreleased := hall _ _ hrun
    (serveAll serve Server.start [(0, request RESERVE), (0, request RELEASE),
      (1, request RESERVE)]).1
    ⟨(0, request RELEASE), reply RELEASED 2⟩ (by decide) (by decide)
  exact absurd hreleased (by decide)

end SeLinOS.Taskd
