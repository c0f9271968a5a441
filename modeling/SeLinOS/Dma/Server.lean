import SeLinOS.CLogic.Serve
import SeLinOS.Sel4.Ipc

/-!
# The DMA server

The loop of `main` (`servers/dmad.c`): the release of the one lease that the root task granted to
the driver. A request names a device token, a DMA address and a size; the server knows the token
only, and tests the address and the size against 0.

* `handle`: the server, with what the kernel answers to the three teardown calls.
* `WellFormed`: the requests that it takes while the lease is active.
* `exact_free_iff`: the server frees the lease for its own tuple only exactly when the first
  well-formed request has that tuple.
-/

namespace SeLinOS.Dma

open CLogic Sel4

def FREE_MAGIC : Word := 0x53444d46
def FREE_ACCEPTED : Word := 0x53444d41
def FREE_REQUEST_WORDS : Nat := 4

/-- The locals of `main`, and what the kernel has of the driver's lease. -/
structure Server where
  activeDeviceToken : Word
  leaseActive : Bool
  /-- The frame is mapped into the driver's VSpace. -/
  pageMapped : Bool
  /-- The driver's frame capability is in its CNode. -/
  frameCap : Bool
  deriving Repr, DecidableEq

/-- What the kernel answers to `seL4_X86_Page_Unmap`, `seL4_CNode_Revoke` and
`seL4_CNode_Delete`. -/
structure Kernel where
  unmap : Bool
  revoke : Bool
  delete : Bool
  deriving Repr, DecidableEq

/-- A request, and the answers of the kernel while it is handled. -/
structure Request where
  message : Message
  kernel : Kernel
  deriving Repr, DecidableEq

def Server.start (deviceToken : Word) : Server := ⟨deviceToken, true, true, true⟩

/-- `reply_rejected`. -/
def rejected : Message := .ofWords [0]

def accepted : Message := .ofWords [FREE_ACCEPTED]

/-- One iteration of the loop: the reply, and the state after it. -/
def handle (r : Request) (s : Server) : Message × Server :=
  if ¬ s.leaseActive ∨ r.message.length ≠ FREE_REQUEST_WORDS ∨ r.message.mr 0 ≠ FREE_MAGIC ∨
      r.message.mr 1 ≠ s.activeDeviceToken ∨ r.message.mr 2 = 0 ∨ r.message.mr 3 = 0 then
    (rejected, s)
  else
    let s := { s with leaseActive := false }
    if ¬ r.kernel.unmap then (rejected, s)
    else
      let s := { s with pageMapped := false }
      if ¬ r.kernel.revoke then (rejected, s)
      else if ¬ r.kernel.delete then (rejected, s)
      else (accepted, { s with frameCap := false })

/-! ## One request -/

/-- The checks of a request, but for the state of the lease. -/
def WellFormed (deviceToken : Word) (m : Message) : Prop :=
  m.length = FREE_REQUEST_WORDS ∧ m.mr 0 = FREE_MAGIC ∧ m.mr 1 = deviceToken ∧ m.mr 2 ≠ 0 ∧
    m.mr 3 ≠ 0

instance (deviceToken : Word) (m : Message) : Decidable (WellFormed deviceToken m) :=
  inferInstanceAs (Decidable (_ ∧ _))

/-- What a request does: nothing, or, when it is well formed and the lease is active, it ends the
lease. It is accepted only in the second case. -/
theorem handle_cases (r : Request) (s : Server) :
    (¬ s.leaseActive ∨ ¬ WellFormed s.activeDeviceToken r.message) ∧ handle r s = (rejected, s) ∨
    s.leaseActive ∧ WellFormed s.activeDeviceToken r.message ∧
      (handle r s).2.activeDeviceToken = s.activeDeviceToken ∧ ¬ (handle r s).2.leaseActive := by
  by_cases hc : ¬ s.leaseActive ∨ r.message.length ≠ FREE_REQUEST_WORDS ∨
      r.message.mr 0 ≠ FREE_MAGIC ∨ r.message.mr 1 ≠ s.activeDeviceToken ∨ r.message.mr 2 = 0 ∨
      r.message.mr 3 = 0
  · refine .inl ⟨?_, if_pos hc⟩
    rcases hc with h | h
    · exact .inl h
    · refine .inr fun hw => ?_
      rcases h with h | h | h | h | h
      · exact h hw.1
      · exact h hw.2.1
      · exact h hw.2.2.1
      · exact hw.2.2.2.1 h
      · exact hw.2.2.2.2 h
  · have hr : handle r s = _ := if_neg hc
    simp only [not_or, not_not] at hc
    refine .inr ⟨hc.1, hc.2, ?_⟩
    rw [hr]
    simp only
    split
    · simp
    · split
      · simp
      · split <;> simp

/-- A request is accepted only if it ends the lease. -/
theorem handle_accepted {r : Request} {s : Server} (h : (handle r s).1.mr 0 = FREE_ACCEPTED) :
    s.leaseActive ∧ WellFormed s.activeDeviceToken r.message := by
  rcases handle_cases r s with ⟨-, he⟩ | ⟨hl, hw, -⟩
  · rw [he] at h
    exact absurd (show rejected.mr 0 = FREE_ACCEPTED from h) (by decide)
  · exact ⟨hl, hw⟩

/-! ## Runs -/

/-- The lease is active until the first well-formed request. -/
structure Tracks (deviceToken : Word) (es : List (Exchange Request Message)) (s : Server) :
    Prop where
  token : s.activeDeviceToken = deviceToken
  active : s.leaseActive ↔ ∀ x ∈ es, ¬ WellFormed deviceToken x.request.message

theorem tracks_step {deviceToken : Word} {es : List (Exchange Request Message)} {s : Server}
    (h : Tracks deviceToken es s) (r : Request) :
    Tracks deviceToken (es ++ [⟨r, (handle r s).1⟩]) (handle r s).2 := by
  obtain ⟨rfl, hactive⟩ := h
  have hsplit : (∀ x ∈ es ++ [⟨r, (handle r s).1⟩], ¬ WellFormed s.activeDeviceToken
      x.request.message) ↔ s.leaseActive ∧ ¬ WellFormed s.activeDeviceToken r.message := by
    rw [hactive]
    simp [or_imp, forall_and]
  rcases handle_cases r s with ⟨hc, he⟩ | ⟨hl, hw, htoken, hend⟩
  · rw [he] at hsplit ⊢
    refine ⟨rfl, ?_⟩
    rw [hsplit]
    exact ⟨fun hl => ⟨hl, hc.resolve_left (not_not.mpr hl)⟩, And.left⟩
  · refine ⟨htoken, ?_⟩
    rw [hsplit]
    exact ⟨fun hl' => absurd hl' hend, fun hn => absurd hw hn.2⟩

theorem tracks_run {deviceToken : Word} {es : List (Exchange Request Message)} {s : Server}
    (h : Run (Serve handle) (.start deviceToken) es s) : Tracks deviceToken es s :=
  Serve.history (fun _ _ r ht => tracks_step ht r) h ⟨rfl, by simp [Server.start]⟩

/-! ## The lease -/

/-- What the root task has granted to the driver. -/
structure Lease where
  deviceToken : Word
  dmaAddress : Word
  size : Word
  deriving Repr, DecidableEq

/-- The request names the address and the size of the lease. -/
def Lease.Names (lease : Lease) (m : Message) : Prop :=
  m.mr 2 = lease.dmaAddress ∧ m.mr 3 = lease.size

instance (lease : Lease) (m : Message) : Decidable (lease.Names m) :=
  inferInstanceAs (Decidable (_ ∧ _))

/-- The exchange frees the lease for its own tuple only, and leaves it alone for another address or
size. -/
structure Lease.Exact (lease : Lease) (s : Server) (x : Exchange Request Message) (s' : Server) :
    Prop where
  frees : x.reply.mr 0 = FREE_ACCEPTED ∨ s.leaseActive ∧ ¬ s'.leaseActive →
    x.request.message.mr 1 = lease.deviceToken ∧ lease.Names x.request.message
  leaves : ¬ lease.Names x.request.message → x.reply = rejected ∧ s'.leaseActive = s.leaseActive

/-- The first well-formed request names the lease. -/
def Lease.FirstExact (lease : Lease) (requests : List Request) : Prop :=
  ∀ r ∈ requests.find? (WellFormed lease.deviceToken ·.message), lease.Names r.message

instance (lease : Lease) (requests : List Request) : Decidable (lease.FirstExact requests) :=
  inferInstanceAs (Decidable (∀ r ∈ _, _))

theorem Lease.exact_of_names {lease : Lease} {s : Server} {r : Request}
    (htoken : s.activeDeviceToken = lease.deviceToken)
    (h : s.leaseActive → WellFormed lease.deviceToken r.message → lease.Names r.message) :
    lease.Exact s ⟨r, (handle r s).1⟩ (handle r s).2 := by
  rw [← htoken] at h
  constructor
  · intro hfree
    obtain ⟨hl, hw⟩ : s.leaseActive ∧ WellFormed s.activeDeviceToken r.message := by
      rcases hfree with hacc | ⟨hl, hend⟩
      · exact handle_accepted hacc
      · rcases handle_cases r s with ⟨-, he⟩ | ⟨hl, hw, -⟩
        · rw [he] at hend
          exact absurd hl hend
        · exact ⟨hl, hw⟩
    exact ⟨hw.2.2.1.trans htoken, h hl hw⟩
  · intro hn
    rcases handle_cases r s with ⟨-, he⟩ | ⟨hl, hw, -⟩
    · simp [he]
    · exact absurd (h hl hw) hn

/-- **The exact lease**: in every run, the server frees the lease for its own tuple only, and
rejects any other address or size with the lease left active, exactly when the first well-formed
request names the lease. -/
theorem exact_free_iff (lease : Lease) {es : List (Exchange Request Message)} {s : Server}
    (h : Run (Serve handle) (.start lease.deviceToken) es s) :
    (∀ before x t t', before ++ [x] <+: es →
      Run (Serve handle) (.start lease.deviceToken) before t →
      Serve handle t x t' → lease.Exact t x t') ↔ lease.FirstExact (es.map (·.request)) := by
  constructor
  · intro hexact r hr
    rw [Option.mem_def, List.find?_map, Option.map_eq_some_iff] at hr
    obtain ⟨x, hx, rfl⟩ := hr
    obtain ⟨hw, before, after, rfl, hbefore⟩ := List.find?_eq_some_iff_append.mp hx
    have hp : before ++ [x] <+: before ++ x :: after := ⟨after, by simp⟩
    obtain ⟨t, t', hb, hstep⟩ := h.at_label hp
    have ht := tracks_run hb
    have hl : t.leaseActive := ht.active.mpr fun y hy => by simpa using hbefore y hy
    have hend : ¬ t'.leaseActive := by
      rcases handle_cases x.request t with ⟨hc, -⟩ | ⟨-, -, -, hend⟩
      · rw [ht.token] at hc
        rcases hc with hc | hc
        · exact absurd hl hc
        · exact absurd (by simpa using hw) hc
      · rwa [show handle x.request t = (x.reply, t') from hstep] at hend
    exact ((hexact before x t t' hp hb hstep).frees (.inr ⟨hl, hend⟩)).2
  · intro hfirst before x t t' hp hb hstep
    have ht := tracks_run hb
    have hx : x = ⟨x.request, (handle x.request t).1⟩ := by
      rw [show handle x.request t = (x.reply, t') from hstep]
    have ht' : t' = (handle x.request t).2 := by
      rw [show handle x.request t = (x.reply, t') from hstep]
    rw [hx, ht']
    refine Lease.exact_of_names ht.token fun hl hw => ?_
    refine hfirst x.request ?_
    obtain ⟨after, rfl⟩ := hp
    rw [Option.mem_def, List.find?_map, Option.map_eq_some_iff]
    refine ⟨x, List.find?_eq_some_iff_append.mpr ?_, rfl⟩
    refine ⟨by simpa using hw, before, after, by simp, ?_⟩
    intro y hy
    simpa using ht.active.mp hl y hy

/-- The lease of the first device, and a request that names another page of one byte. -/
def firstLease : Lease := ⟨1, 0x02000000, 4096⟩

def freeRequest (deviceToken dmaAddress size : Word) : Request :=
  ⟨.ofWords [FREE_MAGIC, deviceToken, dmaAddress, size], ⟨true, true, true⟩⟩

/-- A forged token, then the release of the lease. -/
theorem exact_free_sample :
    firstLease.Exact (.start 1) ⟨freeRequest 2 0x02000000 4096, rejected⟩ (.start 1) ∧
    firstLease.Exact (.start 1) ⟨freeRequest 1 0x02000000 4096, accepted⟩
      ⟨1, false, false, false⟩ := by
  have hrun := Serve.run_serveAll handle (.start firstLease.deviceToken)
    [freeRequest 2 0x02000000 4096, freeRequest 1 0x02000000 4096]
  have hexact := (exact_free_iff firstLease hrun).mpr (by decide)
  have hforged : Serve handle (.start firstLease.deviceToken)
      ⟨freeRequest 2 0x02000000 4096, rejected⟩ (.start 1) := rfl
  exact ⟨hexact [] _ _ _ (by decide) .nil hforged,
    hexact [⟨freeRequest 2 0x02000000 4096, rejected⟩] _ _ _ (by decide) (.single hforged) rfl⟩

/-- A request with the right token that names another page and one byte is accepted. -/
theorem wrong_free_accepted :
    ¬ ∀ (lease : Lease) (es : List (Exchange Request Message)) (s : Server),
    Run (Serve handle) (.start lease.deviceToken) es s →
    ∀ before x t t', before ++ [x] <+: es →
      Run (Serve handle) (.start lease.deviceToken) before t → Serve handle t x t' →
      lease.Exact t x t' := by
  intro hall
  have hrun := Serve.run_serveAll handle (.start 1) [freeRequest 1 0x03000000 1]
  have hexact := hall firstLease _ _ hrun [] ⟨freeRequest 1 0x03000000 1, accepted⟩ (.start 1)
    ⟨1, false, false, false⟩ (by decide) .nil rfl
  exact absurd (hexact.frees (.inl rfl)).2 (by decide)

end SeLinOS.Dma
