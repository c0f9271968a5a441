import Mathlib.Data.List.Forall2
import SeLinOS.Gateway.Mediation

/-!
# A run of the gateway

What `run_linux_syscall_abi_probe` does over a whole run, for any process, any kernel and any
`romfsd`.

* `replies_follow_script`: the replies are the script's, up to the place where the run stops.
* `replies_agree`: neither the kernel nor `romfsd` changes what the process is told and sees before
  that.
* `passes_iff`: with `romfsd` alone on its endpoint and a kernel that has its resources, the gateway
  passes exactly the processes that make the syscalls of the script.
-/

namespace SeLinOS.Gateway

open CLogic Prog Sel4 Romfs

variable {κ σ κ' σ' π : Type}

/-! ## The gateway as a monitor -/

def sight : Sight Session Seen (List (Nat × UInt8)) where
  seen v := ⟨v.memory, v.tlsBase⟩
  actView stores v := { v with memory := stores.foldl storeSeen v.memory }

/-- What the gateway keeps. `server` and `endpoint`: `romfsd` and its endpoint at the start. -/
structure Sound (W : World κ σ) (server : σ) (endpoint : Bool) (h : Host κ σ) : Prop where
  distinct : Distinct h.task.user
  tidy : Tidy h.task
  server : h.server = h.requests.foldl (fun s request => (W.romfsd request s).2) server
  endpoint : h.romfsRootEndpoint = endpoint

theorem cap_stores {u : UserSpace} (stores : List (Nat × UInt8)) :
    (stores.foldl storeByte u).cap = u.cap := by
  induction stores generalizing u with
  | nil => rfl
  | cons store stores ih => exact ih.trans (cap_storeByte store)

theorem Tidy.of_cap {t : RootTask} {u : UserSpace} (h : Tidy t) (hcap : u.cap = t.user.cap) :
    Tidy { t with user := u } :=
  ⟨h.unmapped, fun p hp => by simpa only [hcap] using h.confined p hp⟩

def interface (W : World κ σ) (server : σ) (endpoint : Bool) :
    Interface (Host κ σ) Session Seen (List (Nat × UInt8)) where
  toPort := Host.port
  toSight := sight
  Inv := Sound W server endpoint
  view := Host.view
  look_eq _ := rfl
  view_act stores h hsound := by
    show Session.mk _ _ _ _ = Session.mk _ _ _ _
    rw [show (Host.port.act stores h).memory = _ from (byte_stores stores hsound.distinct).1]
    rfl
  inv_act stores h hsound :=
    ⟨(byte_stores stores hsound.distinct).2, hsound.tidy.of_cap (cap_stores stores),
      hsound.server, hsound.endpoint⟩

/-- The test of a place: what `needs` says, and also `refuses` where the kernel maps the page. -/
def Admitted (W : World κ σ) (e : Entry) (frame : X86SyscallFrame) (v : Session) : Prop :=
  e.needs frame v ∧ (W.Faultless → ¬ e.refuses frame v)

theorem Handles.implements {W : World κ σ} {server : σ} {endpoint : Bool}
    {handler : X86SyscallFrame → GatewayM κ σ Word} {e : Entry} (hhandles : Handles W handler e) :
    Implements (interface W server endpoint) service (Admitted W) (Rejected W) handler e := by
  intro frame h hsound
  refine wp_mono (hhandles frame h hsound.distinct) (fun r h' hmediated => ?_) fun _ _ hno => hno
  refine ⟨⟨hmediated.distinct, hmediated.tidy hsound.tidy, ?_, ?_⟩,
    ⟨hmediated.needs, hmediated.refused⟩, hmediated.result, ?_⟩
  · rw [hmediated.server, hmediated.requests, List.foldl_append, hsound.server]
  · exact hmediated.endpoint.trans hsound.endpoint
  · show Host.view h' = Entry.effect e frame (Host.view h)
    simp only [Host.view, Entry.effect, hmediated.memory, hmediated.tlsBase,
      hmediated.probeTlsBase, hmediated.requests]

/-- The syscalls of `done` have been mediated, and nothing else. -/
theorem requests_of_converses {P : Probe π} {test : Entry → X86SyscallFrame → Session → Prop}
    {done : List Entry} {p q : π} {v u : Session} {log : List (Answer Seen X86SyscallFrame Word)}
    (h : Converses P.guest sight service test done p v log q u) :
    u.requests = v.requests ++ done.flatMap Entry.requests := by
  induction h with
  | nil => exact (List.append_nil _).symm
  | cons _ _ _ ih =>
    rw [ih, List.flatMap_cons, ← List.append_assoc]
    rfl

/-! ## The run -/

/-- The state before the first `seL4_Recv`. -/
structure Starts (s : Monitor π (Host κ σ) Seen X86SyscallFrame Word) : Prop where
  log : s.log = []
  requests : s.host.requests = []
  distinct : Distinct s.host.task.user
  tidy : Tidy s.host.task

/-- The process never traps again. -/
def Hangs (P : Probe π) (p : π) (v : Session) : Prop :=
  ∃ stores p', P.run p (sight.seen v) = (.never, stores, p')

/-- The process goes on to `exit(0)`. -/
def Exits (P : Probe π) (p : π) (v : Session) : Prop :=
  ∃ frame stores p', P.run p (sight.seen v) = (.call frame, stores, p') ∧
    frame.rax = LINUX_EXIT ∧ frame.rdi = 0

variable {P : Probe π} {W : World κ σ} {s t : Monitor π (Host κ σ) Seen X86SyscallFrame Word}

/-- How a run ends: after the replies to `done`, with the process at `p` and the session at `v`. -/
structure EndsAfter (P : Probe π) (W : World κ σ)
    (s : Monitor π (Host κ σ) Seen X86SyscallFrame Word) (ending : Ending)
    (t : Monitor π (Host κ σ) Seen X86SyscallFrame Word) (done : List Entry) (p : π) (v : Session) :
    Prop where
  begins : done <+: script
  converses : Converses P.guest sight service (Admitted W) done s.guest s.host.view t.log p v
  passed : ending = .passed ↔ done = script ∧ Exits P p v
  waiting : ending = .waiting ↔ Hangs P p v
  tidy : Tidy t.host.task
  sent : ∃ more, t.host.requests = v.requests ++ more ∧ (done = script → more = []) ∧
    ∀ e rest, script = done ++ e :: rest → more <+: e.requests
  /-- Where a call of the process gets no reply, its entry does not accept it, or the kernel or
  `romfsd` has not done what the gateway asked. -/
  stopped : ∀ e rest frame stores p', script = done ++ e :: rest →
    P.run p (sight.seen v) = (.call frame, stores, p') →
    ∃ h : Host κ σ, Sound W s.host.server s.host.romfsRootEndpoint h ∧
      h.view = sight.actView stores v ∧
      (Supported W h e → ¬ e.Accepts frame (sight.actView stores v))

theorem implements_script (W : World κ σ) (server : σ) (endpoint : Bool) :
    List.Forall₂ (Implements (interface W server endpoint) service (Admitted W) (Rejected W))
      (syscalls W) script :=
  handles_script.imp fun _ _ => Handles.implements

theorem not_snoc_self {α : Type} {done : List α} {e : α} {rest : List α} :
    done ≠ done ++ e :: rest := by
  intro h
  have hlength := congrArg List.length h
  rw [List.length_append, List.length_cons] at hlength
  omega

/-- The run stops before the end of the script. -/
theorem EndsAfter.of_stopped {ending : Ending} {s : Monitor π (Host κ σ) Seen X86SyscallFrame Word}
    (hs : Starts s) (h : Stopped P.guest (interface W s.host.server s.host.romfsRootEndpoint)
      service (Admitted W) (Rejected W) script s ending t) :
    ∃ done p v, EndsAfter P W s ending t done p v := by
  obtain ⟨done, e, rest, log, p, v, hscript, hconv, hlog, hstop⟩ := h
  rw [hs.log, List.nil_append] at hlog
  have hne : done ≠ script := hscript ▸ not_snoc_self
  have hentry : ∀ e' rest', script = done ++ e' :: rest' → e' = e := by
    intro e' rest' h'
    exact (List.cons.inj (List.append_cancel_left (h'.symm.trans hscript))).1
  obtain ⟨before, stores, hinv, hview, hleft⟩ := hstop.left
  have hrequests : before.requests = v.requests := congrArg Session.requests hview
  refine ⟨done, p, v, ⟨⟨_, hscript.symm⟩, hlog ▸ hconv,
    iff_of_false hstop.ne_passed fun hend => hne hend.1, hstop.waiting_iff, ?_, ?_, ?_⟩⟩
  · rcases hleft with rfl | ⟨_, hbad⟩
    · exact hinv.tidy
    · exact hbad.tidy hinv.tidy
  · rcases hleft with rfl | ⟨_, hbad⟩
    · exact ⟨[], by rw [hrequests, List.append_nil], fun _ => rfl, fun _ _ _ => List.nil_prefix⟩
    · obtain ⟨more, hmore, hsent⟩ := hbad.requests
      refine ⟨more, by rw [hsent, hrequests], fun h => absurd h hne, fun e' rest' h' => ?_⟩
      rw [hentry e' rest' h']
      exact hmore
  · intro e' rest' frame stores' p' h' hrun
    rw [hentry e' rest' h']
    obtain ⟨host, hinv', hview', hbad⟩ := hstop.of_call hrun
    exact ⟨host, hinv', hview', hview' ▸ hbad.cause⟩

/-- The run gets to the end of the script. -/
theorem EndsAfter.of_served {ending : Ending} {u : Monitor π (Host κ σ) Seen X86SyscallFrame Word}
    (hs : Starts s) (h : Served P.guest (interface W s.host.server s.host.romfsRootEndpoint)
      service (Admitted W) script s t) (hlog : u.log = t.log)
    {stores : List (Nat × UInt8)} (hview : u.host.view = sight.actView stores t.host.view)
    (htidy : Tidy u.host.task) (hpassed : ending = .passed ↔ Exits P t.guest t.host.view)
    (hwaiting : ending = .waiting ↔ Hangs P t.guest t.host.view) :
    ∃ done p v, EndsAfter P W s ending u done p v := by
  obtain ⟨-, log, hconv, hlog'⟩ := h
  rw [hs.log, List.nil_append] at hlog'
  refine ⟨script, t.guest, t.host.view,
    ⟨List.prefix_refl _, ?_, ?_, hwaiting, htidy, ⟨[], ?_, ?_, ?_⟩, ?_⟩⟩
  · rw [hlog, hlog']
    exact hconv
  · exact hpassed.trans ⟨fun hexits => ⟨rfl, hexits⟩, fun h => h.2⟩
  · exact (congrArg Session.requests hview).trans (List.append_nil _).symm
  · exact fun _ => rfl
  · exact fun _ _ h => absurd h not_snoc_self
  · exact fun _ _ _ _ _ h => absurd h not_snoc_self

theorem run_wp (P : Probe π) (W : World κ σ) (hs : Starts s) :
    wp (runLinuxSyscallAbiProbe P W) (fun _ _ => False)
      (fun ending t => ∃ done p v, EndsAfter P W s ending t done p v) s := by
  have hsound : Sound W s.host.server s.host.romfsRootEndpoint s.host :=
    ⟨hs.distinct, hs.tidy, by rw [hs.requests]; rfl, rfl⟩
  refine wp_seq (mediateAll_wp (implements_script W _ _) hsound)
    (fun _ _ hstopped => EndsAfter.of_stopped hs hstopped) fun _ t hserved => ?_
  -- The last trap has to be the `exit(0)`.
  refine wp_bind (wp_recvTrap (fun _ _ _ => False) hserved.inv ?_ fun ending u hstop hlog => ?_)
  · intro frame stores p u hrun _ hlog hinv hview
    have hexits : Exits P t.guest t.host.view ↔ frame.rax = LINUX_EXIT ∧ frame.rdi = 0 := by
      refine ⟨fun ⟨frame', stores', p', hrun', htests⟩ => ?_, fun htests =>
        ⟨frame, stores, p, hrun, htests⟩⟩
      cases hrun.symm.trans hrun'
      exact htests
    have hcalls : ¬ Hangs P t.guest t.host.view := by
      rintro ⟨stores', p', hnever⟩
      cases hrun.symm.trans hnever
    refine wp_ite
      (fun hno => wp_ret (EndsAfter.of_served hs hserved hlog hview hinv.tidy ?_
        (iff_of_false Ending.noConfusion hcalls)))
      fun hyes => wp_ret (EndsAfter.of_served hs hserved hlog hview hinv.tidy ?_
        (iff_of_false Ending.noConfusion hcalls))
    · refine iff_of_false Ending.noConfusion fun hexit => ?_
      have htests := hexits.mp hexit
      exact hno.elim (fun h => h htests.1) fun h => h htests.2
    · rw [not_or, not_not, not_not] at hyes
      exact iff_of_true rfl (hexits.mpr hyes)
  · obtain ⟨before, stores, hinv, hview, rfl | ⟨_, hno⟩⟩ := hstop.left
    · refine EndsAfter.of_served hs hserved hlog hview hinv.tidy
        (iff_of_false hstop.ne_passed ?_) hstop.waiting_iff
      rintro ⟨frame, stores', p, hrun, -⟩
      obtain ⟨_, -, -, hno⟩ := hstop.of_call hrun
      exact hno
    · exact hno.elim

/-! ## With romfsd -/

theorem script_calls : script.filterMap (·.call) = gatewayScript := rfl

theorem flatMap_requests (done : List Entry) :
    done.flatMap Entry.requests = (done.filterMap (·.call)).map (·.request) := by
  induction done with
  | nil => rfl
  | cons e done ih =>
    rw [List.flatMap_cons, ih, Entry.requests]
    cases hcall : e.call with
    | none => rw [List.filterMap_cons_none hcall]; rfl
    | some call => rw [List.filterMap_cons_some hcall]; rfl

section Romfsd

variable {d : Romfsd}

theorem record_foldl (requests : List Message) (server : Server) :
    (requests.foldl (fun s request => (d.handle request s).2) server).record =
      requests.foldl (fun record request => (d.step request record).2) server.record := by
  induction requests generalizing server with
  | nil => rfl
  | cons request requests ih => rw [List.foldl_cons, ih, (d.handle_refines request server).2]; rfl

/-- A started `romfsd` that has no other client gives the replies that the gateway expects. -/
theorem supported_of_romfsd {W : World κ Server} (hW : W.Faultless) (hromfsd : W.romfsd = d.handle)
    {server : Server} (hrecord : server.record = none) {h : Host κ Server}
    (hsound : Sound W server true h) {done rest : List Entry} {e : Entry}
    (hscript : script = done ++ e :: rest) (hrequests : h.requests = done.flatMap Entry.requests) :
    Supported W h e := by
  refine ⟨hW, hsound.endpoint, fun call hcall => ?_⟩
  have hcalls : gatewayScript =
      done.filterMap (·.call) ++ call :: rest.filterMap (·.call) := by
    rw [← script_calls, hscript, List.filterMap_append, List.filterMap_cons_some hcall]
  have haccepted := gateway_accepted d (done.filterMap (·.call)).length call
    (by rw [hcalls, List.getElem?_append_right (Nat.le_refl _), Nat.sub_self]; rfl)
  have hserver : h.server.record =
      view d.step none gatewayScript (done.filterMap (·.call)).length := by
    rw [hsound.server, hromfsd, record_foldl, hrecord, hrequests, flatMap_requests, view, hcalls,
      List.take_left', List.foldl_map]
    rfl
  rw [hromfsd, (d.handle_refines call.request h.server).1, hserver]
  exact haccepted

/-- With a kernel that has its resources, the gateway gets to the end of the script with a process
whose syscalls the entries accept. -/
theorem done_of_accepts {W : World κ Server} (hW : W.Faultless) (hromfsd : W.romfsd = d.handle)
    {s t : Monitor π (Host κ Server) Seen X86SyscallFrame Word} (hs : Starts s)
    (hrecord : s.host.server.record = none) (hendpoint : s.host.romfsRootEndpoint = true)
    {ending : Ending} {done : List Entry} {p q : π} {v u : Session}
    {log : List (Answer Seen X86SyscallFrame Word)} (hend : EndsAfter P W s ending t done p v)
    (hconv : Converses P.guest sight service Entry.Accepts script s.guest s.host.view log q u) :
    done = script := by
  obtain ⟨more, hmore⟩ := hend.begins
  cases more with
  | nil => rwa [List.append_nil] at hmore
  | cons e rest =>
    rw [← hmore] at hconv
    obtain ⟨_, _, q', u', -, hbefore, hafter⟩ := hconv.append_inv
    obtain ⟨-, rfl, rfl⟩ := hend.converses.unique hbefore
    cases hafter with
    | cons hcall haccepts _ =>
      obtain ⟨h, hsound, hview, hno⟩ := hend.stopped e rest _ _ _ hmore.symm hcall
      refine absurd haccepts (hno ?_)
      rw [hendpoint] at hsound
      refine supported_of_romfsd hW hromfsd hrecord hsound hmore.symm ?_
      have hrequests := congrArg Session.requests hview
      rw [show h.requests = _ from hrequests]
      show u'.requests = _
      rw [requests_of_converses hbefore]
      show s.host.requests ++ _ = _
      rw [hs.requests, List.nil_append]

/-- A process that the gateway passes: its syscalls are accepted, and it exits. -/
theorem passed_of_accepts {W : World κ Server} (hW : W.Faultless) (hromfsd : W.romfsd = d.handle)
    {s : Monitor π (Host κ Server) Seen X86SyscallFrame Word} (hs : Starts s)
    (hrecord : s.host.server.record = none) (hendpoint : s.host.romfsRootEndpoint = true)
    {q : π} {u : Session} {log : List (Answer Seen X86SyscallFrame Word)}
    (hconv : Converses P.guest sight service Entry.Accepts script s.guest s.host.view log q u)
    (hexits : Exits P q u) : ∃ t, runLinuxSyscallAbiProbe P W s = .ret .passed t := by
  obtain ⟨ending, t, hrun, done, p, v, hend⟩ := exists_returns (run_wp P W hs)
  obtain rfl := done_of_accepts hW hromfsd hs hrecord hendpoint hend hconv
  obtain ⟨-, rfl, rfl⟩ := hend.converses.unique hconv
  exact ⟨t, hend.passed.mpr ⟨rfl, hexits⟩ ▸ hrun⟩

end Romfsd

/-! ## A process that passes -/

/-- A process that makes given syscalls. -/
def caller : Probe (List X86SyscallFrame) where
  run
    | [], _ => (.never, [], [])
    | frame :: frames, _ => (.call frame, [], frames)
  resume _ frames := frames

/-- The calls are accepted by the places, one after the other. -/
def AcceptedBy : List Entry → List X86SyscallFrame → Session → Prop
  | [], _, _ => True
  | _ :: _, [], _ => False
  | e :: places, frame :: frames, v =>
    e.Accepts frame v ∧ AcceptedBy places frames (e.effect frame v)

theorem converses_caller {places : List Entry} {frames : List X86SyscallFrame} {v : Session}
    (h : AcceptedBy places frames v) : ∃ log u, Converses caller.guest sight service Entry.Accepts
      places frames v log (frames.drop places.length) u := by
  induction places generalizing frames v with
  | nil => exact ⟨[], v, .nil⟩
  | cons e places ih =>
    cases frames with
    | nil => exact h.elim
    | cons frame frames =>
      obtain ⟨log, u, hconv⟩ := ih h.2
      exact ⟨_, u, .cons (w := []) rfl h.1 hconv⟩

open Classical in
/-- A kernel that has its resources, and the `romfsd` of the image. -/
noncomputable def imageWorld : World Unit Server where
  dupAndMap k := (true, k)
  newPage u address k :=
    (if h : ∃ frame, Fresh u address frame then some ⟨h.choose, h.choose_spec⟩ else none, k)
  setTLSBase _ k := (true, k)
  romfsd := Romfsd.image.handle
  stack _ := 0

theorem imageWorld_faultless : imageWorld.Faultless where
  dupAndMap _ := rfl
  newPage u address k h := by
    simp only [imageWorld, dif_pos h, Option.isSome_some]
  setTLSBase _ _ := rfl

/-- A syscall with its number and arguments. -/
def syscall (rax rdi rsi rdx r10 r8 r9 : Word) : X86SyscallFrame :=
  ⟨rax, 0, 0, rdx, rsi, rdi, 0, r8, r9, r10, 0, 0, 0, 0, 0, 0x400000⟩

/-- The paths of the files and the word for the record, 32 bytes apart. -/
def sampleBytes : List UInt8 :=
  RELEASE_PATH.bytes ++ List.replicate 16 0 ++ VERSION_PATH.bytes ++ List.replicate 16 0 ++
    STATE_PATH.bytes ++ List.replicate 18 0 ++ [83, 84, 65, 84, 69, 77, 48, 33]

/-- The syscalls of the script, and the `exit(0)`. -/
def sampleCalls : List X86SyscallFrame :=
  [syscall LINUX_GETPID 0 0 0 0 0 0,
   syscall LINUX_GETUID 0 0 0 0 0 0,
   syscall LINUX_GETGID 0 0 0 0 0 0,
   syscall LINUX_GETEUID 0 0 0 0 0 0,
   syscall LINUX_GETEGID 0 0 0 0 0 0,
   syscall LINUX_GETTID 0 0 0 0 0 0,
   syscall LINUX_SET_TID_ADDRESS 0x1100 0 0 0 0 0,
   syscall LINUX_WRITE 1 0x1060 8 0 0 0,
   syscall LINUX_MMAP 0 4096 3 0x22 (-1) 0,
   syscall LINUX_UNAME 0x70000000 0 0 0 0 0,
   syscall LINUX_ARCH_PRCTL LINUX_ARCH_SET_FS 0x70000000 0 0 0 0,
   syscall LINUX_ARCH_PRCTL LINUX_ARCH_GET_FS 0x1100 0 0 0 0,
   syscall LINUX_CLOCK_GETTIME 1 0x70000000 0 0 0 0,
   syscall LINUX_GETRLIMIT 7 0x70000010 0 0 0 0,
   syscall LINUX_FUTEX 0x1100 LINUX_FUTEX_WAIT 1 0 0 0,
   syscall LINUX_FUTEX 0x1100 LINUX_FUTEX_WAKE 1 0 0 0,
   syscall LINUX_BRK 0 0 0 0 0 0,
   syscall LINUX_BRK 0x71001000 0 0 0 0 0,
   syscall LINUX_OPENAT LINUX_AT_FDCWD 0x1000 0 0 0 0,
   syscall LINUX_READ FD_RELEASE 0x1100 8 0 0 0,
   syscall LINUX_CLOSE FD_RELEASE 0 0 0 0 0,
   syscall LINUX_OPENAT LINUX_AT_FDCWD 0x1020 0 0 0 0,
   syscall LINUX_FCNTL FD_VERSION LINUX_F_GETFL 0 0 0 0,
   syscall LINUX_FSTAT FD_VERSION 0x1100 0 0 0 0,
   syscall LINUX_READ FD_VERSION 0x1100 8 0 0 0,
   syscall LINUX_GETDENTS64 FD_VERSION 0x1100 32 0 0 0,
   syscall LINUX_CLOSE FD_VERSION 0 0 0 0 0,
   syscall LINUX_OPENAT LINUX_AT_FDCWD 0x1000 0 0 0 0,
   syscall LINUX_OPENAT LINUX_AT_FDCWD 0x1040 0 0 0 0,
   syscall LINUX_MPROTECT 0x70000000 4096 3 0 0 0,
   syscall LINUX_LSEEK FD_VOLATILE_STATE 0 0 0 0 0,
   syscall LINUX_PREAD64 FD_VOLATILE_STATE 0x1100 8 0 0 0,
   syscall LINUX_READ FD_VOLATILE_STATE 0x1100 8 0 0 0,
   syscall LINUX_WRITE FD_VOLATILE_STATE 0x1060 8 0 0 0,
   syscall LINUX_READ FD_VOLATILE_STATE 0x1100 8 0 0 0,
   syscall LINUX_CLOSE FD_VOLATILE_STATE 0 0 0 0 0,
   syscall LINUX_WRITE FD_VOLATILE_STATE 0x1060 8 0 0 0,
   syscall LINUX_READ 0 0 0 0 0 0,
   syscall LINUX_EXIT 0 0 0 0 0 0]

/-- The gateway before its first `seL4_Recv`, with a process of one page. -/
def startOf {ρ : Type} (guest : ρ) : Monitor ρ (Host Unit Server) Seen X86SyscallFrame Word :=
  ⟨guest, ⟨sampleTask sampleBytes, (), Server.boot, true, 0, 0, [], []⟩, []⟩

theorem starts_startOf {ρ : Type} (guest : ρ) : Starts (startOf guest) where
  log := rfl
  requests := rfl
  distinct := by
    have hcap : ∀ page frame, (onePage sampleBytes).cap page = some frame →
        page = 0x1000 ∧ frame = 1 := by
      intro page frame h
      simp only [onePage] at h
      split_ifs at h with hpage
      exact ⟨hpage, (Option.some.inj h).symm⟩
    refine ⟨fun a b frame ha hb => ?_, 2, fun page frame h => ?_⟩
    · rw [(hcap _ _ ha).1, (hcap _ _ hb).1]
    · rw [(hcap page frame h).2]
      decide
  tidy := ⟨rfl, fun _ hp => absurd hp List.not_mem_nil⟩

theorem sampleCalls_accepted : AcceptedBy script sampleCalls (startOf sampleCalls).host.view :=
  ⟨⟨rfl, id⟩, ⟨rfl, id⟩, ⟨rfl, id⟩, ⟨rfl, id⟩, ⟨rfl, id⟩, ⟨rfl, id⟩,
   ⟨⟨rfl, by decide, by decide +kernel⟩, id⟩,
   ⟨⟨⟨rfl, .inl rfl⟩, ⟨by decide, by decide⟩, by decide +kernel⟩, id⟩,
   ⟨⟨⟨rfl, rfl, rfl, rfl, rfl, rfl, rfl⟩, by decide +kernel⟩, id⟩,
   ⟨⟨⟨rfl, rfl⟩, by decide +kernel⟩, id⟩,
   ⟨⟨⟨rfl, rfl, rfl⟩, by decide +kernel⟩, id⟩,
   ⟨⟨⟨rfl, rfl, by decide, rfl⟩, by decide +kernel⟩, id⟩,
   ⟨⟨⟨rfl, rfl, rfl⟩, by decide +kernel, by decide +kernel⟩, id⟩,
   ⟨⟨⟨rfl, rfl, rfl⟩, by decide +kernel, by decide +kernel⟩, id⟩,
   ⟨⟨⟨rfl, rfl, rfl, rfl, rfl, rfl⟩, by decide, by decide +kernel⟩, id⟩,
   ⟨⟨⟨rfl, rfl, rfl, rfl, rfl, rfl⟩, by decide, by decide +kernel⟩, id⟩,
   ⟨⟨⟨rfl, rfl⟩, by decide +kernel⟩, id⟩,
   ⟨⟨rfl, rfl⟩, id⟩,
   ⟨⟨⟨rfl, rfl, rfl, rfl⟩, by decide +kernel⟩, id⟩,
   ⟨⟨⟨rfl, rfl, by decide, rfl⟩, by decide +kernel⟩, id⟩,
   ⟨⟨rfl, rfl⟩, id⟩,
   ⟨⟨⟨rfl, rfl, rfl, rfl⟩, by decide +kernel⟩, id⟩,
   ⟨⟨rfl, rfl, rfl, rfl⟩, id⟩,
   ⟨⟨by decide, by decide +kernel, by decide +kernel⟩, id⟩,
   ⟨⟨⟨rfl, rfl, by decide, rfl⟩, by decide +kernel⟩, id⟩,
   ⟨⟨rfl, rfl, by decide, rfl⟩, id⟩,
   ⟨⟨rfl, rfl⟩, id⟩,
   ⟨⟨rfl, rfl, rfl, rfl⟩, fun h : HasString _ _ _ => absurd h (by decide +kernel)⟩,
   ⟨⟨⟨rfl, rfl, rfl, rfl⟩, by decide +kernel⟩, id⟩,
   ⟨⟨⟨rfl, rfl, rfl, rfl⟩, by decide, by decide +kernel⟩, id⟩,
   ⟨⟨rfl, rfl, rfl, rfl⟩, id⟩,
   ⟨⟨⟨rfl, rfl, by decide, rfl, rfl⟩, by decide +kernel⟩, id⟩,
   ⟨⟨⟨rfl, rfl, rfl⟩, by decide +kernel⟩, id⟩,
   ⟨⟨⟨rfl, rfl, rfl⟩, by decide +kernel, [83, 84, 65, 84, 69, 77, 48, 33], rfl,
     by decide +kernel, by decide⟩, id⟩,
   ⟨⟨⟨rfl, rfl, rfl⟩, by decide +kernel⟩, id⟩,
   ⟨⟨rfl, rfl⟩, id⟩,
   ⟨⟨⟨rfl, rfl, rfl⟩, by decide +kernel⟩, id⟩,
   ⟨⟨rfl, rfl, rfl, rfl⟩, id⟩, trivial⟩
theorem sampleCalls_converse : ∃ log u, Converses caller.guest sight service Entry.Accepts script
    sampleCalls (startOf sampleCalls).host.view log [syscall LINUX_EXIT 0 0 0 0 0 0] u :=
  converses_caller sampleCalls_accepted

theorem sampleCalls_exits (u : Session) : Exits caller [syscall LINUX_EXIT 0 0 0 0 0 0] u :=
  ⟨_, [], [], rfl, rfl, rfl⟩

theorem sampleCalls_passed :
    ∃ t, runLinuxSyscallAbiProbe caller imageWorld (startOf sampleCalls) = .ret .passed t := by
  obtain ⟨log, u, hconv⟩ := sampleCalls_converse
  exact passed_of_accepts imageWorld_faultless rfl (starts_startOf sampleCalls) rfl rfl hconv
    (sampleCalls_exits u)

/-! ## The results -/

/-- **The kernel and `romfsd` do not show**: a process that starts alike behind two gateways makes
the same syscalls, is given the same results, and sees the same memory and TLS base when it goes on,
until one of the two runs ends. -/
theorem replies_agree (P : Probe π) (W : World κ σ) (W' : World κ' σ')
    (s : Monitor π (Host κ σ) Seen X86SyscallFrame Word)
    (s' : Monitor π (Host κ' σ') Seen X86SyscallFrame Word) (hs : Starts s) (hs' : Starts s')
    (hguest : s'.guest = s.guest) (hview : s'.host.view = s.host.view) :
    ∃ ending t ending' t', runLinuxSyscallAbiProbe P W s = .ret ending t ∧
      runLinuxSyscallAbiProbe P W' s' = .ret ending' t' ∧
      (t.log <+: t'.log ∨ t'.log <+: t.log) := by
  obtain ⟨ending, t, hrun, done, p, v, hend⟩ := exists_returns (run_wp P W hs)
  obtain ⟨ending', t', hrun', done', p', v', hend'⟩ := exists_returns (run_wp P W' hs')
  have hconv' := hend'.converses
  rw [hguest, hview] at hconv'
  exact ⟨ending, t, ending', t', hrun, hrun',
    hend.converses.agree hconv' hend.begins hend'.begins⟩

/-- A kernel that maps nothing, and a `romfsd` that gives empty replies. -/
def emptyWorld : World Unit Unit where
  dupAndMap k := (false, k)
  newPage _ _ k := (none, k)
  setTLSBase _ k := (false, k)
  romfsd _ server := (.ofWords [], server)
  stack _ := 0

theorem replies_agree_sample : ∃ t ending' t',
    runLinuxSyscallAbiProbe caller imageWorld (startOf sampleCalls) = .ret .passed t ∧
      runLinuxSyscallAbiProbe caller emptyWorld
        ⟨sampleCalls, ⟨sampleTask sampleBytes, (), (), false, 0, 0, [], []⟩, []⟩ = .ret ending' t' ∧
      (t.log <+: t'.log ∨ t'.log <+: t.log) := by
  have hstart := starts_startOf sampleCalls
  obtain ⟨ending, t, ending', t', hrun, hrun', hlog⟩ :=
    replies_agree caller imageWorld emptyWorld (startOf sampleCalls)
      ⟨sampleCalls, ⟨sampleTask sampleBytes, (), (), false, 0, 0, [], []⟩, []⟩ hstart
      ⟨rfl, rfl, hstart.distinct, hstart.tidy⟩ rfl rfl
  obtain ⟨t₁, hpassed⟩ := sampleCalls_passed
  cases hrun.symm.trans hpassed
  exact ⟨t, ending', t', hrun, hrun', hlog⟩

/-- **What the root task does on behalf of the process**: in every run, its messages to `romfsd` are
a beginning of those of the script, it has accessed only bytes in frames of the process, and no page
of the process is left mapped. -/
theorem root_stays_in_script (P : Probe π) (W : World κ σ)
    (s : Monitor π (Host κ σ) Seen X86SyscallFrame Word) (hs : Starts s) :
    ∃ ending t, runLinuxSyscallAbiProbe P W s = .ret ending t ∧
      t.host.requests <+: gatewayScript.map (·.request) ∧
      (ending = .passed → t.host.requests = gatewayScript.map (·.request)) ∧
      Tidy t.host.task := by
  obtain ⟨ending, t, hrun, done, p, v, hend⟩ := exists_returns (run_wp P W hs)
  obtain ⟨more, hsent, hnone, hmore⟩ := hend.sent
  have hv : v.requests = done.flatMap Entry.requests := by
    rw [requests_of_converses hend.converses]
    show s.host.requests ++ _ = _
    rw [hs.requests, List.nil_append]
  have hall : script.flatMap Entry.requests = gatewayScript.map (·.request) := by
    rw [flatMap_requests, script_calls]
  refine ⟨ending, t, hrun, ?_, fun hpassed => ?_, hend.tidy⟩
  · obtain ⟨rest, hrest⟩ := hend.begins
    rw [hsent, hv, ← hall, ← hrest, List.flatMap_append, List.prefix_append_right_inj]
    cases rest with
    | nil =>
      rw [List.append_nil] at hrest
      rw [hnone hrest]
      exact List.nil_prefix
    | cons e rest =>
      rw [List.flatMap_cons]
      exact (hmore e rest hrest.symm).trans (List.prefix_append _ _)
  · obtain ⟨hdone, -⟩ := hend.passed.mp hpassed
    rw [hsent, hnone hdone, List.append_nil, hv, hdone, hall]

theorem root_stays_in_script_sample : ∃ t,
    runLinuxSyscallAbiProbe caller imageWorld (startOf sampleCalls) = .ret .passed t ∧
      t.host.requests = gatewayScript.map (·.request) ∧ Tidy t.host.task := by
  obtain ⟨ending, t, hrun, -, hall, htidy⟩ :=
    root_stays_in_script caller imageWorld (startOf sampleCalls) (starts_startOf _)
  obtain ⟨t', hrun'⟩ := sampleCalls_passed
  cases hrun.symm.trans hrun'
  exact ⟨t, hrun, hall rfl, htidy⟩

/-- **What the gateway passes**: with a kernel that has its resources, and a started `romfsd` that
has no other client, exactly the processes whose syscalls the entries of the script accept, one
after the other, and that go on to `exit(0)`. -/
theorem passes_iff (d : Romfsd) (P : Probe π) (W : World κ Server) (hW : W.Faultless)
    (hromfsd : W.romfsd = d.handle) (s : Monitor π (Host κ Server) Seen X86SyscallFrame Word)
    (hs : Starts s) (hrecord : s.host.server.record = none)
    (hendpoint : s.host.romfsRootEndpoint = true) :
    (∃ t, runLinuxSyscallAbiProbe P W s = .ret .passed t) ↔ ∃ log p v,
      Converses P.guest sight service Entry.Accepts script s.guest s.host.view log p v ∧
      Exits P p v := by
  constructor
  · rintro ⟨t, hrun⟩
    obtain ⟨ending, t', hrun', done, p, v, hend⟩ := exists_returns (run_wp P W hs)
    cases hrun.symm.trans hrun'
    obtain ⟨rfl, hexits⟩ := hend.passed.mp rfl
    exact ⟨t.log, p, v,
      hend.converses.mono fun _ _ _ _ htest => ⟨htest.1, htest.2 hW⟩, hexits⟩
  · rintro ⟨log, p, v, hconv, hexits⟩
    exact passed_of_accepts hW hromfsd hs hrecord hendpoint hconv hexits

/-- The process of the samples is accepted, and a process that makes no syscall is not passed. -/
theorem passes_iff_sample :
    (∃ t, runLinuxSyscallAbiProbe caller imageWorld (startOf sampleCalls) = .ret .passed t) ∧
      ¬ ∃ t, runLinuxSyscallAbiProbe caller imageWorld (startOf []) = .ret .passed t := by
  constructor
  · obtain ⟨log, u, hconv⟩ := sampleCalls_converse
    exact (passes_iff Romfsd.image caller imageWorld imageWorld_faultless rfl (startOf sampleCalls)
      (starts_startOf _) rfl rfl).mpr ⟨log, _, u, hconv, sampleCalls_exits u⟩
  · rw [passes_iff Romfsd.image caller imageWorld imageWorld_faultless rfl (startOf [])
      (starts_startOf _) rfl rfl]
    rintro ⟨log, p, v, hconv, -⟩
    cases hconv with
    | cons hrun _ _ => cases hrun

end SeLinOS.Gateway
