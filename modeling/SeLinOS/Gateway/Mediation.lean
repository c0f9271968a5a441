import SeLinOS.CLogic.Liberal
import SeLinOS.Gateway.Script

/-!
# The syscalls implement the script

Each syscall of `run_linux_syscall_abi_probe` serves what its entry of the script admits, for any
kernel and any `romfsd`, and rejects it otherwise; where the kernel and `romfsd` do what they are
asked, it serves all that the entry accepts.

* `Mediated`, `Rejected`: a syscall that gets a reply, and one that does not.
* `wp_require` and its siblings: the calls of the root task.
* `implements_script`: the syscalls and the entries, in their order.
-/

namespace SeLinOS.Gateway

open CLogic Prog Sel4 Romfs

variable {κ σ : Type} {W : World κ σ} {h h' : Host κ σ} {frame : X86SyscallFrame}

/-! ## A syscall -/

def Host.memory (h : Host κ σ) : Memory := h.task.user.byte

def Host.view (h : Host κ σ) : Session := ⟨h.memory, h.tlsBase, h.probeTlsBase, h.requests⟩

/-- The kernel has the resources that the gateway asks for. -/
structure World.Faultless (W : World κ σ) : Prop where
  dupAndMap : ∀ k, (W.dupAndMap k).1 = true
  newPage : ∀ u address k, (∃ frame, Fresh u address frame) → (W.newPage u address k).1.isSome
  setTLSBase : ∀ base k, (W.setTLSBase base k).1 = true

/-- The kernel has its resources, and `romfsd` gives the reply that the entry expects. -/
structure Supported (W : World κ σ) (h : Host κ σ) (e : Entry) : Prop where
  kernel : W.Faultless
  endpoint : h.romfsRootEndpoint
  reply : ∀ call, e.call = some call → call.accepts (W.romfsd call.request h.server).1 = true

/-- No page of the process is mapped in the root task, and what the root task has accessed is in
frames of the process. -/
structure Tidy (t : RootTask) : Prop where
  unmapped : t.mapping = none
  confined : ∀ p ∈ t.accesses, p.2 < PAGE_SIZE ∧ ∃ a, t.user.cap (pageBase a) = some p.1

/-- A syscall that gets the reply `r`. -/
structure Mediated (W : World κ σ) (e : Entry) (frame : X86SyscallFrame) (h : Host κ σ) (r : Word)
    (h' : Host κ σ) : Prop where
  needs : e.needs frame h.view
  result : r = e.result frame
  distinct : Distinct h'.task.user
  memory : h'.memory = e.stores frame h.memory
  tlsBase : h'.tlsBase = e.base.getD h.tlsBase
  probeTlsBase : h'.probeTlsBase = e.base.getD h.probeTlsBase
  requests : h'.requests = h.requests ++ e.requests
  server : h'.server = e.requests.foldl (fun s request => (W.romfsd request s).2) h.server
  endpoint : h'.romfsRootEndpoint = h.romfsRootEndpoint
  refused : W.Faultless → ¬ e.refuses frame h.view
  tidy : Tidy h.task → Tidy h'.task

/-- A syscall that gets none. -/
structure Rejected (W : World κ σ) (e : Entry) (frame : X86SyscallFrame) (h h' : Host κ σ) :
    Prop where
  requests : ∃ more, more <+: e.requests ∧ h'.requests = h.requests ++ more
  cause : Supported W h e → ¬ e.Accepts frame h.view
  tidy : Tidy h.task → Tidy h'.task

/-- What the syscalls without a message and without a new TLS base keep. -/
structure Kept (h h' : Host κ σ) : Prop where
  server : h'.server = h.server
  endpoint : h'.romfsRootEndpoint = h.romfsRootEndpoint
  tlsBase : h'.tlsBase = h.tlsBase
  probeTlsBase : h'.probeTlsBase = h.probeTlsBase
  requests : h'.requests = h.requests
  tidy : Tidy h.task → Tidy h'.task

theorem Kept.refl (h : Host κ σ) : Kept h h := ⟨rfl, rfl, rfl, rfl, rfl, id⟩

theorem Kept.trans {h'' : Host κ σ} (k : Kept h h') (k' : Kept h' h'') : Kept h h'' :=
  ⟨k'.server.trans k.server, k'.endpoint.trans k.endpoint, k'.tlsBase.trans k.tlsBase,
    k'.probeTlsBase.trans k.probeTlsBase, k'.requests.trans k.requests, k'.tidy ∘ k.tidy⟩

variable {e : Entry} {r : Word}

theorem Mediated.of_kept (hneeds : e.needs frame h.view) (hresult : r = e.result frame)
    (hd : Distinct h'.task.user) (hmemory : h'.memory = e.stores frame h.memory) (k : Kept h h')
    (hbase : e.base = none) (hcall : e.call = none)
    (hrefused : W.Faultless → ¬ e.refuses frame h.view) :
    Mediated W e frame h r h' where
  needs := hneeds
  result := hresult
  distinct := hd
  memory := hmemory
  tlsBase := by rw [hbase]; exact k.tlsBase
  probeTlsBase := by rw [hbase]; exact k.probeTlsBase
  requests := by rw [Entry.requests, hcall]; exact k.requests.trans (List.append_nil _).symm
  server := by rw [Entry.requests, hcall]; exact k.server
  endpoint := k.endpoint
  refused := hrefused
  tidy := k.tidy

theorem Rejected.of_kept (k : Kept h h') (hcause : Supported W h e → ¬ e.Accepts frame h.view) :
    Rejected W e frame h h' :=
  ⟨⟨[], List.nil_prefix, k.requests.trans (List.append_nil _).symm⟩, hcause, k.tidy⟩

/-- The syscall of an entry. -/
def Handles (W : World κ σ) (handler : X86SyscallFrame → GatewayM κ σ Word) (e : Entry) : Prop :=
  ∀ frame h, Distinct h.task.user → wp (handler frame) (fun r h' => Mediated W e frame h r h')
    (fun x h' => x = .rejected ∧ Rejected W e frame h h') h

/-! ## The calls of the root task -/

variable {α : Type} {E : Ending → Host κ σ → Prop} {a value : Word}

theorem wp_require {c : Prop} [Decidable c] {Q : Unit → Host κ σ → Prop} (hpass : c → Q () h)
    (hfail : ¬ c → E .rejected h) : wp (require c) Q E h :=
  wp_when (fun hno => wp_ret (hfail hno)) fun hyes => hpass (not_not.mp hyes)

theorem wp_withMapping {p : Bool → Prog Ending RootTask α} {Q : α → Host κ σ → Prop}
    (hp : ∀ mapped kernel, (W.dupAndMap h.kernel) = (mapped, kernel) →
      wp (p mapped) (fun a task => Q a { h with task, kernel })
        (fun e task => E e { h with task, kernel }) h.task) :
    wp (withMapping W p) Q E h := by
  have hwp := hp _ _ rfl
  unfold wp withMapping at *
  simp only
  cases hrun : p (W.dupAndMap h.kernel).1 h.task with
  | ok a t => rw [hrun] at hwp; exact hwp
  | ret e t => rw [hrun] at hwp; exact hwp
  | fault x => rw [hrun] at hwp; exact hwp

theorem wp_hasLinuxUserWordPage {Q : Bool → Host κ σ → Prop}
    (hQ : ∀ mapped : Bool, (mapped = true ↔ a ≠ 0 ∧ InOnePage h.memory a.toNat 8) → Q mapped h) :
    wp (hasLinuxUserWordPage a) Q E h := by
  refine wp_bind (wp_get (wp_pure (hQ _ ?_)))
  have htests : (a + 8 ≥ a ∧ (a + 8 - 1) &&& pageMask = a &&& pageMask) ↔
      a.toNat + 8 < 2 ^ 64 ∧ a.toNat - pageBase a.toNat + 8 ≤ PAGE_SIZE := by
    refine Iff.trans ?_ (inPage_iff (a := a) (n := 8) (by decide))
    rw [not_or, not_not, BitVec.not_lt, ge_iff_le]
  rw [Bool.and_eq_true, decide_eq_true_eq, and_assoc, htests, toNat_base,
    Option.isSome_iff_exists, ← byte_isSome]
  constructor
  · rintro ⟨hne, ⟨hwrap, hpage⟩, hmapped⟩
    exact ⟨hne, hmapped, hwrap, hpage⟩
  · rintro ⟨hne, hmapped, hwrap, hpage⟩
    exact ⟨hne, ⟨hwrap, hpage⟩, hmapped⟩

/-- A helper leaves no mapping. -/
abbrev Unmaps (p : Prog Ending RootTask α) : Prop := KeepsOk (fun t => t.mapping = none) p

theorem unmaps_withUserPage {mapped : Bool} {base : Word} {failed : α}
    {body : Prog Ending RootTask α} : Unmaps (withUserPage mapped base failed body) := by
  intro t ht
  refine wlp_bind (wlp_get ?_)
  cases t.user.cap base.toNat with
  | none => exact wlp_pure ht
  | some frame =>
    refine wlp_ite (fun _ => wlp_bind (wlp_modify (wlp_bind ?_))) fun _ => wlp_pure ht
    -- Whatever the body does, the mapping is taken down after it.
    cases hbody : body { t with mapping := some frame } with
    | ok a t' => exact wlp_of_run hbody (wlp_bind (wlp_modify (wlp_pure rfl)))
    | ret e t' => exact wlp_of_wp (wp_of_retRun hbody trivial)
    | fault x => exact wlp_of_faultRun hbody

theorem unmaps_ite {c : Prop} [Decidable c] {mapped : Bool} {base : Word} {failed : α}
    {body : Prog Ending RootTask α} :
    Unmaps (if c then pure failed else withUserPage mapped base failed body) := fun _ ht =>
  wlp_ite (fun _ => wlp_pure ht) fun _ => unmaps_withUserPage _ ht

theorem unmaps_copyLinuxWordToUser {mapped : Bool} : Unmaps (copyLinuxWordToUser mapped a value) :=
  unmaps_ite

theorem unmaps_copyLinuxBytesToUser {mapped : Bool} {source : Option Buf} {length : Word} :
    Unmaps (copyLinuxBytesToUser mapped a source length) := by
  cases source with
  | none => exact .pure false
  | some source => exact unmaps_ite

theorem unmaps_copyLinuxWriteBuffer {mapped : Bool} {length : Word} {output : Buf} :
    Unmaps (copyLinuxWriteBuffer mapped a length output) := unmaps_ite

theorem unmaps_copiedEqualsFrom {copied : Buf} (index : Nat) (rest : List UInt8) :
    Unmaps (copiedEqualsFrom copied index rest) := by
  induction rest generalizing index with
  | nil => exact .pure true
  | cons c rest ih =>
    refine .bind (.read copied index) fun byte => ?_
    exact .ite (.pure false) (ih (index + 1))

theorem unmaps_copyLinuxExactString {mapped : Bool} {expected : Option CStr} {copied : Buf} :
    Unmaps (copyLinuxExactString mapped a expected copied) := by
  cases expected with
  | none => exact .pure false
  | some expected =>
    refine .ite (.pure false) (.bind unmaps_copyLinuxWriteBuffer fun r => ?_)
    exact .ite (unmaps_copiedEqualsFrom 0 _) (.pure false)

theorem Tidy.of_touched {t t' : RootTask} {b n : Nat} (h : Tidy t) (htouched : Touched t b n t')
    (hcap : t'.user.cap = t.user.cap) (hmapping : t'.mapping = none) : Tidy t' := by
  refine ⟨hmapping, fun p hp => ?_⟩
  rw [hcap]
  rcases htouched p hp with hold | ⟨hframe, -, -, hlt⟩
  · exact h.confined p hold
  · exact ⟨hlt, b, hframe⟩

/-- A helper with its specification, and that it leaves no mapping. -/
theorem wp_helper {p : Bool → Prog Ending RootTask α} {R : Bool → α → RootTask → Prop}
    {Q : α → Host κ σ → Prop} (hunmaps : ∀ mapped, Unmaps (p mapped))
    (hp : ∀ mapped, wp (p mapped) (R mapped) (fun _ _ => False) h.task)
    (hQ : ∀ mapped a task kernel, (W.Faultless → mapped = true) → R mapped a task →
      (h.task.mapping = none → task.mapping = none) → Q a { h with task, kernel }) :
    wp (withMapping W p) Q E h := by
  refine wp_withMapping fun mapped kernel hdup => ?_
  have hfaultless : W.Faultless → mapped = true := fun hfaultless => by
    have hmapped := hfaultless.dupAndMap h.kernel
    rwa [hdup] at hmapped
  cases hrun : p mapped h.task with
  | ok a task =>
    refine wp_of_run hrun (hQ mapped a task kernel hfaultless (wp_ok (hp mapped) hrun) ?_)
    intro hnone
    have hunmapped := hunmaps mapped h.task hnone
    rwa [wlp, hrun] at hunmapped
  | ret e task => exact absurd (wp_ret_of (hp mapped) hrun) id
  | fault x => exact absurd hrun (wp_noFault (hp mapped) x)

/-- A copy to the process that fails. -/
structure Failed (W : World κ σ) (c : Prop) (h h' : Host κ σ) : Prop where
  kept : Kept h h'
  cause : W.Faultless → ¬ c

/-- A copy of `n` bytes to the process. -/
structure Stored (n : Nat) (a : Word) (f : Nat → UInt8) (h h' : Host κ σ) : Prop where
  kept : Kept h h'
  distinct : Distinct h'.task.user
  page : InOnePage h.memory a.toNat n
  memory : h'.memory = putBytes a.toNat n f h.memory

variable {n : Nat} {f : Nat → UInt8} {admitted : Prop}

/-- A helper that copies to the process, with the test of its result. -/
theorem wp_copy {p : Bool → Prog Ending RootTask Bool} {Q : Unit → Host κ σ → Prop}
    (hd : Distinct h.task.user) (hunmaps : ∀ mapped, Unmaps (p mapped))
    (hp : ∀ mapped, wp (p mapped) (fun r t => CopiedToUser (Admits mapped h.task.user
      a.toNat n) a.toNat n f h.task r t) (fun _ _ => False) h.task)
    (hstored : ∀ h', Stored n a f h h' → Q () h')
    (hfailed : ∀ h', Failed W (InOnePage h.memory a.toNat n) h h' → E .rejected h') :
    wp (withMapping W p >>= fun ok => require ok) Q E h := by
  refine wp_bind (wp_helper hunmaps hp fun mapped ok task kernel hmapped hcopied hnone => ?_)
  have k : Kept h { h with task, kernel } := ⟨rfl, rfl, rfl, rfl, rfl, fun htidy =>
    htidy.of_touched hcopied.touched hcopied.cap (hnone htidy.unmapped)⟩
  refine wp_require (fun hok => hstored _ ?_) fun hok => hfailed _ ?_
  · obtain ⟨page, hin, huser⟩ := hcopied.blit hok
    refine ⟨k, hd.of_cap hcopied.cap, inOnePage_iff.mpr ⟨page, hin⟩, ?_⟩
    show task.user.byte = _
    rw [huser]
    exact byte_blitFrame hd hin.cap hin.page
  · exact ⟨k, fun hfaultless hin =>
      hok (hcopied.success.mpr (admits_iff.mpr ⟨hmapped hfaultless, hin⟩))⟩

theorem wp_requireWordToUser {Q : Unit → Host κ σ → Prop} (hd : Distinct h.task.user)
    (hstored : ∀ h', Stored 8 a (wordByte value) h h' → Q () h')
    (hfailed : ∀ h', Failed W (InOnePage h.memory a.toNat 8) h h' → E .rejected h') :
    wp (requireWordToUser W a value) Q E h := by
  exact wp_copy hd (fun _ => unmaps_copyLinuxWordToUser) (fun _ => copyLinuxWordToUser_wp) hstored
    hfailed

/-- What the array of a write holds. -/
structure BufferRead (n : Nat) (a : Word) (h h' : Host κ σ) (output : Buf) : Prop where
  kept : Kept h h'
  user : h'.task.user = h.task.user
  length : 0 < n ∧ n ≤ ABI_MAX_WRITE_BYTES
  page : InOnePage h.memory a.toNat n
  holds : Holds h.memory a.toNat (output.slice 0 n)

theorem wp_requireWriteBuffer {length : Word} {Q : Buf → Host κ σ → Prop}
    (hread : ∀ h' output, BufferRead length.toNat a h h' output → Q output h')
    (hfailed : ∀ h', Failed W ((0 < length.toNat ∧ length.toNat ≤ ABI_MAX_WRITE_BYTES) ∧
      InOnePage h.memory a.toNat length.toNat) h h' → E .rejected h') :
    wp (requireWriteBuffer W a length) Q E h := by
  refine wp_bind (wp_helper (fun _ => unmaps_copyLinuxWriteBuffer)
    (fun _ => copyLinuxWriteBuffer_wp (Nat.lt_succ_self _)) ?_)
  rintro mapped ⟨ok, output⟩ task kernel hmapped hcopied hnone
  have hcap : task.user.cap = h.task.user.cap := congrArg _ hcopied.user
  have k : Kept h { h with task, kernel } := ⟨rfl, rfl, rfl, rfl, rfl, fun htidy =>
    htidy.of_touched hcopied.touched hcap (hnone htidy.unmapped)⟩
  refine wp_bind (wp_require (fun hok => wp_pure (hread _ _ ?_)) fun hok => hfailed _ ?_)
  · obtain ⟨hpos, hle, hadmits⟩ := hcopied.success.mp hok
    refine ⟨k, hcopied.user, ⟨hpos, hle⟩, (admits_iff.mp hadmits).2, holds_iff.mpr ?_⟩
    rw [Buf.length_slice]
    exact (hcopied.copied hok).1
  · refine ⟨k, fun hfaultless ⟨hlength, hin⟩ => hok (hcopied.success.mpr ?_)⟩
    exact ⟨hlength.1, hlength.2, admits_iff.mpr ⟨hmapped hfaultless, hin⟩⟩

/-- The string of the process is compared; it is found equal only if it is. -/
theorem wp_exactString {string : CStr} {Q : Bool → Host κ σ → Prop}
    (hlength : string.bytes.length < ABI_MAX_WRITE_BYTES)
    (hQ : ∀ equal h', Kept h h' → h'.task.user = h.task.user →
      (equal = true → HasString h.memory a string) →
      (W.Faultless → HasString h.memory a string → equal = true) → Q equal h') :
    wp (exactString W a string) Q E h := by
  refine wp_helper (fun _ => unmaps_copyLinuxExactString)
    (fun _ => copyLinuxExactString_wp (Nat.lt_succ_self _)) ?_
  intro mapped equal task kernel hmapped hcompared hnone
  have hcap : task.user.cap = h.task.user.cap := congrArg _ hcompared.user
  have hbytes : Holds h.memory a.toNat (string.bytes ++ [0]) ↔
      h.task.user.bytes a.toNat (string.bytes.length + 1) = (string.bytes ++ [0]).map some := by
    rw [Host.memory, holds_iff, List.length_append, List.length_singleton]
  refine hQ _ _ ⟨rfl, rfl, rfl, rfl, rfl, fun htidy => htidy.of_touched hcompared.touched hcap
    (hnone htidy.unmapped)⟩ hcompared.user (fun hequal => ?_)
    fun hfaultless hstring => hcompared.equal.mpr ?_
  · obtain ⟨_, ⟨⟩, -, hadmits, hheld⟩ := hcompared.equal.mp hequal
    exact ⟨(admits_iff.mp hadmits).2, hbytes.mpr hheld⟩
  · exact ⟨string, rfl, hlength, admits_iff.mpr ⟨hmapped hfaultless, hstring.1⟩,
      hbytes.mp hstring.2⟩

/-- A new page leaves the others where they are. -/
theorem tidy_mapPage {t : RootTask} {address frame : Nat} (hfresh : Fresh t.user address frame)
    (h : Tidy t) : Tidy { t with user := mapPage t.user address frame } := by
  refine ⟨h.unmapped, fun p hp => ?_⟩
  obtain ⟨hlt, b, hcap⟩ := h.confined p hp
  refine ⟨hlt, b, ?_⟩
  have hb : pageBase b ≠ address := by
    rintro hb
    rw [hb, hfresh.free] at hcap
    cases hcap
  exact (Function.update_of_ne hb ..).trans hcap

theorem wp_provisionLinuxAnonymousPage {Q : Bool → Host κ σ → Prop} (hd : Distinct h.task.user)
    (hpage : pageBase a.toNat = a.toNat)
    (htrue : ∀ h', Kept h h' → Distinct h'.task.user → h.memory a.toNat = none →
      h'.memory = zeroPage a h.memory → Q true h')
    (hfalse : ∀ h', Failed W (h.memory a.toNat = none) h h' → Q false h') :
    wp (provisionLinuxAnonymousPage W a) Q E h := by
  have hnone : h.memory a.toNat = none ↔ h.task.user.cap a.toNat = none := by
    rw [Host.memory, UserSpace.byte, Option.map_eq_none_iff, hpage]
  rcases hnew : W.newPage h.task.user a.toNat h.kernel with ⟨_ | ⟨frame, hfresh⟩, kernel⟩
  · have hrun : provisionLinuxAnonymousPage W a h = .ok false { h with kernel } := by
      rw [provisionLinuxAnonymousPage, hnew]
    refine wp_of_run hrun (hfalse _ ⟨⟨rfl, rfl, rfl, rfl, rfl, id⟩, fun hfaultless hfree => ?_⟩)
    have hsome := hfaultless.newPage h.task.user a.toNat h.kernel
      (hd.exists_fresh (hnone.mp hfree))
    rw [hnew] at hsome
    cases hsome
  · have hrun : provisionLinuxAnonymousPage W a h =
        .ok true { h with kernel, task.user := mapPage h.task.user a.toNat frame } := by
      rw [provisionLinuxAnonymousPage, hnew]
    exact wp_of_run hrun (htrue _ ⟨rfl, rfl, rfl, rfl, rfl, tidy_mapPage hfresh⟩
      (distinct_mapPage hd hfresh) (hnone.mpr hfresh.free) (byte_mapPage hfresh))

theorem wp_setTLSBase {Q : Bool → Host κ σ → Prop}
    (htrue : ∀ kernel, Q true { h with kernel, tlsBase := a })
    (hfalse : ∀ kernel, ¬ W.Faultless → Q false { h with kernel }) :
    wp (setTLSBase W a) Q E h := by
  rcases hset : W.setTLSBase a h.kernel with ⟨_ | _, kernel⟩
  · have hrun : setTLSBase W a h = .ok false { h with kernel } := by rw [setTLSBase, hset]
    refine wp_of_run hrun (hfalse kernel fun hfaultless => ?_)
    have htrue := hfaultless.setTLSBase a h.kernel
    rw [hset] at htrue
    cases htrue
  · have hrun : setTLSBase W a h = .ok true { h with kernel, tlsBase := a } := by
      rw [setTLSBase, hset]
    exact wp_of_run hrun (htrue kernel)

/-- A message to `romfsd`, with its reply. -/
structure Called (W : World κ σ) (request : Message) (h h' : Host κ σ) : Prop where
  task : h'.task = h.task
  server : h'.server = (W.romfsd request h.server).2
  endpoint : h'.romfsRootEndpoint = h.romfsRootEndpoint
  tlsBase : h'.tlsBase = h.tlsBase
  probeTlsBase : h'.probeTlsBase = h.probeTlsBase
  requests : h'.requests = h.requests ++ [request]

theorem wp_requireRomfs {request : Message} {accepts : Word → Word → Word → Bool}
    {Q : Word × Word → Host κ σ → Prop}
    (hpass : ∀ h' status value payload, Called W request h h' →
      accepts status value payload = true → Q (value, payload) h')
    (hfail : ∀ h' more, more <+: [request] → h'.requests = h.requests ++ more → h'.task = h.task →
      (h.romfsRootEndpoint → ¬ (rootReply (W.romfsd request h.server).1).any
        (fun r => accepts r.1 r.2.1 r.2.2) = true) → E .rejected h') :
    wp (requireRomfs W request accepts) Q E h := by
  unfold requireRomfs
  by_cases hendpoint : h.romfsRootEndpoint
  · have hrun : callRomfsRoot W request h = .ok (rootReply (W.romfsd request h.server).1)
        { h with
          server := (W.romfsd request h.server).2
          requests := h.requests ++ [request] } := by
      rw [callRomfsRoot, if_pos hendpoint]
    refine wp_bind (wp_of_run hrun ?_)
    rcases hreply : rootReply (W.romfsd request h.server).1 with _ | ⟨status, value, payload⟩
    · refine wp_ret (hfail _ [request] (List.prefix_refl _) rfl rfl fun _ => ?_)
      rw [hreply]
      exact Bool.false_ne_true
    · refine wp_bind (wp_require (fun hyes => wp_pure ?_) fun hno => ?_)
      · exact hpass _ status value payload ⟨rfl, rfl, rfl, rfl, rfl, rfl⟩ hyes
      · refine hfail _ [request] (List.prefix_refl _) rfl rfl fun _ => ?_
        rwa [hreply]
  · have hrun : callRomfsRoot W request h = .ok none h := by
      rw [callRomfsRoot, if_neg hendpoint]
    refine wp_bind (wp_of_run hrun (wp_ret ?_))
    exact hfail h [] List.nil_prefix (List.append_nil _).symm rfl fun hyes => absurd hyes hendpoint

/-! ## The syscalls -/

/-- The tests on the registers come first. -/
theorem handles_require {tests : X86SyscallFrame → Prop} [DecidablePred tests]
    {rest : X86SyscallFrame → GatewayM κ σ Word} (hneeds : ∀ frame v, e.needs frame v → tests frame)
    (hrest : ∀ frame h, tests frame → Distinct h.task.user →
      wp (rest frame) (fun r h' => Mediated W e frame h r h')
        (fun x h' => x = .rejected ∧ Rejected W e frame h h') h) :
    Handles W (fun frame => do require (tests frame); rest frame) e := by
  intro frame h hd
  refine wp_bind (wp_require (fun hyes => hrest frame h hyes hd) fun hno => ⟨rfl, ?_⟩)
  exact .of_kept (.refl h) fun _ haccepts => hno (hneeds _ _ haccepts.1)

theorem handles_plain {tests : X86SyscallFrame → Prop} [DecidablePred tests] {result : Word} :
    Handles W (fun frame => do require (tests frame); pure result) (plain tests result) :=
  handles_require (fun _ _ hneeds => hneeds) fun _ h hyes hd =>
    wp_pure (.of_kept hyes rfl hd rfl (.refl h) rfl rfl fun _ => id)

/-- A test that a word of the process is in one of its pages. -/
theorem handles_wordPage {tests : X86SyscallFrame → Prop} [DecidablePred tests]
    {address : X86SyscallFrame → Word} {result : Word} :
    Handles W (fun frame => do
      require (tests frame)
      let mapped ← hasLinuxUserWordPage (address frame)
      require mapped
      pure result) (wordPage tests address result) := by
  refine handles_require (fun _ _ hneeds => hneeds.1) fun frame h hyes hd => ?_
  refine wp_bind (wp_hasLinuxUserWordPage fun mapped hmapped => ?_)
  refine wp_bind (wp_require (fun hpage => wp_pure ?_) fun hpage => ⟨rfl, ?_⟩)
  · exact .of_kept ⟨hyes, hmapped.mp hpage⟩ rfl hd rfl (.refl h) rfl rfl fun _ => id
  · exact .of_kept (.refl h) fun _ haccepts => hpage (hmapped.mpr haccepts.1.2)

theorem handles_futex {operation result : Word} : Handles W (futex · operation result)
    (wordPage (fun frame => frame.rax = LINUX_FUTEX ∧ frame.rsi = operation ∧ frame.rdx = 1 ∧
      frame.r10 = 0 ∧ frame.r8 = 0 ∧ frame.r9 = 0) (·.rdi) result) := by
  refine handles_require (fun _ _ hneeds => hneeds.1.1) fun frame h hrax hd => ?_
  refine wp_bind (wp_hasLinuxUserWordPage fun mapped hmapped => ?_)
  refine wp_bind (wp_require (fun hyes => wp_pure ?_) fun hno => ⟨rfl, ?_⟩)
  · exact .of_kept ⟨⟨hrax, hyes.2⟩, hmapped.mp hyes.1⟩ rfl hd rfl (.refl h) rfl rfl fun _ => id
  · exact .of_kept (.refl h) fun _ haccepts =>
      hno ⟨hmapped.mpr haccepts.1.2, haccepts.1.1.2⟩

theorem handles_write : Handles W (write W) console := by
  refine handles_require (fun _ _ hneeds => hneeds.1) fun frame h hyes hd => ?_
  refine wp_bind (wp_requireWriteBuffer (fun h' output hread => ?_) fun h' hfailed => ⟨rfl, ?_⟩)
  · refine wp_bind (wp_modify (wp_pure ?_))
    have k := hread.kept
    exact .of_kept ⟨hyes, hread.length, hread.page⟩ rfl (hd.of_cap (congrArg _ hread.user))
      (congrArg UserSpace.byte hread.user)
      ⟨k.server, k.endpoint, k.tlsBase, k.probeTlsBase, k.requests, k.tidy⟩ rfl rfl fun _ => id
  · exact .of_kept hfailed.kept fun hsupported haccepts =>
      hfailed.cause hsupported.kernel haccepts.1.2

/-- A new page. -/
theorem handles_newPage {tests : X86SyscallFrame → Prop} [DecidablePred tests] {address : Word}
    (hpage : pageBase address.toNat = address.toNat) :
    Handles W (fun frame => do
      require (tests frame)
      let provisioned ← provisionLinuxAnonymousPage W address
      require provisioned
      pure address) (newPage tests address) := by
  refine handles_require (fun _ _ hneeds => hneeds.1) fun frame h hyes hd => ?_
  refine wp_bind (wp_provisionLinuxAnonymousPage hd hpage ?_ ?_)
  · intro h' k hd' hfree hmemory
    refine wp_bind (wp_require (fun _ => wp_pure ?_) fun hno => absurd rfl hno)
    exact .of_kept ⟨hyes, hfree⟩ rfl hd' hmemory k rfl rfl fun _ => id
  · intro h' hfailed
    refine wp_bind (wp_require (fun hyes => absurd hyes Bool.false_ne_true) fun _ => ⟨rfl, ?_⟩)
    exact .of_kept hfailed.kept fun hsupported haccepts =>
      hfailed.cause hsupported.kernel haccepts.1.2

theorem handles_uname : Handles W (uname W) utsname := by
  refine handles_require (fun _ _ hneeds => hneeds.1) fun frame h hyes hd => ?_
  have hn : (BitVec.ofNat 64 LINUX_UTSNAME_BYTES).toNat = LINUX_UTSNAME_BYTES := by decide
  have hcopy : ∀ mapped, wp (copyLinuxBytesToUser mapped frame.rdi (some linuxUtsname)
      (BitVec.ofNat 64 LINUX_UTSNAME_BYTES)) (fun r t => CopiedToUser (Admits mapped
        h.task.user frame.rdi.toNat LINUX_UTSNAME_BYTES) frame.rdi.toNat LINUX_UTSNAME_BYTES
        linuxUtsname.byte h.task r t) (fun (_ : Ending) _ => False) h.task := by
    intro mapped
    have hwp : wp (copyLinuxBytesToUser mapped frame.rdi (some linuxUtsname)
        (BitVec.ofNat 64 LINUX_UTSNAME_BYTES)) _ (fun (_ : Ending) _ => False) h.task :=
      copyLinuxBytesToUser_wp fun b hb => by
        cases hb
        exact hn.le
    rw [hn] at hwp
    refine wp_mono hwp (fun r t hcopied => ?_) fun _ _ hno => hno
    refine { hcopied with success := hcopied.success.trans ?_ }
    exact ⟨fun hyes => hyes.2.2.2, fun hyes => ⟨rfl, by decide, by decide, hyes⟩⟩
  rw [← bind_assoc_run]
  refine wp_bind (wp_copy hd (fun _ => unmaps_copyLinuxBytesToUser) hcopy
    (fun h' hstored => ?_) fun h' hfailed => ⟨rfl, ?_⟩)
  · exact wp_pure (.of_kept ⟨hyes, hstored.page⟩ rfl hstored.distinct hstored.memory hstored.kept
      rfl rfl fun _ => id)
  · exact .of_kept hfailed.kept fun hsupported haccepts =>
      hfailed.cause hsupported.kernel haccepts.1.2

theorem handles_setFs : Handles W (archSetFs W) setsFs := by
  refine handles_require (fun _ _ hneeds => hneeds.1) fun frame h hyes hd => ?_
  have hrsi : frame.rsi = LINUX_MMAP_ADDRESS := hyes.2.2
  have hne : frame.rsi ≠ 0 := by rw [hrsi]; decide
  refine wp_bind (wp_hasLinuxUserWordPage fun mapped hmapped => ?_)
  refine wp_bind (wp_require (fun hpage => ?_) fun hpage => ⟨rfl, ?_⟩)
  · have hin := (hmapped.mp hpage).2
    refine wp_bind (wp_setTLSBase (fun kernel => ?_) fun kernel hfault => ?_)
    · refine wp_bind (wp_require (fun _ => wp_bind (wp_modify (wp_pure ?_)))
        fun hno => absurd rfl hno)
      exact ⟨⟨hyes, hin⟩, rfl, hd, rfl, hrsi, hrsi, (List.append_nil _).symm, rfl, rfl,
        fun _ hno => hno, id⟩
    · refine wp_bind (wp_require (fun hyes => absurd hyes Bool.false_ne_true) fun _ => ⟨rfl, ?_⟩)
      exact .of_kept ⟨rfl, rfl, rfl, rfl, rfl, id⟩ fun hsupported _ => hfault hsupported.kernel
  · exact .of_kept (.refl h) fun _ haccepts => hpage (hmapped.mpr ⟨hne, haccepts.1.2⟩)

theorem handles_getFs : Handles W (archGetFs W) getsFs := by
  intro frame h hd
  refine wp_bind (wp_get (wp_bind (wp_require (fun hyes => ?_) fun hno => ⟨rfl, ?_⟩)))
  · refine wp_bind (wp_requireWordToUser hd (fun h' hstored => ?_) fun h' hfailed => ⟨rfl, ?_⟩)
    · refine wp_pure (.of_kept ⟨hyes, hstored.page⟩ rfl hstored.distinct ?_ hstored.kept rfl rfl
        fun _ => id)
      rw [hstored.memory, hyes.2.2.2]
      rfl
    · exact .of_kept hfailed.kept fun hsupported haccepts =>
        hfailed.cause hsupported.kernel haccepts.1.2
  · exact .of_kept (.refl h) fun _ haccepts => hno haccepts.1.1

/-- The second word is after the first one, so that storing the first one does not matter to its
page. -/
theorem handles_twoWords {tests : X86SyscallFrame → Prop} [DecidablePred tests]
    {address : X86SyscallFrame → Word} {first second : Word} :
    Handles W (fun frame => do require (tests frame); twoWords W (address frame) first second)
      (storesWords tests address first second) := by
  refine handles_require (fun _ _ hneeds => hneeds.1) fun frame h hyes hd => ?_
  refine wp_bind (wp_requireWordToUser hd (fun h₁ hfirst => ?_) fun h' hfailed => ⟨rfl, ?_⟩)
  · have hpage : InOnePage h₁.memory (address frame + 8).toNat 8 ↔
        InOnePage h.memory (address frame + 8).toNat 8 := by
      have hwrap := hfirst.page.noWrap
      have hnext : (address frame + 8).toNat = (address frame).toNat + 8 := by
        rw [BitVec.toNat_add]
        exact Nat.mod_eq_of_lt hwrap
      rw [hfirst.memory]
      refine inOnePage_putBytes ?_
      rw [putBytes, if_neg (by omega)]
    refine wp_bind (wp_requireWordToUser hfirst.distinct (fun h' hsecond => wp_pure ?_)
      fun h' hfailed => ⟨rfl, ?_⟩)
    · refine .of_kept ⟨hyes, hfirst.page, hpage.mp hsecond.page⟩ rfl hsecond.distinct ?_
        (hfirst.kept.trans hsecond.kept) rfl rfl fun _ => id
      rw [hsecond.memory, hfirst.memory]
      rfl
    · exact .of_kept (hfirst.kept.trans hfailed.kept) fun hsupported haccepts =>
        hfailed.cause hsupported.kernel (hpage.mpr haccepts.1.2.2)
  · exact .of_kept hfailed.kept fun hsupported haccepts =>
      hfailed.cause hsupported.kernel haccepts.1.2.1

/-! ## The syscalls with a message -/

variable {request : Message} {check : Message → Bool} {h₁ : Host κ σ}

theorem Mediated.of_called (hneeds : e.needs frame h.view) (hresult : r = e.result frame)
    (hd : Distinct h'.task.user) (hmemory : h'.memory = e.stores frame h.memory)
    (k : Kept h h₁) {h₂ : Host κ σ} (hcalled : Called W request h₁ h₂) (k' : Kept h₂ h')
    (hbase : e.base = none) (hcall : e.call = some ⟨request, check⟩)
    (hrefused : W.Faultless → ¬ e.refuses frame h.view) :
    Mediated W e frame h r h' where
  needs := hneeds
  result := hresult
  distinct := hd
  memory := hmemory
  tlsBase := by rw [hbase]; exact k'.tlsBase.trans (hcalled.tlsBase.trans k.tlsBase)
  probeTlsBase := by
    rw [hbase]
    exact k'.probeTlsBase.trans (hcalled.probeTlsBase.trans k.probeTlsBase)
  requests := by
    rw [Entry.requests, hcall, k'.requests, hcalled.requests, k.requests]
    rfl
  server := by
    rw [Entry.requests, hcall, k'.server, hcalled.server, k.server]
    rfl
  endpoint := k'.endpoint.trans (hcalled.endpoint.trans k.endpoint)
  refused := hrefused
  tidy htidy := k'.tidy (hcalled.task ▸ k.tidy htidy)

/-- The call of the entry, after statements that keep `romfsd`. -/
theorem wp_entryCall {accepts : Word → Word → Word → Bool} {Q : Word × Word → Host κ σ → Prop}
    (k : Kept h h₁) (hcall : e.call = some ⟨request, check⟩)
    (haccepts : check = fun reply => (rootReply reply).any fun r => accepts r.1 r.2.1 r.2.2)
    (hpass : ∀ h₂ status value payload, Called W request h₁ h₂ →
      accepts status value payload = true → Q (value, payload) h₂) :
    wp (requireRomfs W request accepts) Q
      (fun x h' => x = .rejected ∧ Rejected W e frame h h') h₁ := by
  refine wp_requireRomfs hpass fun h' more hmore hrequests htask hno =>
    ⟨rfl, ⟨more, ?_, ?_⟩, ?_, fun htidy => htask ▸ k.tidy htidy⟩
  · rw [Entry.requests, hcall]
    exact hmore
  · rw [hrequests, k.requests]
  · intro hsupported
    have hreply := hsupported.reply _ hcall
    rw [haccepts, ← k.server] at hreply
    exact absurd hreply (hno (k.endpoint.trans hsupported.endpoint))

/-- A copy that fails after the call of the entry. -/
theorem Rejected.of_called (k : Kept h h₁) {h₂ : Host κ σ} (hcalled : Called W request h₁ h₂)
    (k' : Kept h₂ h') (hcall : e.call = some ⟨request, check⟩)
    (hcause : Supported W h e → ¬ e.Accepts frame h.view) : Rejected W e frame h h' := by
  refine ⟨⟨[request], ?_, ?_⟩, hcause, fun htidy => k'.tidy (hcalled.task ▸ k.tidy htidy)⟩
  · rw [Entry.requests, hcall]
    exact List.prefix_refl _
  · rw [k'.requests, hcalled.requests, k.requests]

theorem handles_close {fd : Word} : Handles W (close W · fd) (closes fd) := by
  refine handles_require (fun _ _ hneeds => hneeds) fun frame h hyes hd => ?_
  refine wp_bind (wp_entryCall (.refl h) rfl rfl fun h₂ _ _ _ hcalled _ => wp_pure ?_)
  refine .of_called hyes rfl ?_ ?_ (.refl h) hcalled (.refl h₂) rfl rfl fun _ => id
  · rw [hcalled.task]
    exact hd
  · rw [Host.memory, hcalled.task]
    rfl

/-- The store of the word that `romfsd` gives. -/
theorem handles_reads {tests : X86SyscallFrame → Prop} [DecidablePred tests]
    {fd length magic result : Word} :
    Handles W (fun frame => do require (tests frame); readToUser W frame fd length magic result)
      (reads tests fd length magic result) := by
  refine handles_require (fun _ _ hneeds => hneeds.1) fun frame h hyes hd => ?_
  refine wp_bind (wp_entryCall (.refl h) rfl rfl fun h₂ status value payload hcalled hpass => ?_)
  have hpayload : payload = magic := by
    simp only [Bool.and_eq_true, beq_iff_eq] at hpass
    exact hpass.2
  have hmemory : h₂.memory = h.memory := congrArg (UserSpace.byte ∘ RootTask.user) hcalled.task
  have hd₂ : Distinct h₂.task.user := by
    rw [hcalled.task]
    exact hd
  refine wp_bind (wp_requireWordToUser hd₂ (fun h' hstored => wp_pure ?_)
    fun h' hfailed => ⟨rfl, ?_⟩)
  · rw [hpayload] at hstored
    refine .of_called ⟨hyes, ?_⟩ rfl hstored.distinct ?_ (.refl h) hcalled hstored.kept rfl rfl
      fun _ => id
    · rw [Host.view, ← hmemory]
      exact hstored.page
    · rw [hstored.memory, hmemory]
      rfl
  · refine .of_called (.refl h) hcalled hfailed.kept rfl fun hsupported haccepts => ?_
    refine hfailed.cause hsupported.kernel ?_
    rw [hmemory]
    exact haccepts.1.2

/-- The call of an `openat`, after the path. -/
theorem mediated_open {tests : X86SyscallFrame → Prop} {path : CStr} {fd value : Word}
    {h₂ : Host κ σ} (htests : tests frame) (hstring : HasString h.memory frame.rsi path)
    (hd : Distinct h.task.user) (k : Kept h h₁) (huser : h₁.task.user = h.task.user)
    (hcalled : Called W request h₁ h₂) (hvalue : value = fd) :
    Mediated W (opens tests path fd request) frame h value h₂ := by
  have htask : h₂.task.user = h.task.user := (congrArg RootTask.user hcalled.task).trans huser
  refine .of_called ⟨htests, hstring⟩ hvalue ?_ (congrArg UserSpace.byte htask) k hcalled
    (.refl h₂) rfl rfl fun _ => id
  rw [htask]
  exact hd

theorem handles_openat {path : CStr} {fileId fd : Word}
    (hlength : path.bytes.length < ABI_MAX_WRITE_BYTES) : Handles W (openat W · path fileId fd)
      (opens isOpenat path fd (callRomfs OP_OPEN fileId 0 2)) := by
  refine handles_require (fun _ _ hneeds => ⟨hneeds.1.1, hneeds.1.2.1⟩) fun frame h hyes hd => ?_
  refine wp_bind (wp_exactString hlength fun equal h₁ k huser hfound hequal => ?_)
  refine wp_bind (wp_require (fun hrest => ?_) fun hno => ⟨rfl, ?_⟩)
  · refine wp_bind (wp_entryCall k rfl rfl fun h₂ status value _ hcalled hpass => wp_pure ?_)
    simp only [Bool.and_eq_true, beq_iff_eq] at hpass
    exact mediated_open ⟨hyes.1, hyes.2, hrest.2⟩ (hfound hrest.1) hd k huser hcalled hpass.2
  · exact .of_kept k fun hsupported haccepts =>
      hno ⟨hequal hsupported.kernel haccepts.1.2, haccepts.1.1.2.2⟩

instance : DecidablePred isOpenat := fun _ => inferInstanceAs (Decidable (_ ∧ _))
instance : DecidablePred isVolatileRead := fun _ => inferInstanceAs (Decidable (_ ∧ _))
instance : DecidablePred isVolatileWrite := fun _ => inferInstanceAs (Decidable (_ ∧ _))

theorem statePath_length : STATE_PATH.bytes.length < ABI_MAX_WRITE_BYTES := by decide

theorem handles_volatileOpenat : Handles W (volatileOpenat W)
    (opens isOpenat STATE_PATH FD_VOLATILE_STATE openState) := by
  refine handles_require (fun _ _ hneeds => hneeds.1) fun frame h hyes hd => ?_
  refine wp_bind (wp_exactString statePath_length fun equal h₁ k huser hfound hequal => ?_)
  refine wp_bind (wp_require (fun hyes' => ?_) fun hno => ⟨rfl, ?_⟩)
  · refine wp_bind (wp_entryCall k rfl rfl fun h₂ status value _ hcalled hpass => wp_pure ?_)
    simp only [Bool.and_eq_true, beq_iff_eq] at hpass
    exact mediated_open hyes (hfound hyes') hd k huser hcalled hpass.2
  · exact .of_kept k fun hsupported haccepts => hno (hequal hsupported.kernel haccepts.1.2)

theorem handles_invalidOpenat : Handles W (invalidOpenat W) otherPath := by
  refine handles_require (fun _ _ hneeds => hneeds) fun frame h hyes hd => ?_
  refine wp_bind (wp_exactString statePath_length fun equal h₁ k huser hfound hequal => ?_)
  refine wp_bind (wp_require (fun hother => wp_pure ?_) fun hno => ⟨rfl, ?_⟩)
  · exact .of_kept hyes rfl (hd.of_cap (congrArg _ huser)) (congrArg UserSpace.byte huser) k rfl
      rfl fun hfaultless hstring => Bool.false_ne_true (hother.symm.trans
        (hequal hfaultless hstring))
  · exact .of_kept k fun _ haccepts =>
      haccepts.2 (hfound ((Bool.not_eq_false equal).mp hno))

/-- The eight bytes of a write to the record. -/
theorem wp_volatileBytes {Q : Buf → Host κ σ → Prop}
    (hneeds : ∀ v, e.needs frame v → isVolatileWrite frame ∧ InOnePage v.memory frame.rsi.toNat 8)
    (hread : ∀ h' output, isVolatileWrite frame → BufferRead 8 frame.rsi h h' output →
      Q output h') :
    wp (volatileBytes W frame) Q (fun x h' => x = .rejected ∧ Rejected W e frame h h') h := by
  refine wp_bind (wp_require (fun hyes => ?_) fun hno => ⟨rfl, ?_⟩)
  · refine wp_requireWriteBuffer (fun h' output hbuffer => hread h' output hyes hbuffer)
      fun h' hfailed => ⟨rfl, ?_⟩
    exact .of_kept hfailed.kept fun hsupported haccepts =>
      hfailed.cause hsupported.kernel ⟨by decide, (hneeds _ haccepts.1).2⟩
  · exact .of_kept (.refl h) fun _ haccepts => hno (hneeds _ haccepts.1).1

theorem Holds.inj {m : Memory} {a : Nat} {bs bs' : List UInt8} (h : Holds m a bs)
    (h' : Holds m a bs') (hlength : bs'.length = bs.length) : bs' = bs := by
  rw [Holds] at h h'
  rw [hlength, h] at h'
  exact (List.map_inj_right fun _ _ => Option.some.inj).mp h'.symm

theorem handles_volatileWrite : Handles W (volatileWrite W) recordWrite := by
  intro frame h hd
  refine wp_bind (wp_volatileBytes (fun v hneeds => ⟨hneeds.1, hneeds.2.1⟩)
    fun h₁ output htests hbuffer => ?_)
  refine wp_bind (wp_require (fun hword => ?_) fun hword => ⟨rfl, ?_⟩)
  · rw [hword]
    refine wp_bind (wp_entryCall hbuffer.kept rfl rfl fun h₂ _ _ _ hcalled _ => wp_pure ?_)
    have htask : h₂.task.user = h.task.user :=
      (congrArg RootTask.user hcalled.task).trans hbuffer.user
    refine .of_called ⟨htests, hbuffer.page, _, Buf.length_slice _ _ _, hbuffer.holds, hword⟩ rfl
      (hd.of_cap (congrArg _ htask)) (congrArg UserSpace.byte htask) hbuffer.kept hcalled (.refl h₂)
      rfl rfl fun _ => id
  · refine .of_kept hbuffer.kept fun _ haccepts => hword ?_
    obtain ⟨-, -, bytes, hlength, hholds, hbe⟩ := haccepts.1
    have hslice := hbuffer.holds.inj hholds (by rw [hlength, Buf.length_slice])
    show be (output.slice 0 8) = _
    rw [← hslice, hbe]

theorem handles_closedWrite : Handles W (closedWrite W) closedRecordWrite := by
  intro frame h hd
  refine wp_bind (wp_volatileBytes (fun v hneeds => hneeds)
    fun h₁ output htests hbuffer => ?_)
  refine wp_bind (wp_entryCall hbuffer.kept rfl rfl fun h₂ _ _ _ hcalled _ => wp_pure ?_)
  have htask : h₂.task.user = h.task.user :=
    (congrArg RootTask.user hcalled.task).trans hbuffer.user
  exact .of_called ⟨htests, hbuffer.page⟩ rfl (hd.of_cap (congrArg _ htask))
    (congrArg UserSpace.byte htask) hbuffer.kept hcalled (.refl h₂) rfl rfl fun _ => id

/-! ## The script -/

/-- The syscalls, in their order, are the entries of the script. -/
theorem handles_script : List.Forall₂ (Handles W) (syscalls W) script := by
  have hrelease : RELEASE_PATH.bytes.length < ABI_MAX_WRITE_BYTES := by decide
  have hversion : VERSION_PATH.bytes.length < ABI_MAX_WRITE_BYTES := by decide
  unfold syscalls script
  refine .cons handles_plain (.cons handles_plain (.cons handles_plain (.cons handles_plain
    (.cons handles_plain (.cons handles_plain (.cons handles_wordPage (.cons handles_write
    (.cons (handles_newPage (by decide)) (.cons handles_uname (.cons handles_setFs
    (.cons handles_getFs (.cons handles_twoWords (.cons handles_twoWords (.cons handles_futex
    (.cons handles_futex (.cons (handles_newPage (by decide)) (.cons handles_plain
    (.cons (handles_openat hrelease) (.cons handles_reads (.cons handles_close
    (.cons (handles_openat hversion) (.cons handles_plain (.cons handles_twoWords
    (.cons handles_reads (.cons handles_plain (.cons handles_close (.cons handles_invalidOpenat
    (.cons handles_volatileOpenat (.cons handles_wordPage (.cons handles_plain
    (.cons handles_reads (.cons handles_reads (.cons handles_volatileWrite (.cons handles_reads
    (.cons handles_close (.cons handles_closedWrite (.cons handles_plain .nil)))))))))))))))))))))
    ))))))))))))))))

end SeLinOS.Gateway
