import SeLinOS.Pci.Notify

/-!
# The place of the notification capability

What `selinos_pci_inspect_qemu_virtio_blk_notify_capability` finds, over all failures of the ports:
a notification capability on the list of a virtio-blk function, and each of these is found with
some failures. On ports that do not fail it is the first one of the first such function.
`notify_inside_iff` says when the five dwords of a capability that it finds lie in the
configuration space.
-/

namespace SeLinOS.Pci

open CLogic Sel4 CLogic.Part

section Walk

open Prog ConfigSpace

variable {writable R : BitVec 32 → BitVec 32} {env : PortEnv} {device : BitVec 32} {slot : Word}
  {s : NotifyInspection Bus} {n : Nat}

/-! ## The walk -/

/-- What the walk finds is on the chain. -/
theorem notifyWalk_wp (fuel lo : Nat) (p : BitVec 8) (hs : AtOperation R n s) :
    wp (foldUp (fun _ current => notifyStep (busMachine writable env) slot device current) lo fuel
        p) (fun _ _ => True)
      (fun success t => success = true → ∃ i q,
        follow (functionSpace R device).next (pointer p) i = some q ∧
        (functionSpace R device).IsNotify q ∧
        t.capability = (functionSpace R device).notifyCapability device q) s := by
  induction fuel generalizing lo p n s with
  | zero => exact wp_pure trivial
  | succ fuel ih =>
    refine wp_seq (notifyStep_wp hs) ?_ ?_
    · intro success t h hsuccess
      obtain ⟨hpointer, hnotify, hcapability⟩ := h hsuccess
      exact ⟨0, p, hpointer, hnotify, hcapability⟩
    · rintro _ t ⟨⟨n', ht⟩, hpointer, rfl⟩
      refine wp_mono (ih (lo + 1) _ ht) (fun _ _ h => h) fun success t' h hsuccess => ?_
      obtain ⟨i, q, hfollow, hfound⟩ := h hsuccess
      refine ⟨i + 1, q, ?_, hfound⟩
      rw [hpointer, ← follow_next]
      exact hfollow

theorem PortEnv.passes_of_not {n : Nat} (h : env.fails n = false) (h' : env.fails (n + 1) = false) :
    env.passes n = true := by
  rw [passes, h, h']
  rfl

theorem follow_none {space : ConfigSpace} (k : Nat) : follow space.next none k = none := by
  have h := follow_of_none (rfl : follow space.next none 0 = none) k
  rwa [Nat.zero_add] at h

theorem headerPasses_of_not (h : ∀ m, n ≤ m → m < n + 6 → env.fails m = false) :
    HeaderPasses env n :=
  ⟨PortEnv.passes_of_not (h _ (by omega) (by omega)) (h _ (by omega) (by omega)),
    PortEnv.passes_of_not (h _ (by omega) (by omega)) (h _ (by omega) (by omega)),
    PortEnv.passes_of_not (h _ (by omega) (by omega)) (h _ (by omega) (by omega))⟩

/-- Where the chain goes on after `p`: `p` is a pointer of the walk, and its next is not zero. -/
theorem pointer_of_follow {space : ConfigSpace} {k : Nat} {p q : BitVec 8}
    (h : follow space.next (pointer p) (k + 1) = some q) : pointer p = some p ∧ space (p + 1) ≠ 0 ∧
      follow space.next (space.next p) k = some q := by
  have hpointer : pointer p = some p := by
    cases hp : pointer p with
    | none =>
      rw [hp, follow_none] at h
      cases h
    | some r => rw [(pointer_eq_some.mp hp).1]
  rw [hpointer, ← follow_next] at h
  refine ⟨hpointer, fun hzero => ?_, h⟩
  have hend : space.next p = none := by
    rw [ConfigSpace.next, hzero]
    rfl
  rw [Option.bind_some, hend, follow_none] at h
  cases h

/-- Some failures let the walk pass over every capability before a notification capability. -/
theorem notifyWalk_finds {q : BitVec 8} (hnotify : (functionSpace R device).IsNotify q)
    (fuel k lo n : Nat) (p : BitVec 8) (hk : k < fuel)
    (hfollow : follow (functionSpace R device).next (pointer p) k = some q) :
    ∃ fails : Nat → Bool, ∀ env : PortEnv, (∀ m, n ≤ m → env.fails m = fails m) →
      ∀ (slot : Word) (s : NotifyInspection Bus), AtOperation R n s →
        wp (foldUp (fun _ current => notifyStep (busMachine writable env) slot device current) lo
            fuel p) (fun _ _ => False)
          (fun success t => success = true ∧
            t.capability = (functionSpace R device).notifyCapability device q) s := by
  induction fuel generalizing k lo n p with
  | zero => exact absurd hk (Nat.not_lt_zero k)
  | succ fuel ih =>
    by_cases hhere : pointer p = some q
    · obtain ⟨rfl, -⟩ := pointer_eq_some.mp hhere
      refine ⟨fun _ => false, fun env henv slot s hs => ?_⟩
      have hpass : ∀ m, n ≤ m → env.passes m = true := fun m hm =>
        PortEnv.passes_of_not (henv m hm) (henv (m + 1) (by omega))
      refine wp_seq (notifyStep_reads hs hpass) ?_ fun q t h => absurd hnotify h.2.2.1
      rintro success t (⟨-, -, hfound⟩ | ⟨hnone | ⟨-, hno, -⟩, -⟩)
      · exact hfound
      · exact nomatch hhere.symm.trans hnone
      · exact absurd hnotify hno
    -- the capability at `p` comes before
    cases k with
    | zero => exact absurd hfollow hhere
    | succ k =>
      obtain ⟨hpointer, hnext, hfollow⟩ := pointer_of_follow hfollow
      -- fail the first read of the fields, then as the walk from the next capability asks
      generalize hn' : (if (functionSpace R device).IsCandidate p then n + 6 + 1 else n + 6) = n'
      have hle : n + 6 ≤ n' := by
        subst hn'
        split <;> omega
      obtain ⟨fails, hfails⟩ := ih k (lo + 1) n' _ (by omega) hfollow
      refine ⟨fun m => if m < n' then decide (m = n + 6) else fails m, fun env henv slot s hs => ?_⟩
      have henv : ∀ m, n ≤ m → env.fails m = if m < n' then decide (m = n + 6) else fails m := henv
      have hbefore : ∀ m, n ≤ m → m < n + 6 → env.fails m = false := fun m hm hlt => by
        rw [henv m hm, if_pos (by omega), decide_eq_false (by omega)]
      have hcandidate : (functionSpace R device).IsCandidate p → env.fails (n + 6) = true := by
        intro hc
        rw [if_pos hc] at hn'
        rw [henv _ (by omega), if_pos (by omega), decide_eq_true rfl]
      refine wp_seq (notifyStep_skips hs hpointer hnext (headerPasses_of_not hbefore) hcandidate)
        (fun _ _ h => h.elim) ?_
      rintro _ t ⟨rfl, ht⟩
      rw [hn'] at ht
      refine hfails env (fun m hm => ?_) slot t ht
      rw [henv m (by omega), if_neg (by omega)]

/-! ## The function -/

theorem status_space (R : BitVec 32 → BitVec 32) (device : BitVec 32) :
    (halfOf (upperHalf (PCI_COMMAND_STATUS_OFF + 2))
        (R (configAddress device 0 (PCI_COMMAND_STATUS_OFF + 2))) &&& PCI_STATUS_CAPABILITIES ≠ 0 ∧
      R (configAddress device 0 PCI_HEADER_TYPE_OFF) >>> 16 &&& 0x7f = 0) ↔
    (functionSpace R device).HasList :=
  and_congr (status_iff (functionSpace_shows R device)) (header_iff (functionSpace_shows R device))

/-- What the function finds in a device is on its capability list. -/
theorem walkDevice_wp (hs : AtOperation R n s) :
    wp (walkDevice (busMachine writable env) slot device) (fun _ _ => False)
      (fun success t => success = true → (functionSpace R device).HasList ∧ ∃ p,
        (functionSpace R device).Reaches p ∧ (functionSpace R device).IsNotify p ∧
        t.capability = (functionSpace R device).notifyCapability device p) s := by
  refine wp_bind (wp_readsOrRelease (reads_word _) hs (fun _ t ht => ?_) fun _ _ => nofun)
  refine wp_bind (wp_readsOrRelease (reads_dword _ _) ht (fun _ t ht => ?_) fun _ _ => nofun)
  refine wp_bind (wp_unlessRelease (fun hlist => ?_) fun _ => nofun)
  rw [status_space] at hlist
  refine wp_bind (wp_readsOrRelease (reads_byte 0x34 (by decide)) ht (fun _ t ht => ?_)
    fun _ _ => nofun)
  refine wp_seq (notifyWalk_wp _ _ _ ht) ?_ fun _ _ _ => wp_releaseReturn nofun
  intro success t' h hsuccess
  obtain ⟨i, q, hfollow, hnotify, hcapability⟩ := h hsuccess
  exact ⟨hlist, q, ⟨i, hfollow⟩, hnotify, hcapability⟩

variable (writable) in
/-- Some failures let the function find a notification capability on the list. -/
theorem walkDevice_finds {q : BitVec 8} (hlist : (functionSpace R device).HasList)
    (hreaches : (functionSpace R device).Reaches q)
    (hnotify : (functionSpace R device).IsNotify q) (n : Nat) :
    ∃ fails : Nat → Bool, ∀ env : PortEnv, (∀ m, n ≤ m → env.fails m = fails m) →
      ∀ (slot : Word) (s : NotifyInspection Bus), AtOperation R n s →
        wp (walkDevice (busMachine writable env) slot device) (fun _ _ => False)
          (fun success t => success = true ∧
            t.capability = (functionSpace R device).notifyCapability device q) s := by
  obtain ⟨i, hi⟩ := hreaches
  obtain ⟨k, hk, hfollow⟩ := exists_lt_of_follow (n := PCI_CAPABILITY_LIMIT)
    (fun _ _ h => mem_pointers_of_follow h) (by decide) hi
  obtain ⟨fails, hfails⟩ := notifyWalk_finds hnotify _ k 0 (n + 6) _ hk hfollow
  refine ⟨fun m => if m < n + 6 then false else fails m, fun env henv slot s hs => ?_⟩
  have henv : ∀ m, n ≤ m → env.fails m = if m < n + 6 then false else fails m := henv
  have hpass : ∀ m, n ≤ m → m + 1 < n + 6 → env.passes m ≠ false := fun m hm hlt => by
    rw [PortEnv.passes_of_not (by rw [henv m hm, if_pos (by omega)])
      (by rw [henv _ (by omega), if_pos hlt])]
    decide
  refine wp_bind (wp_readsOrRelease (reads_word _) hs (fun _ t ht => ?_) fun hc =>
    absurd hc (hpass _ (by omega) (by omega)))
  refine wp_bind (wp_readsOrRelease (reads_dword _ _) ht (fun _ t ht => ?_) fun hc =>
    absurd hc (hpass _ (by omega) (by omega)))
  rw [← status_space] at hlist
  refine wp_bind (wp_unlessRelease (fun _ => ?_) fun hno => absurd hlist hno)
  refine wp_bind (wp_readsOrRelease (reads_byte 0x34 (by decide)) ht (fun _ t ht => ?_) fun hc =>
    absurd hc (hpass _ (by omega) (by omega)))
  refine wp_seq (hfails env (fun m hm => ?_) slot t ht) (fun _ _ h => h) fun _ _ h => h.elim
  rw [henv m (by omega), if_neg (by omega)]

/-- One device, whatever fails. -/
theorem matchDevice_wp {k : Nat} {E : Bool → NotifyInspection Bus → Prop}
    (hs : AtOperation R n s) :
    wp (matchDevice (busMachine writable env) slot k)
      (fun r t => (∃ n', AtOperation R n' t) ∧ ∀ d, r = some d → d = BitVec.ofNat 32 k ∧
        IsVirtioBlk (R (configAddress d 0 PCI_VENDOR_DEVICE_OFF))) E s := by
  refine wp_bind (wp_reads (reads_dword _ _) hs (fun _ t ht => ?_) fun _ t ht => ?_)
  · refine wp_ite (fun hid => wp_pure ⟨⟨_, ht⟩, fun d h => ?_⟩) fun _ => wp_pure ⟨⟨_, ht⟩, nofun⟩
    cases h
    exact ⟨rfl, hid⟩
  · exact wp_pure ⟨⟨_, ht⟩, nofun⟩

variable (writable env) in
/-- What the function finds is a notification capability on the list of a virtio-blk function. -/
theorem inspectNotify_wp (hs : AtOperation R n s) :
    wp (inspectNotifyCapability (busMachine writable env)) (fun _ _ => False)
      (fun success t => success = true → ∃ k < 32, ∃ p,
        IsVirtioBlk (R (configAddress (BitVec.ofNat 32 k) 0 PCI_VENDOR_DEVICE_OFF)) ∧
        (functionSpace R (BitVec.ofNat 32 k)).HasList ∧
        (functionSpace R (BitVec.ofNat 32 k)).Reaches p ∧
        (functionSpace R (BitVec.ofNat 32 k)).IsNotify p ∧
        t.capability =
          (functionSpace R (BitVec.ofNat 32 k)).notifyCapability (BitVec.ofNat 32 k) p) s := by
  unfold inspectNotifyCapability
  refine wp_bind (wp_acquire (fun _ slot => ?_) fun _ => wp_ret nofun)
  refine wp_seq (Q := fun d t => (∃ n', AtOperation R n' t) ∧ ∀ device, d = some device →
      ∃ k < 32, device = BitVec.ofNat 32 k ∧
        IsVirtioBlk (R (configAddress device 0 PCI_VENDOR_DEVICE_OFF)))
    (E := fun _ _ => False) ?_ (fun _ _ h => h.elim) ?_
  · refine wp_firstUp (fun _ t => ∃ n', AtOperation R n' t) 0 32 s ⟨n, hs⟩ ?_
      fun t ht => ⟨ht, nofun⟩
    rintro k t - hk ⟨n', ht⟩
    refine wp_mono (matchDevice_wp ht) (fun r t' h => ?_) fun _ _ h => h
    cases r with
    | none => exact h.1
    | some d =>
      refine ⟨h.1, fun device hd => ?_⟩
      cases hd
      exact ⟨k, by omega, h.2 d rfl⟩
  · rintro matched t ⟨⟨n', ht⟩, hmatched⟩
    cases matched with
    | none => exact wp_releaseReturn nofun
    | some device =>
      obtain ⟨k, hk, rfl, hid⟩ := hmatched device rfl
      refine wp_mono (walkDevice_wp ht) (fun _ _ h => h) fun success t' h hsuccess => ?_
      obtain ⟨hlist, p, hreaches, hnotify, hcapability⟩ := h hsuccess
      exact ⟨k, hk, p, hid, hlist, hreaches, hnotify, hcapability⟩

variable (writable) in
/-- Some failures let the function find a notification capability of a virtio-blk function: the
reads of the devices before fail. -/
theorem inspectNotify_finds {k : Nat} {q : BitVec 8} (hk : k < 32)
    (hid : IsVirtioBlk (R (configAddress (BitVec.ofNat 32 k) 0 PCI_VENDOR_DEVICE_OFF)))
    (hlist : (functionSpace R (BitVec.ofNat 32 k)).HasList)
    (hreaches : (functionSpace R (BitVec.ofNat 32 k)).Reaches q)
    (hnotify : (functionSpace R (BitVec.ofNat 32 k)).IsNotify q) (hs : AtOperation R 0 s) :
    ∃ env : PortEnv, wp (inspectNotifyCapability (busMachine writable env)) (fun _ _ => False)
      (fun success t => success = true ∧ t.capability =
        (functionSpace R (BitVec.ofNat 32 k)).notifyCapability (BitVec.ofNat 32 k) q) s := by
  obtain ⟨fails, hfails⟩ := walkDevice_finds writable hlist hreaches hnotify (k + 2)
  let tape : Nat → Bool := fun m => if m < k then true else if m < k + 2 then false else fails m
  refine ⟨portsWith tape, ?_⟩
  unfold inspectNotifyCapability
  refine wp_bind (wp_acquire (fun _ slot => ?_) nofun)
  refine wp_seq (Q := fun d t => d = some (BitVec.ofNat 32 k) ∧ AtOperation R (k + 2) t)
    (E := fun _ _ => False) ?_ (fun _ _ h => h.elim) ?_
  · refine wp_firstUp (fun i t => i ≤ k ∧ AtOperation R i t) 0 32 s ⟨Nat.zero_le k, hs⟩ ?_
      fun t ht => absurd ht.1 (by omega)
    rintro i t - hi ⟨hik, ht⟩
    rcases Nat.lt_or_eq_of_le hik with hlt | rfl
    · have htrue : (portsWith tape).fails i = true := if_pos hlt
      have hfail : (portsWith tape).passes i = false := by rw [PortEnv.passes, htrue]; rfl
      refine wp_bind (wp_reads (reads_dword _ _) ht (fun hpass => ?_) fun _ t ht => ?_)
      · exact absurd (hfail.symm.trans hpass) Bool.false_ne_true
      · rw [PortEnv.after, if_pos htrue] at ht
        exact wp_pure ⟨hlt, ht⟩
    · have hfalse : ∀ m, i ≤ m → m < i + 2 → (portsWith tape).fails m = false := fun m hm hm' => by
        show (if _ then _ else if _ then _ else _) = _
        rw [if_neg (by omega), if_pos hm']
      have hpass : (portsWith tape).passes i = true :=
        PortEnv.passes_of_not (hfalse _ (by omega) (by omega)) (hfalse _ (by omega) (by omega))
      refine wp_bind (wp_reads (reads_dword _ _) ht (fun _ t ht => ?_) fun hfail => ?_)
      · exact wp_ite (fun _ => wp_pure ⟨rfl, ht⟩) fun hno => absurd hid hno
      · exact absurd (hfail.symm.trans hpass) Bool.false_ne_true
  · rintro _ t ⟨rfl, ht⟩
    refine hfails (portsWith tape) (fun m hm => ?_) slot t ht
    show (if _ then _ else if _ then _ else _) = _
    rw [if_neg (by omega), if_neg (by omega)]

/-! ## Without failures -/

/-- One iteration of a walk without failures, in terms of a search over the chain. -/
theorem notifyStep_search {p : BitVec 8} (hs : AtOperation R n s)
    (hpass : ∀ m, env.passes m = true) (k : Nat) :
    wp (notifyStep (busMachine writable env) slot device p)
      (fun q t => (∃ n', AtOperation R n' t) ∧
        search (functionSpace R device).next (functionSpace R device).IsNotify (k + 1) (pointer p) =
          search (functionSpace R device).next (functionSpace R device).IsNotify k (pointer q))
      (fun success t => WalkResult ((functionSpace R device).notifyCapability device)
        (search (functionSpace R device).next (functionSpace R device).IsNotify (k + 1)
          (pointer p)) success t.capability) s := by
  refine wp_mono (notifyStep_reads hs fun m _ => hpass m) ?_ ?_
  · rintro q t ⟨⟨n', -, ht⟩, hpointer, hno, rfl⟩
    rw [hpointer, search, if_neg hno]
    exact ⟨⟨n', ht⟩, rfl⟩
  · rintro success t (⟨hpointer, hnotify, hfound⟩ | ⟨hnone | ⟨hpointer, hno, hzero⟩, rfl⟩)
    · rw [hpointer, search, if_pos hnotify]
      exact hfound
    · rw [hnone, search_none]
      rfl
    · have hend : (functionSpace R device).next p = none := by
        rw [ConfigSpace.next, hzero]
        rfl
      rw [hpointer, search, if_neg hno, hend, search_none]
      rfl

theorem notifyWalk_search (hpass : ∀ m, env.passes m = true) (fuel lo : Nat) (p : BitVec 8)
    (hs : AtOperation R n s) :
    wp (foldUp (fun _ current => notifyStep (busMachine writable env) slot device current) lo fuel
        p)
      (fun _ t => WalkResult ((functionSpace R device).notifyCapability device)
        (search (functionSpace R device).next (functionSpace R device).IsNotify fuel (pointer p))
        false t.capability)
      (fun success t => WalkResult ((functionSpace R device).notifyCapability device)
        (search (functionSpace R device).next (functionSpace R device).IsNotify fuel (pointer p))
        success t.capability) s := by
  induction fuel generalizing lo p n s with
  | zero => exact wp_pure rfl
  | succ fuel ih =>
    refine wp_seq (notifyStep_search hs hpass fuel) (fun _ _ h => h) ?_
    rintro q t ⟨⟨n', ht⟩, hq⟩
    rw [hq]
    exact ih (lo + 1) q ht

/-- Without failures the function finds the first notification capability of the chain. -/
theorem walkDevice_search (hpass : ∀ m, env.passes m = true) (hs : AtOperation R n s) :
    wp (walkDevice (busMachine writable env) slot device) (fun _ _ => False)
      (fun success t =>
        (success = true ↔ (functionSpace R device).HasList ∧
          ∃ p, (functionSpace R device).FirstNotify p) ∧
        ∀ p, success = true → (functionSpace R device).FirstNotify p →
          t.capability = (functionSpace R device).notifyCapability device p) s := by
  have hnever : ∀ m, env.passes m ≠ false := fun m => by
    rw [hpass m]
    decide
  refine wp_bind (wp_readsOrRelease (reads_word _) hs (fun _ t ht => ?_) fun hc =>
    absurd hc (hnever _))
  refine wp_bind (wp_readsOrRelease (reads_dword _ _) ht (fun _ t ht => ?_) fun hc =>
    absurd hc (hnever _))
  refine wp_bind (wp_unlessRelease (fun htests => ?_) fun htests => ?_)
  · rw [status_space] at htests
    refine wp_bind (wp_readsOrRelease (reads_byte 0x34 (by decide)) ht (fun _ t ht => ?_)
      fun hc => absurd hc (hnever _))
    have hresult : ∀ {success : Bool} {t : NotifyInspection Bus},
        WalkResult ((functionSpace R device).notifyCapability device)
          (search (functionSpace R device).next (functionSpace R device).IsNotify
            PCI_CAPABILITY_LIMIT (pointer (functionSpace R device 0x34))) success t.capability →
        (success = true ↔ (functionSpace R device).HasList ∧
          ∃ p, (functionSpace R device).FirstNotify p) ∧
          ∀ p, success = true → (functionSpace R device).FirstNotify p →
            t.capability = (functionSpace R device).notifyCapability device p := fun h => by
      obtain ⟨hiff, hfields⟩ := h.iff fun p => search_limit
      exact ⟨hiff.trans (and_iff_right htests).symm, fun p _ hp => hfields p hp⟩
    exact wp_seq (notifyWalk_search hpass PCI_CAPABILITY_LIMIT 0 _ ht) (fun _ _ h => hresult h)
      fun _ _ h => wp_releaseReturn (hresult h)
  · rw [status_space] at htests
    exact ⟨⟨nofun, fun h => absurd h.1 htests⟩, fun _ h => nomatch h⟩

variable (writable env) in
theorem inspectNotify_search (hports : ∀ n, env.fails n = false) (hR : s.machine.registers = R)
    (hdevice : FirstDevice R device) :
    wp (inspectNotifyCapability (busMachine writable env)) (fun _ _ => False)
      (fun success t =>
        (success = true ↔ env.acquires s.machine.operations = true ∧
          (functionSpace R device).HasList ∧ ∃ p, (functionSpace R device).FirstNotify p) ∧
        ∀ p, success = true → (functionSpace R device).FirstNotify p →
          t.capability = (functionSpace R device).notifyCapability device p) s := by
  unfold inspectNotifyCapability
  refine wp_bind (wp_acquire (fun hacquires slot => ?_) fun hrefused => ?_)
  · refine wp_seq (wp_matchDevices hports hR hdevice) (fun _ _ h => h) ?_
    rintro _ t ⟨rfl, ht⟩
    refine wp_mono (walkDevice_search (PortEnv.passes_all hports) ⟨ht, rfl⟩) (fun _ _ h => h) ?_
    exact fun success t h => ⟨h.1.trans (and_iff_right hacquires).symm, h.2⟩
  · exact wp_ret ⟨⟨nofun, fun h => nomatch hrefused.symm.trans h.1⟩, fun _ h => nomatch h⟩

theorem exists_firstDevice {k : Nat} (hk : k < 32)
    (hid : IsVirtioBlk (R (configAddress (BitVec.ofNat 32 k) 0 PCI_VENDOR_DEVICE_OFF))) :
    ∃ device, FirstDevice R device := by
  have hex : ∃ k < 32,
      IsVirtioBlk (R (configAddress (BitVec.ofNat 32 k) 0 PCI_VENDOR_DEVICE_OFF)) :=
    ⟨k, hk, hid⟩
  obtain ⟨hlt, hfirst⟩ := Nat.find_spec hex
  exact ⟨_, Nat.find hex, hlt, rfl, hfirst, fun j hj hj' =>
    Nat.find_min hex hj ⟨by omega, hj'⟩⟩

end Walk

/-! ## When the capability lies in the space -/

/-- The five dwords of the capability lie in the space, and the multiplier is the dword at
`capability_offset + 16`. -/
def NotifyInside (space : ConfigSpace) (c : NotifyCapability) : Prop :=
  c.capabilityOffset.toNat + 20 ≤ 256 ∧
    c.notifyOffMultiplier = space.dword (BitVec.ofNat 8 (c.capabilityOffset.toNat + 16))

theorem pointer_end : ∀ p : BitVec 8,
    PCI_CAPABILITY_FIRST ≤ p ∧ p ≤ PCI_CAPABILITY_LAST ∧ p &&& 3 = 0 →
    ((p.zeroExtend 32 : BitVec 32).toNat + 20 ≤ 256 ↔ p ≠ PCI_CAPABILITY_LAST) ∧
      BitVec.ofNat 8 ((p.zeroExtend 32 : BitVec 32).toNat + 16) = p + 16 := by
  decide

/-- A node of the chain is in range. -/
theorem ConfigSpace.Reaches.range {space : ConfigSpace} {p : BitVec 8} (h : space.Reaches p) :
    PCI_CAPABILITY_FIRST ≤ p ∧ p ≤ PCI_CAPABILITY_LAST ∧ p &&& 3 = 0 := by
  have hpointer : ∀ {q : BitVec 8}, pointer q = some p →
      PCI_CAPABILITY_FIRST ≤ p ∧ p ≤ PCI_CAPABILITY_LAST ∧ p &&& 3 = 0 := fun h => by
    obtain ⟨rfl, hvalid⟩ := pointer_eq_some.mp h
    exact hvalid
  obtain ⟨i, hi⟩ := h
  cases i with
  | zero => exact hpointer hi
  | succ i =>
    obtain ⟨c, -, hc⟩ := Option.bind_eq_some_iff.mp hi
    exact hpointer hc

/-- The first notification capability is on the chain. -/
theorem ConfigSpace.FirstNotify.reaches {space : ConfigSpace} {p : BitVec 8}
    (h : space.FirstNotify p) : space.Reaches p := by
  obtain ⟨k, hk, -⟩ := h
  exact ⟨k, hk⟩

theorem notifyInside_iff {space : ConfigSpace} {p : BitVec 8} {device : BitVec 32}
    (h : space.Reaches p) :
    NotifyInside space (space.notifyCapability device p) ↔ p ≠ PCI_CAPABILITY_LAST := by
  obtain ⟨hend, hmultiplier⟩ := pointer_end p h.range
  unfold NotifyInside ConfigSpace.notifyCapability
  rw [hend, hmultiplier]
  exact and_iff_left rfl

/-- Before the call: nothing has been done. -/
def inspectionStart (R : BitVec 32 → BitVec 32) : NotifyInspection Bus :=
  ⟨⟨0, R, 0, []⟩, ⟨⟨0, 0, 0, 0⟩, 0, 0, 0, 0, 0⟩⟩

/-- **The notification capability and the configuration space**: for the configuration registers
`R`, each capability that the function finds lies in the space with its multiplier, if and only if

* whatever operations on the ports fail: no virtio-blk function has a notification capability at the
  last offset of its list that the walk admits;
* on ports that do not fail: the first notification capability of the first virtio-blk function is
  not at that offset. -/
theorem notify_inside_iff (writable R : BitVec 32 → BitVec 32) :
    ((∀ (env : PortEnv) (s t : NotifyInspection Bus), s.machine.registers = R →
      inspectNotifyCapability (busMachine writable env) s = .ret true t →
      NotifyInside (functionSpace R t.capability.identity.device) t.capability) ↔
    ∀ k < 32, IsVirtioBlk (R (configAddress (BitVec.ofNat 32 k) 0 PCI_VENDOR_DEVICE_OFF)) →
      (functionSpace R (BitVec.ofNat 32 k)).HasList →
      (functionSpace R (BitVec.ofNat 32 k)).Reaches PCI_CAPABILITY_LAST →
      ¬ (functionSpace R (BitVec.ofNat 32 k)).IsNotify PCI_CAPABILITY_LAST) ∧
    ((∀ (env : PortEnv) (s t : NotifyInspection Bus), (∀ n, env.fails n = false) →
      s.machine.registers = R →
      inspectNotifyCapability (busMachine writable env) s = .ret true t →
      NotifyInside (functionSpace R t.capability.identity.device) t.capability) ↔
    ∀ device, FirstDevice R device → (functionSpace R device).HasList →
      ¬ (functionSpace R device).FirstNotify PCI_CAPABILITY_LAST) := by
  refine ⟨⟨?_, ?_⟩, ?_, ?_⟩
  · intro hall k hk hid hlist hreaches hnotify
    obtain ⟨env, henv⟩ := inspectNotify_finds writable hk hid hlist hreaches hnotify
      (s := inspectionStart R) ⟨rfl, rfl⟩
    obtain ⟨success, t, hrun, rfl, hcapability⟩ := Prog.exists_returns henv
    have hinside := hall env _ t rfl hrun
    rw [hcapability] at hinside
    exact (notifyInside_iff hreaches).mp hinside rfl
  · intro hnone env s t hs hrun
    have hwp := inspectNotify_wp writable env ⟨hs, rfl⟩
    obtain ⟨k, hk, p, hid, hlist, hreaches, hnotify, hcapability⟩ := Prog.wp_ret_of hwp hrun rfl
    rw [hcapability]
    refine (notifyInside_iff hreaches).mpr ?_
    rintro rfl
    exact hnone k hk hid hlist hreaches hnotify
  · intro hall device hdevice hlist hfirst
    obtain ⟨success, t, hrun, hiff, hcapability⟩ := Prog.exists_returns <|
      inspectNotify_search writable (portsWith fun _ => false) (s := inspectionStart R)
        (fun _ => rfl) rfl hdevice
    have hsuccess : success = true := hiff.mpr ⟨rfl, hlist, _, hfirst⟩
    rw [hsuccess] at hrun
    have hinside := hall _ _ t (fun _ => rfl) rfl hrun
    rw [hcapability _ hsuccess hfirst] at hinside
    exact (notifyInside_iff hfirst.reaches).mp hinside rfl
  · intro hfirst env s t hports hs hrun
    obtain ⟨k, hk, -, hid, -⟩ := Prog.wp_ret_of (inspectNotify_wp writable env ⟨hs, rfl⟩) hrun rfl
    obtain ⟨device, hdevice⟩ := exists_firstDevice hk hid
    obtain ⟨hiff, hcapability⟩ :=
      Prog.wp_ret_of (inspectNotify_search writable env hports hs hdevice) hrun
    obtain ⟨-, hlist, p, hp⟩ := hiff.mp rfl
    rw [hcapability p rfl hp]
    refine (notifyInside_iff hp.reaches).mpr ?_
    rintro rfl
    exact hfirst device hdevice hlist hp

/-- A modern virtio-blk function with a notification capability at 0xf0. -/
def lastSpace : ConfigSpace := fun o =>
  match o.toNat with
  | 0x00 => 0xf4
  | 0x01 => 0x1a
  | 0x02 => 0x42
  | 0x03 => 0x10
  | 0x06 => 0x10
  | 0x34 => 0xf0
  | 0xf0 => 0x09
  | 0xf2 => 0x14
  | 0xf3 => 0x02
  | 0xfc => 0x14
  | _ => 0

/-- The function is function 0 of device 3, and there is no other. -/
def lastStart : NotifyInspection Bus where
  machine :=
    { address := 0
      registers := fun address =>
        if address &&& 0xffffff03 = configAddress 3 0 0 then lastSpace.dword (address.setWidth 8)
        else 0xffffffff
      operations := 0
      writes := [] }
  capability := ⟨⟨0, 0, 0, 0⟩, 0, 0, 0, 0, 0⟩

set_option maxRecDepth 100000 in
/-- The fifth dword of a capability at 0xf0 is behind the space, and the multiplier that the caller
gets is the vendor and device id. -/
theorem multiplier_outside : ¬ ∀ (writable R : BitVec 32 → BitVec 32) (env : PortEnv)
    (s t : NotifyInspection Bus), s.machine.registers = R →
    inspectNotifyCapability (busMachine writable env) s = .ret true t →
    NotifyInside (functionSpace R t.capability.identity.device) t.capability := by
  intro hall
  have hrun : (inspectNotifyCapability (busMachine (fun _ => 0) (portsWith fun _ => false))
      lastStart).returned.map (fun r => (r.1, r.2.capability)) =
      some (true, ⟨⟨3, 0, 0x1af4, 0x1042⟩, 0xf0, 0, 0, 0x14, 0x10421af4⟩) := by
    decide +kernel
  obtain ⟨⟨success, t⟩, hreturned, hvalue⟩ := Option.map_eq_some_iff.mp hrun
  obtain ⟨rfl, hcapability⟩ := Prod.mk.inj hvalue
  have hinside := (hall _ _ _ _ t rfl (Res.eq_of_returned hreturned)).1
  rw [show t.capability = _ from hcapability] at hinside
  exact absurd hinside (by decide)

end SeLinOS.Pci
