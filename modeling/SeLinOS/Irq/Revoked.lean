import SeLinOS.Irq.Server

/-!
# Registrations after a release

An accepted `free_irq` takes the notification capability out of the driver's CNode. `irqd` does not
keep that it has done so: its token stays valid, and a later registration with it is accepted. The
driver of that registration cannot be notified.

* `Live`: a registration, and an interrupt in progress, have a capability that the driver still has.
* `Stale`: the registration that breaks it. `next_live_iff`: no other event does.
* `live_registration_iff`: the run result.
-/

namespace SeLinOS.Irq

open CLogic Sel4

/-- The driver of a registered line, and of an interrupt that waits for its completion, has its
notification capability. -/
structure Live (s : Server) : Prop where
  registered : s.registeredIrq ≠ 0 → ¬ s.capDeleted
  completing : s.pc = .completeRecv → ¬ s.capDeleted

/-- The words of a registration of a line, with the token that `root` issued. -/
def RegisterWords (deviceToken : Word) (m : Message) : Prop :=
  m.length = CONTROL_REQUEST_WORDS ∧ m.mr 0 = REGISTER_MAGIC ∧
    (m.mr 1).setWidth 32 ≠ (0 : BitVec 32) ∧ m.mr 2 = deviceToken

instance (deviceToken : Word) (m : Message) : Decidable (RegisterWords deviceToken m) :=
  inferInstanceAs (Decidable (_ ∧ _))

/-- `irqd` is at the receive of `handle_register_request`. -/
def Pc.atRegister : Pc → Bool
  | registerRecv _ => true
  | _ => false

/-- A registration that `irqd` receives after it has taken the driver's capability back. -/
def Stale (s : Server) : Event → Bool
  | .request m _ => s.capDeleted && s.pc.atRegister && RegisterWords s.activeDeviceToken m
  | _ => false

/-- The event leaves the registration, the capability and the place at the completion. -/
theorem Live.of_same {s s' : Server} (h : Live s) (hr : s'.registeredIrq = s.registeredIrq)
    (hc : s'.capDeleted = s.capDeleted) (hpc : s'.pc = .completeRecv → s.pc = .completeRecv) :
    Live s' := by
  constructor
  · rw [hr, hc]
    exact h.registered
  · rw [hc]
    exact fun hp => h.completing (hpc hp)

/-- A request at `handle_register_request`: a stale one registers a driver without capability. -/
theorem register_live_iff {s : Server} (h : Live s) {badge : Word} {m : Message} {k : Teardown}
    (hpc : s.pc = .registerRecv badge) :
    Live { (handleRegisterRequest s m).1 with pc := afterRegister badge } ↔
      ¬ Stale s (.request m k) := by
  have hstale : Stale s (.request m k) ↔ s.capDeleted ∧ RegisterWords s.activeDeviceToken m := by
    simp [Stale, hpc, Pc.atRegister]
  have hgone : s.capDeleted → s.registeredIrq = 0 := fun hd => by
    by_contra hne
    exact h.registered hne hd
  rw [hstale]
  rcases handleRegisterRequest_cases s m with he | ⟨hlen, hmagic, hirq, htoken, hzero, he⟩ <;>
    rw [he]
  · -- refused: nothing changes, so the words are not those of a registration
    refine ⟨fun _ hst => ?_, fun _ => h.of_same rfl rfl fun hp =>
      absurd hp (afterRegister_ne_completeRecv badge)⟩
    obtain ⟨hd, hlen, hmagic, hirq, htoken⟩ := hst
    have hacc : handleRegisterRequest s m =
        ({ s with registeredIrq := (m.mr 1).setWidth 32 }, REGISTER_ACCEPTED) := by
      refine if_neg ?_
      rintro (hc | hc | hc | hc | hc)
      exacts [hc hlen, hc hmagic, hirq (by rw [hc]; rfl), hc htoken, hc (hgone hd)]
    rw [hacc, Prod.mk.injEq] at he
    exact absurd he.2 (by decide)
  · constructor
    · rintro hl ⟨hd, hw⟩
      exact hl.registered hw.2.2.1 hd
    · intro hns
      refine ⟨fun hne hd => hns ⟨hd, hlen, hmagic, hne, htoken⟩, fun hp => ?_⟩
      exact absurd hp (afterRegister_ne_completeRecv badge)

/-- A request at `handle_unregister_request` never registers a line. -/
theorem unregister_live {s : Server} (h : Live s) (badge : Word) (m : Message) (k : Teardown) :
    Live { (handleUnregisterRequest s m k).1 with pc := afterUnregister badge } := by
  rcases handleUnregisterRequest_cases s m k with he | ⟨-, -, -, -, -, -, -, he⟩ <;> rw [he]
  · exact h.of_same rfl rfl fun hp => absurd hp (afterUnregister_ne_completeRecv badge)
  · exact ⟨fun hne => absurd rfl hne, fun hp => absurd hp (afterUnregister_ne_completeRecv badge)⟩

/-- Only a stale registration breaks the invariant. -/
theorem next_live_iff {s s' : Server} {e : Event} (h : Live s) (hn : s.next e = some s') :
    Live s' ↔ ¬ Stale s e := by
  cases e with
  | request m k =>
    obtain ⟨reply, hr⟩ := next_request hn
    unfold handleRequest at hr
    split at hr
    · rename_i badge hpc
      obtain ⟨rfl, -⟩ := Prod.mk.inj (Option.some.inj hr)
      exact register_live_iff h hpc
    · rename_i badge hpc
      obtain ⟨rfl, -⟩ := Prod.mk.inj (Option.some.inj hr)
      exact iff_of_true (unregister_live h badge m k) (by simp [Stale, hpc, Pc.atRegister])
    · cases hr
  | hardware =>
    obtain ⟨-, rfl⟩ := next_hardware hn
    exact iff_of_true (h.of_same rfl rfl id) (by simp [Stale])
  | control c =>
    obtain rfl := next_control hn
    exact iff_of_true (h.of_same rfl rfl id) (by simp [Stale])
  | wait =>
    obtain ⟨badge, -, -, rfl⟩ := next_wait hn
    exact iff_of_true (h.of_same rfl rfl fun hp => absurd hp (afterWait_ne_completeRecv badge))
      (by simp [Stale])
  | handle ack =>
    obtain ⟨-, ⟨-, rfl⟩ | ⟨hne, rfl⟩⟩ := next_handle hn
    · exact iff_of_true (h.of_same rfl rfl fun hp => by cases hp) (by simp [Stale])
    · exact iff_of_true ⟨h.registered, fun _ => h.registered hne⟩ (by simp [Stale])
  | complete m ack =>
    obtain ⟨-, masked, rfl⟩ := next_complete hn
    exact iff_of_true (h.of_same rfl rfl fun hp => by cases hp) (by simp [Stale])

theorem live_start (token : Word) : Live (Server.start token) :=
  ⟨fun h => absurd rfl h, fun h => by cases h⟩

/-- **Live registrations**: in every run, for all answers of the kernel, a registered line has a
driver that can be notified in every state exactly when no stale registration is received. -/
theorem live_registration_iff {token : Word} {es : List Event} {s : Server}
    (h : Run (Next Server.next) (Server.start token) es s) :
    Always Server.next (Server.start token) es Live ↔
      Each Server.next (Server.start token) es fun t e => ¬ Stale t e :=
  always_iff_each (fun _ _ _ hl hn => next_live_iff hl hn) h (live_start token)

/-- The events of a register or unregister request that is announced, received and handled. -/
def requestEvents (c : Control) (m : Message) : List Event :=
  [.control c, .wait, .request m ⟨true, true⟩]

/-- One registration and one release. -/
theorem live_registration_once : ∃ s, exec Server.next (Server.start 7)
      (requestEvents .register (.ofWords [REGISTER_MAGIC, 11, 7]) ++
        requestEvents .unregister (.ofWords [UNREGISTER_MAGIC, 11, 7])) = some s ∧
    Always Server.next (Server.start 7)
      (requestEvents .register (.ofWords [REGISTER_MAGIC, 11, 7]) ++
        requestEvents .unregister (.ofWords [UNREGISTER_MAGIC, 11, 7])) Live := by
  refine ⟨_, rfl, (live_registration_iff (exec_iff.mp rfl)).mpr ?_⟩
  decide

/-- A driver that releases the line and registers it again is registered without a capability. -/
theorem registered_after_revoke : ¬ ∀ (token : Word) (es : List Event) (s : Server),
    Run (Next Server.next) (Server.start token) es s → s.registeredIrq ≠ 0 → ¬ s.capDeleted := by
  intro hall
  have hdead : ((exec Server.next (Server.start 7)
      (requestEvents .register (.ofWords [REGISTER_MAGIC, 11, 7]) ++
        requestEvents .unregister (.ofWords [UNREGISTER_MAGIC, 11, 7]) ++
        requestEvents .register (.ofWords [REGISTER_MAGIC, 11, 7]))).any
      fun s => s.registeredIrq != 0 && s.capDeleted) = true := by decide
  obtain ⟨s, hs, hd⟩ := (Option.any_eq_true _ _).mp hdead
  rw [Bool.and_eq_true, bne_iff_ne] at hd
  exact hall 7 _ s (exec_iff.mp hs) hd.1 hd.2

end SeLinOS.Irq
