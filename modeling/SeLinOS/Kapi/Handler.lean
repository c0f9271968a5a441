import SeLinOS.Kapi.DmaLease
import SeLinOS.Kapi.Life

/-!
# Releasing an installed handler

`free_irq` asks irqd only with a device token, and the token is cleared where a registration fails
and where a driver is unregistered.

* `Releasable`: a handler that is installed can be released.
* `ClearsToken`: the calls that clear the token.
* `releasable_iff_each`: the run result, with the exact condition on the steps.
-/

namespace SeLinOS.Kapi

open CLogic Sel4

/-- `free_irq` comes to its request to irqd: the reply decides whether the handler is released. -/
def AsksIrqd (irq : BitVec 32) (devId : Word) (s : State) : Prop :=
  ∃ reply, (freeIrq irq devId reply s).2.irq.handler ≠ s.irq.handler

/-- With a handler there is a token, and the matching `free_irq` asks irqd. -/
def Releasable (s : State) : Prop :=
  s.irq.handler ≠ 0 → s.irq.deviceToken ≠ 0 ∧ AsksIrqd s.irq.irq s.irq.devId s

/-- The call clears the token: a probe that fails, or a removal. -/
def ClearsToken (s : State) : Call → Bool
  | .callbackReturn status => (s.frames.head? == some .probe && status != 0) ||
      s.frames.head? == some .remove
  | .unregisterDriver (some d) => Bound d s && !d.remove
  | _ => false

theorem matches_bound {s : State} (h : s.irq.handler ≠ 0) :
    ¬ (s.irq.handler = 0 ∨ s.irq.irq ≠ s.irq.irq ∨ s.irq.devId ≠ s.irq.devId) := by
  rintro (hc | hc | hc)
  exacts [h hc, hc rfl, hc rfl]

/-- The matching `free_irq` asks irqd exactly when there are a handler and a token. -/
theorem asksIrqd_iff {s : State} :
    AsksIrqd s.irq.irq s.irq.devId s ↔ s.irq.handler ≠ 0 ∧ s.irq.deviceToken ≠ 0 := by
  constructor
  · rintro ⟨reply, h⟩
    by_contra hc
    rw [not_and_or, not_not, not_not] at hc
    refine h ?_
    unfold freeIrq
    by_cases hhandler : s.irq.handler = 0
    · rw [if_pos (.inl hhandler)]
    · rw [if_neg (matches_bound hhandler), if_pos (hc.resolve_left hhandler)]
  · rintro ⟨hhandler, htoken⟩
    refine ⟨.ofWords [IRQD_UNREGISTER_ACCEPTED], fun h => hhandler ?_⟩
    rw [← h, freeIrq, if_neg (matches_bound hhandler), if_neg htoken, if_neg (by decide)]

theorem releasable_iff {s : State} :
    Releasable s ↔ (s.irq.handler ≠ 0 → s.irq.deviceToken ≠ 0) :=
  ⟨fun h hh => (h hh).1, fun h hh => ⟨h hh, asksIrqd_iff.mpr ⟨hh, h hh⟩⟩⟩

section Step

variable {s s' : State}

theorem Releasable.of_irq (h : Releasable s) (hirq : s'.irq = s.irq) : Releasable s' := by
  rw [releasable_iff] at h ⊢
  rwa [hirq]

/-- A call that clears no token keeps the handler releasable. -/
theorem Releasable.beside (h : Releasable s) (hb : Beside s s') : Releasable s' := by
  rw [releasable_iff] at h ⊢
  intro hne
  rw [hb.token]
  rcases hb.handler with he | he | he
  · exact h (he ▸ hne)
  · exact absurd he hne
  · exact he

/-- After a call that clears the token, the handler must not have been installed. -/
theorem releasable_of_cleared (htoken : s'.irq.deviceToken = 0)
    (hhandler : s'.irq.handler = s.irq.handler) : Releasable s' ↔ s.irq.handler = 0 := by
  rw [releasable_iff, htoken, hhandler]
  exact ⟨fun h => by_contra fun hne => h hne rfl, fun h hne => absurd h hne⟩

theorem releasable_finishRemove (s : State) : Releasable (finishRemove s) ↔ s.irq.handler = 0 :=
  releasable_of_cleared rfl rfl

theorem Call.Aside.not_clears {c : Call} (h : c.Aside) : ¬ ClearsToken s c := by
  cases c <;> first | exact h.elim | exact Bool.false_ne_true

theorem clearsToken_return {status : Int} {f : Frame} {frames : List Frame}
    (h : s.frames = f :: frames) : ClearsToken s (.callbackReturn status) ↔
      (f = .probe ∧ status ≠ 0) ∨ f = .remove := by
  simp [ClearsToken, h]

theorem finishProbe_failed_irq {status : Int} (h : status ≠ 0) (s : State) :
    (finishProbe status s).2.irq = { s.irq with deviceToken := 0 } := by
  unfold finishProbe
  rw [if_pos h]

/-- The probe starts with a token, or leaves the token. -/
theorem Releasable.startProbe {d : PciDriver} {reply : Message} (h : Releasable s)
    (hvalid : ValidReply reply) : Releasable (startProbe d reply s) := by
  rw [releasable_iff] at h ⊢
  simp only [Kapi.startProbe]
  split
  · exact fun _ => hvalid.2.2.1
  · exact h

/-- One call keeps the handler releasable exactly when it does not clear the token of an installed
handler. -/
theorem releasable_step {c : Call} {r : Ret} (hl : Life s c r s') (h : Releasable s) :
    Releasable s' ↔ (ClearsToken s c → s.irq.handler = 0) := by
  cases hl with
  | aside hc _ hb _ => exact iff_of_true (h.beside hb) fun hclear => absurd hclear hc.not_clears
  | calledBack hf =>
    exact iff_of_true (h.of_irq rfl) fun hclear =>
      absurd hclear (Call.aside_of_runs hf).not_clears
  | refused => exact iff_of_true h fun hclear => absurd hclear Bool.false_ne_true
  | started _ hvalid _ _ =>
    exact iff_of_true (h.startProbe hvalid) fun hclear => absurd hclear Bool.false_ne_true
  | @unbound driver hno =>
    refine iff_of_true h fun hclear => ?_
    cases driver with
    | none => exact absurd hclear Bool.false_ne_true
    | some d => simp [ClearsToken, hno d rfl] at hclear
  | removing _ hremove =>
    exact iff_of_true (h.of_irq rfl) fun hclear => by simp [ClearsToken, hremove] at hclear
  | dropped hbound hremove =>
    rw [releasable_finishRemove]
    exact ⟨fun hzero _ => hzero, fun hclear => hclear (by simp [ClearsToken, hbound, hremove])⟩
  | @probed status frames hframes =>
    rw [clearsToken_return hframes]
    by_cases hstatus : status = 0
    · refine iff_of_true (h.of_irq ?_) fun hclear => by simp [hstatus] at hclear
      rw [hstatus]
      rfl
    · have hirq := finishProbe_failed_irq hstatus { s with frames }
      rw [releasable_of_cleared (s := s) (congrArg (·.deviceToken) hirq)
        (congrArg (·.handler) hirq)]
      exact ⟨fun hzero _ => hzero, fun hclear => hclear (.inl ⟨rfl, hstatus⟩)⟩
  | @removed status frames hframes =>
    rw [clearsToken_return hframes, releasable_finishRemove]
    exact ⟨fun hzero _ => hzero, fun hclear => hclear (.inr rfl)⟩
  | @resumed status f frames r hframes hf _ =>
    rw [clearsToken_return hframes]
    refine iff_of_true (h.of_irq rfl) fun hclear => ?_
    rcases hf with rfl | rfl <;> simp at hclear

end Step

theorem releasable_boot : Releasable State.boot := fun h => absurd rfl h

/-- **Installed handlers**: in every run, for all replies of the servers and all callbacks, a
handler is releasable in every state exactly when no failing probe and no removal clears the token
while a handler is installed. -/
theorem releasable_iff_each {cs : List Call} {s : State}
    (h : Run (Next State.next) State.boot cs s) :
    Always State.next State.boot cs Releasable ↔
      Each State.next State.boot cs fun t c => ClearsToken t c → t.irq.handler = 0 := by
  refine always_iff_each (fun t c t' ht hn => ?_) h releasable_boot
  obtain ⟨⟨r, u⟩, hc, rfl⟩ := Option.map_eq_some_iff.mp hn
  exact releasable_step (call_life hc) ht

/-- The edu driver is probed and requests its line; the handler is at 0x400100. -/
def probeCalls (d : PciDriver) : List Call :=
  [.bindDeviced 271, .bindIrq 11 272 273 274 275 276,
    .registerDriver (some d) eduReply,
    .requestIrq 11 0x400100 0x600000 (.ofWords [IRQD_REGISTER_ACCEPTED]), .callbackReturn 0]

/-- A driver that releases its line when it is removed. -/
theorem releasable_iff_each_edu : Always State.next State.boot (probeCalls eduDriver ++
    [.unregisterDriver (some eduDriver),
      .freeIrq 11 0x600000 (.ofWords [IRQD_UNREGISTER_ACCEPTED]), .callbackReturn 0])
    Releasable := by
  have hrun : ∃ s, exec State.next State.boot (probeCalls eduDriver ++
      [.unregisterDriver (some eduDriver),
        .freeIrq 11 0x600000 (.ofWords [IRQD_UNREGISTER_ACCEPTED]), .callbackReturn 0]) = some s :=
    Option.isSome_iff_exists.mp (by decide)
  obtain ⟨s, hs⟩ := hrun
  exact (releasable_iff_each (exec_iff.mp hs)).mpr (by decide)

/-- A driver without a removal is unregistered: its handler stays, without a token. -/
theorem handler_without_token : ¬ ∀ (cs : List Call) (s : State),
    Run (Next State.next) State.boot cs s → s.irq.handler ≠ 0 → s.irq.deviceToken ≠ 0 := by
  intro hall
  have hrun : ((exec State.next State.boot
      (probeCalls { eduDriver with remove := false } ++
        [.unregisterDriver (some { eduDriver with remove := false })])).any
      fun s => s.irq.handler != 0 && s.irq.deviceToken == 0) = true := by decide
  obtain ⟨s, hs, hd⟩ := (Option.any_eq_true _ _).mp hrun
  rw [Bool.and_eq_true, bne_iff_ne, beq_iff_eq] at hd
  exact hall _ s (exec_iff.mp hs) hd.1 hd.2

end SeLinOS.Kapi
