import Mathlib.Tactic.NormNum
import SeLinOS.Irq.Server

/-!
# The word of a registration

`irqd` stores the word of a registration as an `int`, and widens it when it compares it with the
word of a release.

* `IsInt`: the words that the two conversions keep.
* `Kept`: the registration stays, no other is accepted, and the same words release it, until a
  release.
* `register_release_iff`: an accepted registration is kept exactly when its word is an `int`.
-/

namespace SeLinOS.Irq

open CLogic Sel4

/-- The message of `request_irq`, for a word and a token. -/
def registerMessage (w token : Word) : Message := .ofWords [REGISTER_MAGIC, w, token]

/-- The message of `free_irq`. -/
def unregisterMessage (w token : Word) : Message := .ofWords [UNREGISTER_MAGIC, w, token]

/-- The word is a value of `int`, sign extended. -/
def IsInt (w : Word) : Prop := w.toNat < 2 ^ 31 ∨ 2 ^ 64 - 2 ^ 31 ≤ w.toNat

instance (w : Word) : Decidable (IsInt w) := inferInstanceAs (Decidable (_ ∨ _))

theorem isInt_iff {w : Word} : IsInt w ↔ w = (w.setWidth 32).signExtend 64 := by
  have hw := w.isLt
  rw [← BitVec.toNat_inj, BitVec.toNat_signExtend, BitVec.msb_eq_decide]
  simp only [IsInt, BitVec.toNat_setWidth, decide_eq_true_eq]
  split <;> omega

/-- An `int` that is not zero is stored as a number that is not zero. -/
theorem setWidth_ne_zero {w : Word} (h : IsInt w) (hne : w ≠ 0) : w.setWidth 32 ≠ 0 := by
  intro hzero
  have := isInt_iff.mp h
  rw [hzero] at this
  exact hne this

/-- The request is answered `UNREGISTER_ACCEPTED`. -/
def Releases (s : Server) : Event → Bool
  | .request m k => (handleRequest s m k).map Prod.snd == some UNREGISTER_ACCEPTED
  | _ => false

/-- From `t` on, as long as no release is accepted, `irqd` has a registration that is not zero,
refuses every other one, and accepts the release of `w`, which clears it. -/
def Kept (w token : Word) (t : Server) : Prop :=
  ∀ es u, Run (fun s e s' => Next Server.next s e s' ∧ ¬ Releases s e) t es u →
    u.registeredIrq ≠ 0 ∧ (∀ m, handleRegisterRequest u m = (u, 0)) ∧
      handleUnregisterRequest u (unregisterMessage w token) ⟨true, true⟩ =
        ({ u with registeredIrq := 0, capDeleted := true }, UNREGISTER_ACCEPTED)

section Step

variable {s s' : Server} {m : Message} {k : Teardown}

/-- A registration is not replaced. -/
theorem register_refused (h : s.registeredIrq ≠ 0) (m : Message) :
    handleRegisterRequest s m = (s, 0) := by
  rcases handleRegisterRequest_cases s m with he | ⟨-, -, -, -, hzero, -⟩
  · exact he
  · exact absurd hzero h

/-- With a registration, a request that releases nothing leaves it and the token. -/
theorem request_keeps (h : s.next (.request m k) = some s') (hkeep : ¬ Releases s (.request m k))
    (hreg : s.registeredIrq ≠ 0) :
    s'.registeredIrq = s.registeredIrq ∧ s'.activeDeviceToken = s.activeDeviceToken := by
  obtain ⟨reply, hr⟩ := next_request h
  simp only [Releases, hr, Option.map_some, beq_iff_eq, Option.some.injEq] at hkeep
  unfold handleRequest at hr
  split at hr
  · rw [register_refused hreg] at hr
    obtain ⟨rfl, -⟩ := Prod.mk.inj (Option.some.inj hr)
    exact ⟨rfl, rfl⟩
  · rcases handleUnregisterRequest_cases s m k with he | ⟨-, -, -, -, -, -, -, he⟩ <;>
      rw [he] at hr <;> obtain ⟨rfl, rfl⟩ := Prod.mk.inj (Option.some.inj hr)
    · exact ⟨rfl, rfl⟩
    · exact absurd rfl hkeep
  · cases hr

/-- The same for any event. -/
theorem next_keeps {e : Event} (h : s.next e = some s') (hkeep : ¬ Releases s e)
    (hreg : s.registeredIrq ≠ 0) :
    s'.registeredIrq = s.registeredIrq ∧ s'.activeDeviceToken = s.activeDeviceToken := by
  cases e with
  | request m k => exact request_keeps h hkeep hreg
  | hardware =>
    obtain ⟨-, rfl⟩ := next_hardware h
    exact ⟨rfl, rfl⟩
  | control c =>
    obtain rfl := next_control h
    exact ⟨rfl, rfl⟩
  | wait =>
    obtain ⟨badge, -, -, rfl⟩ := next_wait h
    exact ⟨rfl, rfl⟩
  | handle ack =>
    obtain ⟨-, ⟨-, rfl⟩ | ⟨-, rfl⟩⟩ := next_handle h <;> exact ⟨rfl, rfl⟩
  | complete m ack =>
    obtain ⟨-, masked, rfl⟩ := next_complete h
    exact ⟨rfl, rfl⟩

/-- An accepted registration: what the message says, and what is stored. -/
theorem register_accepted {w token : Word}
    (h : handleRequest s (registerMessage w token) k = some (s', REGISTER_ACCEPTED)) :
    w ≠ 0 ∧ token = s.activeDeviceToken ∧ s'.registeredIrq = w.setWidth 32 ∧
      s'.activeDeviceToken = s.activeDeviceToken := by
  unfold handleRequest at h
  split at h
  · rcases handleRegisterRequest_cases s (registerMessage w token) with
      he | ⟨-, -, hne, htoken, -, he⟩ <;> rw [he] at h <;>
      obtain ⟨rfl, hreply⟩ := Prod.mk.inj (Option.some.inj h)
    · exact absurd hreply (by decide)
    · exact ⟨hne, htoken, rfl, rfl⟩
  · rcases handleUnregisterRequest_cases s (registerMessage w token) k with
      he | ⟨-, hmagic, -⟩
    · rw [he] at h
      exact absurd (Prod.mk.inj (Option.some.inj h)).2 (by decide)
    · exact absurd (show REGISTER_MAGIC = UNREGISTER_MAGIC from hmagic) (by decide)
  · cases h

/-- The release of the stored word. -/
theorem unregister_stored {w token : Word} (hne : s.registeredIrq ≠ 0)
    (hw : w = s.registeredIrq.signExtend 64) (htoken : token = s.activeDeviceToken) :
    handleUnregisterRequest s (unregisterMessage w token) ⟨true, true⟩ =
      ({ s with registeredIrq := 0, capDeleted := true }, UNREGISTER_ACCEPTED) := by
  unfold handleUnregisterRequest
  rw [if_neg, if_neg (by simp), if_neg (by simp)]
  rintro (hc | hc | hc | hc | hc)
  exacts [hc rfl, hc rfl, hne hc, hc hw, hc htoken]

end Step

/-- **Registration and release**: a registration that `irqd` has accepted is kept until it is
released, and released by its own word, exactly when the word is an `int`. -/
theorem register_release_iff {s t : Server} {w token : Word} {k : Teardown}
    (h : handleRequest s (registerMessage w token) k = some (t, REGISTER_ACCEPTED)) :
    Kept w token t ↔ IsInt w := by
  obtain ⟨hne, htoken, hreg, hactive⟩ := register_accepted h
  constructor
  · intro hkept
    obtain ⟨-, -, hreleased⟩ := hkept [] t .nil
    rcases handleUnregisterRequest_cases t (unregisterMessage w token) ⟨true, true⟩ with
      he | ⟨-, -, -, hw, -⟩
    · rw [he] at hreleased
      have hreply : (0 : Word) = UNREGISTER_ACCEPTED := congrArg Prod.snd hreleased
      exact absurd hreply (by decide)
    · rw [hreg] at hw
      exact isInt_iff.mpr hw
  · intro hint es u hrun
    have hkeeps : u.registeredIrq = t.registeredIrq ∧
        u.activeDeviceToken = t.activeDeviceToken := by
      refine hrun.invariant (I := fun v => v.registeredIrq = t.registeredIrq ∧
        v.activeDeviceToken = t.activeDeviceToken) ?_ ⟨rfl, rfl⟩
      rintro v e v' ⟨hv, hv'⟩ ⟨hn, hkeep⟩
      have hvne : v.registeredIrq ≠ 0 := by
        rw [hv, hreg]
        exact setWidth_ne_zero hint hne
      obtain ⟨h1, h2⟩ := next_keeps hn hkeep hvne
      exact ⟨h1.trans hv, h2.trans hv'⟩
    have hune : u.registeredIrq ≠ 0 := by
      rw [hkeeps.1, hreg]
      exact setWidth_ne_zero hint hne
    refine ⟨hune, register_refused hune, unregister_stored hune ?_ ?_⟩
    · rw [hkeeps.1, hreg]
      exact isInt_iff.mp hint
    · rw [hkeeps.2, hactive]
      exact htoken

/-- `irqd` at the receive of `handle_register_request`. -/
def registering : Server :=
  { Server.start 7 with pc := .registerRecv CONTROL_REGISTER_BADGE }

theorem register_release_iff_line : Kept 11 7 { Server.start 7 with registeredIrq := 11 } :=
  (register_release_iff (s := registering) (k := ⟨true, true⟩) rfl).mpr (by decide)

/-- The word 2 ^ 32 is accepted, and nothing is registered. -/
theorem wide_word_lost : ¬ ∀ (s t : Server) (w token : Word) (k : Teardown),
    s.registeredIrq = 0 →
    handleRequest s (registerMessage w token) k = some (t, REGISTER_ACCEPTED) →
    t.registeredIrq ≠ 0 := fun hall =>
  hall registering (Server.start 7) 0x100000000 7 ⟨true, true⟩ rfl rfl rfl

end SeLinOS.Irq
