import SeLinOS.Sel4.Thread

/-!
# Bundles of threads

The threads of a bundle as the root task starts them, and how their runs are described.

* `Behaves`: threads in other states that make the same system calls.
* `Asks`: a bundle that starts with a message of one thread.
* `caps_of_run`: where the capabilities of a thread come from.
-/

namespace SeLinOS.Sel4

open CLogic

variable {ι ν τ : Type} {S : ι → Type} [DecidableEq ι] [DecidableEq ν]

/-- The message has these words and no label. -/
def Exact (words : List Word) (m : Message) : Prop :=
  m.label = 0 ∧ m.length = words.length ∧ ∀ i < words.length, m.mr i = words.getD i 0

instance (words : List Word) (m : Message) : Decidable (Exact words m) :=
  inferInstanceAs (Decidable (_ ∧ _))

/-! ## Threads in other states -/

section

variable {S' : ι → Type} {b' : System ι ν τ S'} {f : ∀ i, S i → S' i}

def Act.map {σ σ' : Type} (f : σ → σ') : Act τ σ → Act τ σ'
  | .yield => .yield
  | .putString text next => .putString text (f next)
  | .recv slot next => .recv slot fun m => f (next m)
  | .send slot m next => .send slot m (f next)
  | .call slot m path next => .call slot m path (f next)
  | .await next => .await fun m => f (next m)
  | .reply m cap next => .reply m cap (f next)
  | .signal slot next => .signal slot (f next)
  | .wait slot next => .wait slot (f next)
  | .resume slot next => .resume slot fun ok => f (next ok)
  | .suspend slot next => .suspend slot fun ok => f (next ok)

def Tcb.map {σ σ' : Type} (f : σ → σ') (t : Tcb ι ν σ) : Tcb ι ν σ' :=
  ⟨f t.code, t.caps, t.path, t.caller, t.suspended⟩

/-- The state of a component, with the states of the threads mapped. -/
def Component.map (f : ∀ i, S i → S' i) : (x : Name ι ν) → Component ι ν S x → Component ι ν S' x
  | .thread i, t => Tcb.map (f i) t
  | .notification _, flag => flag

/-- The threads of `b'` behave as those of `b`. -/
structure Behaves (b : System ι ν τ S) (b' : System ι ν τ S') (f : ∀ i, S i → S' i) : Prop where
  act : ∀ i s, b'.act i (f i s) = (b.act i s).map (f i)
  waiter : b'.waiter = b.waiter

omit [DecidableEq ν] in
theorem Tcb.wants_map {σ σ' : Type} (f : σ → σ') (i : ι) (t : Tcb ι ν σ) (a : Act τ σ) :
    (t.map f).wants i (a.map f) = t.wants i a := by
  cases a <;> rfl

omit [DecidableEq ι] [DecidableEq ν] in
theorem Tcb.after_map {σ σ' : Type} (f : σ → σ') (t : Tcb ι ν σ) (a : Act τ σ)
    (e : Event ι ν τ) : (t.map f).after (a.map f) e = (t.after a e).map f := by
  cases a <;> first | rfl | (cases e <;> rfl)

omit [DecidableEq ι] [DecidableEq ν] in
theorem Tcb.receive_map {σ σ' : Type} (f : σ → σ') (t : Tcb ι ν σ) (cap : Option (Cap ι ν)) :
    (t.map f).receive cap = ((t.receive cap).1, (t.receive cap).2.map f) := by
  obtain ⟨code, caps, path, caller, suspended⟩ := t
  cases cap with
  | none => rfl
  | some cap =>
    cases path with
    | none => rfl
    | some slot =>
      simp only [Tcb.receive, Tcb.map]
      by_cases hempty : (caps slot).isNone
      · simp only [if_pos hempty]
        exact if_pos hempty
      · simp only [if_neg hempty]
        exact if_neg hempty

omit [DecidableEq ι] in
theorem Tcb.deliver_map {σ σ' : Type} (f : σ → σ') (t : Tcb ι ν σ) (e : ν) (m : Message)
    (caller : Option ι) (a : Act τ σ) :
    (t.map f).deliver e m caller (a.map f) = (t.deliver e m caller a).map (Tcb.map f) := by
  cases a with
  | recv slot next =>
    simp only [Tcb.deliver, Act.map, Tcb.map]
    cases t.caps slot with
    | none => rfl
    | some cap =>
      cases cap with
      | endpoint j e' => by_cases he : e' = e <;> simp [he, Tcb.map]
      | _ => rfl
  | _ => rfl

theorem Tcb.accepts_map {σ σ' : Type} (f : σ → σ') (t : Tcb ι ν σ) (a : Act τ σ)
    (e : Event ι ν τ) : (t.map f).accepts (a.map f) e = (t.accepts a e).map (Tcb.map f) := by
  cases e with
  | send | call =>
    simp only [Tcb.accepts, Tcb.deliver_map]
    by_cases hs : t.suspended <;> simp [hs, Tcb.map]
  | reply j i m cap =>
    cases a with
    | await next =>
      simp only [Tcb.accepts, Act.map, Tcb.receive_map, Option.map_some]
      rfl
    | _ => rfl
  | wake n i =>
    cases a with
    | wait slot next =>
      simp only [Tcb.accepts, Act.map, Tcb.map]
      by_cases hno : t.suspended ∨ t.caps slot ≠ some (.notification n)
      · rw [if_pos hno, Option.map_none]
        exact if_pos hno
      · rw [if_neg hno, Option.map_some]
        exact if_neg hno
    | _ => rfl
  | _ => rfl

theorem Behaves.maps {b : System ι ν τ S} (h : Behaves b b' f) :
    (net b).Maps (net b') (Component.map f) where
  owner := rfl
  partner := rfl
  wants x s := by
    cases x with
    | thread i =>
      simp only [net, wants, Component.map]
      rw [show (Tcb.map (f i) s).suspended = s.suspended from rfl,
        show (Tcb.map (f i) s).code = f i s.code from rfl, h.act, Tcb.wants_map]
    | notification n => simp only [net, wants, Component.map, h.waiter]
  after x e s := by
    cases x with
    | thread i =>
      simp only [net, after, Component.map]
      rw [show (Tcb.map (f i) s).code = f i s.code from rfl, h.act, Tcb.after_map]
    | notification n => rfl
  accepts x e s := by
    cases x with
    | thread i =>
      simp only [net, accepts, Component.map]
      rw [show (Tcb.map (f i) s).code = f i s.code from rfl, h.act, Tcb.accepts_map]
      rfl
    | notification n => cases e <;> rfl

theorem Act.map_id {σ : Type} (a : Act τ σ) : a.map id = a := by
  cases a <;> rfl

end

/-! ## Bundles -/

/-- The threads of a bundle as the root task leaves them. -/
def start (main : ∀ i, S i) (caps : ι → Slot → Option (Cap ι ν)) (suspended : ι → Bool) :
    (x : Name ι ν) → Component ι ν S x
  | .thread i => ⟨main i, caps i, none, none, suspended i⟩
  | .notification _ => false

variable {b : System ι ν τ S} {main main' : ∀ i, S i} {caps : ι → Slot → Option (Cap ι ν)}
  {suspended : ι → Bool} {i j : ι} {e : ν} {m : Message} {next : S i} {handle : Message → S j}
  {c es : List (Event ι ν τ)} {s t : ∀ x, Component ι ν S x}

/-- A bundle that starts with a message of `i` to `j`: all other threads wait. -/
structure Asks (b : System ι ν τ S) (main : ∀ i, S i) (caps : ι → Slot → Option (Cap ι ν))
    (suspended : ι → Bool) (i j : ι) (e : ν) (m : Message) (next : S i) (handle : Message → S j) :
    Prop where
  ne : j ≠ i
  send : ∃ slot, b.act i (main i) = .send slot m next ∧ caps i slot = some (.endpoint j e)
  recv : ∃ slot, b.act j (main j) = .recv slot handle ∧ caps j slot = some (.endpoint i e)
  runs : suspended i = false ∧ suspended j = false
  others : ∀ k, k ≠ i → wants b (.thread k) (start main caps suspended (.thread k)) = none

theorem Asks.step (h : Asks b main caps suspended i j e m next handle) (hi : main' i = next)
    (hj : main' j = handle m) (hframe : ∀ k, k ≠ i → k ≠ j → main' k = main k) :
    (net b).Step (start main caps suspended) (.send i j e m) (start main' caps suspended) := by
  obtain ⟨hne, ⟨slot, hsend, hcap⟩, ⟨slot', hrecv, hcap'⟩, ⟨hruns, hruns'⟩, -⟩ := h
  refine ⟨?_, ?_, fun y hy => ?_, fun x hx => ?_⟩
  · simp [net, wants, start, Event.owner, Tcb.wants, hsend, hcap, hruns, hne]
  · simp [net, after, start, Event.owner, Tcb.after, hsend, hi]
  · obtain rfl : Name.thread j = y := Option.some.inj hy
    simp [net, accepts, start, Tcb.accepts, Tcb.deliver, hrecv, hcap', hruns', hj]
  · cases x with
    | notification n => rfl
    | thread k =>
      have hk : k ≠ i ∧ k ≠ j := by
        constructor
        · rintro rfl
          exact hx (.inl rfl)
        · rintro rfl
          exact hx (.inr rfl)
      simp [start, hframe k hk.1 hk.2]

/-- The bundle performs the message and what the network performs after it. -/
theorem Asks.run (h : Asks b main caps suspended i j e m next handle) (hi : main' i = next)
    (hj : main' j = handle m) (hframe : ∀ k, k ≠ i → k ≠ j → main' k = main k)
    (hplays : (net b).Plays c (start main' caps suspended) t)
    (hrun : Run (net b).Step (start main caps suspended) es s) :
    (net b).Performs (.send i j e m :: c) (start main caps suspended) es s := by
  refine hplays.run_sole (fun x hx => ?_) (h.step hi hj hframe) hrun
  cases x with
  | notification n => rfl
  | thread k => exact h.others k fun hk => hx (congrArg Name.thread hk)

/-- In every run, the capabilities of a thread are those that it started with and those that came
with replies to it. -/
theorem caps_of_run (h : Run (net b).Step (start main caps suspended) es s) (i : ι) (slot : Slot) :
    (s (.thread i)).caps slot = caps i slot ∨ ∃ j m cap, .reply j i m (some cap) ∈ es ∧
      caps i slot = none ∧ (s (.thread i)).caps slot = some cap := by
  refine h.history (I := fun es s => ∀ i slot, (s (.thread i)).caps slot = caps i slot ∨
    ∃ j m cap, .reply j i m (some cap) ∈ es ∧ caps i slot = none ∧
      (s (.thread i)).caps slot = some cap) ?_ (fun i slot => .inl rfl) i slot
  intro es s e s' ih hstep i slot
  have hkept (hcaps : (s' (.thread i)).caps slot = (s (.thread i)).caps slot) :
      (s' (.thread i)).caps slot = caps i slot ∨ ∃ j m cap, .reply j i m (some cap) ∈ es ++ [e] ∧
        caps i slot = none ∧ (s' (.thread i)).caps slot = some cap := by
    rw [hcaps]
    refine (ih i slot).imp_right ?_
    rintro ⟨j, m, cap, hmem, hnone, hcap⟩
    exact ⟨j, m, cap, List.mem_append_left _ hmem, hnone, hcap⟩
  by_cases hpart : (net b).Part e (.thread i)
  · rcases hpart with howner | hpartner
    · have := hstep.owner
      rw [howner] at this
      exact hkept (by rw [this]; exact congrFun (Tcb.after_caps _ _ _) slot)
    · rcases Tcb.accepts_caps (hstep.partner _ hpartner) with heq |
        ⟨j, i', m, cap, slot', rfl, hempty, heq⟩
      · exact hkept (congrFun heq slot)
      · obtain rfl : i' = i := by simpa [net, Event.partner] using hpartner
        by_cases hslot : slot = slot'
        · subst hslot
          refine .inr ⟨j, m, cap, by simp, ?_, by rw [heq, Function.update_self]⟩
          rcases ih i' slot with h | ⟨_, _, _, _, hnone, _⟩
          · rw [← h, hempty]
          · exact hnone
        · exact hkept (by rw [heq, Function.update_of_ne hslot])
  · exact hkept (by rw [hstep.frame _ hpart])

end SeLinOS.Sel4
