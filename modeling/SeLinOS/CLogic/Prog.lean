import Mathlib.Tactic.NormNum

/-!
# Programs with early returns and checked memory accesses

`Prog ε σ α` is the body of a C function over a state `σ`: it falls through with a value (`ok`),
leaves the function early with a return code `ε` (`ret`, the state as it is then), or does
something that C leaves undefined (`fault`: an access outside the object, a signed overflow where
the model looks for it, or a loop that its fuel does not cover). A program never recovers from a
fault.

`Prog.wp p Q E s` is total correctness: from `s`, `p` does not fault; if it falls through with `a`
in `s'`, `Q a s'`; if it returns `e` in `s'`, `E e s'`. The rules below follow the operations, one
each, and a proof about a function applies them in the order of its statements.
-/

namespace CLogic

/-- Why a run has no defined behaviour. -/
inductive Fault where
  | read (i : Nat)
  | write (i : Nat)
  | fuel
  | overflow
  deriving Repr, DecidableEq

/-- How a run ends. -/
inductive Res (ε σ α : Type) where
  | ok (a : α) (s : σ)
  | ret (e : ε) (s : σ)
  | fault (f : Fault)
  deriving DecidableEq

/-- What an early return gives. -/
def Res.returned {ε σ α : Type} : Res ε σ α → Option (ε × σ)
  | ret e s => some (e, s)
  | _ => none

theorem Res.eq_of_returned {ε σ α : Type} {r : Res ε σ α} {e : ε} {s : σ}
    (h : r.returned = some (e, s)) : r = .ret e s := by
  cases r with
  | ok _ _ => cases h
  | ret _ _ => cases h; rfl
  | fault _ => cases h

/-- A computed return. The state is not named. -/
theorem Res.exists_of_returned {ε σ α : Type} {r : Res ε σ α} {e : ε}
    (h : r.returned.map (·.1) = some e) : ∃ s, r = .ret e s := by
  cases r with
  | ok a s => cases h
  | ret e' s => exact ⟨s, congrArg (Res.ret · s) (Option.some.inj h)⟩
  | fault x => cases h

/-- The state in which a run ends. -/
def Res.final {ε σ α : Type} : Res ε σ α → Option σ
  | ok _ s => some s
  | ret _ s => some s
  | fault _ => none

/-- A C function body over the state `σ` with return codes `ε`. -/
def Prog (ε σ α : Type) : Type := σ → Res ε σ α

namespace Prog

variable {ε ε' σ σ' α β γ : Type}

/-- Sequencing: an early return and a fault skip the rest. -/
def bind (p : Prog ε σ α) (f : α → Prog ε σ β) : Prog ε σ β := fun s =>
  match p s with
  | .ok a s' => f a s'
  | .ret e s' => .ret e s'
  | .fault x => .fault x

instance : Monad (Prog ε σ) where
  pure a := fun s => .ok a s
  bind := bind

/-- `return e;` -/
def ret (e : ε) : Prog ε σ α := fun s => .ret e s

def fault (f : Fault) : Prog ε σ α := fun _ => .fault f

def get : Prog ε σ σ := fun s => .ok s s

def modify (f : σ → σ) : Prog ε σ Unit := fun s => .ok () (f s)

/-- `if (c) p;` -/
def when (c : Prop) [Decidable c] (p : Prog ε σ Unit) : Prog ε σ Unit := if c then p else pure ()

/-- `c && p`: `p` runs only if `c` holds. -/
def andThen (c : Prop) [Decidable c] (p : Prog ε σ Bool) : Prog ε σ Bool :=
  if c then p else pure false

/-- A call of a function with its own state and return codes: the caller gets both. -/
def call (p : Prog ε' σ' α) (t : σ') : Prog ε σ (Except ε' α × σ') := fun s =>
  match p t with
  | .ok a t' => .ok (.ok a, t') s
  | .ret e t' => .ok (.error e, t') s
  | .fault x => .fault x

/-- A call, with the locals `t`, of a function that returns a value in its body, or `b` at its
end. -/
def callRet (p : Prog β σ' Unit) (t : σ') (b : β) : Prog ε σ β := fun s =>
  match p t with
  | .ok _ _ => .ok b s
  | .ret e _ => .ok e s
  | .fault x => .fault x

/-- `body`, and then the statements from a label `out` on, where a return of `body` is `goto
out`. -/
def label (body : Prog Unit σ Unit) (out : Prog ε σ α) : Prog ε σ α := fun s =>
  match body s with
  | .ok _ s' => out s'
  | .ret _ s' => out s'
  | .fault x => .fault x

/-! ## Runs -/

@[simp] theorem pure_run (a : α) (s : σ) : (pure a : Prog ε σ α) s = .ok a s := rfl

theorem bind_run (p : Prog ε σ α) (f : α → Prog ε σ β) (s : σ) :
    (p >>= f) s = match p s with
      | .ok a s' => f a s'
      | .ret e s' => .ret e s'
      | .fault x => .fault x := rfl

theorem pure_bind_run (a : α) (f : α → Prog ε σ β) : (pure a >>= f) = f a := rfl

@[simp] theorem ret_run (e : ε) (s : σ) : (ret e : Prog ε σ α) s = .ret e s := rfl

@[simp] theorem get_run (s : σ) : (get : Prog ε σ σ) s = .ok s s := rfl

@[simp] theorem modify_run (f : σ → σ) (s : σ) : (modify f : Prog ε σ Unit) s = .ok () (f s) := rfl

@[simp] theorem ite_run (c : Prop) [Decidable c] (p q : Prog ε σ α) (s : σ) :
    (if c then p else q) s = if c then p s else q s := by split <;> rfl

theorem bind_assoc_run (p : Prog ε σ α) (f : α → Prog ε σ β) (g : β → Prog ε σ γ) :
    (p >>= f) >>= g = p >>= fun a => f a >>= g := by
  funext s
  rw [bind_run, bind_run, bind_run]
  cases p s <;> rfl

/-- A sequence that falls through: both parts do. -/
theorem bind_ok {p : Prog ε σ α} {f : α → Prog ε σ β} {s s'' : σ} {b : β}
    (h : (p >>= f) s = .ok b s'') : ∃ a s', p s = .ok a s' ∧ f a s' = .ok b s'' := by
  rw [bind_run] at h
  cases hp : p s with
  | ok a s' => rw [hp] at h; exact ⟨a, s', rfl, h⟩
  | ret e s' => rw [hp] at h; cases h
  | fault x => rw [hp] at h; cases h

/-! ## The weakest precondition -/

/-- Total correctness of `p` from `s` (module doc). -/
def wp (p : Prog ε σ α) (Q : α → σ → Prop) (E : ε → σ → Prop) (s : σ) : Prop :=
  match p s with
  | .ok a s' => Q a s'
  | .ret e s' => E e s'
  | .fault _ => False

variable {Q Q' : α → σ → Prop} {E E' : ε → σ → Prop} {s : σ}

theorem wp_pure {a : α} (h : Q a s) : wp (pure a : Prog ε σ α) Q E s := h

theorem wp_ret {e : ε} (h : E e s) : wp (ret e : Prog ε σ α) Q E s := h

theorem wp_get {Q : σ → σ → Prop} (h : Q s s) : wp (get : Prog ε σ σ) Q E s := h

theorem wp_modify {f : σ → σ} {Q : Unit → σ → Prop} (h : Q () (f s)) :
    wp (modify f : Prog ε σ Unit) Q E s := h

theorem wp_bind {p : Prog ε σ α} {f : α → Prog ε σ β} {R : β → σ → Prop}
    (h : wp p (fun a s' => wp (f a) R E s') E s) : wp (p >>= f) R E s := by
  unfold wp at h ⊢
  rw [bind_run]
  cases hp : p s with
  | ok a s' => rw [hp] at h; exact h
  | ret e s' => rw [hp] at h; exact h
  | fault x => rw [hp] at h; exact h

theorem wp_mono {p : Prog ε σ α} (h : wp p Q E s) (hQ : ∀ a s', Q a s' → Q' a s')
    (hE : ∀ e s', E e s' → E' e s') : wp p Q' E' s := by
  unfold wp at h ⊢
  cases hp : p s with
  | ok a s' => rw [hp] at h; exact hQ _ _ h
  | ret e s' => rw [hp] at h; exact hE _ _ h
  | fault x => rw [hp] at h; exact h

/-- Sequencing with a midpoint, for a first part that has its own specification. -/
theorem wp_seq {p : Prog ε σ α} {f : α → Prog ε σ β} {R : β → σ → Prop} (h : wp p Q E s)
    (hE : ∀ e s', E e s' → E' e s') (hQ : ∀ a s', Q a s' → wp (f a) R E' s') :
    wp (p >>= f) R E' s :=
  wp_bind (wp_mono h hQ hE)

theorem wp_ite {c : Prop} [Decidable c] {p q : Prog ε σ α} (ht : c → wp p Q E s)
    (hf : ¬ c → wp q Q E s) : wp (if c then p else q) Q E s := by
  by_cases hc : c
  · rw [if_pos hc]; exact ht hc
  · rw [if_neg hc]; exact hf hc

theorem wp_when {c : Prop} [Decidable c] {p : Prog ε σ Unit} {Q : Unit → σ → Prop}
    (ht : c → wp p Q E s) (hf : ¬ c → Q () s) : wp (when c p) Q E s :=
  wp_ite ht fun h => wp_pure (hf h)

theorem wp_andThen {c : Prop} [Decidable c] {p : Prog ε σ Bool} {Q : Bool → σ → Prop}
    (ht : c → wp p Q E s) (hf : ¬ c → Q false s) : wp (andThen c p) Q E s :=
  wp_ite ht fun h => wp_pure (hf h)

/-- A run whose outcome is known. -/
theorem wp_of_run {p : Prog ε σ α} {a : α} {s' : σ} (hp : p s = .ok a s') (h : Q a s') :
    wp p Q E s := by
  unfold wp; rw [hp]; exact h

theorem wp_of_retRun {p : Prog ε σ α} {e : ε} {s' : σ} (hp : p s = .ret e s') (h : E e s') :
    wp p Q E s := by
  unfold wp; rw [hp]; exact h

/-- Two programs with the same run. -/
theorem wp_congr {p q : Prog ε σ α} (hp : p s = q s) (h : wp q Q E s) : wp p Q E s := by
  unfold wp at *; rw [hp]; exact h

theorem wp_call {p : Prog ε' σ' α} {t : σ'} {R : Except ε' α × σ' → σ → Prop}
    (h : wp p (fun a t' => R (.ok a, t') s) (fun e t' => R (.error e, t') s) t) :
    wp (call p t) R E s := by
  unfold wp call at *
  cases hp : p t with
  | ok a t' => rw [hp] at h; exact h
  | ret e t' => rw [hp] at h; exact h
  | fault x => rw [hp] at h; exact h

theorem wp_label {body : Prog Unit σ Unit} {out : Prog ε σ α}
    (h : wp body (fun _ s' => wp out Q E s') (fun _ s' => wp out Q E s') s) :
    wp (label body out) Q E s := by
  unfold wp label at *
  cases hp : body s with
  | ok a t => rw [hp] at h; exact h
  | ret e t => rw [hp] at h; exact h
  | fault x => rw [hp] at h; exact h

/-- The end of a run, with its state by name. -/
theorem wp_final {p : Prog ε σ α} (h : wp p Q E s) :
    wp p (fun a s' => Q a s' ∧ (p s).final = some s') (fun e s' => E e s' ∧ (p s).final = some s')
      s := by
  unfold wp at *
  cases hp : p s with
  | ok a t => rw [hp] at h; exact ⟨h, rfl⟩
  | ret e t => rw [hp] at h; exact ⟨h, rfl⟩
  | fault x => rw [hp] at h; exact h

/-- A run that does not fault has an end. -/
theorem exists_final {p : Prog ε σ α} {P : σ → Prop}
    (h : wp p (fun _ t => P t) (fun _ t => P t) s) : ∃ t, (p s).final = some t ∧ P t := by
  unfold wp at h
  cases hp : p s with
  | ok a t => rw [hp] at h; exact ⟨t, rfl, h⟩
  | ret e t => rw [hp] at h; exact ⟨t, rfl, h⟩
  | fault x => rw [hp] at h; exact h.elim

/-- A total program does not fault. -/
theorem wp_noFault {p : Prog ε σ α} (h : wp p Q E s) (x : Fault) : p s ≠ .fault x := by
  intro hp; unfold wp at h; rw [hp] at h; exact h

theorem wp_ok {p : Prog ε σ α} (h : wp p Q E s) {a : α} {s' : σ} (hp : p s = .ok a s') :
    Q a s' := by
  unfold wp at h; rw [hp] at h; exact h

theorem wp_ret_of {p : Prog ε σ α} (h : wp p Q E s) {e : ε} {s' : σ} (hp : p s = .ret e s') :
    E e s' := by
  unfold wp at h; rw [hp] at h; exact h

/-- A program that can only fall through with `a` in `s'` does so. -/
theorem run_of_wp {p : Prog ε σ α} {a : α} {s' : σ}
    (h : wp p (fun b t => b = a ∧ t = s') (fun _ _ => False) s) : p s = .ok a s' := by
  unfold wp at h
  cases hp : p s with
  | ok b t =>
    rw [hp] at h
    obtain ⟨rfl, rfl⟩ := h
    rfl
  | ret e t => rw [hp] at h; exact h.elim
  | fault x => rw [hp] at h; exact h.elim

/-- A program that can only return does so, and what it gives then has `P` if and only if `C`. -/
theorem returns_iff {p : Prog ε σ α} {P : ε → σ → Prop} {C : Prop}
    (h : wp p (fun _ _ => False) (fun e s' => P e s' ↔ C) s) :
    (∃ e s', p s = .ret e s' ∧ P e s') ↔ C := by
  unfold wp at h
  cases hp : p s with
  | ok a t => rw [hp] at h; exact h.elim
  | ret e t =>
    rw [hp] at h
    constructor
    · rintro ⟨e', t', heq, hP⟩
      cases heq
      exact h.mp hP
    · exact fun hC => ⟨e, t, rfl, h.mpr hC⟩
  | fault x => rw [hp] at h; exact h.elim

theorem exists_returns {p : Prog ε σ α} {P : ε → σ → Prop} (h : wp p (fun _ _ => False) P s) :
    ∃ e s', p s = .ret e s' ∧ P e s' :=
  (returns_iff (C := True) (wp_mono h (fun _ _ h => h) fun _ _ h => iff_of_true h trivial)).mpr
    trivial

/-- A program that can only fall through does so. -/
theorem exists_ok {p : Prog ε σ α} {P : α → σ → Prop} (h : wp p P (fun _ _ => False) s) :
    ∃ a s', p s = .ok a s' ∧ P a s' := by
  unfold wp at h
  cases hp : p s with
  | ok a t => rw [hp] at h; exact ⟨a, t, rfl, h⟩
  | ret e t => rw [hp] at h; exact h.elim
  | fault x => rw [hp] at h; exact h.elim

/-- The call gives a value that does not depend on the state of the caller. -/
theorem callRet_run {p : Prog β σ' Unit} {t : σ'} {b : β} {P : β → Prop}
    (h : wp p (fun _ _ => P b) (fun e _ => P e) t) :
    ∃ r, P r ∧ ∀ {ε σ : Type} (s : σ), (callRet p t b : Prog ε σ β) s = .ok r s := by
  unfold wp at h
  unfold callRet
  cases hp : p t with
  | ok u t' => rw [hp] at h; exact ⟨b, h, fun _ => rfl⟩
  | ret e t' => rw [hp] at h; exact ⟨e, h, fun _ => rfl⟩
  | fault x => rw [hp] at h; exact h.elim

/-- Two programs that go on alike after the first part. -/
theorem bind_congr_wp {p : Prog ε σ α} {f g : α → Prog ε σ β}
    (h : wp p (fun a s' => f a s' = g a s') E s) : (p >>= f) s = (p >>= g) s := by
  rw [bind_run, bind_run]
  cases hp : p s with
  | ok a s' => exact wp_ok h hp
  | ret e s' => rfl
  | fault x => rfl

theorem wp_and {p : Prog ε σ α} (h : wp p Q E s) (h' : wp p Q' E' s) :
    wp p (fun a s' => Q a s' ∧ Q' a s') (fun e s' => E e s' ∧ E' e s') s := by
  unfold wp at *
  cases hp : p s with
  | ok a s' => rw [hp] at h h'; exact ⟨h, h'⟩
  | ret e s' => rw [hp] at h h'; exact ⟨h, h'⟩
  | fault x => rw [hp] at h; exact h

/-- The value and the final state of a program that neither faults nor returns early. -/
def eval (p : Prog Empty σ α) (s : σ) (h : wp p (fun _ _ => True) (fun _ _ => True) s) : α × σ :=
  match hp : p s with
  | .ok a s' => (a, s')
  | .ret e _ => e.elim
  | .fault x => absurd hp (wp_noFault h x)

theorem eval_run {p : Prog Empty σ α} {s : σ} {h : wp p (fun _ _ => True) (fun _ _ => True) s} :
    p s = .ok (eval p s h).1 (eval p s h).2 := by
  unfold eval
  split
  · assumption
  · rename_i e _ _
    exact e.elim
  · exact absurd ‹_› (wp_noFault h _)

-- From here on a goal `wp p Q E s` is taken apart by the rules only, never by evaluation.
attribute [irreducible] wp

/-! ## Loops -/

/-- `for (i = lo; i < lo + n; ++i) body(i)`. -/
def forUp (body : Nat → Prog ε σ Unit) : Nat → Nat → Prog ε σ Unit
  | _, 0 => pure ()
  | i, n + 1 => do
    body i
    forUp body (i + 1) n

/-- `for (i = lo; i < lo + n; ++i)` with a `return` of the inner function in its body: the first
value that the body gives, or `none` after the last iteration. -/
def firstUp (body : Nat → Prog ε σ (Option β)) : Nat → Nat → Prog ε σ (Option β)
  | _, 0 => pure none
  | i, n + 1 => do
    match ← body i with
    | some b => pure (some b)
    | none => firstUp body (i + 1) n

/-- `for (i = lo; i < lo + n; ++i)` over the locals `β`. -/
def foldUp (body : Nat → β → Prog ε σ β) : Nat → Nat → β → Prog ε σ β
  | _, 0, b => pure b
  | i, n + 1, b => do
    let b ← body i b
    foldUp body (i + 1) n b

/-- `while (cond) body` over the locals `β`; a loop longer than its fuel faults. -/
def whileM (cond : β → Prog ε σ Bool) (body : β → Prog ε σ β) : Nat → β → Prog ε σ β
  | 0, _ => fault .fuel
  | n + 1, b => do
    if ← cond b then
      let b' ← body b
      whileM cond body n b'
    else
      pure b

/-- A loop depends on the iterations in its range. -/
theorem forUp_congr {body body' : Nat → Prog ε σ Unit} {lo n : Nat}
    (h : ∀ i, lo ≤ i → i < lo + n → body i = body' i) : forUp body lo n = forUp body' lo n := by
  induction n generalizing lo with
  | zero => rfl
  | succ n ih =>
    rw [forUp, forUp, h lo (Nat.le_refl _) (by omega), ih fun i hi hn => h i (by omega) (by omega)]

/-- The invariant rule of `forUp`: `I k` holds after the iterations below `k`. -/
theorem wp_forUp {body : Nat → Prog ε σ Unit} (I : Nat → σ → Prop) (lo n : Nat) (s : σ)
    (hI : I lo s)
    (step : ∀ i s, lo ≤ i → i < lo + n → I i s → wp (body i) (fun _ s' => I (i + 1) s') E s) :
    wp (forUp body lo n) (fun _ s' => I (lo + n) s') E s := by
  induction n generalizing lo s with
  | zero => exact wp_pure hI
  | succ n ih =>
    refine wp_seq (step lo s (Nat.le_refl _) (by omega) hI) (fun _ _ h => h) fun _ s' h => ?_
    have := ih (lo + 1) s' h fun i s hi hn => step i s (by omega) (by omega)
    rwa [show lo + 1 + n = lo + (n + 1) by omega] at this

/-- The invariant rule of `foldUp`. -/
theorem wp_foldUp {body : Nat → β → Prog ε σ β} (I : Nat → β → σ → Prop) (lo n : Nat) (b : β)
    (s : σ) (hI : I lo b s)
    (step : ∀ i b s, lo ≤ i → i < lo + n → I i b s →
      wp (body i b) (fun b' s' => I (i + 1) b' s') E s) :
    wp (foldUp body lo n b) (fun b' s' => I (lo + n) b' s') E s := by
  induction n generalizing lo b s with
  | zero => exact wp_pure hI
  | succ n ih =>
    refine wp_seq (step lo b s (Nat.le_refl _) (by omega) hI) (fun _ _ h => h) fun b' s' h => ?_
    have := ih (lo + 1) b' s' h fun i b s hi hn => step i b s (by omega) (by omega)
    rwa [show lo + 1 + n = lo + (n + 1) by omega] at this

/-- The invariant rule of `firstUp`: a value ends the loop in `Q (some b)`. -/
theorem wp_firstUp {body : Nat → Prog ε σ (Option β)} (I : Nat → σ → Prop)
    {Q : Option β → σ → Prop} (lo n : Nat) (s : σ) (hI : I lo s)
    (step : ∀ i s, lo ≤ i → i < lo + n → I i s →
      wp (body i) (fun r s' => match r with
        | some b => Q (some b) s'
        | none => I (i + 1) s') E s)
    (hend : ∀ s, I (lo + n) s → Q none s) : wp (firstUp body lo n) Q E s := by
  induction n generalizing lo s with
  | zero => exact wp_pure (hend _ hI)
  | succ n ih =>
    refine wp_seq (step lo s (Nat.le_refl _) (by omega) hI) (fun _ _ h => h) fun r s' h => ?_
    cases r with
    | some b => exact wp_pure h
    | none =>
      exact ih (lo + 1) s' h (fun i s hi hn => step i s (by omega) (by omega)) fun s h =>
        hend s (by rwa [show lo + (n + 1) = lo + 1 + n by omega])

/-- The rule of `whileM`: an invariant that the body keeps while it makes the measure smaller. Fuel
above the measure is enough. -/
theorem wp_whileM {cond : β → Prog ε σ Bool} {body : β → Prog ε σ β} (I : β → σ → Prop)
    (m : β → Nat) {Q : β → σ → Prop}
    (step : ∀ b s, I b s → wp (cond b) (fun c s' =>
      if c then wp (body b) (fun b' s'' => I b' s'' ∧ m b' < m b) E s' else Q b s') E s)
    (fuel : Nat) (b : β) (s : σ) (hfuel : m b < fuel) (hI : I b s) :
    wp (whileM cond body fuel b) Q E s := by
  induction fuel generalizing b s with
  | zero => omega
  | succ n ih =>
    refine wp_seq (step b s hI) (fun _ _ h => h) fun c s' h => ?_
    cases c with
    | false => exact wp_pure (by simpa using h)
    | true =>
      simp only [↓reduceIte] at h ⊢
      exact wp_seq h (fun _ _ h => h) fun b' s'' ⟨hI', hm⟩ => ih b' s'' (by omega) hI'

/-! ## Invariants -/

/-- `p` does not fault, and keeps `I` however it ends. -/
def Keeps (I : σ → Prop) (p : Prog ε σ α) : Prop :=
  ∀ s, I s → wp p (fun _ s' => I s') (fun _ s' => I s') s

namespace Keeps

variable {I : σ → Prop}

theorem pure (a : α) : Keeps I (Pure.pure a : Prog ε σ α) := fun _ h => wp_pure h

theorem ret (e : ε) : Keeps I (Prog.ret e : Prog ε σ α) := fun _ h => wp_ret h

theorem get : Keeps I (Prog.get : Prog ε σ σ) := fun _ h => wp_get h

theorem modify {f : σ → σ} (h : ∀ s, I s → I (f s)) : Keeps I (Prog.modify f : Prog ε σ Unit) :=
  fun s hs => wp_modify (h s hs)

theorem bind {p : Prog ε σ α} {f : α → Prog ε σ β} (hp : Keeps I p) (hf : ∀ a, Keeps I (f a)) :
    Keeps I (p >>= f) :=
  fun s hs => wp_seq (hp s hs) (fun _ _ h => h) fun a s' h => hf a s' h

theorem ite {c : Prop} [Decidable c] {p q : Prog ε σ α} (hp : Keeps I p) (hq : Keeps I q) :
    Keeps I (if c then p else q) :=
  fun s hs => wp_ite (fun _ => hp s hs) fun _ => hq s hs

theorem when {c : Prop} [Decidable c] {p : Prog ε σ Unit} (hp : Keeps I p) :
    Keeps I (Prog.when c p) := ite hp (pure ())

theorem label {body : Prog Unit σ Unit} {out : Prog ε σ α} (hb : Keeps I body)
    (ho : Keeps I out) : Keeps I (Prog.label body out) :=
  fun s hs => wp_label (wp_mono (hb s hs) (fun _ s' h => ho s' h) fun _ s' h => ho s' h)

theorem forUp {body : Nat → Prog ε σ Unit} {lo n : Nat}
    (h : ∀ i, lo ≤ i → i < lo + n → Keeps I (body i)) : Keeps I (Prog.forUp body lo n) :=
  fun s hs => wp_forUp (fun _ => I) lo n s hs fun i s' hi hn h' => h i hi hn s' h'

end Keeps

end Prog

end CLogic
