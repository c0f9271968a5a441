import SeLinOS.CLogic.Bytes

/-!
# The weakest liberal precondition

`Prog.wlp p Q E s` is partial correctness: as `wp`, but a run that faults satisfies it. What a
program keeps in its state can so be proved without the reasons for which its accesses are in
bounds; `wp_of_wlp` adds it to a proof of these. The rules follow the operations, one each;
`KeepsOk` has them for an invariant of the runs that fall through. `Checks` relates a program to the
same one with more checks.
-/

namespace CLogic.Prog

variable {ε σ α β : Type} {Q Q' : α → σ → Prop} {E E' : ε → σ → Prop} {s : σ}

/-- Partial correctness of `p` from `s` (module doc). -/
def wlp (p : Prog ε σ α) (Q : α → σ → Prop) (E : ε → σ → Prop) (s : σ) : Prop :=
  match p s with
  | .ok a s' => Q a s'
  | .ret e s' => E e s'
  | .fault _ => True

/-- A total program has its partial correctness. -/
theorem wp_of_wlp {p : Prog ε σ α} (h : wp p Q E s) (h' : wlp p Q' E' s) : wp p Q' E' s := by
  cases hp : p s with
  | ok a s' =>
    refine wp_of_run hp ?_
    rwa [wlp, hp] at h'
  | ret e s' =>
    refine wp_of_retRun hp ?_
    rwa [wlp, hp] at h'
  | fault x => exact absurd hp (wp_noFault h x)

theorem wlp_of_wp {p : Prog ε σ α} (h : wp p Q E s) : wlp p Q E s := by
  cases hp : p s with
  | ok a s' =>
    rw [wlp, hp]
    exact wp_ok h hp
  | ret e s' =>
    rw [wlp, hp]
    exact wp_ret_of h hp
  | fault x => rw [wlp, hp]; trivial

/-- A run whose outcome is known. -/
theorem wlp_of_run {p : Prog ε σ α} {a : α} {s' : σ} (hp : p s = .ok a s') (h : Q a s') :
    wlp p Q E s :=
  wlp_of_wp (wp_of_run hp h)

/-- A run that is known to fault. -/
theorem wlp_of_faultRun {p : Prog ε σ α} {x : Fault} (hp : p s = .fault x) : wlp p Q E s := by
  unfold wlp; rw [hp]; trivial

theorem wlp_pure {a : α} (h : Q a s) : wlp (pure a : Prog ε σ α) Q E s := h

theorem wlp_ret {e : ε} (h : E e s) : wlp (ret e : Prog ε σ α) Q E s := h

theorem wlp_get {Q : σ → σ → Prop} (h : Q s s) : wlp (get : Prog ε σ σ) Q E s := h

theorem wlp_modify {f : σ → σ} {Q : Unit → σ → Prop} (h : Q () (f s)) :
    wlp (modify f : Prog ε σ Unit) Q E s := h

theorem wlp_bind {p : Prog ε σ α} {f : α → Prog ε σ β} {R : β → σ → Prop}
    (h : wlp p (fun a s' => wlp (f a) R E s') E s) : wlp (p >>= f) R E s := by
  unfold wlp at h ⊢
  rw [bind_run]
  cases hp : p s with
  | ok a s' => rw [hp] at h; exact h
  | ret e s' => rw [hp] at h; exact h
  | fault x => trivial

theorem wlp_mono {p : Prog ε σ α} (h : wlp p Q E s) (hQ : ∀ a s', Q a s' → Q' a s')
    (hE : ∀ e s', E e s' → E' e s') : wlp p Q' E' s := by
  unfold wlp at h ⊢
  cases hp : p s with
  | ok a s' => rw [hp] at h; exact hQ _ _ h
  | ret e s' => rw [hp] at h; exact hE _ _ h
  | fault x => trivial

/-- Sequencing with a midpoint. -/
theorem wlp_seq {p : Prog ε σ α} {f : α → Prog ε σ β} {R : β → σ → Prop} (h : wlp p Q E s)
    (hQ : ∀ a s', Q a s' → wlp (f a) R E s') : wlp (p >>= f) R E s :=
  wlp_bind (wlp_mono h hQ fun _ _ h => h)

theorem wlp_ite {c : Prop} [Decidable c] {p q : Prog ε σ α} (ht : c → wlp p Q E s)
    (hf : ¬ c → wlp q Q E s) : wlp (if c then p else q) Q E s := by
  by_cases hc : c
  · rw [if_pos hc]; exact ht hc
  · rw [if_neg hc]; exact hf hc

theorem wlp_when {c : Prop} [Decidable c] {p : Prog ε σ Unit} {Q : Unit → σ → Prop}
    (ht : c → wlp p Q E s) (hf : ¬ c → Q () s) : wlp (when c p) Q E s :=
  wlp_ite ht fun h => wlp_pure (hf h)

theorem wlp_andThen {c : Prop} [Decidable c] {p : Prog ε σ Bool} {Q : Bool → σ → Prop}
    (ht : c → wlp p Q E s) (hf : ¬ c → Q false s) : wlp (andThen c p) Q E s :=
  wlp_ite ht fun h => wlp_pure (hf h)

/-- A call of which nothing is known but that it ends or faults. -/
theorem wlp_call {ε' σ' : Type} {p : Prog ε' σ' α} {t : σ'} {R : Except ε' α × σ' → σ → Prop}
    (h : ∀ r, R r s) : wlp (call p t) R E s := by
  unfold wlp call
  cases p t with
  | ok a t' => exact h _
  | ret e t' => exact h _
  | fault x => trivial

/-! ## Buffers -/

theorem wlp_read {b : Buf} {i : Nat} {Q : UInt8 → σ → Prop} (h : Q (b.byte i) s) :
    wlp (b.read i) Q E s := by
  unfold wlp Buf.read
  by_cases hi : i < b.size
  · rw [if_pos hi]; exact h
  · rw [if_neg hi]; trivial

theorem wlp_load {b : Buf} {off len : Nat} {v : α} (h : Q v s) :
    wlp (b.load off len v) Q E s := by
  unfold wlp Buf.load
  by_cases hb : off + len ≤ b.size
  · rw [if_pos hb]; exact h
  · rw [if_neg hb]; trivial

theorem wlp_write {b : Buf} {i : Nat} {v : UInt8} {Q : Buf → σ → Prop}
    (h : Q { b with byte := Function.update b.byte i v } s) : wlp (b.write i v) Q E s := by
  unfold wlp Buf.write
  by_cases hi : i < b.size
  · rw [if_pos hi]; exact h
  · rw [if_neg hi]; trivial

theorem wlp_fault (x : Fault) : wlp (fault x : Prog ε σ α) Q E s := trivial

-- As for `wp`: a goal is taken apart by the rules only.
attribute [irreducible] wlp

/-- A run that falls through satisfies its postcondition. -/
theorem wlp_ok {p : Prog ε σ α} {a : α} {s' : σ} (h : wlp p Q E s) (hp : p s = .ok a s') :
    Q a s' := by
  unfold wlp at h
  rwa [hp] at h

/-- A program that can neither fall through nor return faults. -/
theorem fault_of_wlp {p : Prog ε σ α} (h : wlp p (fun _ _ => False) (fun _ _ => False) s) :
    ∃ x, p s = .fault x := by
  unfold wlp at h
  cases hp : p s with
  | ok a s' => rw [hp] at h; exact h.elim
  | ret e s' => rw [hp] at h; exact h.elim
  | fault x => exact ⟨x, rfl⟩

/-! ## Loops -/

theorem wlp_forUp {body : Nat → Prog ε σ Unit} (I : Nat → σ → Prop) (lo n : Nat) (s : σ)
    (hI : I lo s) (step : ∀ i s, lo ≤ i → i < lo + n → I i s →
      wlp (body i) (fun _ s' => I (i + 1) s') E s) :
    wlp (forUp body lo n) (fun _ s' => I (lo + n) s') E s := by
  induction n generalizing lo s with
  | zero => exact wlp_pure hI
  | succ n ih =>
    refine wlp_seq (step lo s (Nat.le_refl _) (by omega) hI) fun _ s' h => ?_
    have := ih (lo + 1) s' h fun i s hi hn => step i s (by omega) (by omega)
    rwa [show lo + 1 + n = lo + (n + 1) by omega] at this

theorem wlp_firstUp {body : Nat → Prog ε σ (Option β)} (I : Nat → σ → Prop)
    {Q : Option β → σ → Prop} (lo n : Nat) (s : σ) (hI : I lo s)
    (step : ∀ i s, lo ≤ i → i < lo + n → I i s →
      wlp (body i) (fun r s' => match r with
        | some b => Q (some b) s'
        | none => I (i + 1) s') E s)
    (hend : ∀ s, I (lo + n) s → Q none s) : wlp (firstUp body lo n) Q E s := by
  induction n generalizing lo s with
  | zero => exact wlp_pure (hend _ hI)
  | succ n ih =>
    refine wlp_seq (step lo s (Nat.le_refl _) (by omega) hI) fun r s' h => ?_
    cases r with
    | some b => exact wlp_pure h
    | none =>
      exact ih (lo + 1) s' h (fun i s hi hn => step i s (by omega) (by omega)) fun s h =>
        hend s (by rwa [show lo + (n + 1) = lo + 1 + n by omega])

/-- The rule of `whileM`: an invariant. A loop that is out of fuel faults. -/
theorem wlp_whileM {cond : β → Prog ε σ Bool} {body : β → Prog ε σ β} (I : β → σ → Prop)
    {Q : β → σ → Prop}
    (step : ∀ b s, I b s → wlp (cond b) (fun c s' =>
      if c then wlp (body b) I E s' else Q b s') E s)
    (fuel : Nat) (b : β) (s : σ) (hI : I b s) : wlp (whileM cond body fuel b) Q E s := by
  induction fuel generalizing b s with
  | zero => exact wlp_fault _
  | succ n ih =>
    refine wlp_seq (step b s hI) fun c s' h => ?_
    cases c with
    | false => exact wlp_pure (by simpa using h)
    | true =>
      simp only [↓reduceIte] at h ⊢
      exact wlp_seq h fun b' s'' hI' => ih b' s'' hI'

/-! ## Invariants of the runs that fall through -/

/-- Where `p` falls through, it has kept `I`. -/
def KeepsOk (I : σ → Prop) (p : Prog ε σ α) : Prop :=
  ∀ s, I s → wlp p (fun _ s' => I s') (fun _ _ => True) s

namespace KeepsOk

variable {I : σ → Prop}

theorem pure (a : α) : KeepsOk I (Pure.pure a : Prog ε σ α) := fun _ h => wlp_pure h

theorem ret (e : ε) : KeepsOk I (Prog.ret e : Prog ε σ α) := fun _ _ => wlp_ret trivial

theorem modify {f : σ → σ} (h : ∀ s, I s → I (f s)) :
    KeepsOk I (Prog.modify f : Prog ε σ Unit) :=
  fun s hs => wlp_modify (h s hs)

theorem read (b : Buf) (i : Nat) : KeepsOk I (b.read i : Prog ε σ UInt8) := fun _ h => wlp_read h

theorem write (b : Buf) (i : Nat) (v : UInt8) : KeepsOk I (b.write i v : Prog ε σ Buf) :=
  fun _ h => wlp_write h

theorem load (b : Buf) (off len : Nat) (v : α) : KeepsOk I (b.load off len v : Prog ε σ α) :=
  fun _ h => wlp_load h

theorem bind {p : Prog ε σ α} {f : α → Prog ε σ β} (hp : KeepsOk I p)
    (hf : ∀ a, KeepsOk I (f a)) : KeepsOk I (p >>= f) :=
  fun s hs => wlp_seq (hp s hs) fun a s' h => hf a s' h

theorem ite {c : Prop} [Decidable c] {p q : Prog ε σ α} (hp : KeepsOk I p) (hq : KeepsOk I q) :
    KeepsOk I (if c then p else q) :=
  fun s hs => wlp_ite (fun _ => hp s hs) fun _ => hq s hs

theorem when {c : Prop} [Decidable c] {p : Prog ε σ Unit} (hp : KeepsOk I p) :
    KeepsOk I (Prog.when c p) := ite hp (pure ())

theorem andThen {c : Prop} [Decidable c] {p : Prog ε σ Bool} (hp : KeepsOk I p) :
    KeepsOk I (Prog.andThen c p) := ite hp (pure false)

theorem forUp {body : Nat → Prog ε σ Unit} (h : ∀ i, KeepsOk I (body i)) (lo n : Nat) :
    KeepsOk I (Prog.forUp body lo n) :=
  fun s hs => wlp_forUp (fun _ => I) lo n s hs fun i s' _ _ h' => h i s' h'

theorem foldUp {body : Nat → β → Prog ε σ β} (h : ∀ i b, KeepsOk I (body i b)) (lo n : Nat)
    (b : β) : KeepsOk I (Prog.foldUp body lo n b) := by
  induction n generalizing lo b with
  | zero => exact pure b
  | succ n ih => exact (h lo b).bind fun b' => ih (lo + 1) b'

theorem firstUp {body : Nat → Prog ε σ (Option β)} (h : ∀ i, KeepsOk I (body i)) (lo n : Nat) :
    KeepsOk I (Prog.firstUp body lo n) := by
  induction n generalizing lo with
  | zero => exact pure none
  | succ n ih =>
    refine (h lo).bind fun r => ?_
    cases r with
    | some b => exact pure _
    | none => exact ih (lo + 1)

theorem whileM {cond : β → Prog ε σ Bool} {body : β → Prog ε σ β}
    (hcond : ∀ b, KeepsOk I (cond b)) (hbody : ∀ b, KeepsOk I (body b)) (fuel : Nat) (b : β) :
    KeepsOk I (Prog.whileM cond body fuel b) := by
  induction fuel generalizing b with
  | zero => exact fun _ _ => wlp_fault _
  | succ n ih => exact (hcond b).bind fun _ => ite ((hbody b).bind fun b' => ih b') (pure b)

end KeepsOk

/-! ## Added checks -/

/-- `p` is `q` with checks that fault with `x`. -/
def Checks (x : Fault) (p q : Prog ε σ α) : Prop := ∀ s, p s = .fault x ∨ p s = q s

namespace Checks

variable {x : Fault}

theorem refl (p : Prog ε σ α) : Checks x p p := fun _ => .inr rfl

theorem bind {p q : Prog ε σ α} {f g : α → Prog ε σ β} (hp : Checks x p q)
    (hf : ∀ a, Checks x (f a) (g a)) : Checks x (p >>= f) (q >>= g) := by
  intro s
  rw [bind_run, bind_run]
  rcases hp s with h | h
  · rw [h]
    exact .inl rfl
  · rw [h]
    cases q s with
    | ok a s' => exact hf a s'
    | ret e s' => exact .inr rfl
    | fault y => exact .inr rfl

theorem ite {c : Prop} [Decidable c] {p p' q q' : Prog ε σ α} (hp : Checks x p q)
    (hp' : Checks x p' q') : Checks x (if c then p else p') (if c then q else q') := by
  by_cases hc : c
  · rw [if_pos hc, if_pos hc]
    exact hp
  · rw [if_neg hc, if_neg hc]
    exact hp'

theorem when {c : Prop} [Decidable c] {p q : Prog ε σ Unit} (hp : Checks x p q) :
    Checks x (Prog.when c p) (Prog.when c q) :=
  ite hp (refl _)

theorem forUp {body body' : Nat → Prog ε σ Unit} (h : ∀ i, Checks x (body i) (body' i))
    (lo n : Nat) : Checks x (Prog.forUp body lo n) (Prog.forUp body' lo n) := by
  induction n generalizing lo with
  | zero => exact refl _
  | succ n ih => exact bind (h lo) fun _ => ih (lo + 1)

end Checks

end CLogic.Prog
