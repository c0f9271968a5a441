import SeLinOS.CLogic.Prog

/-!
# Calls on a part of the state

A transaction has a device and its own locals. `Part σ δ`: the state `σ` of a program has the part
`δ`, on which the calls work; the rest of it is what the program keeps. `part_ok` and its siblings
are the rules of a call that is checked (`accessed`, `done`) or not (`attempt`).
-/

namespace CLogic

/-- `δ` is a part of `σ`. -/
class Part (σ : Type) (δ : outParam Type) where
  part : σ → δ
  withPart : δ → σ → σ
  part_withPart : ∀ d s, part (withPart d s) = d
  withPart_part : ∀ s, withPart (part s) s = s
  withPart_withPart : ∀ d d' s, withPart d (withPart d' s) = withPart d s

attribute [simp] Part.part_withPart Part.withPart_part Part.withPart_withPart

namespace Prog

open CLogic.Part

variable {ε σ δ α : Type} [Part σ δ]

/-- A call on the part. -/
def access (f : δ → α × δ) : Prog ε σ α := fun s =>
  .ok (f (part s)).1 (withPart (f (part s)).2 s)

/-- `if (!f(&value)) goto out;`, for a call that gives a value. -/
def accessed (f : δ → Option α × δ) : Prog Unit σ α := do
  match ← access f with
  | none => ret ()
  | some a => pure a

/-- `if (!f()) goto out;` -/
def done (f : δ → Bool × δ) : Prog Unit σ Unit := do
  let ok ← access f
  when (ok = false) (ret ())

/-- `(void)f();` -/
def attempt (f : δ → Bool × δ) : Prog ε σ Unit := modify fun s => withPart (f (part s)).2 s

/-- `if (!c) goto out;` -/
def unlessOut (c : Prop) [Decidable c] : Prog Unit σ Unit := when (¬ c) (ret ())

variable {s : σ}

theorem wp_access {f : δ → α × δ} {Q : α → σ → Prop} {E : ε → σ → Prop} {a : α} {d : δ}
    (hf : f (part s) = (a, d)) (h : Q a (withPart d s)) : wp (access f) Q E s := by
  have hrun : (access f : Prog ε σ α) s = .ok a (withPart d s) := by rw [access, hf]
  exact wp_of_run hrun h

theorem wp_accessed {f : δ → Option α × δ} {Q : α → σ → Prop} {E : Unit → σ → Prop} {d : δ}
    {c : Bool} {a : α} (hf : f (part s) = (if c then some a else none, d))
    (hok : c = true → Q a (withPart d s)) (hfail : c = false → E () (withPart d s)) :
    wp (accessed f) Q E s := by
  refine wp_bind (wp_access hf ?_)
  cases c with
  | true => exact wp_pure (hok rfl)
  | false => exact wp_ret (hfail rfl)

theorem wp_done {f : δ → Bool × δ} {Q : Unit → σ → Prop} {E : Unit → σ → Prop} {d d' : δ}
    {c : Bool} (hf : f (part s) = (c, if c then d else d')) (hok : c = true → Q () (withPart d s))
    (hfail : c = false → E () (withPart d' s)) : wp (done f) Q E s := by
  refine wp_bind (wp_access hf ?_)
  cases c with
  | true => exact wp_when (fun h => absurd h Bool.noConfusion) fun _ => hok rfl
  | false => exact wp_when (fun _ => wp_ret (hfail rfl)) fun h => absurd rfl h

theorem wp_attempt {f : δ → Bool × δ} {Q : Unit → σ → Prop} {E : ε → σ → Prop} {d d' : δ}
    {c : Bool} (hf : f (part s) = (c, if c then d else d')) (hok : c = true → Q () (withPart d s))
    (hfail : c = false → Q () (withPart d' s)) : wp (attempt f) Q E s := by
  refine wp_modify ?_
  rw [hf]
  cases c with
  | true => exact hok rfl
  | false => exact hfail rfl

theorem wp_unlessOut {c : Prop} [Decidable c] {Q : Unit → σ → Prop} {E : Unit → σ → Prop}
    (hok : c → Q () s) (hfail : ¬ c → E () s) : wp (unlessOut c) Q E s :=
  wp_when (fun h => wp_ret (hfail h)) fun h => hok (Decidable.not_not.mp h)

end Prog

end CLogic
