import SeLinOS.CLogic.Bytes
import SeLinOS.CLogic.Run

/-!
# Steps with a footprint

A step of a run on a memory that changes the locations of its footprint only.

* `Local foot step`: `foot a` are the locations that a step with the label `a` may change.
* `Run.outside`: a location of no footprint is as it was.
* `Run.kept`: where the footprints of the labels have no location in common, what a step leaves in
  its footprint is there after the run.
* `Mem.le_congr`, `Mem.byte_eq_of_le`: a little-endian number is its bytes.
-/

namespace CLogic

variable {ι β α : Type} {step : (ι → β) → α → (ι → β) → Prop} {foot : α → ι → Prop}
  {m m' : ι → β} {as : List α}

/-- A step with the label `a` changes locations in `foot a` only. -/
def Local (foot : α → ι → Prop) (step : (ι → β) → α → (ι → β) → Prop) : Prop :=
  ∀ m a m', step m a m' → ∀ x, ¬ foot a x → m' x = m x

/-- The footprints of two labels have no location in common. -/
def Apart (foot : α → ι → Prop) (a b : α) : Prop := ∀ x, foot a x → ¬ foot b x

theorem Run.outside (hlocal : Local foot step) (h : Run step m as m') {x : ι}
    (hx : ∀ a ∈ as, ¬ foot a x) : m' x = m x := by
  induction h with
  | nil => rfl
  | cons hs _ ih =>
    rw [List.forall_mem_cons] at hx
    rw [ih hx.2]
    exact hlocal _ _ _ hs x hx.1

/-- What a step establishes in its footprint, the later steps of a run whose footprints are apart
keep. -/
theorem Run.kept {P : α → (ι → β) → Prop} (hlocal : Local foot step)
    (hpost : ∀ m a m', step m a m' → P a m')
    (hsame : ∀ a m m', (∀ x, foot a x → m' x = m x) → P a m → P a m')
    (hapart : as.Pairwise (Apart foot)) (h : Run step m as m') : ∀ a ∈ as, P a m' := by
  induction h with
  | nil => exact fun a ha => absurd ha List.not_mem_nil
  | cons hs hrest ih =>
    obtain ⟨hhead, htail⟩ := List.pairwise_cons.mp hapart
    rw [List.forall_mem_cons]
    refine ⟨hsame _ _ _ (fun x hx => ?_) (hpost _ _ _ hs), ih htail⟩
    exact hrest.outside hlocal fun b hb => hhead b hb x hx

namespace Mem

variable {m m' : Mem}

theorem le_lt (m : Mem) (a n : Nat) : m.le a n < 256 ^ n := by
  induction n generalizing a with
  | zero => simp [le]
  | succ n ih =>
    have := ih (a + 1)
    have hb := (m a).toNat_lt
    rw [le, Nat.pow_succ]
    omega

theorem le_congr {a a' n : Nat} (h : ∀ k < n, m' (a' + k) = m (a + k)) : m'.le a' n = m.le a n := by
  induction n generalizing a a' with
  | zero => rfl
  | succ n ih =>
    have h0 := h 0 (Nat.succ_pos n)
    rw [Nat.add_zero, Nat.add_zero] at h0
    rw [le, le, h0, ih fun k hk => ?_]
    have hk' := h (k + 1) (by omega)
    rwa [← Nat.add_assoc, ← Nat.add_assoc, Nat.add_right_comm a', Nat.add_right_comm a] at hk'

/-- The bytes of a number are its digits. -/
theorem byte_eq_of_le {a a' n : Nat} (h : m'.le a' n = m.le a n) :
    ∀ k < n, m' (a' + k) = m (a + k) := by
  induction n generalizing a a' with
  | zero => exact fun k hk => absurd hk (Nat.not_lt_zero k)
  | succ n ih =>
    have hb := (m a).toNat_lt
    have hb' := (m' a').toNat_lt
    rw [le, le] at h
    intro k hk
    cases k with
    | zero =>
      apply UInt8.toNat_inj.mp
      rw [Nat.add_zero, Nat.add_zero]
      omega
    | succ k =>
      have htail : m'.le (a' + 1) n = m.le (a + 1) n := by omega
      have hk' := ih htail k (by omega)
      rwa [Nat.add_right_comm, Nat.add_assoc, Nat.add_right_comm, Nat.add_assoc] at hk'

end Mem

end CLogic
