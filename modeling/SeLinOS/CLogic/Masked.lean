import Mathlib.Tactic.SplitIfs

/-!
# Registers with fixed bits

A write to a register of which only some bits can be written. A write hides the ones before it
(`maskedWrite_maskedWrite`), so the value that a register had, written back, is there again
(`maskedWrite_self`).
-/

namespace CLogic

variable {n : Nat} {w old x y : BitVec n}

/-- The register after a write of `x` where it held `old` and has the writable bits `w`. -/
def maskedWrite (w old x : BitVec n) : BitVec n := old &&& ~~~w ||| x &&& w

theorem getElem_maskedWrite {i : Nat} (hi : i < n) :
    (maskedWrite w old x)[i] = if w[i] then x[i] else old[i] := by
  simp only [maskedWrite, BitVec.getElem_or, BitVec.getElem_and, BitVec.getElem_not]
  cases w[i] <;> simp

@[simp] theorem maskedWrite_maskedWrite :
    maskedWrite w (maskedWrite w old x) y = maskedWrite w old y := by
  ext i hi
  simp only [getElem_maskedWrite]
  cases w[i] <;> rfl

/-- The register holds `x` after the write exactly when `x` has its fixed bits. -/
theorem maskedWrite_eq_iff : maskedWrite w old x = x ↔ x &&& ~~~w = old &&& ~~~w := by
  constructor
  · intro h
    rw [← h]
    ext i hi
    simp only [BitVec.getElem_and, BitVec.getElem_not, getElem_maskedWrite]
    cases w[i] <;> simp
  · intro h
    ext i hi
    have hi' := congrArg (·[i]) h
    simp only [BitVec.getElem_and, BitVec.getElem_not] at hi'
    rw [getElem_maskedWrite]
    cases hw : w[i] <;> simp_all

/-- A write that changes no writable bit changes nothing. -/
theorem maskedWrite_eq_old_iff : maskedWrite w old x = old ↔ x &&& w = old &&& w := by
  constructor
  · intro h
    rw [← h]
    ext i hi
    simp only [BitVec.getElem_and, getElem_maskedWrite]
    cases w[i] <;> simp
  · intro h
    ext i hi
    have hi' := congrArg (·[i]) h
    simp only [BitVec.getElem_and] at hi'
    rw [getElem_maskedWrite]
    cases hw : w[i] <;> simp_all

@[simp] theorem maskedWrite_self : maskedWrite w old old = old := maskedWrite_eq_old_iff.mpr rfl

theorem and_not_eq_self_iff : x &&& ~~~y = x ↔ x &&& y = 0 := by
  constructor
  · intro h
    rw [← h, BitVec.and_assoc]
    simp
  · intro h
    calc x &&& ~~~y = maskedWrite y x (x &&& y) := by rw [maskedWrite, h]; simp
      _ = x := maskedWrite_eq_old_iff.mpr (by rw [BitVec.and_assoc, BitVec.and_self])

end CLogic
