import Mathlib.Data.Finset.Card
import Mathlib.Data.Nat.Find

/-!
# Linked lists that are not trusted

The nodes of a list in the memory of someone else: `next` gives the successor of a node, or `none`
where the list ends or points out of range, and nothing says that it is acyclic.

* `follow`: the nodes in chain order.
* `search`: the first node with a property, among the first `n` nodes.
* `First`, `search_eq_some_iff`: with a limit that is not below the number of nodes there can be,
  the search finds exactly the node that comes before the list ends or comes back to a node.
-/

namespace CLogic

variable {α : Type} (next : α → Option α) (start : Option α)

/-- The node after `i` steps from `start`. -/
def follow : Nat → Option α
  | 0 => start
  | i + 1 => (follow i).bind next

/-- The first node with `good` among the first `n` nodes. -/
def search (good : α → Prop) [DecidablePred good] : Nat → Option α → Option α
  | 0, _ => none
  | _ + 1, none => none
  | n + 1, some a => if good a then some a else search good n (next a)

/-- `a` is the first node with `good`, and the chain visits no node twice on the way to it. -/
def First (good : α → Prop) (a : α) : Prop :=
  ∃ k, follow next start k = some a ∧ good a ∧
    (∀ i < k, ∀ b, follow next start i = some b → ¬ good b) ∧
    ∀ i j, i < j → j ≤ k → follow next start i ≠ follow next start j

variable {next start} {good : α → Prop} {a b : α} {i j k n : Nat}

theorem follow_next : follow next (start.bind next) i = follow next start (i + 1) := by
  induction i with
  | zero => rfl
  | succ i ih =>
    show (follow next (start.bind next) i).bind next = (follow next start (i + 1)).bind next
    rw [ih]

/-- From equal nodes on, the chain is the same. -/
theorem follow_add (h : follow next start i = follow next start j) (k : Nat) :
    follow next start (i + k) = follow next start (j + k) := by
  induction k with
  | zero => exact h
  | succ k ih => rw [← Nat.add_assoc, ← Nat.add_assoc, follow, follow, ih]

theorem follow_of_none (h : follow next start i = none) (k : Nat) :
    follow next start (i + k) = none := by
  induction k with
  | zero => exact h
  | succ k ih => rw [← Nat.add_assoc, follow, ih]; rfl

section Search

variable [DecidablePred good]

theorem search_none (n : Nat) : search next good n none = none := by
  cases n <;> rfl

theorem search_eq_some : search next good n start = some a ↔
    ∃ k < n, follow next start k = some a ∧ good a ∧
      ∀ i < k, ∀ b, follow next start i = some b → ¬ good b := by
  induction n generalizing start with
  | zero => simp [search]
  | succ n ih =>
    cases start with
    | none =>
      have hnone : ∀ i, follow next none i = none := fun i => by
        simpa using (follow_of_none rfl i : follow next none (0 + i) = none)
      simp [search, hnone]
    | some c =>
      rw [search]
      by_cases hc : good c
      · rw [if_pos hc]
        constructor
        · rintro h
          cases h
          exact ⟨0, by omega, rfl, hc, by omega⟩
        · rintro ⟨k, -, hk, -, hbefore⟩
          cases k with
          | zero => exact hk
          | succ k => exact absurd hc (hbefore 0 (by omega) c rfl)
      · rw [if_neg hc, ih]
        have hshift : ∀ i, follow next (next c) i = follow next (some c) (i + 1) :=
          fun i => (follow_next : follow next ((some c).bind next) i = _)
        simp only [hshift]
        constructor
        · rintro ⟨k, hk, ha, hgood, hbefore⟩
          refine ⟨k + 1, by omega, ha, hgood, fun i hi b hb => ?_⟩
          cases i with
          | zero =>
            cases hb
            exact hc
          | succ i => exact hbefore i (by omega) b hb
        · rintro ⟨k, hk, ha, hgood, hbefore⟩
          cases k with
          | zero =>
            cases ha
            exact absurd hgood hc
          | succ k => exact ⟨k, by omega, ha, hgood, fun i hi => hbefore (i + 1) (by omega)⟩

end Search

/-- The chain comes to no node twice before the first node with `good`. -/
theorem follow_ne (ha : follow next start k = some a) (hgood : good a)
    (hbefore : ∀ i < k, ∀ b, follow next start i = some b → ¬ good b) (hij : i < j) (hjk : j ≤ k) :
    follow next start i ≠ follow next start j := by
  intro heq
  have hback := follow_add heq (k - j)
  rw [show j + (k - j) = k by omega, ha] at hback
  exact hbefore (i + (k - j)) (by omega) a hback hgood

/-- The pigeonhole: a chain that visits no node twice is not longer than there are nodes. -/
theorem lt_card_of_follow {nodes : Finset α} (hnodes : ∀ i b, follow next start i = some b →
    b ∈ nodes) (ha : follow next start k = some a)
    (hne : ∀ i j, i < j → j ≤ k → follow next start i ≠ follow next start j) :
    k < nodes.card := by
  have hsome : ∀ i ≤ k, ∃ b, follow next start i = some b := by
    intro i hi
    cases hb : follow next start i with
    | some b => exact ⟨b, rfl⟩
    | none =>
      have hnone := follow_of_none hb (k - i)
      rw [show i + (k - i) = k by omega, ha] at hnone
      cases hnone
  have hcard : (Finset.range (k + 1)).card ≤ (nodes.map ⟨some, Option.some_injective α⟩).card := by
    refine Finset.card_le_card_of_injOn (follow next start) ?_ ?_
    · intro i hi
      obtain ⟨b, hb⟩ := hsome i (by simpa [Nat.lt_succ_iff] using hi)
      simpa [hb] using hnodes i b hb
    · intro i hi j hj heq
      simp only [Finset.coe_range, Set.mem_Iio] at hi hj
      rcases Nat.lt_trichotomy i j with hlt | rfl | hlt
      · exact absurd heq (hne i j hlt (by omega))
      · rfl
      · exact absurd heq.symm (hne j i hlt (by omega))
  rw [Finset.card_range, Finset.card_map] at hcard
  omega

/-- A node of the chain is one of its first nodes, as many as there are nodes. -/
theorem exists_lt_of_follow {nodes : Finset α} (hnodes : ∀ i b, follow next start i = some b →
    b ∈ nodes) (hn : nodes.card ≤ n) (ha : follow next start k = some a) :
    ∃ j < n, follow next start j = some a := by
  classical
  have hex : ∃ j, follow next start j = some a := ⟨k, ha⟩
  have hfirst := Nat.find_spec hex
  have hbefore : ∀ i < Nat.find hex, ∀ b, follow next start i = some b → ¬ a = b := by
    rintro i hi _ hb rfl
    exact Nat.find_min hex hi hb
  refine ⟨Nat.find hex, (lt_card_of_follow hnodes hfirst ?_).trans_le hn, hfirst⟩
  exact fun i j hij hj => follow_ne hfirst rfl hbefore hij hj

/-- A limit that is not below the number of the nodes never cuts a chain off. -/
theorem search_eq_some_iff [DecidablePred good] {nodes : Finset α}
    (hnodes : ∀ i b, follow next start i = some b → b ∈ nodes) (hn : nodes.card ≤ n) :
    search next good n start = some a ↔ First next start good a := by
  rw [search_eq_some]
  constructor
  · rintro ⟨k, -, ha, hgood, hbefore⟩
    exact ⟨k, ha, hgood, hbefore, fun i j hij hjk => follow_ne ha hgood hbefore hij hjk⟩
  · rintro ⟨k, ha, hgood, hbefore, hne⟩
    exact ⟨k, (lt_card_of_follow hnodes ha hne).trans_le hn, ha, hgood, hbefore⟩

end CLogic
