import Mathlib.Data.List.TakeWhile

/-!
# The tokens of a list

The tokens of a list are its maximal runs without a separator. Separators in a row, and those at the
ends of the list, make no empty tokens.

* `IsToken sep xs i t`: `t` is a token of `xs`, and starts at place `i`.
* `tokens sep xs`: the tokens with their places (`mem_tokens`), each of them once and in their order
  (`pairwise_tokens`).
* `tokensBelow_skip`, `tokensBelow_next`: the tokens so far, for a loop that goes over a separator
  or over a token and the separator behind it.
-/

namespace CLogic

variable {α : Type*} {sep : α → Bool} {xs t : List α} {i j n : Nat}

/-- `t` is a run of `xs` without a separator, from place `i` on. It is not empty, and no longer run
has it as a part: before it and after it there is a separator or an end of the list. -/
def IsToken (sep : α → Bool) (xs : List α) (i : Nat) (t : List α) : Prop :=
  ∃ before after, xs = before ++ t ++ after ∧ before.length = i ∧ t ≠ [] ∧
    (∀ a ∈ t, sep a = false) ∧ (∀ a ∈ before.getLast?, sep a = true) ∧
    ∀ a ∈ after.head?, sep a = true

/-- Place `i` is not inside a token. -/
def IsBoundary (sep : α → Bool) (xs : List α) (i : Nat) : Prop :=
  ∀ a ∈ (xs.take i).getLast?, sep a = true

instance : Decidable (IsBoundary sep xs i) := inferInstanceAs (Decidable (∀ _ ∈ _, _))

/-- A token starts at place `i`. -/
def Opens (sep : α → Bool) (xs : List α) (i : Nat) : Prop :=
  (∃ a ∈ xs[i]?, sep a = false) ∧ IsBoundary sep xs i

instance : Decidable (Opens sep xs i) := inferInstanceAs (Decidable (_ ∧ _))

/-- The elements from place `i` on, up to the next separator. -/
def tokenAt (sep : α → Bool) (xs : List α) (i : Nat) : List α :=
  (xs.drop i).takeWhile (! sep ·)

/-- The tokens that start before place `n`. -/
def tokensBelow (sep : α → Bool) (xs : List α) (n : Nat) : List (Nat × List α) :=
  ((List.range n).filter (Opens sep xs ·)).map fun i => (i, tokenAt sep xs i)

/-- The tokens of `xs`, with their places. -/
def tokens (sep : α → Bool) (xs : List α) : List (Nat × List α) := tokensBelow sep xs xs.length

/-! ## The token at a place -/

theorem sep_of_mem_tokenAt {a : α} (h : a ∈ tokenAt sep xs i) : sep a = false := by
  simpa using List.mem_takeWhile_imp h

theorem length_tokenAt_le : (tokenAt sep xs i).length ≤ xs.length - i := by
  have hle := (List.takeWhile_prefix (l := xs.drop i) (! sep ·)).length_le
  rwa [List.length_drop] at hle

/-- The elements of the token at `i`, as elements of the list. -/
theorem sep_inside (h : n < (tokenAt sep xs i).length) : ∃ a ∈ xs[i + n]?, sep a = false := by
  have hprefix : tokenAt sep xs i <+: xs.drop i := List.takeWhile_prefix _
  refine ⟨(tokenAt sep xs i)[n], ?_, sep_of_mem_tokenAt (List.getElem_mem h)⟩
  rw [Option.mem_def, ← List.getElem?_drop, List.IsPrefix.getElem hprefix h]
  exact List.getElem?_eq_getElem _

/-- The element behind the token at `i`. -/
theorem sep_behind {a : α} (h : a ∈ xs[i + (tokenAt sep xs i).length]?) : sep a = true := by
  have hrest : xs.drop i = tokenAt sep xs i ++ (xs.drop i).dropWhile (! sep ·) :=
    List.takeWhile_append_dropWhile.symm
  rw [Option.mem_def, ← List.getElem?_drop, hrest,
    List.getElem?_append_right (Nat.le_refl _), Nat.sub_self, ← List.head?_eq_getElem?] at h
  have hhead := List.head?_dropWhile_not (! sep ·) (xs.drop i)
  rw [h] at hhead
  simpa using hhead

theorem tokenAt_eq_nil_iff : tokenAt sep xs i = [] ↔ ¬ ∃ a ∈ xs[i]?, sep a = false := by
  rw [← List.length_eq_zero_iff]
  constructor
  · rintro hzero ⟨a, ha, hsep⟩
    have hbehind : sep a = true := sep_behind (by rwa [hzero])
    exact Bool.false_ne_true (hsep.symm.trans hbehind)
  · intro hno
    by_contra hne
    exact hno (sep_inside (n := 0) (Nat.pos_of_ne_zero hne))

theorem isToken_iff : IsToken sep xs i t ↔ Opens sep xs i ∧ tokenAt sep xs i = t := by
  constructor
  · rintro ⟨before, after, rfl, rfl, hne, hno, hbefore, hafter⟩
    refine ⟨⟨?_, ?_⟩, ?_⟩
    · cases t with
      | nil => exact absurd rfl hne
      | cons a t => exact ⟨a, by simp, hno a List.mem_cons_self⟩
    · rwa [IsBoundary, List.append_assoc, List.take_left']
      rfl
    · have hstop : after.takeWhile (! sep ·) = [] := by
        cases after with
        | nil => rfl
        | cons a after => simp [hafter a rfl]
      rw [tokenAt, List.append_assoc, List.drop_left,
        List.takeWhile_append_of_pos fun a ha => by simp [hno a ha], hstop, List.append_nil]
  · rintro ⟨⟨hopen, hbefore⟩, rfl⟩
    refine ⟨xs.take i, (xs.drop i).dropWhile (! sep ·), ?_, ?_, fun hnil => ?_,
      fun a => sep_of_mem_tokenAt, hbefore, fun a ha => ?_⟩
    · rw [tokenAt, List.append_assoc, List.takeWhile_append_dropWhile, List.take_append_drop]
    · obtain ⟨a, ha, -⟩ := hopen
      obtain ⟨hlt, -⟩ := List.getElem?_eq_some_iff.mp ha
      rw [List.length_take]
      omega
    · exact tokenAt_eq_nil_iff.mp hnil hopen
    · have hhead := List.head?_dropWhile_not (! sep ·) (xs.drop i)
      rw [Option.mem_def.mp ha] at hhead
      simpa using hhead

/-! ## All tokens -/

theorem mem_tokensBelow {e : Nat × List α} :
    e ∈ tokensBelow sep xs n ↔ e.1 < n ∧ IsToken sep xs e.1 e.2 := by
  obtain ⟨i, t⟩ := e
  rw [isToken_iff, tokensBelow, List.mem_map]
  dsimp only
  constructor
  · rintro ⟨j, hj, heq⟩
    obtain ⟨rfl, rfl⟩ := Prod.mk.inj heq
    rw [List.mem_filter, List.mem_range, decide_eq_true_eq] at hj
    exact ⟨hj.1, hj.2, rfl⟩
  · rintro ⟨hi, hopens, rfl⟩
    exact ⟨i, List.mem_filter.mpr ⟨List.mem_range.mpr hi, decide_eq_true hopens⟩, rfl⟩

theorem IsToken.lt_length (h : IsToken sep xs i t) : i < xs.length := by
  obtain ⟨⟨⟨a, ha, -⟩, -⟩, -⟩ := isToken_iff.mp h
  exact (List.getElem?_eq_some_iff.mp ha).1

/-- `tokens` gives the tokens, and nothing else. -/
theorem mem_tokens {e : Nat × List α} : e ∈ tokens sep xs ↔ IsToken sep xs e.1 e.2 :=
  mem_tokensBelow.trans (and_iff_right_of_imp IsToken.lt_length)

/-- `tokens` gives each token once, in the order of their places. -/
theorem pairwise_tokens : (tokens sep xs).Pairwise (·.1 < ·.1) :=
  (List.pairwise_lt_range.filter _).map _ fun _ _ h => h

/-- The tokens behind a token come later in the list. -/
theorem IsToken.split (h : IsToken sep xs i t) : ∃ earlier later,
    tokens sep xs = earlier ++ (i, t) :: later ∧
      ∀ e ∈ later, i < e.1 ∧ IsToken sep xs e.1 e.2 := by
  obtain ⟨earlier, later, heq⟩ := List.append_of_mem (mem_tokens.mpr h : (i, t) ∈ tokens sep xs)
  have hpairwise : (tokens sep xs).Pairwise (·.1 < ·.1) := pairwise_tokens
  rw [heq, List.pairwise_append, List.pairwise_cons] at hpairwise
  refine ⟨earlier, later, heq, fun e he => ⟨hpairwise.2.1.1 e he, mem_tokens.mp ?_⟩⟩
  rw [heq]
  exact List.mem_append_right _ (List.mem_cons_of_mem _ he)

/-! ## From one token to the next -/

theorem isBoundary_zero : IsBoundary sep xs 0 := fun a ha => by simp at ha

theorem tokensBelow_add (i n : Nat) : tokensBelow sep xs (i + n) = tokensBelow sep xs i ++
    (((List.range n).map (i + ·)).filter (Opens sep xs ·)).map fun j => (j, tokenAt sep xs j) := by
  rw [tokensBelow, tokensBelow, List.range_add, List.filter_append, List.map_append]

/-- No token starts from place `i` on. -/
theorem tokensBelow_add_of_not_opens (h : ∀ k < n, ¬ Opens sep xs (i + k)) :
    tokensBelow sep xs (i + n) = tokensBelow sep xs i := by
  rw [tokensBelow_add, List.filter_eq_nil_iff.mpr, List.map_nil, List.append_nil]
  rintro j hj
  obtain ⟨k, hk, rfl⟩ := List.mem_map.mp hj
  rw [decide_eq_true_eq]
  exact h k (List.mem_range.mp hk)

/-- The end of the list, or any place behind it. -/
theorem tokensBelow_of_length_le (h : xs.length ≤ n) : tokensBelow sep xs n = tokens sep xs := by
  obtain ⟨k, rfl⟩ := Nat.exists_eq_add_of_le h
  refine tokensBelow_add_of_not_opens fun m _ => ?_
  rintro ⟨⟨a, ha, -⟩, -⟩
  have := (List.getElem?_eq_some_iff.mp ha).1
  omega

theorem isBoundary_succ (hi : i < xs.length) :
    IsBoundary sep xs (i + 1) ↔ ∀ a ∈ xs[i]?, sep a = true := by
  rw [IsBoundary, List.take_add_one, List.getElem?_eq_getElem hi, Option.toList_some,
    List.getLast?_concat]

/-- The place behind the separator behind the token at `i`. -/
theorem isBoundary_next (h : i + (tokenAt sep xs i).length < xs.length) :
    IsBoundary sep xs (i + (tokenAt sep xs i).length + 1) :=
  (isBoundary_succ h).mpr fun _ => sep_behind

/-- Over a separator. -/
theorem tokensBelow_skip (h : tokenAt sep xs i = []) :
    tokensBelow sep xs (i + 1) = tokensBelow sep xs i := by
  refine tokensBelow_add_of_not_opens fun k hk => ?_
  obtain rfl : k = 0 := by omega
  exact fun hopens => tokenAt_eq_nil_iff.mp h hopens.1

/-- Over a token and the separator behind it. -/
theorem tokensBelow_next (hi : IsBoundary sep xs i) (h : tokenAt sep xs i ≠ []) :
    tokensBelow sep xs (i + (tokenAt sep xs i).length + 1) =
      tokensBelow sep xs i ++ [(i, tokenAt sep xs i)] := by
  have hopens : Opens sep xs i := ⟨not_not.mp fun hno => h (tokenAt_eq_nil_iff.mpr hno), hi⟩
  have hinside : ∀ k < (tokenAt sep xs i).length, ¬ Opens sep xs (i + 1 + k) := by
    rintro k hk ⟨⟨a, ha, hsep⟩, hboundary⟩
    have hlt : i + 1 + k < xs.length := (List.getElem?_eq_some_iff.mp ha).1
    obtain ⟨b, hb, hsep'⟩ := sep_inside hk
    rw [show i + 1 + k = i + k + 1 by omega] at hboundary
    exact Bool.false_ne_true (hsep'.symm.trans ((isBoundary_succ (by omega)).mp hboundary b hb))
  rw [show i + (tokenAt sep xs i).length + 1 = i + 1 + (tokenAt sep xs i).length by omega,
    tokensBelow_add_of_not_opens hinside, tokensBelow_add]
  simp [hopens]

end CLogic
