import Mathlib.Data.List.Infix
import Mathlib.Logic.Function.Basic
import SeLinOS.CLogic.Run

/-!
# Choreographies

Components that act on their own or together with one other component. A component wants at most
one action at a time (`wants`), and its partner accepts it or not (`accepts`).

A choreography is an order of actions. `Plays N c s t`: from the state `s` the network can perform
`c`, which leads to `t`, every action finds a partner that wants nothing itself, and no action can
come too early (`Clear`). Then the order in which the network is scheduled does not matter
(`Plays.run`): every run performs a part of `c`, each component the beginning of its own share
(`Performs`), the network stops only when all of `c` is done, and then it is in the state `t`.

* `Plays.residual`: a step performs an action of `c`, and leaves the rest of `c`.
* `plays_of_check`: `Plays` can be computed.
-/

namespace CLogic

/-- A network of components: the owner of an action wants it, its partner accepts it. -/
structure Net (κ A : Type) (C : κ → Type) where
  owner : A → κ
  partner : A → Option κ
  wants : (x : κ) → C x → Option A
  after : (x : κ) → A → C x → C x
  accepts : (x : κ) → A → C x → Option (C x)
  owner_of_wants : ∀ {x s a}, wants x s = some a → owner a = x
  partner_of_wants : ∀ {x s a}, wants x s = some a → partner a ≠ some x

namespace Net

variable {κ A : Type} {C : κ → Type} {N : Net κ A C} {s s' s'' t : ∀ x, C x} {a b : A}
  {c d₁ d₂ : List A}

/-- The component takes part in the action. -/
def Part (N : Net κ A C) (a : A) (x : κ) : Prop := N.owner a = x ∨ N.partner a = some x

instance [DecidableEq κ] (N : Net κ A C) (a : A) (x : κ) : Decidable (N.Part a x) :=
  inferInstanceAs (Decidable (_ ∨ _))

/-- No component takes part in both actions. -/
def Apart (N : Net κ A C) (a b : A) : Prop := ∀ x, N.Part a x → ¬ N.Part b x

/-- The action `a` takes the network from `s` to `s'`. -/
structure Step (N : Net κ A C) (s : ∀ x, C x) (a : A) (s' : ∀ x, C x) : Prop where
  wants : N.wants (N.owner a) (s (N.owner a)) = some a
  owner : s' (N.owner a) = N.after (N.owner a) a (s (N.owner a))
  partner : ∀ y, N.partner a = some y → N.accepts y a (s y) = some (s' y)
  frame : ∀ x, ¬ N.Part a x → s' x = s x

theorem Step.unique (h : N.Step s a s') (h' : N.Step s a s'') : s' = s'' := by
  classical
  funext x
  by_cases hx : N.Part a x
  · rcases hx with rfl | hx
    · exact h.owner.trans h'.owner.symm
    · exact Option.some.inj ((h.partner x hx).symm.trans (h'.partner x hx))
  · exact (h.frame x hx).trans (h'.frame x hx).symm

/-- An action does not see the other components. -/
theorem Step.transport {t : ∀ x, C x} (h : N.Step s a s') (hs : ∀ x, N.Part a x → t x = s x) :
    ∃ t', N.Step t a t' ∧ (∀ x, N.Part a x → t' x = s' x) ∧ ∀ x, ¬ N.Part a x → t' x = t x := by
  classical
  have ht' : ∀ x, N.Part a x → (if N.Part a x then s' x else t x) = s' x := fun x hx => if_pos hx
  refine ⟨fun x => if N.Part a x then s' x else t x, ?_, ht', fun x hx => if_neg hx⟩
  refine ⟨?_, ?_, fun y hy => ?_, fun x hx => if_neg hx⟩
  · rw [hs _ (.inl rfl)]
    exact h.wants
  · rw [ht' _ (.inl rfl), hs _ (.inl rfl)]
    exact h.owner
  · rw [ht' y (.inr hy), hs y (.inr hy)]
    exact h.partner y hy

/-- **The diamond**: two actions of different components can be exchanged. -/
theorem Step.diamond (hapart : N.Apart a b) (ha : N.Step s a s') (hb : N.Step s b s'') :
    ∃ t, N.Step s' b t ∧ N.Step s'' a t := by
  classical
  obtain ⟨t, ht, htb, hts⟩ := hb.transport fun x hx => ha.frame x fun ha => hapart x ha hx
  obtain ⟨u, hu, hua, hus⟩ := ha.transport fun x hx => hb.frame x (hapart x hx)
  refine ⟨t, ht, ?_⟩
  suffices t = u by rwa [this]
  funext x
  by_cases hxa : N.Part a x
  · rw [hts x (hapart x hxa), hua x hxa]
  · rw [hus x hxa]
    by_cases hxb : N.Part b x
    · exact htb x hxb
    · rw [hts x hxb, ha.frame x hxa, hb.frame x hxb]

/-! ## Choreographies -/

/-- While `a` is still to come in the state `s`, no action after it can be performed: the partner
that the two share does not accept it, or its owner waits for an action that cannot precede `a`. -/
def Clear (N : Net κ A C) (a : A) (s : ∀ x, C x) (c : List A) : Prop :=
  ∀ d₁ b d₂ y, c = d₁ ++ b :: d₂ → N.partner b = some y → N.Part a y →
    N.accepts y b (s y) = none ∨ ∃ w ∈ a :: d₁, N.Part w (N.owner b) ∧ ¬ N.Apart a w

/-- The network performs the choreography from `s` to `t`, and then wants nothing. -/
inductive Plays (N : Net κ A C) : List A → (∀ x, C x) → (∀ x, C x) → Prop
  | done {s : ∀ x, C x} (hquiet : ∀ x, N.wants x (s x) = none) : Plays N [] s s
  | step {s s' t : ∀ x, C x} {a : A} {c : List A} (hstep : N.Step s a s')
      (hpassive : ∀ y, N.partner a = some y → N.wants y (s y) = none) (hclear : N.Clear a s c)
      (rest : Plays N c s' t) : Plays N (a :: c) s t

/-- The order of the choreography is itself a run. -/
theorem Plays.exists_run (h : Plays N c s t) : Run N.Step s c t := by
  induction h with
  | done => exact .nil
  | step hstep _ _ _ ih => exact .cons hstep ih

/-- What a component wants is the first action of the choreography that it takes part in. -/
theorem Plays.first (h : Plays N c s t) {x : κ} (hwants : N.wants x (s x) = some b) :
    ∃ d₁ d₂, c = d₁ ++ b :: d₂ ∧ ∀ a ∈ d₁, ¬ N.Part a x := by
  classical
  induction h with
  | done hquiet => exact absurd ((hquiet x).symm.trans hwants) (by simp)
  | @step s s' t a c hstep hpassive _ _ ih =>
    by_cases hx : N.Part a x
    · rcases hx with rfl | hx
      · obtain rfl := Option.some.inj (hstep.wants.symm.trans hwants)
        exact ⟨[], c, rfl, by simp⟩
      · exact absurd ((hpassive x hx).symm.trans hwants) (by simp)
    · rw [← hstep.frame x hx] at hwants
      obtain ⟨d₁, d₂, rfl, hd⟩ := ih hwants
      refine ⟨a :: d₁, d₂, rfl, fun e he => ?_⟩
      rcases List.mem_cons.mp he with rfl | he
      · exact hx
      · exact hd e he

/-- An action that can be performed now is the first one of the choreography, or it shares no
component with the first one. -/
theorem Plays.apart (h : Plays N (a :: c) s t) (hb : N.Step s b s') (hne : b ≠ a) :
    N.Apart a b := by
  intro x hax hbx
  obtain ⟨d₁, d₂, hc, hd⟩ := h.first hb.wants
  cases h with
  | step hstep hpassive hclear _ =>
    rcases hbx with rfl | hbx
    · rcases hax with hax | hax
      · have hwants := hstep.wants
        rw [hax] at hwants
        exact hne (Option.some.inj (hb.wants.symm.trans hwants))
      · exact absurd ((hpassive _ hax).symm.trans hb.wants) (by simp)
    · cases d₁ with
      | nil => exact hne (List.cons.inj hc).1.symm
      | cons e d₁ =>
        obtain ⟨rfl, heq⟩ := List.cons.inj hc
        rcases hclear d₁ b d₂ x heq hbx hax with hno | ⟨w, hw, howner, -⟩
        · rw [hb.partner x hbx] at hno
          cases hno
        · exact hd w hw howner

theorem Clear.remove (h : N.Clear a s (d₁ ++ b :: d₂)) (hapart : N.Apart a b) :
    N.Clear a s (d₁ ++ d₂) := by
  intro e₁ g e₂ y heq hpartner hy
  rcases List.append_eq_append_iff.mp heq with ⟨r, rfl, hr⟩ | ⟨r, rfl, hr⟩
  · refine (h (d₁ ++ b :: r) g e₂ y (by rw [hr]; simp) hpartner hy).imp_right ?_
    rintro ⟨w, hw, howner, hmeet⟩
    refine ⟨w, ?_, howner, hmeet⟩
    have hwb : w ≠ b := fun he => hmeet (he ▸ hapart)
    simp only [List.mem_cons, List.mem_append] at hw ⊢
    tauto
  · cases r with
    | nil =>
      rw [List.append_nil] at h
      obtain rfl : d₂ = g :: e₂ := hr.symm
      refine (h (e₁ ++ [b]) g e₂ y (by simp) hpartner hy).imp_right ?_
      rintro ⟨w, hw, howner, hmeet⟩
      refine ⟨w, ?_, howner, hmeet⟩
      have hwb : w ≠ b := fun he => hmeet (he ▸ hapart)
      simp only [List.mem_cons, List.mem_append, List.not_mem_nil, or_false] at hw ⊢
      tauto
    | cons g' r =>
      obtain ⟨rfl, rfl⟩ := List.cons.inj hr
      exact h e₁ g (r ++ b :: d₂) y (by simp) hpartner hy

theorem Clear.congr (h : N.Clear a s c) (hs : ∀ x, N.Part a x → s' x = s x) : N.Clear a s' c := by
  intro d₁ b d₂ y hc hpartner hy
  rw [hs y hy]
  exact h d₁ b d₂ y hc hpartner hy

/-- **The residual**: an action that the network performs is one of the choreography, no action
before it shares a component with it, and the network performs the rest. -/
theorem Plays.residual (h : Plays N c s t) (hb : N.Step s b s') :
    ∃ d₁ d₂, c = d₁ ++ b :: d₂ ∧ (∀ a ∈ d₁, N.Apart a b) ∧ Plays N (d₁ ++ d₂) s' t := by
  classical
  induction h generalizing s' with
  | done hquiet => exact absurd ((hquiet _).symm.trans hb.wants) (by simp)
  | @step s s₁ t a c hstep hpassive hclear rest ih =>
    by_cases hne : b = a
    · subst hne
      obtain rfl := hstep.unique hb
      exact ⟨[], c, rfl, by simp, rest⟩
    · have hapart := Plays.apart (.step hstep hpassive hclear rest) hb hne
      obtain ⟨u, hub, hua⟩ := Step.diamond hapart hstep hb
      obtain ⟨d₁, d₂, rfl, hd, hplays⟩ := ih hub
      have hsame : ∀ x, N.Part a x → s' x = s x := fun x hx => hb.frame x (hapart x hx)
      refine ⟨a :: d₁, d₂, rfl, fun e he => ?_, .step hua (fun y hy => ?_)
        ((hclear.remove hapart).congr hsame) hplays⟩
      · rcases List.mem_cons.mp he with rfl | he
        · exact hapart
        · exact hd e he
      · rw [hsame y (.inr hy)]
        exact hpassive y hy

/-! ## Runs -/

/-- The actions of a component. -/
def share [DecidableEq κ] (N : Net κ A C) (x : κ) (c : List A) : List A :=
  c.filter (N.Part · x)

/-- What a run from `s₀` to `s` has done of `c`: every component the beginning of its share. The
network stops only when all of `c` is done, and it is then in the state to which `c` leads. -/
structure Performs (N : Net κ A C) [DecidableEq κ] (c : List A) (s₀ : ∀ x, C x) (es : List A)
    (s : ∀ x, C x) : Prop where
  order : ∀ x, N.share x es <+: N.share x c
  length : es.length ≤ c.length
  stops : (∀ a s', ¬ N.Step s a s') ↔ es.length = c.length
  ends : es.length = c.length → Run N.Step s₀ c s

/-- `es` are the actions of `c` that are done, and `c'` those that are left. -/
inductive Leaves (N : Net κ A C) : List A → List A → List A → Prop
  | nil {c : List A} : Leaves N c [] c
  | cons {b : A} {d₁ d₂ es c' : List A} (hapart : ∀ a ∈ d₁, N.Apart a b)
      (rest : Leaves N (d₁ ++ d₂) es c') : Leaves N (d₁ ++ b :: d₂) (b :: es) c'

section

variable [DecidableEq κ] {es c' : List A}

omit [DecidableEq κ] in
theorem Leaves.length (h : N.Leaves c es c') : c.length = es.length + c'.length := by
  induction h with
  | nil => simp
  | cons _ _ ih =>
    simp only [List.length_append, List.length_cons] at ih ⊢
    omega

theorem Leaves.share (h : N.Leaves c es c') (x : κ) :
    N.share x c = N.share x es ++ N.share x c' := by
  induction h with
  | nil => rfl
  | @cons b d₁ d₂ es c' hapart _ ih =>
    simp only [Net.share, List.filter_append, List.filter_cons] at ih ⊢
    by_cases hb : N.Part b x
    · have hd : d₁.filter (fun a => decide (N.Part a x)) = [] :=
        List.filter_eq_nil_iff.mpr fun a ha => by simpa using fun hax => hapart a ha x hax hb
      rw [hd, List.nil_append] at ih
      rw [hd, if_pos (decide_eq_true hb), if_pos (decide_eq_true hb), ih]
      rfl
    · rw [if_neg (by simpa using hb), if_neg (by simpa using hb)]
      exact ih

omit [DecidableEq κ] in
/-- A run performs actions of the choreography, and leaves the others. -/
theorem Plays.leaves (h : Plays N c s t) (hrun : Run N.Step s es s') :
    ∃ c', N.Leaves c es c' ∧ Plays N c' s' t := by
  induction hrun generalizing c with
  | nil => exact ⟨c, .nil, h⟩
  | cons hb _ ih =>
    obtain ⟨d₁, d₂, rfl, hapart, hplays⟩ := h.residual hb
    obtain ⟨c', hleaves, hplays'⟩ := ih hplays
    exact ⟨c', .cons hapart hleaves, hplays'⟩

omit [DecidableEq κ] in
theorem Plays.stops_iff (h : Plays N c s t) : (∀ a s', ¬ N.Step s a s') ↔ c = [] := by
  cases h with
  | done hquiet =>
    exact iff_of_true (fun a s' hb => absurd ((hquiet _).symm.trans hb.wants) (by simp)) rfl
  | step hstep _ _ _ => exact iff_of_false (fun hno => hno _ _ hstep) (by simp)

/-- **Every run performs the choreography.** -/
theorem Plays.run (h : Plays N c s t) (hrun : Run N.Step s es s') : N.Performs c s es s' := by
  obtain ⟨c', hleaves, hplays⟩ := h.leaves hrun
  have hlength := hleaves.length
  have hdone : es.length = c.length ↔ c' = [] := by
    rw [← List.length_eq_zero_iff]
    omega
  refine ⟨fun x => ⟨_, (hleaves.share x).symm⟩, by omega, hplays.stops_iff.trans hdone.symm, ?_⟩
  intro hall
  obtain rfl := hdone.mp hall
  cases hplays with
  | done _ => exact h.exists_run

theorem mem_share {x : κ} : a ∈ N.share x c ↔ a ∈ c ∧ N.Part a x := by
  simp [share]

theorem Performs.mem_share {es : List A} {s₀ : ∀ x, C x} {x : κ} (h : N.Performs c s₀ es s)
    (ha : a ∈ es) (hx : N.Part a x) : a ∈ N.share x c :=
  (h.order x).subset (Net.mem_share.mpr ⟨ha, hx⟩)

theorem Performs.mem {es : List A} {s₀ : ∀ x, C x} (h : N.Performs c s₀ es s) (ha : a ∈ es) :
    a ∈ c :=
  (Net.mem_share.mp (h.mem_share ha (.inl rfl))).1

/-- Nothing concerns a component before the first action of its share. -/
theorem Performs.head {es c' : List A} {s₀ : ∀ x, C x} {x : κ} (h : N.Performs c s₀ es s)
    (hfirst : N.share x c = a :: c') (hb : b ∈ es) (hx : N.Part b x) : a ∈ es := by
  have hshare : b ∈ N.share x es := Net.mem_share.mpr ⟨hb, hx⟩
  have horder := h.order x
  rw [hfirst] at horder
  cases hes : N.share x es with
  | nil => simp [hes] at hshare
  | cons a' es' =>
    rw [hes] at horder
    obtain rfl := (List.cons_prefix_cons.mp horder).1
    exact (Net.mem_share.mp (hes ▸ List.mem_cons_self : a' ∈ N.share x es)).1

theorem Performs.cons {es : List A} {s₀ s₁ : ∀ x, C x} (hstep : N.Step s₀ a s₁)
    (h : N.Performs c s₁ es s) : N.Performs (a :: c) s₀ (a :: es) s where
  order x := by
    by_cases hx : N.Part a x
    · simpa [share, List.filter_cons, hx] using h.order x
    · simpa [share, List.filter_cons, hx] using h.order x
  length := by simpa using h.length
  stops := by simpa using h.stops
  ends hall := .cons hstep (h.ends (by simpa using hall))

/-- The same for a first action that no other component competes with, whoever its partner is. -/
theorem Plays.run_sole {s₁ : ∀ x, C x} (hsole : ∀ x, x ≠ N.owner a → N.wants x (s x) = none)
    (hstep : N.Step s a s₁) (h : Plays N c s₁ t) (hrun : Run N.Step s es s') :
    N.Performs (a :: c) s es s' := by
  cases hrun with
  | nil =>
    refine ⟨fun x => List.nil_prefix, by simp, iff_of_false (fun hno => hno _ _ hstep) ?_, ?_⟩
    · simp
    · simp
  | @cons _ s₂ _ b es hb hrest =>
    have howner : N.owner b = N.owner a := by
      by_contra hne
      exact absurd ((hsole _ hne).symm.trans hb.wants) (by simp)
    have hba : b = a := by
      have hwants := hb.wants
      rw [howner] at hwants
      exact Option.some.inj (hwants.symm.trans hstep.wants)
    subst hba
    obtain rfl := hstep.unique hb
    exact (h.run hrest).cons hstep

end

/-! ## Maps of networks -/

section

variable {C' : κ → Type} {N' : Net κ A C'} {f : ∀ x, C x → C' x}

/-- A map of the states that keeps what the components want, do and accept. -/
structure Maps (N : Net κ A C) (N' : Net κ A C') (f : ∀ x, C x → C' x) : Prop where
  owner : N'.owner = N.owner
  partner : N'.partner = N.partner
  wants : ∀ x s, N'.wants x (f x s) = N.wants x s
  after : ∀ x a s, N'.after x a (f x s) = f x (N.after x a s)
  accepts : ∀ x a s, N'.accepts x a (f x s) = (N.accepts x a s).map (f x)

theorem Maps.part (h : Maps N N' f) (a : A) (x : κ) : N'.Part a x ↔ N.Part a x := by
  unfold Part
  rw [h.owner, h.partner]

theorem Maps.apart (h : Maps N N' f) (a b : A) : N'.Apart a b ↔ N.Apart a b := by
  unfold Apart
  simp only [h.part]

theorem Maps.step (h : Maps N N' f) (hstep : N.Step s a s') :
    N'.Step (fun x => f x (s x)) a (fun x => f x (s' x)) where
  wants := by
    rw [h.owner, h.wants, hstep.wants]
  owner := by
    rw [h.owner, h.after, hstep.owner]
  partner y hy := by
    rw [h.partner] at hy
    rw [h.accepts, hstep.partner y hy, Option.map_some]
  frame x hx := congrArg (f x) (hstep.frame x fun hp => hx ((h.part a x).mpr hp))

theorem Maps.clear (h : Maps N N' f) (hclear : N.Clear a s c) :
    N'.Clear a (fun x => f x (s x)) c := by
  intro d₁ b d₂ y hc hpartner hy
  rw [h.partner] at hpartner
  rcases hclear d₁ b d₂ y hc hpartner ((h.part a y).mp hy) with hno | ⟨w, hw, howner, hmeet⟩
  · exact .inl (by rw [h.accepts, hno, Option.map_none])
  · refine .inr ⟨w, hw, ?_, fun hapart => hmeet ((h.apart a w).mp hapart)⟩
    rw [h.owner]
    exact (h.part w _).mpr howner

/-- A choreography of `N` is one of `N'`. -/
theorem Maps.plays (h : Maps N N' f) (hplays : Plays N c s t) :
    Plays N' c (fun x => f x (s x)) fun x => f x (t x) := by
  induction hplays with
  | done hquiet => exact .done fun x => by rw [h.wants, hquiet]
  | step hstep hpassive hclear _ ih =>
    refine .step (h.step hstep) (fun y hy => ?_) (h.clear hclear) ih
    rw [h.partner] at hy
    rw [h.wants, hpassive y hy]

end

/-! ## Checking a choreography -/

section

variable [DecidableEq κ]

/-- A component takes part in both actions. -/
def meets (N : Net κ A C) (a w : A) : Bool :=
  N.Part w (N.owner a) || (N.partner a).any fun y => N.Part w y

theorem not_apart_of_meets {w : A} (h : N.meets a w = true) : ¬ N.Apart a w := by
  intro hapart
  rcases Bool.or_eq_true_iff.mp h with h | h
  · exact hapart _ (.inl rfl) (of_decide_eq_true h)
  · cases hy : N.partner a with
    | none => simp [hy] at h
    | some y =>
      rw [hy, Option.any_some] at h
      exact hapart y (.inr hy) (of_decide_eq_true h)

/-- `Clear`, with the actions between `a` and the rest of the choreography in `between`. -/
def clear (N : Net κ A C) (a : A) (s : ∀ x, C x) (between : List A) : List A → Bool
  | [] => true
  | b :: c =>
    ((N.partner b).all fun y => !N.Part a y || (N.accepts y b (s y)).isNone ||
      (a :: between).any fun w => N.Part w (N.owner b) && N.meets a w) &&
    N.clear a s (between ++ [b]) c

theorem clear_of_check {between : List A} (h : N.clear a s between c = true) {d₁ d₂ : List A}
    {y : κ} (hc : c = d₁ ++ b :: d₂) (hpartner : N.partner b = some y) (hy : N.Part a y) :
    N.accepts y b (s y) = none ∨
      ∃ w ∈ a :: (between ++ d₁), N.Part w (N.owner b) ∧ ¬ N.Apart a w := by
  induction c generalizing between d₁ with
  | nil => simp at hc
  | cons e c ih =>
    obtain ⟨h₁, h₂⟩ := Bool.and_eq_true_iff.mp h
    cases d₁ with
    | nil =>
      obtain ⟨rfl, rfl⟩ := List.cons.inj hc
      rw [hpartner, Option.all_some, decide_eq_true hy] at h₁
      rcases Bool.or_eq_true_iff.mp h₁ with h₁ | h₁
      · exact .inl (Option.isNone_iff_eq_none.mp h₁)
      · obtain ⟨w, hw, hmeets⟩ := List.any_eq_true.mp h₁
        obtain ⟨howner, hmeets⟩ := Bool.and_eq_true_iff.mp hmeets
        rw [List.append_nil]
        exact .inr ⟨w, hw, of_decide_eq_true howner, not_apart_of_meets hmeets⟩
    | cons e' d₁ =>
      obtain ⟨rfl, hc'⟩ := List.cons.inj hc
      simpa using ih h₂ hc'

variable [DecidableEq A]

/-- The state after an action. -/
def fire (N : Net κ A C) (a : A) (s : ∀ x, C x) : Option (∀ x, C x) :=
  if N.wants (N.owner a) (s (N.owner a)) = some a then
    let s₁ := Function.update s (N.owner a) (N.after (N.owner a) a (s (N.owner a)))
    match N.partner a with
    | none => some s₁
    | some y => (N.accepts y a (s y)).map (Function.update s₁ y)
  else none

theorem step_of_fire (h : N.fire a s = some s') : N.Step s a s' := by
  unfold fire at h
  split at h
  · rename_i hwants
    split at h
    · rename_i hpartner
      cases h
      refine ⟨hwants, by simp, fun y hy => ?_, fun x hx => ?_⟩
      · rw [hpartner] at hy
        cases hy
      · exact Function.update_of_ne (fun he => hx (.inl he.symm)) _ _
    · rename_i y hpartner
      obtain ⟨t, ht, rfl⟩ := Option.map_eq_some_iff.mp h
      have hne : N.owner a ≠ y := fun he => N.partner_of_wants hwants (he ▸ hpartner)
      refine ⟨hwants, ?_, fun y' hy => ?_, fun x hx => ?_⟩
      · rw [Function.update_of_ne hne, Function.update_self]
      · obtain rfl := Option.some.inj (hpartner.symm.trans hy)
        rw [ht, Function.update_self]
      · have hxy : x ≠ y := fun he => hx (.inr (he ▸ hpartner))
        rw [Function.update_of_ne hxy, Function.update_of_ne fun he => hx (.inl he.symm)]
  · cases h

theorem fire_of_step (h : N.Step s a s') : N.fire a s = some s' := by
  suffices ∃ t, N.fire a s = some t by
    obtain ⟨t, ht⟩ := this
    rw [ht, h.unique (step_of_fire ht)]
  unfold fire
  rw [if_pos h.wants]
  cases hpartner : N.partner a with
  | none => exact ⟨_, rfl⟩
  | some y => exact ⟨_, Option.map_eq_some_iff.mpr ⟨_, h.partner y hpartner, rfl⟩⟩

/-- The state after a list of actions. -/
def perform (N : Net κ A C) : List A → (∀ x, C x) → Option (∀ x, C x)
  | [], s => some s
  | a :: c, s => (N.fire a s).bind (N.perform c)

theorem perform_of_run (h : Run N.Step s c t) : N.perform c s = some t := by
  induction h with
  | nil => rfl
  | cons hstep _ ih => rw [perform, fire_of_step hstep, Option.bind_some, ih]

/-- `Plays`, over a list of all components. -/
def plays (N : Net κ A C) (xs : List κ) : List A → (∀ x, C x) → Bool
  | [], s => xs.all fun x => (N.wants x (s x)).isNone
  | a :: c, s =>
    match N.fire a s with
    | none => false
    | some s' =>
      ((N.partner a).all fun y => (N.wants y (s y)).isNone) && N.clear a s [] c && N.plays xs c s'

theorem plays_of_check {xs : List κ} (hxs : ∀ x, x ∈ xs) (h : N.plays xs c s = true) :
    ∃ t, Plays N c s t := by
  induction c generalizing s with
  | nil =>
    exact ⟨s, .done fun x => Option.isNone_iff_eq_none.mp (List.all_eq_true.mp h x (hxs x))⟩
  | cons a c ih =>
    unfold plays at h
    split at h
    · cases h
    · rename_i s' hfire
      simp only [Bool.and_eq_true] at h
      obtain ⟨⟨hpartner, hclear⟩, hrest⟩ := h
      obtain ⟨t, ht⟩ := ih hrest
      refine ⟨t, .step (step_of_fire hfire) (fun y hy => ?_)
        (fun d₁ b d₂ y hc hb hy => by simpa using clear_of_check hclear hc hb hy) ht⟩
      rw [hy, Option.all_some] at hpartner
      exact Option.isNone_iff_eq_none.mp hpartner

end

end Net

end CLogic
