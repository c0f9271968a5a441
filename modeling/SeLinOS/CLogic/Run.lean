import Mathlib.Data.List.Induction
import Mathlib.Data.List.Infix

/-!
# Runs of a labelled step relation

`Run step s as s'`: from `s`, the steps with the labels `as`, in this order, lead to `s'`. A run is
split and joined like its list of labels (`Run.append_iff`, `Run.snoc`), and an invariant of the
steps is one of the runs (`Run.invariant`), also one that relates the state to the labels so far
(`Run.history`).

A machine whose next state is a function of the label, `next : σ → α → Option σ`, has the steps
`Next next`; `exec` computes its runs. `always_iff_each`: what holds throughout a run, by a
condition on its steps. `Since start stop`: a label of the history that nothing has undone.
-/

namespace CLogic

variable {σ α : Type}

/-- The labelled runs of `step`. -/
inductive Run (step : σ → α → σ → Prop) : σ → List α → σ → Prop
  | nil {s : σ} : Run step s [] s
  | cons {s s' s'' : σ} {a : α} {as : List α} :
    step s a s' → Run step s' as s'' → Run step s (a :: as) s''

namespace Run

variable {step step' : σ → α → σ → Prop} {s s' s'' : σ} {a : α} {as bs : List α}

theorem single (h : step s a s') : Run step s [a] s' := .cons h .nil

theorem append (h : Run step s as s') (h' : Run step s' bs s'') : Run step s (as ++ bs) s'' := by
  induction h with
  | nil => exact h'
  | cons hs _ ih => exact .cons hs (ih h')

theorem snoc (h : Run step s as s') (h' : step s' a s'') : Run step s (as ++ [a]) s'' :=
  h.append (single h')

theorem append_iff : Run step s (as ++ bs) s'' ↔ ∃ s', Run step s as s' ∧ Run step s' bs s'' := by
  refine ⟨fun h => ?_, fun ⟨_, h, h'⟩ => h.append h'⟩
  induction as generalizing s with
  | nil => exact ⟨s, .nil, h⟩
  | cons a as ih =>
    cases h with
    | cons hs hr =>
      obtain ⟨s₁, h1, h2⟩ := ih hr
      exact ⟨s₁, .cons hs h1, h2⟩

/-- What every step keeps, every run keeps. -/
theorem invariant {I : σ → Prop} (hstep : ∀ s a s', I s → step s a s' → I s')
    (h : Run step s as s') (hs : I s) : I s' := by
  induction h with
  | nil => exact hs
  | cons h _ ih => exact ih (hstep _ _ _ hs h)

/-- What every step keeps, for an invariant of the state and of the labels that led to it. -/
theorem history {I : List α → σ → Prop}
    (hstep : ∀ as s a s', I as s → step s a s' → I (as ++ [a]) s')
    (h : Run step s as s') (hs : I [] s) : I as s' := by
  suffices hfrom : ∀ before, I before s → I (before ++ as) s' from hfrom [] hs
  clear hs
  induction h with
  | nil => exact fun before hb => by rwa [List.append_nil]
  | cons h _ ih =>
    intro before hb
    have := ih (before ++ [_]) (hstep _ _ _ _ hb h)
    rwa [List.append_assoc] at this

/-- The step of a label of the run, after the run of the labels before it. -/
theorem at_label {before : List α} (h : Run step s as s') (hp : before ++ [a] <+: as) :
    ∃ s₁ s₂, Run step s before s₁ ∧ step s₁ a s₂ := by
  obtain ⟨after, rfl⟩ := hp
  obtain ⟨s₂, h2, -⟩ := append_iff.mp h
  obtain ⟨s₁, h1, ha⟩ := append_iff.mp h2
  cases ha with
  | cons ha _ => exact ⟨s₁, _, h1, ha⟩

/-- Every label of a run is the label of a step, from a state with the invariant. -/
theorem forall_mem {I : σ → Prop} {P : α → Prop} (hstep : ∀ s a s', I s → step s a s' → I s' ∧ P a)
    (h : Run step s as s') (hs : I s) : ∀ a ∈ as, P a := by
  induction h with
  | nil => simp
  | cons h _ ih =>
    obtain ⟨h1, h2⟩ := hstep _ _ _ hs h
    intro b hb
    rcases List.mem_cons.mp hb with rfl | hb
    · exact h2
    · exact ih h1 b hb

theorem mono (h : Run step s as s') (hstep : ∀ s a s', step s a s' → step' s a s') :
    Run step' s as s' := by
  induction h with
  | nil => exact .nil
  | cons h _ ih => exact .cons (hstep _ _ _ h) ih

end Run

/-- A property of every label of a list and the labels before it, over the finitely many
prefixes. -/
theorem forall_prefix_iff {P : List α → α → Prop} {as : List α} :
    (∀ before a, before ++ [a] <+: as → P before a) ↔
      ∀ upto ∈ as.inits, ∀ a ∈ upto.getLast?, P upto.dropLast a := by
  simp only [List.mem_inits]
  constructor
  · intro h upto hp a ha
    refine h _ _ ?_
    rwa [List.dropLast_append_getLast? a ha]
  · intro h before a hp
    simpa using h _ hp a (by simp)

/-! ## Since -/

/-- In the history `as` there was the label `a`, a `start`, and `since`, which followed it, has no
`stop`. -/
def Since (start stop : α → Prop) (as : List α) (a : α) (since : List α) : Prop :=
  start a ∧ (∀ b ∈ since, ¬ stop b) ∧ ∃ before, as = before ++ a :: since

namespace Since

variable {start stop : α → Prop} {as since : List α} {a b : α}

theorem not_nil : ¬ Since start stop [] a since := by
  rintro ⟨-, -, before, h⟩
  simp at h

theorem snoc_iff : Since start stop (as ++ [b]) a since ↔ (start b ∧ a = b ∧ since = []) ∨
    (¬ stop b ∧ ∃ earlier, Since start stop as a earlier ∧ since = earlier ++ [b]) := by
  constructor
  · rintro ⟨hstart, hrest, before, h⟩
    rcases List.eq_nil_or_concat since with rfl | ⟨earlier, c, rfl⟩
    · obtain ⟨-, hb⟩ := List.append_inj' h rfl
      obtain rfl := List.singleton_inj.mp hb
      exact .inl ⟨hstart, rfl, rfl⟩
    · rw [List.concat_eq_append] at h hrest ⊢
      rw [← List.cons_append, ← List.append_assoc] at h
      obtain ⟨rfl, hb⟩ := List.append_inj' h rfl
      obtain rfl := List.singleton_inj.mp hb
      exact .inr ⟨hrest b (by simp), earlier,
        ⟨hstart, fun c hc => hrest c (List.mem_append_left _ hc), before, rfl⟩, rfl⟩
  · rintro (⟨hstart, rfl, rfl⟩ | ⟨hb, earlier, ⟨hstart, hrest, before, rfl⟩, rfl⟩)
    · exact ⟨hstart, by simp, as, rfl⟩
    · refine ⟨hstart, fun c hc => ?_, before, by simp⟩
      rcases List.mem_append.mp hc with hc | hc
      · exact hrest c hc
      · obtain rfl := List.mem_singleton.mp hc
        exact hb

end Since

/-! ## Machines -/

/-- The steps of a machine: `none` where the label is not enabled. -/
def Next (next : σ → α → Option σ) (s : σ) (a : α) (s' : σ) : Prop := next s a = some s'

/-- The state after the labels `as`, when all of them are enabled one after the other. -/
def exec (next : σ → α → Option σ) : σ → List α → Option σ
  | s, [] => some s
  | s, a :: as => (next s a).bind fun s' => exec next s' as

theorem exec_iff {next : σ → α → Option σ} {s s' : σ} {as : List α} :
    exec next s as = some s' ↔ Run (Next next) s as s' := by
  induction as generalizing s with
  | nil =>
    refine ⟨fun h => ?_, fun h => ?_⟩
    · obtain rfl := Option.some.inj h
      exact .nil
    · cases h
      rfl
  | cons a as ih =>
    rw [exec, Option.bind_eq_some_iff]
    refine ⟨fun ⟨s₁, h1, h2⟩ => .cons h1 (ih.mp h2), fun h => ?_⟩
    cases h with
    | cons h1 h2 => exact ⟨_, h1, ih.mpr h2⟩

/-- A machine has one run for a list of labels. -/
theorem Next.run_unique {next : σ → α → Option σ} {s s₁ s₂ : σ} {as : List α}
    (h : Run (Next next) s as s₁) (h' : Run (Next next) s as s₂) : s₁ = s₂ :=
  Option.some.inj ((exec_iff.mpr h).symm.trans (exec_iff.mpr h'))

/-- What the machine emits in a run with the labels `as`. -/
def emitted {β : Type} (next : σ → α → Option σ) (emit : σ → α → List β) : σ → List α → List β
  | _, [] => []
  | s, a :: as => emit s a ++ (next s a).elim [] fun s' => emitted next emit s' as

theorem emitted_snoc {β : Type} {next : σ → α → Option σ} {emit : σ → α → List β} {s t : σ}
    {as : List α} (h : Run (Next next) s as t) (a : α) :
    emitted next emit s (as ++ [a]) = emitted next emit s as ++ emit t a := by
  induction h with
  | @nil s => cases hn : next s a <;> simp [emitted, hn]
  | cons hs _ ih =>
    simp only [List.cons_append, emitted, show next _ _ = _ from hs, Option.elim_some, ih,
      List.append_assoc]

/-- `P` holds in every state that a run with the labels `as` goes through. -/
def Always (next : σ → α → Option σ) (s : σ) (as : List α) (P : σ → Prop) : Prop :=
  ∀ before t, before <+: as → Run (Next next) s before t → P t

/-- `P` holds of every step of a run with the labels `as`: of the state before it and its label. -/
def Each (next : σ → α → Option σ) (s : σ) (as : List α) (P : σ → α → Prop) : Prop :=
  ∀ before a t, before ++ [a] <+: as → Run (Next next) s before t → P t a

section Each

variable {next : σ → α → Option σ} {s : σ} {a : α} {as : List α} {P : σ → α → Prop}

theorem each_nil : Each next s [] P := fun before a _ hp => by simp at hp

theorem each_cons : Each next s (a :: as) P ↔
    P s a ∧ ∀ s', next s a = some s' → Each next s' as P := by
  constructor
  · intro h
    refine ⟨h [] a s ⟨as, rfl⟩ .nil, fun s' hs' before b t hp hb => ?_⟩
    exact h (a :: before) b t (List.cons_prefix_cons.mpr ⟨rfl, hp⟩) (.cons hs' hb)
  · rintro ⟨h1, h2⟩ before b t hp hb
    cases hb with
    | nil =>
      obtain ⟨rfl, -⟩ := List.cons_prefix_cons.mp hp
      exact h1
    | cons hs' hb =>
      obtain ⟨rfl, hrest⟩ := List.cons_prefix_cons.mp hp
      exact h2 _ hs' _ b t hrest hb

instance decidableEach [∀ s a, Decidable (P s a)] :
    (s : σ) → (as : List α) → Decidable (Each next s as P)
  | _, [] => isTrue each_nil
  | s, a :: as =>
    match h : next s a with
    | none => decidable_of_iff (P s a) (by simp [each_cons, h])
    | some s' =>
      have := decidableEach s' as
      decidable_of_iff (P s a ∧ Each next s' as P) (by simp [each_cons, h])

end Each

/-- An invariant that a step keeps exactly when `P` holds of it holds throughout a run exactly when
`P` holds of every step. -/
theorem always_iff_each {next : σ → α → Option σ} {I : σ → Prop} {P : σ → α → Prop}
    (hstep : ∀ s a s', I s → next s a = some s' → (I s' ↔ P s a)) {s s' : σ} {as : List α}
    (h : Run (Next next) s as s') (hs : I s) : Always next s as I ↔ Each next s as P := by
  constructor
  · intro hall before a t hp hb
    obtain ⟨t₁, t₂, h1, h2⟩ := h.at_label hp
    obtain rfl := Next.run_unique h1 hb
    have hbefore : before <+: as := (List.prefix_append _ _).trans hp
    exact (hstep t₁ a t₂ (hall _ _ hbefore hb) h2).mp (hall _ _ hp (h1.snoc h2))
  · intro heach before
    induction before using List.reverseRecOn with
    | nil =>
      intro t _ ht
      cases ht
      exact hs
    | append_singleton before a ih =>
      intro t hp ht
      obtain ⟨t₁, h1, h2⟩ := Run.append_iff.mp ht
      cases h2 with
      | cons h2 hnil =>
        cases hnil
        have hbefore : before <+: as := (List.prefix_append _ _).trans hp
        exact (hstep t₁ a t (ih t₁ hbefore h1) h2).mpr (heach _ _ _ hp h1)

end CLogic
