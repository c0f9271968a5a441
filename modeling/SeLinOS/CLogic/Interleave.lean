import Mathlib.Data.List.Induction
import Mathlib.Logic.Function.Basic

/-!
# Clients of one server

A server answers one request at a time. Each client makes its calls one after the other and stops at
the first reply that it does not accept. A schedule is the list of the clients in the order of their
turns, so the schedules are the interleavings of the calls.

* `System.serve`: the server and the clients after a schedule; `System.map_serve` replaces the
  server by one that it refines.
* `view`, `answers`: the state of the server and its replies when one client is alone.
* `Exclusive`: a call that depends on the state or changes it is made only when the calls of every
  other client have left the server idle. Then each client sees what it sees alone
  (`Exclusive.serve`).
-/

namespace CLogic

variable {ι σ α ρ θ : Type}

/-- A request, and the check that its reply has to pass. -/
structure Call (ρ θ : Type) where
  request : ρ
  accepts : θ → Bool

/-- A client: the calls that it still has to make, and the replies that it has got. -/
structure Client (ρ θ : Type) where
  calls : List (Call ρ θ)
  replies : List θ

/-- A server and its clients. -/
structure System (ι σ ρ θ : Type) where
  server : σ
  client : ι → Client ρ θ

namespace System

/-- Nothing has been called yet. -/
def start (server : σ) (script : ι → List (Call ρ θ)) : System ι σ ρ θ :=
  ⟨server, fun i => ⟨script i, []⟩⟩

/-- The system over an abstraction of the server. -/
def map (abs : σ → α) (s : System ι σ ρ θ) : System ι α ρ θ := ⟨abs s.server, s.client⟩

variable [DecidableEq ι]

/-- Client `i` makes its next call, if it has one. -/
def turn (handle : ρ → σ → θ × σ) (s : System ι σ ρ θ) (i : ι) : System ι σ ρ θ :=
  match (s.client i).calls with
  | [] => s
  | call :: rest =>
    let (reply, server) := handle call.request s.server
    { server
      client := Function.update s.client i
        ⟨if call.accepts reply then rest else [], (s.client i).replies ++ [reply]⟩ }

def serve (handle : ρ → σ → θ × σ) (s : System ι σ ρ θ) (turns : List ι) : System ι σ ρ θ :=
  turns.foldl (turn handle) s

variable {handle : ρ → σ → θ × σ} {step : ρ → α → θ × α} {s : System ι σ ρ θ} {i : ι}

@[simp] theorem serve_nil : serve handle s [] = s := rfl

theorem serve_snoc (turns : List ι) :
    serve handle s (turns ++ [i]) = turn handle (serve handle s turns) i := by
  simp [serve]

theorem turn_nil (h : (s.client i).calls = []) : turn handle s i = s := by
  simp [turn, h]

theorem turn_cons {call : Call ρ θ} {rest : List (Call ρ θ)}
    (h : (s.client i).calls = call :: rest) :
    turn handle s i = ⟨(handle call.request s.server).2, Function.update s.client i
      ⟨if call.accepts (handle call.request s.server).1 then rest else [],
        (s.client i).replies ++ [(handle call.request s.server).1]⟩⟩ := by
  simp [turn, h]

/-- The replies to a client are only added to. -/
theorem replies_turn_le (j : ι) :
    (s.client j).replies <+: ((turn handle s i).client j).replies := by
  cases h : (s.client i).calls with
  | nil =>
    simp [turn_nil h]
  | cons call rest =>
    rw [turn_cons h]
    by_cases hj : j = i
    · subst hj
      simp
    · simp [Function.update_of_ne hj]

theorem replies_le (turns more : List ι) (j : ι) :
    ((serve handle s turns).client j).replies <+:
      ((serve handle s (turns ++ more)).client j).replies := by
  induction more using List.reverseRecOn with
  | nil => simp
  | append_singleton more i ih =>
    rw [← List.append_assoc, serve_snoc]
    exact ih.trans (replies_turn_le j)

/-- A server that refines another one serves the same clients in the same way. -/
theorem map_serve {abs : σ → α}
    (h : ∀ r t, (handle r t).1 = (step r (abs t)).1 ∧ abs (handle r t).2 = (step r (abs t)).2)
    (turns : List ι) : (serve handle s turns).map abs = serve step (s.map abs) turns := by
  induction turns using List.reverseRecOn with
  | nil => rfl
  | append_singleton turns i ih =>
    rw [serve_snoc, serve_snoc, ← ih]
    generalize serve handle s turns = t
    have hcalls : ((t.map abs).client i).calls = (t.client i).calls := rfl
    cases hc : (t.client i).calls with
    | nil => rw [turn_nil hc, turn_nil (hcalls.trans hc)]
    | cons call rest =>
      obtain ⟨h1, h2⟩ := h call.request t.server
      rw [turn_cons hc, turn_cons (hcalls.trans hc)]
      simp only [map, h1, h2]
      rfl

end System

/-! ## One client alone -/

section Alone

variable (step : ρ → α → θ × α)

/-- The state of the server after the first `n` calls, made alone. -/
def view (idle : α) (calls : List (Call ρ θ)) (n : Nat) : α :=
  (calls.take n).foldl (fun a call => (step call.request a).2) idle

/-- The replies to the calls, made alone. -/
def answers : α → List (Call ρ θ) → List θ
  | _, [] => []
  | a, call :: rest => (step call.request a).1 :: answers (step call.request a).2 rest

variable {step} {idle : α} {calls : List (Call ρ θ)} {call : Call ρ θ} {n : Nat}

@[simp] theorem view_zero : view step idle calls 0 = idle := by simp [view]

theorem view_succ (h : calls[n]? = some call) :
    view step idle calls (n + 1) = (step call.request (view step idle calls n)).2 := by
  simp [view, List.take_add_one, h]

theorem view_succ_none (h : calls[n]? = none) :
    view step idle calls (n + 1) = view step idle calls n := by
  simp [view, List.take_add_one, h]

theorem answers_getElem? : (answers step idle calls)[n]? =
    calls[n]?.map fun call => (step call.request (view step idle calls n)).1 := by
  induction calls generalizing idle n with
  | nil => simp [answers]
  | cons call rest ih =>
    cases n with
    | zero => simp [answers]
    | succ n =>
      simp only [answers, List.getElem?_cons_succ, ih]
      simp [view]

@[simp] theorem length_answers : (answers step idle calls).length = calls.length := by
  induction calls generalizing idle with
  | nil => rfl
  | cons call rest ih => simp [answers, ih]

end Alone

/-! ## Exclusive use -/

/-- The request neither depends on the state of the server nor changes it. -/
def Neutral (step : ρ → α → θ × α) (r : ρ) : Prop :=
  ∀ a b, (step r a).1 = (step r b).1 ∧ (step r a).2 = a

/-- Every call accepts the reply that it gets when its client is alone. -/
def Accepted (step : ρ → α → θ × α) (idle : α) (calls : List (Call ρ θ)) : Prop :=
  ∀ n (call : Call ρ θ), calls[n]? = some call →
    call.accepts (step call.request (view step idle calls n)).1

theorem accepted_nil {step : ρ → α → θ × α} {idle : α} :
    Accepted step idle ([] : List (Call ρ θ)) := by
  intro n call h
  simp at h

theorem accepted_cons {step : ρ → α → θ × α} {idle : α} {call : Call ρ θ}
    {rest : List (Call ρ θ)} (h : call.accepts (step call.request idle).1)
    (hrest : Accepted step (step call.request idle).2 rest) :
    Accepted step idle (call :: rest) := by
  intro n c hc
  cases n with
  | zero =>
    obtain rfl : call = c := by simpa using hc
    simpa using h
  | succ n => exact hrest n c (by simpa using hc)

section Exclusive

variable [DecidableEq ι] (step : ρ → α → θ × α) (idle : α) (touches : ρ → Prop)
  (script : ι → List (Call ρ θ))

/-- After the turns `turns`, client `i` may make its next call: it does not touch the state, or the
other clients have left the server idle. -/
def MayCall (turns : List ι) (i : ι) : Prop :=
  ∀ call, (script i)[turns.count i]? = some call → touches call.request →
    ∀ j, j ≠ i → view step idle (script j) (turns.count j) = idle

/-- Every call of the schedule is one that may be made. -/
def Exclusive (turns : List ι) : Prop :=
  ∀ before i, before ++ [i] <+: turns → MayCall step idle touches script before i

/-- Each client has made as many calls as it had turns and got the replies that it gets alone. -/
def AsAlone (turns : List ι) (s : System ι α ρ θ) : Prop :=
  ∀ i, s.client i = ⟨(script i).drop (turns.count i),
    (answers step idle (script i)).take (turns.count i)⟩

/-- The server is in the state of the client that has not left it idle; there is at most one. -/
structure Owned (turns : List ι) (a : α) : Prop where
  unique : ∀ i j, i ≠ j → view step idle (script i) (turns.count i) = idle ∨
    view step idle (script j) (turns.count j) = idle
  owner : ∀ i, view step idle (script i) (turns.count i) ≠ idle →
    a = view step idle (script i) (turns.count i)
  idle : (∀ i, view step idle (script i) (turns.count i) = idle) → a = idle

variable {step idle touches script} {turns : List ι} {i : ι} {s : System ι α ρ θ}

theorem exclusive_nil : Exclusive step idle touches script [] := by
  intro before i h
  simp at h

theorem exclusive_snoc : Exclusive step idle touches script (turns ++ [i]) ↔
    Exclusive step idle touches script turns ∧ MayCall step idle touches script turns i := by
  refine ⟨fun h => ⟨fun before j hj => h before j (hj.trans (List.prefix_append _ _)),
    h turns i (List.prefix_refl _)⟩, fun ⟨h, hi⟩ before j hj => ?_⟩
  rcases List.prefix_concat_iff.mp hj with he | hp
  · obtain ⟨rfl, he⟩ := List.append_inj' he rfl
    obtain rfl : j = i := by simpa using he
    exact hi
  · exact h before j hp

theorem count_snoc_self : (turns ++ [i]).count i = turns.count i + 1 := by simp

theorem count_snoc_of_ne {j : ι} (h : j ≠ i) : (turns ++ [i]).count j = turns.count j := by
  simp [List.count_append, h.symm]

theorem asAlone_start : AsAlone step idle script [] (System.start idle script) := by
  intro i
  simp [System.start]

/-- A turn with the reply of the client alone keeps `AsAlone`. -/
theorem AsAlone.turn (h : AsAlone step idle script turns s)
    (hacc : ∀ i, Accepted step idle (script i))
    (hreply : ∀ call, (script i)[turns.count i]? = some call → (step call.request s.server).1 =
      (step call.request (view step idle (script i) (turns.count i))).1) :
    AsAlone step idle script (turns ++ [i]) (s.turn step i) := by
  intro j
  have hi := h i
  cases hc : (script i)[turns.count i]? with
  | none =>
    have hle := List.getElem?_eq_none_iff.mp hc
    have hnil : (s.client i).calls = [] := by rw [hi]; exact List.drop_eq_nil_of_le hle
    rw [System.turn_nil hnil, h j]
    by_cases hj : j = i
    · subst hj
      rw [count_snoc_self, List.drop_eq_nil_of_le hle, List.drop_eq_nil_of_le (by omega),
        List.take_of_length_le (by simpa using hle),
        List.take_of_length_le (by rw [length_answers]; omega)]
    · rw [count_snoc_of_ne hj]
  | some call =>
    obtain ⟨hlt, he⟩ := List.getElem?_eq_some_iff.mp hc
    have hcons : (s.client i).calls = call :: (script i).drop (turns.count i + 1) := by
      rw [hi, ← he]
      exact List.drop_eq_getElem_cons hlt
    rw [System.turn_cons hcons]
    by_cases hj : j = i
    · subst hj
      have hans : (answers step idle (script j))[turns.count j]? =
          some (step call.request (view step idle (script j) (turns.count j))).1 := by
        rw [answers_getElem?, hc]
        rfl
      show Function.update s.client j _ j = _
      rw [Function.update_self, hreply call hc, if_pos (hacc j _ _ hc), hi, count_snoc_self,
        List.take_add_one, hans]
      rfl
    · rw [count_snoc_of_ne hj]
      simp only [Function.update_of_ne hj]
      exact h j

theorem server_turn_some (h : AsAlone step idle script turns s) {call : Call ρ θ}
    (hc : (script i)[turns.count i]? = some call) :
    (s.turn step i).server = (step call.request s.server).2 := by
  obtain ⟨hlt, he⟩ := List.getElem?_eq_some_iff.mp hc
  have hcons : (s.client i).calls = call :: (script i).drop (turns.count i + 1) := by
    rw [h i, ← he]
    exact List.drop_eq_getElem_cons hlt
  rw [System.turn_cons hcons]

theorem server_turn_none (h : AsAlone step idle script turns s)
    (hc : (script i)[turns.count i]? = none) : (s.turn step i).server = s.server := by
  have hnil : (s.client i).calls = [] := by
    rw [h i]
    exact List.drop_eq_nil_of_le (List.getElem?_eq_none_iff.mp hc)
  rw [System.turn_nil hnil]

theorem owned_start : Owned step idle script [] idle where
  unique _ _ _ := .inl (by simp)
  owner i hi := absurd (by simp) hi
  idle _ := rfl

/-- A client that finds the others idle finds the server in its own state. -/
theorem Owned.eq_view {a : α} (h : Owned step idle script turns a)
    (hj : ∀ j, j ≠ i → view step idle (script j) (turns.count j) = idle) :
    a = view step idle (script i) (turns.count i) := by
  by_cases hv : view step idle (script i) (turns.count i) = idle
  · rw [hv]
    refine h.idle fun j => ?_
    by_cases hji : j = i
    · rw [hji, hv]
    · exact hj j hji
  · exact h.owner i hv

/-- A turn that leaves the state and the view of its client as they are keeps `Owned`. -/
theorem Owned.same {a : α} (h : Owned step idle script turns a)
    (hv : view step idle (script i) (turns.count i + 1) =
      view step idle (script i) (turns.count i)) : Owned step idle script (turns ++ [i]) a := by
  have hview : ∀ j, view step idle (script j) ((turns ++ [i]).count j) =
      view step idle (script j) (turns.count j) := by
    intro j
    by_cases hj : j = i
    · rw [hj, count_snoc_self, hv]
    · rw [count_snoc_of_ne hj]
  refine ⟨fun j k hjk => ?_, fun j hj => ?_, fun hall => h.idle fun j => ?_⟩
  · rw [hview, hview]
    exact h.unique j k hjk
  · rw [hview] at hj ⊢
    exact h.owner j hj
  · rw [← hview]
    exact hall j

/-- After a turn of a client that finds the others idle, the server is in the state of that
client. -/
theorem Owned.own {a : α} (hj : ∀ j, j ≠ i → view step idle (script j) (turns.count j) = idle)
    (ha : a = view step idle (script i) (turns.count i + 1)) :
    Owned step idle script (turns ++ [i]) a := by
  have hother : ∀ j, j ≠ i → view step idle (script j) ((turns ++ [i]).count j) = idle := by
    intro j hji
    rw [count_snoc_of_ne hji]
    exact hj j hji
  refine ⟨fun j k hjk => ?_, fun j hne => ?_, fun hall => ?_⟩
  · by_cases hji : j = i
    · exact .inr (hother k fun hki => hjk (hji.trans hki.symm))
    · exact .inl (hother j hji)
  · obtain rfl : j = i := by
      by_contra hji
      exact hne (hother j hji)
    rw [count_snoc_self, ha]
  · rw [ha, ← count_snoc_self, hall i]

/-- One turn that may be made: the client gets the reply that it gets alone, and the server is owned
again. -/
theorem MayCall.turn (hneutral : ∀ r, ¬ touches r → Neutral step r)
    (hacc : ∀ i, Accepted step idle (script i)) (h : AsAlone step idle script turns s)
    (ho : Owned step idle script turns s.server)
    (hmay : MayCall step idle touches script turns i) :
    AsAlone step idle script (turns ++ [i]) (s.turn step i) ∧
      Owned step idle script (turns ++ [i]) (s.turn step i).server := by
  cases hc : (script i)[turns.count i]? with
  | none =>
    refine ⟨h.turn hacc fun call he => absurd he (by simp [hc]), ?_⟩
    rw [server_turn_none h hc]
    exact ho.same (view_succ_none hc)
  | some call =>
    by_cases ht : touches call.request
    · have hj := hmay call hc ht
      have hs := ho.eq_view hj
      refine ⟨h.turn hacc fun call' _ => by rw [hs], ?_⟩
      rw [server_turn_some h hc, hs, ← view_succ hc]
      exact .own hj rfl
    · have hn := hneutral _ ht
      refine ⟨h.turn hacc fun call' he => ?_, ?_⟩
      · obtain rfl := Option.some.inj (hc.symm.trans he)
        exact (hn _ _).1
      · rw [server_turn_some h hc, (hn s.server idle).2]
        refine ho.same ?_
        rw [view_succ hc, (hn _ idle).2]

/-- Under an exclusive schedule every client sees what it sees alone. -/
theorem Exclusive.serve (hneutral : ∀ r, ¬ touches r → Neutral step r)
    (hacc : ∀ i, Accepted step idle (script i)) (hex : Exclusive step idle touches script turns) :
    AsAlone step idle script turns ((System.start idle script).serve step turns) ∧
      Owned step idle script turns ((System.start idle script).serve step turns).server := by
  induction turns using List.reverseRecOn with
  | nil => exact ⟨asAlone_start, owned_start⟩
  | append_singleton turns i ih =>
    obtain ⟨hex, hmay⟩ := exclusive_snoc.mp hex
    obtain ⟨h, ho⟩ := ih hex
    rw [System.serve_snoc]
    exact hmay.turn hneutral hacc h ho

/-- A schedule under which no client sees a reply that it would not get alone. -/
def Faithful (step : ρ → α → θ × α) (idle : α) (script : ι → List (Call ρ θ)) (turns : List ι) :
    Prop :=
  ∀ i, (((System.start idle script).serve step turns).client i).replies <+:
    answers step idle (script i)

/-- Under a faithful schedule the clients are as they are alone before each turn, and the reply of
the turn is the one that its client gets alone. -/
theorem Faithful.snoc (h : Faithful step idle script (turns ++ [i]))
    (has : AsAlone step idle script turns
      ((System.start idle script).serve step turns)) :
    Faithful step idle script turns ∧
      ∀ call, (script i)[turns.count i]? = some call →
        (step call.request ((System.start idle script).serve step turns).server).1 =
          (step call.request (view step idle (script i) (turns.count i))).1 := by
  refine ⟨fun j => (System.replies_le turns [i] j).trans (h j), fun call hc => ?_⟩
  have hi := h i
  rw [System.serve_snoc] at hi
  obtain ⟨hlt, he⟩ := List.getElem?_eq_some_iff.mp hc
  have hcons : (((System.start idle script).serve step turns).client i).calls =
      call :: (script i).drop (turns.count i + 1) := by
    rw [has i, ← he]
    exact List.drop_eq_getElem_cons hlt
  rw [System.turn_cons hcons, has i] at hi
  simp only [Function.update_self] at hi
  -- the new reply stands at the place of the answer to this call
  have hget := List.prefix_iff_getElem?.mp hi (turns.count i) (by simp; omega)
  rw [answers_getElem?, hc, List.getElem_append_right (List.length_take_le _ _)] at hget
  simpa using hget.symm

theorem Faithful.asAlone (hacc : ∀ i, Accepted step idle (script i))
    (h : Faithful step idle script turns) :
    AsAlone step idle script turns ((System.start idle script).serve step turns) := by
  induction turns using List.reverseRecOn with
  | nil => exact asAlone_start
  | append_singleton turns i ih =>
    have has := ih fun j => (System.replies_le turns [i] j).trans (h j)
    obtain ⟨-, hreply⟩ := h.snoc has
    rw [System.serve_snoc]
    exact has.turn hacc hreply

/-- The turns of one client only are an exclusive schedule. -/
theorem exclusive_filter (i : ι) (turns : List ι) :
    Exclusive step idle touches script (turns.filter (· = i)) := by
  intro before j hp call _ _ k hk
  have hall : ∀ x ∈ before ++ [j], x = i := by
    intro x hx
    simpa using (List.mem_filter.mp (hp.subset hx)).2
  obtain rfl : j = i := hall j (by simp)
  have hcount : before.count k = 0 := by
    refine List.count_eq_zero_of_not_mem fun hm => hk ?_
    exact hall k (by simp [hm])
  rw [hcount, view_zero]

end Exclusive

end CLogic
