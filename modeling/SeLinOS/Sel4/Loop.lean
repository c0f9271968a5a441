import SeLinOS.Sel4.Bundle

/-!
# Servers in a loop

A thread that receives a message at its endpoint, does what `handle` says and receives again, until
it leaves the loop.

* `Loop.act`: the thread; `Loop.produced`: what it puts out for a list of messages.
* `Loop.outputs_run`: in every run of every system with such a thread, it has put out the beginning
  of what it produces for the messages in the order in which they came.
-/

namespace SeLinOS.Sel4

open CLogic

variable {ι ν τ σ σ' : Type} {S : ι → Type} [DecidableEq ι] [DecidableEq ν]

/-- What a server does after a message. -/
inductive Todo (τ : Type)
  | print (text : τ)
  | reply (m : Message) (cap : Option Slot)
  deriving Repr, DecidableEq

/-- A server in its loop (`none`: it has left the loop), with what is left to do for the last
message. -/
structure Loop (σ τ : Type) where
  state : Option σ
  todo : List (Todo τ)
  deriving Repr, DecidableEq

/-- What a thread puts out. -/
inductive Output (τ : Type)
  | print (text : τ)
  | reply (m : Message)
  deriving Repr, DecidableEq

def Todo.output : Todo τ → Output τ
  | print text => .print text
  | reply m _ => .reply m

namespace Event

/-- What the owner of the event puts out. -/
def output : Event ι ν τ → Option (Output τ)
  | print _ text => some (.print text)
  | reply _ _ m _ | unheard _ m => some (.reply m)
  | _ => none

/-- The message that the partner of the event gets. -/
def incoming : Event ι ν τ → Option Message
  | send _ _ _ m | call _ _ _ m => some m
  | _ => none

end Event

def outputs (i : ι) (es : List (Event ι ν τ)) : List (Output τ) :=
  es.filterMap fun e => if e.owner = .thread i then e.output else none

def requests (i : ι) (es : List (Event ι ν τ)) : List Message :=
  es.filterMap fun e => if e.partner = some (.thread i) then e.incoming else none

namespace Loop

/-- The server before its first message. -/
def enter (s : σ) : Loop σ τ := ⟨some s, []⟩

/-- `slot`: the endpoint of the loop; `handle`: one iteration. -/
def act (slot : Slot) (handle : Message → σ → Loop σ τ) (l : Loop σ τ) : Act τ (Loop σ τ) :=
  match l.todo, l.state with
  | .print text :: todo, _ => .putString text { l with todo }
  | .reply m cap :: todo, _ => .reply m cap { l with todo }
  | [], some s => .recv slot fun m => handle m s
  | [], none => .yield

def map (f : σ → σ') (l : Loop σ τ) : Loop σ' τ := ⟨l.state.map f, l.todo⟩

theorem act_map {slot : Slot} {handle : Message → σ → Loop σ τ}
    {handle' : Message → σ' → Loop σ' τ} {f : σ → σ'}
    (h : ∀ m s, handle' m (f s) = (handle m s).map f) (l : Loop σ τ) :
    (l.map f).act slot handle' = (l.act slot handle).map (Loop.map f) := by
  obtain ⟨s, todo⟩ := l
  cases todo with
  | nil =>
    cases s with
    | none => rfl
    | some s => exact congrArg (Act.recv slot) (funext fun m => h m s)
  | cons next todo => cases next <;> rfl

variable {slot : Slot} {handle : Message → σ → Loop σ τ} {t t' : Tcb ι ν (Loop σ τ)}
  {e : Event ι ν τ} {i : ι}

/-! ## One event -/

def outputsLeft (l : Loop σ τ) : List (Output τ) := l.todo.map Todo.output

omit [DecidableEq ν] in
/-- What the server does on its own is the next thing to do. -/
theorem own (h : t.wants i (t.code.act slot handle) = some e) :
    e.output.toList ++ (t.after (t.code.act slot handle) e).code.outputsLeft =
      t.code.outputsLeft ∧
      (t.after (t.code.act slot handle) e).code.state = t.code.state := by
  obtain ⟨⟨s, todo⟩, caps, path, caller, suspended⟩ := t
  cases todo with
  | nil => cases s <;> cases h
  | cons next todo =>
    cases next with
    | print text =>
      obtain rfl := Option.some.inj h
      exact ⟨rfl, rfl⟩
    | reply m cap =>
      cases caller with
      | none =>
        obtain rfl := Option.some.inj h
        exact ⟨rfl, rfl⟩
      | some j =>
        have h : (if j = i then none else some (Event.reply i j m (cap.bind caps))) = some e := h
        split at h
        · cases h
        · obtain rfl := Option.some.inj h
          exact ⟨rfl, rfl⟩

omit [DecidableEq ι] [DecidableEq ν] in
theorem act_recv {l : Loop σ τ} {slot' : Slot} {next : Message → Loop σ τ}
    (h : l.act slot handle = .recv slot' next) : ∃ s, l = enter s ∧ next = fun m => handle m s := by
  obtain ⟨s, todo⟩ := l
  cases todo with
  | nil =>
    cases s with
    | none => cases h
    | some s =>
      cases h
      exact ⟨s, rfl, rfl⟩
  | cons next todo => cases next <;> cases h

omit [DecidableEq ι] [DecidableEq ν] in
/-- A server makes no calls. -/
theorem act_ne_await (l : Loop σ τ) (next : Message → Loop σ τ) :
    l.act slot handle ≠ .await next := by
  obtain ⟨s, todo⟩ := l
  cases todo with
  | nil => cases s <;> simp [act]
  | cons next todo => cases next <;> simp [act]

omit [DecidableEq ι] [DecidableEq ν] in
/-- A server waits for no notification. -/
theorem act_ne_wait (l : Loop σ τ) (slot' : Slot) (next : Loop σ τ) :
    l.act slot handle ≠ .wait slot' next := by
  obtain ⟨s, todo⟩ := l
  cases todo with
  | nil => cases s <;> simp [act]
  | cons next todo => cases next <;> simp [act]

/-- What others do to the server: a message that it waits for, or nothing that concerns its loop. -/
theorem join (h : t.accepts (t.code.act slot handle) e = some t') :
    (∃ m s, e.incoming = some m ∧ t.code = enter s ∧ t'.code = handle m s) ∨
      e.incoming = none ∧ t'.code = t.code := by
  cases e with
  | send | call =>
    simp only [Tcb.accepts] at h
    split at h
    · cases h
    · obtain ⟨_, _, hact, rfl⟩ := Tcb.deliver_some h
      obtain ⟨s, hcode, rfl⟩ := act_recv hact
      exact .inl ⟨_, s, rfl, hcode, rfl⟩
  | reply j i m cap =>
    have hcode : t'.code = t.code := by
      cases hact : t.code.act slot handle with
      | await next => exact absurd hact (act_ne_await t.code next)
      | _ =>
        rw [hact] at h
        obtain rfl := Option.some.inj h
        rfl
    exact .inr ⟨rfl, hcode⟩
  | wake n i =>
    cases hact : t.code.act slot handle with
    | wait slot' next => exact absurd hact (act_ne_wait t.code slot' next)
    | _ =>
      rw [hact] at h
      cases h
  | resume | suspend =>
    obtain rfl := Option.some.inj h
    exact .inr ⟨rfl, rfl⟩
  | _ => cases h

/-! ## Runs -/

/-- One message: what has been put out, and the state. -/
def serve (handle : Message → σ → Loop σ τ) (acc : List (Output τ) × Option σ) (m : Message) :
    List (Output τ) × Option σ :=
  match acc.2 with
  | none => acc
  | some s => (acc.1 ++ (handle m s).outputsLeft, (handle m s).state)

/-- What the server puts out for the messages, and the state after them. -/
def produced (handle : Message → σ → Loop σ τ) (s : σ) (ms : List Message) :
    List (Output τ) × Option σ :=
  ms.foldl (serve handle) ([], some s)

theorem produced_snoc (handle : Message → σ → Loop σ τ) (s : σ) (ms : List Message) (m : Message) :
    produced handle s (ms ++ [m]) = serve handle (produced handle s ms) m := by
  simp [produced]

theorem outputs_snoc (es : List (Event ι ν τ)) (e : Event ι ν τ) :
    outputs i (es ++ [e]) = outputs i es ++
      (if e.owner = .thread i then e.output else none).toList := by
  cases h : if e.owner = .thread i then e.output else none <;> simp [outputs, h]

theorem requests_snoc (es : List (Event ι ν τ)) (e : Event ι ν τ) :
    requests i (es ++ [e]) = requests i es ++
      (if e.partner = some (.thread i) then e.incoming else none).toList := by
  cases h : if e.partner = some (.thread i) then e.incoming else none <;> simp [requests, h]

section

variable {b : System ι ν τ S} {g : S i → Loop σ τ} {s s' : ∀ x, Component ι ν S x}

/-- An event of the server, seen by its loop. -/
theorem own_step (hact : ∀ s, (b.act i s).map g = (g s).act slot handle)
    (hstep : (net b).Step s e s') (howner : e.owner = .thread i) :
    e.output.toList ++ (g (s' (.thread i)).code).outputsLeft =
      (g (s (.thread i)).code).outputsLeft ∧
      (g (s' (.thread i)).code).state = (g (s (.thread i)).code).state := by
  have hwants : (s (.thread i)).wants i (b.act i (s (.thread i)).code) = some e := by
    have := hstep.wants
    rw [show (net b).owner e = .thread i from howner] at this
    have : (if (s (.thread i)).suspended then none else
      (s (.thread i)).wants i (b.act i (s (.thread i)).code)) = some e := this
    split at this
    · cases this
    · exact this
  have hafter : s' (.thread i) = (s (.thread i)).after (b.act i (s (.thread i)).code) e := by
    have := hstep.owner
    rwa [show (net b).owner e = .thread i from howner] at this
  rw [← Tcb.wants_map g, hact] at hwants
  have hafter' : Tcb.map g (s' (.thread i)) =
      (Tcb.map g (s (.thread i))).after ((g (s (.thread i)).code).act slot handle) e := by
    rw [← hact, Tcb.after_map, hafter]
  rw [show g (s' (.thread i)).code = (Tcb.map g (s' (.thread i))).code from rfl, hafter']
  exact own hwants

/-- An event of another thread with the server. -/
theorem join_step (hact : ∀ s, (b.act i s).map g = (g s).act slot handle)
    (hstep : (net b).Step s e s') (hpartner : e.partner = some (.thread i)) :
    (∃ m x, e.incoming = some m ∧ g (s (.thread i)).code = enter x ∧
      g (s' (.thread i)).code = handle m x) ∨
      e.incoming = none ∧ g (s' (.thread i)).code = g (s (.thread i)).code := by
  have haccepts : (s (.thread i)).accepts (b.act i (s (.thread i)).code) e =
      some (s' (.thread i)) := hstep.partner _ hpartner
  have hmap := Tcb.accepts_map g (s (.thread i)) (b.act i (s (.thread i)).code) e
  rw [haccepts, hact, Option.map_some] at hmap
  exact join hmap

end

/-- **Servers in networks**: in every run of a system in which thread `i` is the server, what it has
put out and what is left to do are what it produces for the messages that have reached it. -/
theorem outputs_run {b : System ι ν τ S} {g : S i → Loop σ τ}
    (hact : ∀ s, (b.act i s).map g = (g s).act slot handle)
    {s₀ s : ∀ x, Component ι ν S x} {es : List (Event ι ν τ)} {x : σ}
    (h : Run (net b).Step s₀ es s) (hstart : g (s₀ (.thread i)).code = enter x) :
    produced handle x (requests i es) =
      (outputs i es ++ (g (s (.thread i)).code).outputsLeft, (g (s (.thread i)).code).state) := by
  refine h.history (I := fun es s => produced handle x (requests i es) =
    (outputs i es ++ (g (s (.thread i)).code).outputsLeft, (g (s (.thread i)).code).state)) ?_ ?_
  · intro es s e s' ih hstep
    rw [requests_snoc, outputs_snoc]
    by_cases howner : e.owner = .thread i
    · have hpartner : e.partner ≠ some (.thread i) :=
        howner ▸ (net b).partner_of_wants hstep.wants
      obtain ⟨hleft, hstate⟩ := own_step hact hstep howner
      rw [if_neg hpartner, if_pos howner, Option.toList_none, List.append_nil, ih,
        List.append_assoc, hleft, hstate]
    · rw [if_neg howner, Option.toList_none, List.append_nil]
      by_cases hpartner : e.partner = some (.thread i)
      · rw [if_pos hpartner]
        rcases join_step hact hstep hpartner with ⟨m, y, hm, hcode, hcode'⟩ | ⟨hm, hcode⟩
        · rw [hm, Option.toList_some, produced_snoc, ih, hcode, hcode']
          simp [serve, enter, outputsLeft]
        · rw [hm, Option.toList_none, List.append_nil, ih, hcode]
      · have hsame : s' (.thread i) = s (.thread i) :=
          hstep.frame _ fun hp => hp.elim howner hpartner
        rw [if_neg hpartner, Option.toList_none, List.append_nil, ih, hsame]
  · rw [hstart]
    rfl

end Loop

end SeLinOS.Sel4
