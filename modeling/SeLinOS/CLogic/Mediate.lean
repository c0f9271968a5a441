import Mathlib.Data.List.Infix
import SeLinOS.CLogic.Prog

/-!
# A monitor that serves the calls of a process

A process runs until it traps. A monitor takes the traps one after the other, each with the handler
of its place: the handler gives the result with which the process goes on, or the monitor gives up.

* `mediateAll`: the handlers in their order, over any process.
* `Service`: the result of the call at a place, and what serving it changes.
* `Converses`: the conversation of the process with its places when every call is served.
* `mediateAll_wp`: a monitor whose handlers implement the places has served a beginning of this
  conversation when it stops, and has served all of it when it does not.
* `Converses.agree`: there is one conversation only, so what the process is told does not depend on
  the rest of the monitor's state.
-/

namespace CLogic

open Prog

/-- Why a process stops: `other` is a trap that is no call. -/
inductive Trap (φ : Type) where
  | never
  | other
  | call (frame : φ)
  deriving Repr, DecidableEq

/-- A process: its run to the next trap, from what it sees, with what it does to it (`ω`); and how
it goes on after a call. -/
structure Guest (π κ ω φ ρ : Type) where
  run : π → κ → Trap φ × ω × π
  resume : φ → ρ → π → π

/-- How a monitor ends: `waiting` for a trap that never comes. -/
inductive Ending where
  | waiting
  | rejected
  | passed
  deriving Repr, DecidableEq

/-- A call that was served: its result, and what the process sees when it goes on. -/
structure Answer (κ φ ρ : Type) where
  frame : φ
  result : ρ
  sees : κ

/-- The process, the state of the monitor, and the calls that it has served. -/
structure Monitor (π η κ φ ρ : Type) where
  guest : π
  host : η
  log : List (Answer κ φ ρ)

/-- What a process sees of a host, and how it acts on it. -/
structure Port (η κ ω : Type) where
  look : η → κ
  act : ω → η → η

section Definitions

variable {π η κ ω φ ρ α : Type} (G : Guest π κ ω φ ρ) (port : Port η κ ω)

/-- The next trap, which has to be a call. -/
def recvTrap : Prog Ending (Monitor π η κ φ ρ) φ := fun s =>
  let (trap, w, guest) := G.run s.guest (port.look s.host)
  let t := { s with guest, host := port.act w s.host }
  match trap with
  | .never => .ret .waiting t
  | .other => .ret .rejected t
  | .call frame => .ok frame t

/-- A program of the monitor, which does not touch the process. -/
def onHost (p : Prog Ending η α) : Prog Ending (Monitor π η κ φ ρ) α := fun s =>
  match p s.host with
  | .ok a host => .ok a { s with host }
  | .ret e host => .ret e { s with host }
  | .fault x => .fault x

/-- The process goes on after `frame`. -/
def answerTrap (frame : φ) (result : ρ) : Prog Ending (Monitor π η κ φ ρ) Unit :=
  Prog.modify fun s =>
    { s with
      guest := G.resume frame result s.guest
      log := s.log ++ [⟨frame, result, port.look s.host⟩] }

def mediate (handler : φ → Prog Ending η ρ) : Prog Ending (Monitor π η κ φ ρ) Unit := do
  let frame ← recvTrap G port
  let result ← onHost (handler frame)
  answerTrap G port frame result

def mediateAll : List (φ → Prog Ending η ρ) → Prog Ending (Monitor π η κ φ ρ) Unit
  | [] => pure ()
  | handler :: handlers => do
    mediate G port handler
    mediateAll handlers

end Definitions

/-- What is served at a place (`τ`), over an abstract state: the answer to the call, and what
serving it changes. -/
structure Service (τ φ ρ ν : Type) where
  result : τ → φ → ν → ρ
  effect : τ → φ → ν → ν

/-- What a process sees of an abstract state, and how it acts on it. -/
structure Sight (ν κ ω : Type) where
  seen : ν → κ
  actView : ω → ν → ν

/-- The abstract state of a host: it has all that a process sees. -/
structure Interface (η ν κ ω : Type) extends Port η κ ω, Sight ν κ ω where
  Inv : η → Prop
  view : η → ν
  look_eq : ∀ h, look h = seen (view h)
  view_act : ∀ w h, Inv h → view (act w h) = actView w (view h)
  inv_act : ∀ w h, Inv h → Inv (act w h)

variable {π η ν κ ω φ ρ α τ : Type}

section Conversations

variable (G : Guest π κ ω φ ρ) (V : Sight ν κ ω) (S : Service τ φ ρ ν)
  (test : τ → φ → ν → Prop)

/-- The process makes calls that pass the tests of the places, in their order, and is answered by
them. -/
inductive Converses : List τ → π → ν → List (Answer κ φ ρ) → π → ν → Prop
  | nil {p : π} {v : ν} : Converses [] p v [] p v
  | cons {place : τ} {places : List τ} {p p' p'' : π} {v v' : ν} {w : ω} {frame : φ}
      {log : List (Answer κ φ ρ)} :
    G.run p (V.seen v) = (.call frame, w, p') → test place frame (V.actView w v) →
    Converses places (G.resume frame (S.result place frame (V.actView w v)) p')
      (S.effect place frame (V.actView w v)) log p'' v' →
    Converses (place :: places) p v (⟨frame, S.result place frame (V.actView w v),
      V.seen (S.effect place frame (V.actView w v))⟩ :: log) p'' v'

namespace Converses

variable {G V S test} {test' : τ → φ → ν → Prop} {places more : List τ} {place : τ}
  {p p' q q' : π} {v v' u u' : ν} {log log' : List (Answer κ φ ρ)} {w : ω} {frame : φ}

theorem append (h : Converses G V S test places p v log q u)
    (h' : Converses G V S test more q u log' p' v') :
    Converses G V S test (places ++ more) p v (log ++ log') p' v' := by
  induction h with
  | nil => exact h'
  | cons hrun htest _ ih => exact .cons hrun htest (ih h')

/-- A conversation is one with its first places, and then one with the others. -/
theorem append_inv (h : Converses G V S test (places ++ more) p v log p' v') :
    ∃ before after q u, log = before ++ after ∧ Converses G V S test places p v before q u ∧
      Converses G V S test more q u after p' v' := by
  induction places generalizing p v log with
  | nil => exact ⟨[], log, p, v, rfl, .nil, h⟩
  | cons place places ih =>
    cases h with
    | cons hrun htest hrest =>
      obtain ⟨before, after, q, u, rfl, hbefore, hafter⟩ := ih hrest
      exact ⟨_ :: before, after, q, u, rfl, .cons hrun htest hbefore, hafter⟩

theorem mono (h : Converses G V S test places p v log p' v')
    (htest : ∀ place ∈ places, ∀ frame u, test place frame u → test' place frame u) :
    Converses G V S test' places p v log p' v' := by
  induction h with
  | nil => exact .nil
  | cons hrun hthis _ ih =>
    exact .cons hrun (htest _ (List.mem_cons_self ..) _ _ hthis)
      (ih fun place hplace => htest place (List.mem_cons_of_mem _ hplace))

/-- Whatever the tests, the conversation with given places is one. -/
theorem unique (h : Converses G V S test places p v log q u)
    (h' : Converses G V S test' places p v log' q' u') : log' = log ∧ q' = q ∧ u' = u := by
  induction h generalizing log' with
  | nil =>
    cases h'
    exact ⟨rfl, rfl, rfl⟩
  | cons hrun _ _ ih =>
    cases h' with
    | cons hrun' _ hrest' =>
      cases hrun.symm.trans hrun'
      obtain ⟨rfl, hq, hu⟩ := ih hrest'
      exact ⟨rfl, hq, hu⟩

/-- The conversation with the first places begins the conversation with all. -/
theorem log_prefix (h : Converses G V S test places p v log q u)
    (h' : Converses G V S test' (places ++ more) p v log' q' u') : log <+: log' := by
  obtain ⟨before, after, q₁, u₁, rfl, hbefore, -⟩ := h'.append_inv
  rw [(h.unique hbefore).1]
  exact List.prefix_append _ _

/-- Two conversations along one list of places: one begins the other. -/
theorem agree {done done' all : List τ}
    (h : Converses G V S test done p v log q u) (h' : Converses G V S test' done' p v log' q' u')
    (hdone : done <+: all) (hdone' : done' <+: all) : log <+: log' ∨ log' <+: log := by
  rcases List.prefix_or_prefix_of_prefix hdone hdone' with ⟨more, rfl⟩ | ⟨more, rfl⟩
  · exact .inl (h.log_prefix h')
  · exact .inr (h'.log_prefix h)

end Converses

end Conversations

/-! ## The monitor -/

variable {G : Guest π κ ω φ ρ} {I : Interface η ν κ ω} {S : Service τ φ ρ ν}

/-- A handler serves calls that pass the test of its place, and rejects the others. `bad`: what is
left to say about a call that is rejected. -/
def Implements (I : Interface η ν κ ω) (S : Service τ φ ρ ν) (test : τ → φ → ν → Prop)
    (bad : τ → φ → η → η → Prop) (handler : φ → Prog Ending η ρ) (place : τ) : Prop :=
  ∀ frame h, I.Inv h → wp (handler frame)
    (fun r h' => I.Inv h' ∧ test place frame (I.view h) ∧
      r = S.result place frame (I.view h) ∧ I.view h' = S.effect place frame (I.view h))
    (fun e h' => e = .rejected ∧ bad place frame h h') h

/-- Why a monitor stops where the process is in state `p` and the abstract state is `v`. -/
inductive StopsAt (G : Guest π κ ω φ ρ) (I : Interface η ν κ ω)
    (bad : φ → η → η → Prop) (p : π) (v : ν) (host : η) : Ending → Prop
  | never {w : ω} {p' : π} (hrun : G.run p (I.seen v) = (.never, w, p')) (hinv : I.Inv host)
      (hview : I.view host = I.actView w v) : StopsAt G I bad p v host .waiting
  | other {w : ω} {p' : π} (hrun : G.run p (I.seen v) = (.other, w, p')) (hinv : I.Inv host)
      (hview : I.view host = I.actView w v) : StopsAt G I bad p v host .rejected
  | call {w : ω} {p' : π} {frame : φ} {before : η}
      (hrun : G.run p (I.seen v) = (.call frame, w, p')) (hinv : I.Inv before)
      (hview : I.view before = I.actView w v) (hbad : bad frame before host) :
      StopsAt G I bad p v host .rejected

section StopsAt

variable {bad : φ → η → η → Prop} {p p' : π} {v : ν} {host : η} {ending : Ending} {frame : φ}
  {w : ω}

theorem StopsAt.ne_passed (h : StopsAt G I bad p v host ending) : ending ≠ .passed := by
  cases h <;> exact Ending.noConfusion

theorem StopsAt.waiting_iff (h : StopsAt G I bad p v host ending) :
    ending = .waiting ↔ ∃ w p', G.run p (I.seen v) = (.never, w, p') := by
  cases h with
  | never hrun _ _ => exact iff_of_true rfl ⟨_, _, hrun⟩
  | other hrun _ _ =>
    refine iff_of_false Ending.noConfusion ?_
    rintro ⟨w, p', hnever⟩
    cases hrun.symm.trans hnever
  | call hrun _ _ _ =>
    refine iff_of_false Ending.noConfusion ?_
    rintro ⟨w, p', hnever⟩
    cases hrun.symm.trans hnever

/-- The host is as the process has left it, but for the handler that has rejected its call. -/
theorem StopsAt.left (h : StopsAt G I bad p v host ending) :
    ∃ before w, I.Inv before ∧ I.view before = I.actView w v ∧
      (host = before ∨ ∃ frame, bad frame before host) := by
  cases h with
  | never _ hinv hview => exact ⟨host, _, hinv, hview, .inl rfl⟩
  | other _ hinv hview => exact ⟨host, _, hinv, hview, .inl rfl⟩
  | call _ hinv hview hbad => exact ⟨_, _, hinv, hview, .inr ⟨_, hbad⟩⟩

theorem StopsAt.of_call (h : StopsAt G I bad p v host ending)
    (hcall : G.run p (I.seen v) = (.call frame, w, p')) :
    ∃ before, I.Inv before ∧ I.view before = I.actView w v ∧ bad frame before host := by
  cases h with
  | never hrun _ _ => cases hrun.symm.trans hcall
  | other hrun _ _ => cases hrun.symm.trans hcall
  | call hrun hinv hview hbad =>
    cases hrun.symm.trans hcall
    exact ⟨_, hinv, hview, hbad⟩

end StopsAt

/-- The monitor has served a beginning of the conversation. -/
def Stopped (G : Guest π κ ω φ ρ) (I : Interface η ν κ ω) (S : Service τ φ ρ ν)
    (test : τ → φ → ν → Prop) (bad : τ → φ → η → η → Prop) (places : List τ)
    (s : Monitor π η κ φ ρ) (e : Ending) (t : Monitor π η κ φ ρ) : Prop :=
  ∃ done place rest log p v, places = done ++ place :: rest ∧
    Converses G I.toSight S test done s.guest (I.view s.host) log p v ∧ t.log = s.log ++ log ∧
    StopsAt G I (bad place) p v t.host e

/-- The monitor has served the conversation. -/
structure Served (G : Guest π κ ω φ ρ) (I : Interface η ν κ ω) (S : Service τ φ ρ ν)
    (test : τ → φ → ν → Prop) (places : List τ) (s t : Monitor π η κ φ ρ) : Prop where
  inv : I.Inv t.host
  served : ∃ log, Converses G I.toSight S test places s.guest (I.view s.host) log t.guest
    (I.view t.host) ∧ t.log = s.log ++ log

variable {E : Ending → Monitor π η κ φ ρ → Prop} {s : Monitor π η κ φ ρ}

theorem wp_recvTrap {Q : φ → Monitor π η κ φ ρ → Prop} (bad : φ → η → η → Prop)
    (hinv : I.Inv s.host)
    (hcall : ∀ frame w p t, G.run s.guest (I.seen (I.view s.host)) = (.call frame, w, p) →
      t.guest = p → t.log = s.log → I.Inv t.host → I.view t.host = I.actView w (I.view s.host) →
      Q frame t)
    (hstop : ∀ e t, StopsAt G I bad s.guest (I.view s.host) t.host e → t.log = s.log → E e t) :
    wp (recvTrap G I.toPort) Q E s := by
  have hview := fun w => I.view_act w s.host hinv
  have hinv' := fun w => I.inv_act w s.host hinv
  rcases hrun : G.run s.guest (I.seen (I.view s.host)) with ⟨_ | _ | frame, w, p⟩
  · have hrecv : recvTrap G I.toPort s =
        .ret .waiting { s with guest := p, host := I.act w s.host } := by
      simp only [recvTrap, I.look_eq, hrun]
    exact wp_of_retRun hrecv (hstop _ _ (.never hrun (hinv' w) (hview w)) rfl)
  · have hrecv : recvTrap G I.toPort s =
        .ret .rejected { s with guest := p, host := I.act w s.host } := by
      simp only [recvTrap, I.look_eq, hrun]
    exact wp_of_retRun hrecv (hstop _ _ (.other hrun (hinv' w) (hview w)) rfl)
  · have hrecv : recvTrap G I.toPort s =
        .ok frame { s with guest := p, host := I.act w s.host } := by
      simp only [recvTrap, I.look_eq, hrun]
    exact wp_of_run hrecv
      (hcall frame w p _ hrun rfl rfl (hinv' w) (hview w))

theorem wp_onHost {p : Prog Ending η α} {Q : α → Monitor π η κ φ ρ → Prop}
    (h : wp p (fun a host => Q a { s with host }) (fun e host => E e { s with host }) s.host) :
    wp (onHost p) Q E s := by
  unfold wp onHost at *
  cases hp : p s.host with
  | ok a t => rw [hp] at h; exact h
  | ret e t => rw [hp] at h; exact h
  | fault x => rw [hp] at h; exact h

variable {test : τ → φ → ν → Prop} {bad : τ → φ → η → η → Prop}
  {handler : φ → Prog Ending η ρ} {place : τ} {places : List τ}

/-- One call. -/
theorem mediate_wp (himp : Implements I S test bad handler place) (hinv : I.Inv s.host) :
    wp (mediate G I.toPort handler) (fun _ t => Served G I S test [place] s t)
      (fun e t => StopsAt G I (bad place) s.guest (I.view s.host) t.host e ∧ t.log = s.log) s := by
  unfold mediate
  refine wp_bind (wp_recvTrap (bad place) hinv (fun frame w p t hrun hp hlog hinv' hview => ?_)
    fun e t hstop hlog => ⟨hstop, hlog⟩)
  refine wp_bind (wp_onHost (wp_mono (himp frame t.host hinv') ?_ ?_))
  · rintro r host ⟨hinv'', hadmits, rfl, heffect⟩
    refine wp_modify ⟨hinv'', _, ?_, congrArg (· ++ _) hlog⟩
    rw [hview] at hadmits heffect ⊢
    rw [I.look_eq, heffect, hp]
    exact .cons hrun hadmits .nil
  · rintro e host ⟨rfl, hbad⟩
    exact ⟨.call hrun hinv' hview hbad, hlog⟩

theorem Served.trans {t u : Monitor π η κ φ ρ} (h : Served G I S test [place] s t)
    (h' : Served G I S test places t u) : Served G I S test (place :: places) s u := by
  obtain ⟨-, log, hconv, hlog⟩ := h
  obtain ⟨hinv, log', hconv', hlog'⟩ := h'
  exact ⟨hinv, _, hconv.append hconv', by rw [hlog', hlog, List.append_assoc]⟩

/-- **A mediated conversation.** A monitor whose handlers implement the places serves the
conversation of the process with them, or a beginning of it. -/
theorem mediateAll_wp {handlers : List (φ → Prog Ending η ρ)}
    (himp : List.Forall₂ (Implements I S test bad) handlers places) (hinv : I.Inv s.host) :
    wp (mediateAll G I.toPort handlers) (fun _ t => Served G I S test places s t)
      (fun e t => Stopped G I S test bad places s e t) s := by
  induction himp generalizing s with
  | nil => exact wp_pure ⟨hinv, [], .nil, (List.append_nil _).symm⟩
  | @cons handler place handlers places himp _ ih =>
    refine wp_seq (mediate_wp himp hinv) ?_ fun _ t hserved => ?_
    · rintro e t ⟨hstop, hlog⟩
      exact ⟨[], place, places, [], s.guest, I.view s.host, rfl, .nil,
        hlog.trans (List.append_nil _).symm, hstop⟩
    · refine wp_mono (ih hserved.inv) (fun _ u hserved' => hserved.trans hserved') ?_
      rintro e u ⟨done, place', rest, log', p, v, rfl, hconv', hlog', hstop⟩
      obtain ⟨-, log, hconv, hlog⟩ := hserved
      exact ⟨place :: done, place', rest, _, p, v, rfl, hconv.append hconv',
        by rw [hlog', hlog, List.append_assoc], hstop⟩

end CLogic
