import SeLinOS.CLogic.Run

/-!
# Servers that answer every request

A server takes a request and its state to a reply and its next state. Its runs are labelled with
exchanges, requests with their replies, so the labels of a run are what the clients of the server
sent and saw.

* `Serve handle`: the steps; `serveAll` computes the run of a list of requests.
* `Serve.history`: an invariant of the state and the exchanges so far.
-/

namespace CLogic

variable {σ ρ θ : Type}

/-- A request and its reply. -/
structure Exchange (ρ θ : Type) where
  request : ρ
  reply : θ
  deriving Repr, DecidableEq

/-- The requests up to one of them are those of the exchanges up to one. -/
theorem Exchange.of_requests {es : List (Exchange ρ θ)} {requests : List ρ} {request : ρ}
    (h : requests ++ [request] <+: es.map (·.request)) :
    ∃ before x, before.map (·.request) = requests ∧ x.request = request ∧
      before ++ [x] <+: es := by
  obtain ⟨after, he⟩ := h
  obtain ⟨upto, es₂, rfl, hupto, -⟩ := List.map_eq_append_iff.mp he.symm
  obtain ⟨before, last, rfl, hbefore, hlast⟩ := List.map_eq_append_iff.mp hupto
  obtain ⟨x, rfl, hx⟩ := List.map_eq_singleton_iff.mp hlast
  exact ⟨before, x, hbefore, hx, List.prefix_append _ _⟩

/-- The steps of a server. -/
def Serve (handle : ρ → σ → θ × σ) (s : σ) (x : Exchange ρ θ) (s' : σ) : Prop :=
  handle x.request s = (x.reply, s')

/-- The exchanges for the requests, and the state after them. -/
def serveAll (handle : ρ → σ → θ × σ) : σ → List ρ → List (Exchange ρ θ) × σ
  | s, [] => ([], s)
  | s, request :: rest =>
    let (reply, s') := handle request s
    let (exchanges, s'') := serveAll handle s' rest
    (⟨request, reply⟩ :: exchanges, s'')

namespace Serve

variable {handle : ρ → σ → θ × σ} {s s' : σ} {es : List (Exchange ρ θ)}

theorem run_serveAll (handle : ρ → σ → θ × σ) (s : σ) (requests : List ρ) :
    Run (Serve handle) s (serveAll handle s requests).1 (serveAll handle s requests).2 := by
  induction requests generalizing s with
  | nil => exact .nil
  | cons request rest ih => exact .cons rfl (ih _)

/-- An invariant of the state and the exchanges so far, by requests. -/
theorem history {I : List (Exchange ρ θ) → σ → Prop}
    (hstep : ∀ es s request, I es s →
      I (es ++ [⟨request, (handle request s).1⟩]) (handle request s).2)
    (h : Run (Serve handle) s es s') (hs : I [] s) : I es s' := by
  refine h.history (fun before t x t' hb hx => ?_) hs
  have := hstep before t x.request hb
  rwa [show handle x.request t = (x.reply, t') from hx] at this

/-- The exchange at a place of the run, with the state that the server has there. -/
theorem at_label {before : List (Exchange ρ θ)} {x : Exchange ρ θ}
    (h : Run (Serve handle) s es s') (hp : before ++ [x] <+: es) :
    ∃ t, Run (Serve handle) s before t ∧ (handle x.request t).1 = x.reply := by
  obtain ⟨t, t', hb, hx⟩ := h.at_label hp
  exact ⟨t, hb, by rw [show handle x.request t = (x.reply, t') from hx]⟩

end Serve

end CLogic
