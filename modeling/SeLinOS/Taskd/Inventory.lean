import SeLinOS.Sel4.Loop

/-!
# The fixed inventories of objectd and memd

The loops of `objectd_m1.c` and `memd_m1.c`: one slot, which the first exact request reserves. A
second exact request is refused and ends the loop.

* `serve`: an iteration of the loop.
* `inventory_run`: what the server has answered in every run of every system that it is part of,
  whatever the other threads do.
-/

namespace SeLinOS.Taskd.Inventory

open CLogic Sel4

inductive Service
  | objectd
  | memd
  deriving Repr, DecidableEq

namespace Service

/-- `SELINOS_OBJECTD_M1_RESERVE`, `SELINOS_MEMD_M1_RESERVE_FIXED_PLAN`. -/
def RESERVE : Service → Word
  | objectd => 0x4f424a4d31524553
  | memd => 0x4d454d4d31524553

def RESERVED : Service → Word
  | objectd => 0x4f424a4d31524544
  | memd => 0x4d454d4d31524544

def EBUSY : Service → Word
  | objectd => 0x4f424a4d31425553
  | memd => 0x4d454d4d31425553

def EINVAL : Service → Word
  | objectd => 0x4f424a4d31494e56
  | memd => 0x4d454d4d31494e56

end Service

def SLOT : Word := 1
def ENDPOINT_SLOT : Slot := 8
def PROBE_ENDPOINT_SLOT : Slot := 8

/-- The texts that the servers and their probes print, without their wording. -/
inductive Text
  | malformedRejected
  | slotReserved
  | duplicateRejected
  | proofPassed
  | probeRejected
  | probePassed
  deriving Repr, DecidableEq

/-! ## The loop -/

/-- `request_is_exact_reserve`, `request_is_exact_reserve_fixed_plan`. -/
def ExactReserve (k : Service) (m : Message) : Prop := Exact [k.RESERVE, SLOT] m

instance (k : Service) (m : Message) : Decidable (ExactReserve k m) :=
  inferInstanceAs (Decidable (Exact _ m))

/-- `reply_status`. -/
def replyStatus (status : Word) : Todo Text := .reply (.ofWords [status]) none

/-- One iteration of the loop of `main`; `reserved` is its local. -/
def serve (k : Service) (m : Message) (reserved : Bool) : Loop Bool Text :=
  if ¬ ExactReserve k m then ⟨some reserved, [replyStatus k.EINVAL, .print .malformedRejected]⟩
  else if ¬ reserved then ⟨some true, [replyStatus k.RESERVED, .print .slotReserved]⟩
  else ⟨none, [replyStatus k.EBUSY, .print .duplicateRejected, .print .proofPassed]⟩

/-! ## What it answers -/

/-- The statuses that have been replied. -/
def statuses (os : List (Output Text)) : List Word :=
  os.filterMap fun
    | .reply m => some (m.mr 0)
    | .print _ => none

/-- The number of exact requests. -/
def exacts (k : Service) (ms : List Message) : Nat := ms.countP fun m => decide (ExactReserve k m)

/-- The status for a request after the requests `before`. -/
def status (k : Service) (before : List Message) (m : Message) : Word :=
  if ¬ ExactReserve k m then k.EINVAL
  else if exacts k before = 0 then k.RESERVED
  else k.EBUSY

/-- What an inventory has answered: a status for each request, in their order, until the second
exact request; that one is the last. -/
structure Answers (k : Service) (ms : List Message) (answered : List Word) : Prop where
  status : ∀ n st, answered[n]? = some st → ∃ m, ms[n]? = some m ∧ st = status k (ms.take n) m
  last : ∀ n, exacts k (ms.take n) = 2 → answered.length ≤ n

/-- The statuses for the messages from a state of the loop. -/
def answers (k : Service) : Bool → List Message → List Word
  | _, [] => []
  | reserved, m :: ms =>
    if ¬ ExactReserve k m then k.EINVAL :: answers k reserved ms
    else if ¬ reserved then k.RESERVED :: answers k true ms
    else [k.EBUSY]

theorem statuses_append (os os' : List (Output Text)) :
    statuses (os ++ os') = statuses os ++ statuses os' :=
  List.filterMap_append

/-- After the loop, nothing is put out. -/
theorem serve_none (k : Service) (os : List (Output Text)) (ms : List Message) :
    ms.foldl (Loop.serve (serve k)) (os, none) = (os, none) := by
  induction ms with
  | nil => rfl
  | cons m ms ih => exact ih

theorem statuses_foldl (k : Service) (ms : List Message) (os : List (Output Text))
    (reserved : Bool) : statuses (ms.foldl (Loop.serve (serve k)) (os, some reserved)).1 =
      statuses os ++ answers k reserved ms := by
  induction ms generalizing os reserved with
  | nil => simp [answers]
  | cons m ms ih =>
    simp only [List.foldl_cons, answers, Loop.serve, serve]
    split
    · rw [ih, statuses_append, List.append_assoc]
      rfl
    · split
      · rw [ih, statuses_append, List.append_assoc]
        rfl
      · rw [serve_none, statuses_append]
        rfl

theorem exacts_cons (k : Service) (m : Message) (ms : List Message) :
    exacts k (m :: ms) = exacts k ms + if ExactReserve k m then 1 else 0 := by
  simp [exacts, List.countP_cons]

theorem answers_status {k : Service} {reserved : Bool} {ms : List Message} {n : Nat} {st : Word}
    (h : (answers k reserved ms)[n]? = some st) : ∃ m, ms[n]? = some m ∧
      st = if ¬ ExactReserve k m then k.EINVAL
        else if exacts k (ms.take n) + reserved.toNat = 0 then k.RESERVED else k.EBUSY := by
  induction ms generalizing reserved n with
  | nil => cases h
  | cons m ms ih =>
    unfold answers at h
    split at h
    · rename_i hexact
      cases n with
      | zero => exact ⟨m, rfl, by rw [if_pos hexact]; exact (Option.some.inj h).symm⟩
      | succ n =>
        obtain ⟨m', hm, hst⟩ := ih h
        rw [List.take_succ_cons, exacts_cons, if_neg hexact]
        exact ⟨m', hm, hst⟩
    · rename_i hexact
      split at h
      · rename_i hreserved
        obtain rfl : reserved = false := by simpa using hreserved
        cases n with
        | zero => exact ⟨m, rfl, by rw [if_neg hexact]; exact (Option.some.inj h).symm⟩
        | succ n =>
          obtain ⟨m', hm, hst⟩ := ih h
          rw [List.take_succ_cons, exacts_cons, if_pos (not_not.mp hexact)]
          exact ⟨m', hm, hst⟩
      · rename_i hreserved
        obtain rfl : reserved = true := by simpa using hreserved
        cases n with
        | zero => exact ⟨m, rfl, by rw [if_neg hexact]; exact (Option.some.inj h).symm⟩
        | succ n => cases h

theorem answers_last {k : Service} {reserved : Bool} {ms : List Message} {n : Nat}
    (h : exacts k (ms.take n) + reserved.toNat = 2) : (answers k reserved ms).length ≤ n := by
  induction ms generalizing reserved n with
  | nil => exact Nat.zero_le n
  | cons m ms ih =>
    cases n with
    | zero => cases reserved <;> cases h
    | succ n =>
      rw [List.take_succ_cons, exacts_cons] at h
      unfold answers
      split
      · rename_i hexact
        rw [if_neg hexact] at h
        exact Nat.succ_le_succ (ih h)
      · rename_i hexact
        rw [if_pos (not_not.mp hexact)] at h
        split
        · rename_i hreserved
          obtain rfl : reserved = false := by simpa using hreserved
          exact Nat.succ_le_succ (ih h)
        · exact Nat.le_add_left 1 n

variable {ι ν : Type} {S : ι → Type} [DecidableEq ι] [DecidableEq ν]

/-- **The inventories**: in every run of every system in which thread `i` is the server, each
message that reaches it gets the status for its place, up to the second exact request. -/
theorem inventory_run {b : System ι ν Text S} {k : Service} {i : ι} {g : S i → Loop Bool Text}
    {s₀ s : ∀ x, Component ι ν S x} {es : List (Event ι ν Text)}
    (hact : ∀ s, (b.act i s).map g = (g s).act ENDPOINT_SLOT (serve k))
    (hstart : g (s₀ (.thread i)).code = .enter false) (h : Run (net b).Step s₀ es s) :
    Answers k (requests i es) (statuses (outputs i es)) := by
  have hrun := Loop.outputs_run hact h hstart
  have hproduced : answers k false (requests i es) =
      statuses (outputs i es) ++ statuses (g (s (.thread i)).code).outputsLeft := by
    rw [← statuses_append]
    exact (statuses_foldl k (requests i es) [] false).symm.trans
      (congrArg (fun p => statuses p.1) hrun)
  refine ⟨fun n st hst => ?_, fun n hn => ?_⟩
  · obtain ⟨hlt, -⟩ := List.getElem?_eq_some_iff.mp hst
    refine @answers_status _ false _ n _ ?_
    rw [hproduced, List.getElem?_append_left hlt, hst]
  · have hlast := @answers_last _ false _ _ hn
    rw [hproduced, List.length_append] at hlast
    omega

end SeLinOS.Taskd.Inventory
