import SeLinOS.Romfs.Record
import SeLinOS.CLogic.Serve

/-!
# The volatile record as a register

What the messages and replies of romfsd tell of its volatile record, for every sequence of messages.

* `Accepted`, `OpenOrClose`: exchanges of the record, by the message and the status of the reply.
* `OpenSince es since`: the record is open after `es`, and `since` is what followed its last open.
* `lastWritten since`: the word of the last accepted write of these.
* `Guarded`, `Romfsd.register_guarded`: the replies are those of a register.
-/

namespace SeLinOS.Romfs

open CLogic Sel4

/-- An exchange with romfsd. -/
abbrev Call : Type := Exchange Message Message

/-- The reply has the status `OK`. -/
def Accepted (x : Call) : Prop := x.reply.mr 0 = STATUS_OK

instance (x : Call) : Decidable (Accepted x) := inferInstanceAs (Decidable (_ = _))

/-- An accepted open of the record. -/
def AcceptedOpen (x : Call) : Prop := recordOp x.request = .opens ∧ Accepted x

instance (x : Call) : Decidable (AcceptedOpen x) := inferInstanceAs (Decidable (_ ∧ _))

/-- An accepted close of the record. -/
def AcceptedClose (x : Call) : Prop := recordOp x.request = .closes ∧ Accepted x

instance (x : Call) : Decidable (AcceptedClose x) := inferInstanceAs (Decidable (_ ∧ _))

/-- The word of an accepted write of the record. -/
def acceptedWrite (x : Call) : Option Word :=
  match recordOp x.request with
  | .writes word => if Accepted x then some word else none
  | _ => none

/-- The last accepted open or close of the record in `es` is an open, and `since` follows it. -/
def OpenSince (es since : List Call) : Prop :=
  ∃ x, Since AcceptedOpen (fun y => AcceptedOpen y ∨ AcceptedClose y) es x since

/-- The word of the last accepted write, or the initial word if there is none. -/
def lastWritten (since : List Call) : Word :=
  (since.filterMap acceptedWrite).getLast?.getD VOLATILE_STATE_INITIAL

/-- The replies of a register: a READ, WRITE or CLOSE of the record is accepted exactly when the
last accepted open or close before it was an open, and a READ returns the word written last
since. -/
def Guarded (es : List Call) : Prop :=
  ∀ before x, before ++ [x] <+: es → recordOp x.request ≠ .opens → recordOp x.request ≠ .other →
    (Accepted x ↔ ∃ since, OpenSince before since) ∧
    (recordOp x.request = .reads → ∀ since, OpenSince before since →
      x.reply = .ofWords [STATUS_OK, VOLATILE_STATE_LENGTH, lastWritten since])

/-! ## One more exchange -/

variable {es since : List Call} {x : Call}

theorem openSince_snoc : OpenSince (es ++ [x]) since ↔ (since = [] ∧ AcceptedOpen x) ∨
    (¬ AcceptedOpen x ∧ ¬ AcceptedClose x ∧
      ∃ earlier, OpenSince es earlier ∧ since = earlier ++ [x]) := by
  simp only [OpenSince, Since.snoc_iff, not_or]
  constructor
  · rintro ⟨y, ⟨hopen, -, rfl⟩ | ⟨⟨ho, hc⟩, earlier, hs, rfl⟩⟩
    · exact .inl ⟨rfl, hopen⟩
    · exact .inr ⟨ho, hc, earlier, ⟨y, hs⟩, rfl⟩
  · rintro (⟨rfl, hopen⟩ | ⟨ho, hc, earlier, ⟨y, hs⟩, rfl⟩)
    · exact ⟨x, .inl ⟨hopen, rfl, rfl⟩⟩
    · exact ⟨y, .inr ⟨⟨ho, hc⟩, earlier, hs, rfl⟩⟩

theorem lastWritten_snoc (since : List Call) (x : Call) :
    lastWritten (since ++ [x]) = (acceptedWrite x).getD (lastWritten since) := by
  cases h : acceptedWrite x with
  | none => simp [lastWritten, List.filterMap_append, h]
  | some word => simp [lastWritten, List.filterMap_append, h]

/-! ## The register -/

/-- The record after `es`: closed, or open with the word last written. -/
def Holds (es : List Call) : Option Word → Prop
  | none => ∀ since, ¬ OpenSince es since
  | some word =>
    (∃ since, OpenSince es since) ∧ ∀ since, OpenSince es since → word = lastWritten since

theorem Holds.isSome_iff {record : Option Word} (h : Holds es record) :
    record.isSome ↔ ∃ since, OpenSince es since := by
  cases record with
  | none => simpa [Holds] using h
  | some word => simpa using h.1

/-- A request for the record is accepted when it opens it, or finds it open. -/
theorem Op.accepted_iff {op : Op} {record : Option Word} {reply : Message}
    (h : op.reply record = some reply) :
    reply.mr 0 = STATUS_OK ↔ op = .opens ∨ record.isSome := by
  cases op <;> cases record <;> simp only [Op.reply, Option.some.injEq, reduceCtorEq] at h <;>
    subst h <;> simp [replyStatus, Message.mr, STATUS_OK, STATUS_EBADF]

/-- An exchange that neither opens nor closes the record. -/
theorem Holds.neutral {record : Option Word} (h : Holds es record) (ho : ¬ AcceptedOpen x)
    (hc : ¬ AcceptedClose x) :
    Holds (es ++ [x]) (record.map fun word => (acceptedWrite x).getD word) := by
  cases record with
  | none =>
    intro since hs
    rcases openSince_snoc.mp hs with ⟨-, hopen⟩ | ⟨-, -, earlier, hs, -⟩
    · exact ho hopen
    · exact h earlier hs
  | some word =>
    obtain ⟨⟨since, hs⟩, hword⟩ := h
    refine ⟨⟨since ++ [x], openSince_snoc.mpr (.inr ⟨ho, hc, since, hs, rfl⟩)⟩, fun later hl => ?_⟩
    rcases openSince_snoc.mp hl with ⟨-, hopen⟩ | ⟨-, -, earlier, he, rfl⟩
    · exact absurd hopen ho
    · rw [lastWritten_snoc, hword earlier he]

/-- An exchange of the record leaves the register as its operation does. -/
theorem Holds.snoc {record : Option Word} (h : Holds es record)
    (hreply : (recordOp x.request).reply record = some x.reply) :
    Holds (es ++ [x]) ((recordOp x.request).next record) := by
  have haccepted : Accepted x ↔ recordOp x.request = .opens ∨ record.isSome :=
    Op.accepted_iff hreply
  cases hop : recordOp x.request with
  | opens =>
    have hopen : AcceptedOpen x := ⟨hop, haccepted.mpr (.inl hop)⟩
    refine ⟨⟨[], openSince_snoc.mpr (.inl ⟨rfl, hopen⟩)⟩, fun since hs => ?_⟩
    rcases openSince_snoc.mp hs with ⟨rfl, -⟩ | ⟨hn, -⟩
    · rfl
    · exact absurd hopen hn
  | closes =>
    intro since hs
    rcases openSince_snoc.mp hs with ⟨-, hopen⟩ | ⟨-, hc, earlier, he, -⟩
    · simp [AcceptedOpen, hop] at hopen
    · exact hc ⟨hop, haccepted.mpr (.inr (h.isSome_iff.mpr ⟨earlier, he⟩))⟩
  | reads =>
    have hn := h.neutral (x := x) (by simp [AcceptedOpen, hop]) (by simp [AcceptedClose, hop])
    cases record <;> simpa [acceptedWrite, hop, Op.next] using hn
  | writes word =>
    have hn := h.neutral (x := x) (by simp [AcceptedOpen, hop]) (by simp [AcceptedClose, hop])
    cases record with
    | none => exact hn
    | some old =>
      have hx : Accepted x := haccepted.mpr (.inr rfl)
      simpa [acceptedWrite, hop, hx, Op.next] using hn
  | other => simp [hop, Op.reply] at hreply

/-! ## The server -/

variable {d : Romfsd}

/-- The server's record is the register. -/
theorem Romfsd.holds_step {s : Server} (h : Holds es s.record) (request : Message) :
    Holds (es ++ [⟨request, (d.handle request s).1⟩]) (d.handle request s).2.record := by
  obtain ⟨hreply, hrecord⟩ := d.handle_refines request s
  rw [hrecord]
  by_cases hop : recordOp request = .other
  · have hn := h.neutral (x := ⟨request, (d.handle request s).1⟩) (by simp [AcceptedOpen, hop])
      (by simp [AcceptedClose, hop])
    simpa [acceptedWrite, hop, Romfsd.step, Op.next] using hn
  · refine h.snoc (x := ⟨request, (d.handle request s).1⟩) ?_
    rw [hreply]
    exact d.step_reply hop _

theorem Romfsd.holds_run {s : Server} (h : Run (Serve d.handle) Server.boot es s) :
    Holds es s.record :=
  Serve.history (I := fun es (s : Server) => Holds es s.record)
    (fun _ _ request ht => holds_step ht request) h fun _ ⟨_, hs⟩ => Since.not_nil hs

/-- A request with an error leaves the state. -/
theorem Romfsd.refused_unchanged (d : Romfsd) (request : Message) (s : Server)
    (h : (d.handle request s).1.mr 0 ≠ STATUS_OK) : (d.handle request s).2 = s := by
  by_cases hop : recordOp request = .other
  · obtain ⟨reply, hr⟩ := handleRequest_other d.archive hop
    rw [handle_run (hr s)]
  · obtain ⟨reply, s', hr, -, -, hkeep⟩ := handleRequest_record d.archive s hop
    rw [handle_run hr] at h ⊢
    exact hkeep h

/-- **The volatile record is a register** that an open and a close guard, for every sequence of
messages, and a message that is answered with an error changes nothing. -/
theorem Romfsd.register_guarded (d : Romfsd) {s : Server}
    (h : Run (Serve d.handle) Server.boot es s) :
    Guarded es ∧
      ∀ request, (d.handle request s).1.mr 0 ≠ STATUS_OK → (d.handle request s).2 = s := by
  refine ⟨fun before x hp ho hn => ?_, fun request he => d.refused_unchanged request s he⟩
  obtain ⟨t, hb, hx⟩ := Serve.at_label h hp
  have hholds := holds_run hb
  have hreply : (recordOp x.request).reply t.record = some x.reply := by
    rw [← hx, (d.handle_refines x.request t).1]
    exact d.step_reply hn _
  constructor
  · rw [← hholds.isSome_iff, Accepted, Op.accepted_iff hreply]
    exact or_iff_right ho
  · intro hread since hs
    rw [hread] at hreply
    cases hrecord : t.record with
    | none =>
      rw [hrecord] at hholds
      exact absurd hs (hholds since)
    | some word =>
      rw [hrecord] at hholds hreply
      rw [← hholds.2 since hs]
      exact (Option.some.inj hreply).symm

/-- The record before its open, with a word written, and after its close. -/
theorem Romfsd.register_guarded_script : Guarded (serveAll Romfsd.image.handle Server.boot
    [.ofWords [OP_READ, FD_VOLATILE_STATE, 0], .ofWords [OP_OPEN, FILE_VOLATILE_STATE],
      .ofWords [OP_WRITE, FD_VOLATILE_STATE, VOLATILE_STATE_TEST],
      .ofWords [OP_READ, FD_VOLATILE_STATE, 0], .ofWords [OP_CLOSE, FD_VOLATILE_STATE],
      .ofWords [OP_WRITE, FD_VOLATILE_STATE, 1]]).1 :=
  (Romfsd.register_guarded Romfsd.image (Serve.run_serveAll _ _ _)).1

end SeLinOS.Romfs
