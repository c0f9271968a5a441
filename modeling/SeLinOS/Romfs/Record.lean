import SeLinOS.Romfs.Server

/-!
# The volatile record of romfsd

What `romfsd` is for, without its branches: the immutable files, and one record that an open sets to
its initial word, that reads, writes and closes find only while it is open. A state of the record is
`none` (closed) or the word that it holds.

* `Op`, `recordOp`: what a request asks of the record.
* `Op.next`, `Op.reply`: the record afterwards, and the reply.
* `Romfsd.handle`: the server as a function; it is total (`handleRequest_run`).
* `Romfsd.handle_refines`: the server refines the record and its fixed answers for the rest.
-/

namespace SeLinOS.Romfs

open CLogic Prog Sel4

/-- What a request asks of the record. -/
inductive Op where
  | opens
  | reads
  | writes (word : Word)
  | closes
  | other
  deriving Repr, DecidableEq

/-- The requests for the record, by their exact shapes. -/
def recordOp (m : Message) : Op :=
  if m.label ≠ 0 then .other
  else if m.mr 0 = OP_OPEN ∧ m.length = 2 ∧ m.mr 1 = FILE_VOLATILE_STATE then .opens
  else if m.mr 0 = OP_OPEN_PATH ∧ m.length = OPEN_PATH_REQUEST_WORDS ∧ IsStatePath m then .opens
  else if m.mr 0 = OP_READ ∧ m.length = 3 ∧ m.mr 1 = FD_VOLATILE_STATE ∧ m.mr 2 = 0 then .reads
  else if m.mr 0 = OP_WRITE ∧ m.length = 3 ∧ m.mr 1 = FD_VOLATILE_STATE then .writes (m.mr 2)
  else if m.mr 0 = OP_CLOSE ∧ m.length = 2 ∧ m.mr 1 = FD_VOLATILE_STATE then .closes
  else .other

/-- The record after a request. -/
def Op.next : Op → Option Word → Option Word
  | .opens, _ => some VOLATILE_STATE_INITIAL
  | .writes word, some _ => some word
  | .closes, _ => none
  | _, record => record

/-- The reply to a request for the record; `none` for any other request. -/
def Op.reply : Op → Option Word → Option Message
  | .opens, _ => some (replyStatus STATUS_OK FD_VOLATILE_STATE)
  | .reads, some word => some (.ofWords [STATUS_OK, VOLATILE_STATE_LENGTH, word])
  | .writes _, some _ => some (replyStatus STATUS_OK VOLATILE_STATE_LENGTH)
  | .closes, some _ => some (replyStatus STATUS_OK 0)
  | .other, _ => none
  | _, none => some (replyStatus STATUS_EBADF 0)

/-- The record in a state of the server. -/
def Server.record (s : Server) : Option Word :=
  if s.volatileStateOpen then some s.volatileState else none

@[simp] theorem record_boot : Server.boot.record = none := rfl

@[simp] theorem record_open (w : Word) : (Server.mk w true).record = some w := rfl

@[simp] theorem record_closed (w : Word) : (Server.mk w false).record = none := rfl

/-- An operation on the open record is told from the same one on the closed record by its reply. -/
theorem Op.reply_isSome {op : Op} {a b : Option Word} (ho : op ≠ .opens) (hn : op ≠ .other)
    (h : op.reply a = op.reply b) : a.isSome = b.isSome := by
  cases op with
  | opens => exact absurd rfl ho
  | other => exact absurd rfl hn
  | _ =>
    cases a <;> cases b <;>
      simp [Op.reply, replyStatus, STATUS_OK, STATUS_EBADF] at h ⊢

/-- Only an open and a close change whether the record is open. -/
theorem Op.next_isSome {op : Op} (ho : op ≠ .opens) (hc : op ≠ .closes) (a : Option Word) :
    (op.next a).isSome = a.isSome := by
  cases op with
  | opens => exact absurd rfl ho
  | closes => exact absurd rfl hc
  | _ => cases a <;> rfl

/-- Every request for the record has a reply. -/
theorem Op.reply_eq_some {op : Op} (hn : op ≠ .other) (a : Option Word) :
    ∃ reply, op.reply a = some reply := by
  cases op with
  | other => exact absurd rfl hn
  | _ => cases a <;> exact ⟨_, rfl⟩

/-! ## Requests that are not for the record -/

variable {archive : Buf} {request : Message}

/-- The same reply in every state, which stays as it is. -/
def Fixed (p : RomfsM Message) : Prop := ∃ reply, ∀ s, p s = .ok reply s

theorem fixed_pure (reply : Message) : Fixed (pure reply) := ⟨reply, fun _ => rfl⟩

theorem fixed_ite {c : Prop} [Decidable c] {p q : RomfsM Message} (ht : c → Fixed p)
    (hf : ¬ c → Fixed q) : Fixed (if c then p else q) := by
  by_cases hc : c
  · rw [if_pos hc]; exact ht hc
  · rw [if_neg hc]; exact hf hc

/-- A branch that looks at the state before it falls through to a fixed answer. -/
theorem fixed_get {p : Server → RomfsM Message} {q : RomfsM Message} (h : ∀ s, p s = q)
    (hq : Fixed q) : Fixed (Prog.get >>= p) := by
  obtain ⟨reply, hq⟩ := hq
  refine ⟨reply, fun s => ?_⟩
  show p s s = _
  rw [h]
  exact hq s

theorem openFile_fixed (archive : Buf) (file : Option File) : Fixed (openFile archive file) := by
  cases file with
  | none => exact fixed_pure _
  | some file =>
    obtain ⟨r, -, hr⟩ := cpioLookupRegular_run archive file.pathname
    cases r with
    | none => exact ⟨_, fun s => by simp only [openFile, bind_run, hr]; rfl⟩
    | some entry =>
      obtain ⟨reply, hrest⟩ : Fixed (if entry.size ≠ file.expectedDataLength.toNat then
          pure (replyStatus STATUS_ENOENT 0) else pure (replyStatus STATUS_OK file.fd)) :=
        fixed_ite (fun _ => fixed_pure _) fun _ => fixed_pure _
      exact ⟨reply, fun s => by simp only [openFile, bind_run, hr]; exact hrest s⟩

theorem readFile_fixed (archive : Buf) (file : Option File) : Fixed (readFile archive file) := by
  cases file with
  | none => exact fixed_pure _
  | some file =>
    obtain ⟨r, hin, hr⟩ := cpioLookupRegular_run archive file.pathname
    cases r with
    | none => exact ⟨_, fun s => by simp only [readFile, bind_run, hr]; rfl⟩
    | some entry =>
      have hp : ∀ s : Server, (entryPayloadWord archive entry : RomfsM (Option Word)) s =
          .ok (payload archive entry) s := fun s => entryPayloadWord_run (hin entry rfl)
      by_cases hsize : entry.size = file.expectedDataLength.toNat
      · cases hpay : payload archive entry <;>
          exact ⟨_, fun s => by
            simp only [readFile, bind_run, hr, hsize, ne_eq, not_true_eq_false, ↓reduceIte, hp,
              hpay, pure_run]; rfl⟩
      · exact ⟨replyStatus STATUS_EBADF 0, fun s => by
          simp only [readFile, bind_run, hr, hsize, ne_eq, not_false_eq_true, ↓reduceIte, pure_run]⟩

/-- What the shape of a request that is not for the record excludes. -/
theorem recordOp_other (h : recordOp request = .other) (hl : request.label = 0) :
    ¬ (request.mr 0 = OP_OPEN ∧ request.length = 2 ∧ request.mr 1 = FILE_VOLATILE_STATE) ∧
    ¬ (request.mr 0 = OP_OPEN_PATH ∧ request.length = OPEN_PATH_REQUEST_WORDS ∧
      IsStatePath request) ∧
    ¬ (request.mr 0 = OP_READ ∧ request.length = 3 ∧ request.mr 1 = FD_VOLATILE_STATE ∧
      request.mr 2 = 0) ∧
    ¬ (request.mr 0 = OP_WRITE ∧ request.length = 3 ∧ request.mr 1 = FD_VOLATILE_STATE) ∧
    ¬ (request.mr 0 = OP_CLOSE ∧ request.length = 2 ∧ request.mr 1 = FD_VOLATILE_STATE) := by
  unfold recordOp at h
  rw [if_neg (by simp [hl])] at h
  split at h
  · cases h
  split at h
  · cases h
  split at h
  · cases h
  split at h
  · cases h
  split at h
  · cases h
  exact ⟨‹_›, ‹_›, ‹_›, ‹_›, ‹_›⟩

/-- A request that is not for the record gets the same reply in every state, and leaves it. -/
theorem handleRequest_other (archive : Buf) (h : recordOp request = .other) :
    Fixed (handleRequest archive request) := by
  refine fixed_ite (fun _ => fixed_pure _) fun hl => ?_
  have hlabel : request.label = 0 := by
    by_contra hne
    exact hl (.inl hne)
  obtain ⟨hopen, hpath, hread, hwrite, hclose⟩ := recordOp_other h hlabel
  refine fixed_ite (fun h1 => ?_) fun _ => fixed_ite (fun h2 => ?_) fun _ =>
    fixed_ite (fun h3 => ?_) fun _ => fixed_ite (fun h4 => ?_) fun _ =>
    fixed_ite (fun h5 => ?_) fun _ => fixed_pure _
  · refine fixed_ite (fun _ => fixed_pure _) fun hlen => fixed_ite (fun hfile => ?_) fun _ => ?_
    · exact absurd ⟨h1, not_not.mp hlen, hfile⟩ hopen
    · exact openFile_fixed archive _
  · refine fixed_ite (fun hstate => absurd ⟨h2, hstate⟩ hpath) fun _ => ?_
    exact fixed_ite (fun _ => fixed_pure _) fun _ => openFile_fixed archive _
  · refine fixed_get (fun s => if_neg fun hc => hread ⟨h3, hc.1, hc.2.1, hc.2.2.1⟩) ?_
    exact fixed_ite (fun _ => fixed_pure _) fun _ => readFile_fixed archive _
  · refine fixed_get (fun s => if_pos ?_) (fixed_pure _)
    by_contra hc
    simp only [not_or, not_not] at hc
    exact hwrite ⟨h4, hc.1, hc.2.1⟩
  · refine fixed_get (q := if request.length ≠ 2 then pure (replyStatus STATUS_EBADF 0)
      else if (fileByFd (request.mr 1)).isNone then pure (replyStatus STATUS_EBADF 0)
      else pure (replyStatus STATUS_OK 0)) (fun s => ?_) ?_
    · by_cases hlen : request.length ≠ 2
      · rw [if_pos hlen, if_pos hlen]
      · rw [if_neg hlen, if_neg hlen, if_neg fun hfd => hclose ⟨h5, not_not.mp hlen, hfd⟩]
    · exact fixed_ite (fun _ => fixed_pure _) fun _ =>
        fixed_ite (fun _ => fixed_pure _) fun _ => fixed_pure _

/-! ## Requests for the record -/

/-- The part of `recordOp` behind each operation. -/
theorem recordOp_cases (h : recordOp request ≠ .other) : request.label = 0 ∧
    ((recordOp request = .opens ∧ request.mr 0 = OP_OPEN ∧ request.length = 2 ∧
      request.mr 1 = FILE_VOLATILE_STATE) ∨
    (recordOp request = .opens ∧ request.mr 0 = OP_OPEN_PATH ∧
      request.length = OPEN_PATH_REQUEST_WORDS ∧ IsStatePath request) ∨
    (recordOp request = .reads ∧ request.mr 0 = OP_READ ∧ request.length = 3 ∧
      request.mr 1 = FD_VOLATILE_STATE ∧ request.mr 2 = 0) ∨
    (recordOp request = .writes (request.mr 2) ∧ request.mr 0 = OP_WRITE ∧ request.length = 3 ∧
      request.mr 1 = FD_VOLATILE_STATE) ∨
    (recordOp request = .closes ∧ request.mr 0 = OP_CLOSE ∧ request.length = 2 ∧
      request.mr 1 = FD_VOLATILE_STATE)) := by
  unfold recordOp at h ⊢
  split at h
  · exact absurd rfl h
  rename_i hl
  refine ⟨not_not.mp hl, ?_⟩
  rw [if_neg hl]
  split at h
  · rename_i hop
    exact .inl ⟨if_pos hop, hop⟩
  rename_i h1
  rw [if_neg h1]
  split at h
  · rename_i hop
    exact .inr (.inl ⟨if_pos hop, hop⟩)
  rename_i h2
  rw [if_neg h2]
  split at h
  · rename_i hop
    exact .inr (.inr (.inl ⟨if_pos hop, hop⟩))
  rename_i h3
  rw [if_neg h3]
  split at h
  · rename_i hop
    exact .inr (.inr (.inr (.inl ⟨if_pos hop, hop⟩)))
  rename_i h4
  rw [if_neg h4]
  split at h
  · rename_i hop
    exact .inr (.inr (.inr (.inr ⟨if_pos hop, hop⟩)))
  · exact absurd rfl h

/-- A request for the record gets its reply, and leaves the record as the operation does; an error
leaves the whole state. -/
theorem handleRequest_record (archive : Buf) (s : Server) (h : recordOp request ≠ .other) :
    ∃ reply s', handleRequest archive request s = .ok reply s' ∧
      (recordOp request).reply s.record = some reply ∧
      s'.record = (recordOp request).next s.record ∧ (reply.mr 0 ≠ STATUS_OK → s' = s) := by
  obtain ⟨hl, hop⟩ := recordOp_cases h
  obtain ⟨word, isOpen⟩ := s
  have hvalid : ∀ n, request.length = n + 1 → ¬ (request.label ≠ 0 ∨ request.length < 1) := by
    intro n hn
    simp [hl, hn]
  unfold handleRequest
  rcases hop with ⟨hop, h0, hlen, h1⟩ | ⟨hop, h0, hlen, hpath⟩ | ⟨hop, h0, hlen, h1, h2⟩ |
    ⟨hop, h0, hlen, h1⟩ | ⟨hop, h0, hlen, h1⟩ <;> rw [hop, h0]
  · refine ⟨replyStatus STATUS_OK FD_VOLATILE_STATE, ⟨VOLATILE_STATE_INITIAL, true⟩, ?_, rfl, rfl,
        fun he => absurd rfl he⟩
    rw [if_neg (hvalid 1 hlen), if_pos rfl, handleOpen, if_neg (by simp [hlen]), if_pos h1]
    rfl
  · refine ⟨replyStatus STATUS_OK FD_VOLATILE_STATE, ⟨VOLATILE_STATE_INITIAL, true⟩, ?_, rfl, rfl,
        fun he => absurd rfl he⟩
    rw [if_neg (hvalid 3 hlen), if_neg (by decide), if_pos rfl, handleOpenPath,
      if_pos ⟨hlen, hpath⟩]
    rfl
  · rw [if_neg (hvalid 2 hlen), if_neg (by decide), if_neg (by decide), if_pos rfl, handleRead]
    cases isOpen with
    | true =>
      refine ⟨.ofWords [STATUS_OK, VOLATILE_STATE_LENGTH, word], ⟨word, true⟩, ?_, rfl, rfl,
        fun he => absurd rfl he⟩
      rw [bind_run, get_run]
      exact congrFun (if_pos ⟨hlen, h1, h2, rfl⟩) _
    | false =>
      refine ⟨replyStatus STATUS_EBADF 0, ⟨word, false⟩, ?_, rfl, rfl, fun _ => rfl⟩
      have hfile : fileByFd FD_VOLATILE_STATE = none := by decide
      simp only [bind_run, get_run, hlen, h1, h2, hfile, readFile]
      rfl
  · rw [if_neg (hvalid 2 hlen), if_neg (by decide), if_neg (by decide), if_neg (by decide),
      if_pos rfl, handleWrite]
    cases isOpen with
    | true =>
      refine ⟨replyStatus STATUS_OK VOLATILE_STATE_LENGTH, ⟨request.mr 2, true⟩, ?_, rfl, rfl,
        fun he => absurd rfl he⟩
      simp only [bind_run, get_run, hlen, h1]
      rfl
    | false =>
      refine ⟨replyStatus STATUS_EBADF 0, ⟨word, false⟩, ?_, rfl, rfl, fun _ => rfl⟩
      simp only [bind_run, get_run, hlen, h1]
      rfl
  · rw [if_neg (hvalid 1 hlen), if_neg (by decide), if_neg (by decide), if_neg (by decide),
      if_neg (by decide), if_pos rfl, handleClose]
    cases isOpen with
    | true =>
      refine ⟨replyStatus STATUS_OK 0, ⟨word, false⟩, ?_, rfl, rfl,
        fun he => absurd rfl he⟩
      simp only [bind_run, get_run, hlen, h1]
      rfl
    | false =>
      refine ⟨replyStatus STATUS_EBADF 0, ⟨word, false⟩, ?_, rfl, rfl, fun _ => rfl⟩
      simp only [bind_run, get_run, hlen, h1]
      rfl

/-! ## The server as a function -/

/-- Every request is answered. -/
theorem handleRequest_total (archive : Buf) (request : Message) (s : Server) :
    wp (handleRequest archive request) (fun _ _ => True) (fun _ _ => True) s := by
  by_cases h : recordOp request = .other
  · obtain ⟨reply, hr⟩ := handleRequest_other archive h
    exact wp_of_run (hr s) trivial
  · obtain ⟨reply, s', hr, -⟩ := handleRequest_record archive s h
    exact wp_of_run hr trivial

/-- The reply to a request, and the state after it. -/
def Romfsd.handle (d : Romfsd) (request : Message) (s : Server) : Message × Server :=
  (handleRequest d.archive request).eval s (handleRequest_total d.archive request s)

/-- The record, and a fixed answer to any other request. -/
def Romfsd.step (d : Romfsd) (request : Message) (record : Option Word) : Message × Option Word :=
  (((recordOp request).reply record).getD (d.handle request Server.boot).1,
    (recordOp request).next record)

variable {d : Romfsd}

theorem Romfsd.handle_run {s s' : Server} {reply : Message}
    (h : handleRequest d.archive request s = .ok reply s') :
    d.handle request s = (reply, s') := by
  have he := eval_run (h := handleRequest_total d.archive request s)
  rw [h] at he
  cases he
  rfl

/-- The server refines the record and its fixed answers. -/
theorem Romfsd.handle_refines (d : Romfsd) (request : Message) (s : Server) :
    (d.handle request s).1 = (d.step request s.record).1 ∧
      (d.handle request s).2.record = (d.step request s.record).2 := by
  by_cases h : recordOp request = .other
  · obtain ⟨reply, hr⟩ := handleRequest_other d.archive h
    rw [handle_run (hr s)]
    simp [Romfsd.step, h, Op.reply, Op.next, handle_run (hr Server.boot)]
  · obtain ⟨reply, s', hr, hreply, hnext, -⟩ := handleRequest_record d.archive s h
    rw [handle_run hr]
    simp [Romfsd.step, hreply, hnext]

/-- The reply to a request for the record is that of its operation. -/
theorem Romfsd.step_reply (d : Romfsd) (h : recordOp request ≠ .other) (a : Option Word) :
    (recordOp request).reply a = some (d.step request a).1 := by
  obtain ⟨reply, hr⟩ := Op.reply_eq_some h a
  simp [Romfsd.step, hr]

/-- A request that is not for the record is neutral. -/
theorem Romfsd.step_other {a b : Option Word} (h : recordOp request = .other) :
    (d.step request a).1 = (d.step request b).1 ∧ (d.step request a).2 = a := by
  simp [Romfsd.step, h, Op.reply, Op.next]

end SeLinOS.Romfs
