import SeLinOS.CLogic.Interleave
import SeLinOS.Romfs.Record

/-!
# The two clients of romfsd

The image starts two clients on the endpoint of `romfsd` (`start_romfs_bundle`): the probe
(`drivers/romfs_probe.c`) and the syscall gateway of the root task (`run_linux_syscall_abi_probe` in
`domain_manager.c`). Each makes its calls in a fixed order and gives up at the first reply that it
does not expect. Both use the one volatile record.

* `script`: the calls of a client, with the checks of the replies.
* `Romfsd.replies`: the replies to a client under a schedule of the calls of both.
* `Apart`: no client asks for the record while the other one has it open.
* `replies_alone_iff`: under a schedule of all calls, the clients get the replies that they get
  alone exactly when it keeps them apart; `probe_sees_gateway` is a schedule that does not.
-/

namespace SeLinOS.Romfs

open CLogic Sel4

/-! ## The calls -/

/-- The message of `call_romfs` and of `call_romfs_root`. -/
def callRomfs (operation first second : Word) (length : Nat) : Message :=
  .ofWords ([operation, first, second].take length)

/-- The message of `call_romfs_open_path` and of `call_romfs_root_open_path`. -/
def callRomfsOpenPath (byteLength firstWord secondWord : Word) : Message :=
  .ofWords [OP_OPEN_PATH, byteLength, firstWord, secondWord]

/-- `reply_is` of the probe. -/
def replyIs (status value : Word) (reply : Message) : Bool :=
  reply.label == 0 && decide (reply.length ≥ 2) && reply.mr 0 == status && reply.mr 1 == value

/-- The check of the probe after a read. -/
def replyReads (length payload : Word) (reply : Message) : Bool :=
  replyIs STATUS_OK length reply && reply.length == 3 && reply.mr 2 == payload

/-- `*status`, `*value` and `*payload` after `call_romfs_root` or `call_romfs_root_open_path`, or
`none` where it returns false. -/
def rootReply (reply : Message) : Option (Word × Word × Word) :=
  if reply.label ≠ 0 ∨ reply.length < 2 then none
  else some (reply.mr 0, reply.mr 1, if reply.length > 2 then reply.mr 2 else 0)

/-- The check of the gateway after an open, a write or a close. -/
def rootReplyIs (status value : Word) (reply : Message) : Bool :=
  (rootReply reply).any fun (s, v, _) => s == status && v == value

/-- The check of the gateway after a read. -/
def rootReplyReads (length payload : Word) (reply : Message) : Bool :=
  (rootReply reply).any fun (s, v, p) => s == STATUS_OK && v == length && p == payload

/-- `"/selinos-state"` as `OPEN_PATH` words. -/
def openState : Message := callRomfsOpenPath 14 0x2f73656c696e6f73 0x2d73746174650000

def readState : Message := callRomfs OP_READ FD_VOLATILE_STATE 0 3

def writeState (word : Word) : Message := callRomfs OP_WRITE FD_VOLATILE_STATE word 3

def closeState : Message := callRomfs OP_CLOSE FD_VOLATILE_STATE 0 2

/-- The calls of `main` of the probe. -/
def probeScript : List (Call Message Message) :=
  [⟨callRomfs OP_OPEN FILE_RELEASE 0 2, replyIs STATUS_OK FD_RELEASE⟩,
   ⟨callRomfs OP_READ FD_RELEASE 0 3, replyReads RELEASE_LENGTH RELEASE_MAGIC⟩,
   ⟨callRomfs OP_READ 99 0 3, replyIs STATUS_EBADF 0⟩,
   ⟨callRomfs OP_CLOSE FD_RELEASE 0 2, replyIs STATUS_OK 0⟩,
   ⟨callRomfsOpenPath 15 0x2f73656c696e6f73 0x2d62616e6e657200, replyIs STATUS_OK FD_BANNER⟩,
   ⟨callRomfs OP_READ FD_BANNER 0 3, replyReads BANNER_LENGTH BANNER_MAGIC⟩,
   ⟨callRomfs OP_CLOSE FD_BANNER 0 2, replyIs STATUS_OK 0⟩,
   ⟨openState, replyIs STATUS_OK FD_VOLATILE_STATE⟩,
   ⟨readState, replyReads VOLATILE_STATE_LENGTH VOLATILE_STATE_INITIAL⟩,
   -- the malformed write: two words
   ⟨callRomfs OP_WRITE FD_VOLATILE_STATE 0 2, replyIs STATUS_EBADF 0⟩,
   ⟨readState, replyReads VOLATILE_STATE_LENGTH VOLATILE_STATE_INITIAL⟩,
   ⟨writeState VOLATILE_STATE_TEST, replyIs STATUS_OK VOLATILE_STATE_LENGTH⟩,
   ⟨readState, replyReads VOLATILE_STATE_LENGTH VOLATILE_STATE_TEST⟩,
   ⟨closeState, replyIs STATUS_OK 0⟩,
   ⟨writeState VOLATILE_STATE_INITIAL, replyIs STATUS_EBADF 0⟩]

/-- The calls of `run_linux_syscall_abi_probe` to `romfsd`. The write has passed the test against
`SELINOS_ROMFS_VOLATILE_STATE_TEST`. -/
def gatewayScript : List (Call Message Message) :=
  [⟨callRomfs OP_OPEN FILE_RELEASE 0 2, rootReplyIs STATUS_OK FD_RELEASE⟩,
   ⟨callRomfs OP_READ FD_RELEASE 0 3, rootReplyReads RELEASE_LENGTH RELEASE_MAGIC⟩,
   ⟨callRomfs OP_CLOSE FD_RELEASE 0 2, rootReplyIs STATUS_OK 0⟩,
   ⟨callRomfs OP_OPEN FILE_VERSION 0 2, rootReplyIs STATUS_OK FD_VERSION⟩,
   ⟨callRomfs OP_READ FD_VERSION 0 3, rootReplyReads VERSION_LENGTH VERSION_MAGIC⟩,
   ⟨callRomfs OP_CLOSE FD_VERSION 0 2, rootReplyIs STATUS_OK 0⟩,
   ⟨openState, rootReplyIs STATUS_OK FD_VOLATILE_STATE⟩,
   -- pread64, then read
   ⟨readState, rootReplyReads VOLATILE_STATE_LENGTH VOLATILE_STATE_INITIAL⟩,
   ⟨readState, rootReplyReads VOLATILE_STATE_LENGTH VOLATILE_STATE_INITIAL⟩,
   ⟨writeState VOLATILE_STATE_TEST, rootReplyIs STATUS_OK VOLATILE_STATE_LENGTH⟩,
   ⟨readState, rootReplyReads VOLATILE_STATE_LENGTH VOLATILE_STATE_TEST⟩,
   ⟨closeState, rootReplyIs STATUS_OK 0⟩,
   ⟨writeState VOLATILE_STATE_TEST, fun reply => (rootReply reply).any (·.1 == STATUS_EBADF)⟩]

/-- The two clients. -/
inductive Party where
  | probe | gateway
  deriving Repr, DecidableEq

def Party.other : Party → Party
  | probe => gateway
  | gateway => probe

def script : Party → List (Call Message Message)
  | .probe => probeScript
  | .gateway => gatewayScript

/-! ## Schedules -/

/-- The server and its clients after a schedule, from boot. -/
def Romfsd.serve (d : Romfsd) (turns : List Party) : System Party Server Message Message :=
  (System.start Server.boot script).serve d.handle turns

/-- The replies to client `c` under a schedule. -/
def Romfsd.replies (d : Romfsd) (turns : List Party) (c : Party) : List Message :=
  ((d.serve turns).client c).replies

/-- Every client makes all its calls: the schedule is an interleaving of the two scripts. -/
def Complete (turns : List Party) : Prop := ∀ c, turns.count c = (script c).length

/-- What the first `n` calls of client `c` leave in the record. -/
def recordAfter (c : Party) (n : Nat) : Option Word :=
  ((script c).take n).foldl (fun record call => (recordOp call.request).next record) none

/-- No client asks for the record while the other one has it open. -/
def Apart (turns : List Party) : Prop :=
  ∀ before c call, before ++ [c] <+: turns → (script c)[before.count c]? = some call →
    recordOp call.request ≠ .other → recordAfter c.other (before.count c.other) = none

/-- Turn `k` of the schedule keeps the clients apart. -/
def apartAt (turns : List Party) (k : Nat) : Bool :=
  turns[k]?.all fun c => (script c)[(turns.take k).count c]?.all fun call =>
    recordOp call.request == .other || (recordAfter c.other ((turns.take k).count c.other)).isNone

theorem apart_iff_apartAt {turns : List Party} :
    (∀ k < turns.length, apartAt turns k) ↔ Apart turns := by
  refine ⟨fun h before c call hp hc ht => ?_, fun h k hk => ?_⟩
  · obtain ⟨rest, rfl⟩ := hp
    have hk := h before.length (by simp)
    simp only [apartAt, List.append_assoc, List.getElem?_append_right (Nat.le_refl _), Nat.sub_self,
      List.singleton_append, List.getElem?_cons_zero, List.take_left', Option.all_some, hc] at hk
    simpa [ht] using hk
  · have hp : turns.take k ++ [turns[k]] <+: turns := by
      rw [← List.take_succ_eq_append_getElem hk]
      exact List.take_prefix _ _
    simp only [apartAt, List.getElem?_eq_getElem hk, Option.all_some]
    cases hc : (script turns[k])[(turns.take k).count turns[k]]? with
    | none => rfl
    | some call =>
      by_cases ht : recordOp call.request = .other
      · simp [ht]
      · simp [h _ _ call hp hc ht]

instance (turns : List Party) : Decidable (Apart turns) := decidable_of_iff _ apart_iff_apartAt

/-! ## The scripts -/

/-- The place of the call that opens the record. -/
def openAt : Party → Nat
  | .probe => 7
  | .gateway => 6

/-- The record operations of a client. -/
def ops (c : Party) : List Op := (script c).map fun call => recordOp call.request

theorem ops_opens (c : Party) : ∀ n < (ops c).length, (ops c)[n]? = some .opens → n = openAt c := by
  cases c <;> decide

theorem opens_once {c : Party} {n : Nat} {call : Call Message Message}
    (h : (script c)[n]? = some call) (hop : recordOp call.request = .opens) : n = openAt c := by
  have hget : (ops c)[n]? = some .opens := by rw [ops, List.getElem?_map, h, Option.map_some, hop]
  exact ops_opens c n (List.getElem?_eq_some_iff.mp hget).1 hget

theorem recordAfter_before (c : Party) : ∀ n ≤ openAt c, recordAfter c n = none := by
  cases c <;> decide

/-- A client that has the record open has made the call that opens it. -/
theorem openAt_lt {c : Party} {n : Nat} (h : (recordAfter c n).isSome) : openAt c < n := by
  by_contra hle
  rw [recordAfter_before c n (by omega)] at h
  cases h

/-- Every client closes the record. -/
theorem recordAfter_end (c : Party) : recordAfter c (script c).length = none := by
  cases c <;> decide

variable {d : Romfsd}

theorem recordAfter_succ {c : Party} {n : Nat} {call : Call Message Message}
    (h : (script c)[n]? = some call) :
    recordAfter c (n + 1) = (recordOp call.request).next (recordAfter c n) := by
  simp [recordAfter, List.take_add_one, h]

theorem recordAfter_succ_none {c : Party} {n : Nat} (h : (script c)[n]? = none) :
    recordAfter c (n + 1) = recordAfter c n := by
  simp [recordAfter, List.take_add_one, h]

/-! ## The replies that the clients expect -/

/-- What the self check gives for a file: the lookup finds it, with its length and its payload. -/
theorem fileSelfCheck_true {archive : Buf} {pathname : CStr} {length magic : Word}
    (h : fileSelfCheck archive pathname length magic () = .ok true ()) :
    ∃ entry : Entry, entry.size = length.toNat ∧ payload archive entry = some magic ∧
      entry.data + entry.size ≤ archive.size ∧ ∀ {ε σ : Type} (s : σ),
        (cpioLookupRegular archive pathname : Prog ε σ (Option Entry)) s = .ok (some entry) s := by
  obtain ⟨r, hin, hr⟩ := cpioLookupRegular_run archive pathname
  rw [fileSelfCheck, Prog.bind_run, hr] at h
  cases r with
  | none => cases h
  | some entry =>
    have hp : (entryPayloadWord archive entry : Prog Empty Unit (Option Word)) () =
        .ok (payload archive entry) () := entryPayloadWord_run (hin entry rfl)
    by_cases hsize : entry.size = length.toNat
    · simp only [Prog.andThen, hsize, ↓reduceIte, Prog.bind_run, hp, Prog.pure_run] at h
      refine ⟨entry, hsize, ?_, hin entry rfl, hr⟩
      simpa using h
    · simp only [Prog.andThen, hsize, ↓reduceIte, Prog.pure_run] at h
      cases h

variable {archive : Buf} {file : File} {magic : Word}

theorem openFile_found
    (h : fileSelfCheck archive file.pathname file.expectedDataLength magic () = .ok true ())
    (s : Server) : openFile archive (some file) s = .ok (replyStatus STATUS_OK file.fd) s := by
  obtain ⟨entry, hsize, -, -, hr⟩ := fileSelfCheck_true h
  simp only [openFile, Prog.bind_run, hr, hsize, ne_eq, not_true_eq_false, ↓reduceIte,
    Prog.pure_run]

theorem readFile_found
    (h : fileSelfCheck archive file.pathname file.expectedDataLength magic () = .ok true ())
    (s : Server) :
    readFile archive (some file) s = .ok (.ofWords [STATUS_OK, file.reportedLength, magic]) s := by
  obtain ⟨entry, hsize, hpay, hin, hr⟩ := fileSelfCheck_true h
  have hp : (entryPayloadWord archive entry : RomfsM (Option Word)) s =
      .ok (payload archive entry) s := entryPayloadWord_run hin
  simp only [readFile, Prog.bind_run, hr, hsize, ne_eq, not_true_eq_false, ↓reduceIte, hp, hpay,
    Prog.pure_run]

/-- The files of a server that has started. -/
theorem Romfsd.files (d : Romfsd) :
    fileSelfCheck d.archive RELEASE_PATH RELEASE_MAGIC_LENGTH RELEASE_MAGIC () = .ok true () ∧
    fileSelfCheck d.archive BANNER_PATH BANNER_LENGTH BANNER_MAGIC () = .ok true () ∧
    fileSelfCheck d.archive VERSION_PATH VERSION_LENGTH VERSION_MAGIC () = .ok true () := by
  have h := d.checked
  unfold archiveSelfCheck at h
  obtain ⟨release, ⟨⟩, hrelease, h⟩ := Prog.bind_ok h
  cases release with
  | false => cases h
  | true =>
    rw [Prog.andThen, if_pos rfl] at h
    obtain ⟨banner, ⟨⟩, hbanner, h⟩ := Prog.bind_ok h
    cases banner with
    | false => cases h
    | true =>
      rw [Prog.andThen, if_pos rfl] at h
      exact ⟨hrelease, hbanner, h⟩

variable {request reply : Message} {record : Option Word}

/-- The reply to a request that is not for the record. -/
theorem Romfsd.step_fixed (d : Romfsd) (request reply : Message)
    (hop : recordOp request = .other)
    (h : handleRequest d.archive request Server.boot = .ok reply Server.boot) :
    (d.step request record).1 = reply := by
  simp [Romfsd.step, hop, Op.reply, Romfsd.handle_run h]

theorem Romfsd.step_open (d : Romfsd) (request : Message) (file : File)
    (hop : recordOp request = .other)
    (hr : handleRequest d.archive request = openFile d.archive (some file))
    (h : fileSelfCheck d.archive file.pathname file.expectedDataLength magic () = .ok true ()) :
    (d.step request record).1 = replyStatus STATUS_OK file.fd :=
  d.step_fixed _ _ hop (by rw [hr, openFile_found h])

theorem Romfsd.step_read (d : Romfsd) (request : Message) (file : File)
    (hop : recordOp request = .other)
    (hr : handleRequest d.archive request Server.boot =
      readFile d.archive (some file) Server.boot)
    (h : fileSelfCheck d.archive file.pathname file.expectedDataLength magic () = .ok true ()) :
    (d.step request record).1 = .ofWords [STATUS_OK, file.reportedLength, magic] :=
  d.step_fixed _ _ hop (by rw [hr, readFile_found h])

/-- The probe, alone, gets the replies that it expects. -/
theorem probe_accepted (d : Romfsd) : Accepted d.step none probeScript := by
  obtain ⟨hrelease, hbanner, -⟩ := d.files
  refine accepted_cons ?_ (accepted_cons ?_ (accepted_cons ?_ (accepted_cons ?_ (accepted_cons ?_
    (accepted_cons ?_ (accepted_cons ?_ (accepted_cons rfl (accepted_cons rfl (accepted_cons ?_
    (accepted_cons rfl (accepted_cons rfl (accepted_cons rfl (accepted_cons rfl
    (accepted_cons rfl accepted_nil))))))))))))))
  · rw [d.step_open (callRomfs OP_OPEN FILE_RELEASE 0 2) romfsFiles[0] rfl rfl hrelease]; rfl
  · rw [d.step_read (callRomfs OP_READ FD_RELEASE 0 3) romfsFiles[0] rfl rfl hrelease]; rfl
  · rw [d.step_fixed (callRomfs OP_READ 99 0 3) (replyStatus STATUS_EBADF 0) rfl rfl]; rfl
  · rw [d.step_fixed (callRomfs OP_CLOSE FD_RELEASE 0 2) (replyStatus STATUS_OK 0) rfl rfl]; rfl
  · rw [d.step_open (callRomfsOpenPath 15 0x2f73656c696e6f73 0x2d62616e6e657200) romfsFiles[1] rfl
      rfl hbanner]; rfl
  · rw [d.step_read (callRomfs OP_READ FD_BANNER 0 3) romfsFiles[1] rfl rfl hbanner]; rfl
  · rw [d.step_fixed (callRomfs OP_CLOSE FD_BANNER 0 2) (replyStatus STATUS_OK 0) rfl rfl]; rfl
  · rw [d.step_fixed (callRomfs OP_WRITE FD_VOLATILE_STATE 0 2) (replyStatus STATUS_EBADF 0)
      rfl rfl]; rfl

/-- The gateway, alone, gets the replies that it expects. -/
theorem gateway_accepted (d : Romfsd) : Accepted d.step none gatewayScript := by
  obtain ⟨hrelease, -, hversion⟩ := d.files
  refine accepted_cons ?_ (accepted_cons ?_ (accepted_cons ?_ (accepted_cons ?_ (accepted_cons ?_
    (accepted_cons ?_ (accepted_cons rfl (accepted_cons rfl (accepted_cons rfl (accepted_cons rfl
    (accepted_cons rfl (accepted_cons rfl (accepted_cons rfl accepted_nil))))))))))))
  · rw [d.step_open (callRomfs OP_OPEN FILE_RELEASE 0 2) romfsFiles[0] rfl rfl hrelease]; rfl
  · rw [d.step_read (callRomfs OP_READ FD_RELEASE 0 3) romfsFiles[0] rfl rfl hrelease]; rfl
  · rw [d.step_fixed (callRomfs OP_CLOSE FD_RELEASE 0 2) (replyStatus STATUS_OK 0) rfl rfl]; rfl
  · rw [d.step_open (callRomfs OP_OPEN FILE_VERSION 0 2) romfsFiles[2] rfl rfl hversion]; rfl
  · rw [d.step_read (callRomfs OP_READ FD_VERSION 0 3) romfsFiles[2] rfl rfl hversion]; rfl
  · rw [d.step_fixed (callRomfs OP_CLOSE FD_VERSION 0 2) (replyStatus STATUS_OK 0) rfl rfl]; rfl

theorem accepted (d : Romfsd) (c : Party) : Accepted d.step none (script c) := by
  cases c with
  | probe => exact probe_accepted d
  | gateway => exact gateway_accepted d

/-! ## Schedules that keep the clients apart -/

/-- The request is one for the record. -/
def Touches (request : Message) : Prop := recordOp request ≠ .other

variable {turns : List Party}

theorem step_neutral (d : Romfsd) (r : Message) (h : ¬ Touches r) : Neutral d.step r :=
  fun _ _ => d.step_other (not_not.mp h)

theorem ne_iff_other {c c' : Party} : c' ≠ c ↔ c' = c.other := by
  cases c <;> cases c' <;> simp [Party.other]

theorem apart_iff (d : Romfsd) : Apart turns ↔ Exclusive d.step none Touches script turns := by
  refine ⟨fun h before c hp call hc ht j hj => ?_, fun h before c call hp hc ht => ?_⟩
  · rw [ne_iff_other.mp hj]
    exact h before c call hp hc ht
  · exact h before c hp call hc ht c.other (ne_iff_other.mpr rfl)

/-- The clients over the record. -/
def Romfsd.serveRecord (d : Romfsd) (turns : List Party) :
    System Party (Option Word) Message Message :=
  (System.start none script).serve d.step turns

/-- The replies are those of the record. -/
theorem Romfsd.replies_eq (d : Romfsd) (turns : List Party) (c : Party) :
    d.replies turns c = ((d.serveRecord turns).client c).replies := by
  have h := System.map_serve (s := System.start Server.boot script) d.handle_refines turns
  have hclient : ((d.serve turns).map Server.record).client c = (d.serve turns).client c := rfl
  rw [Romfsd.replies, ← hclient, Romfsd.serve, h]
  rfl

/-- Alone, a client that makes all its calls gets the answers to them. -/
theorem Romfsd.replies_alone (d : Romfsd) (h : Complete turns) (c : Party) :
    d.replies (turns.filter (· = c)) c = answers d.step none (script c) := by
  have hex : Exclusive d.step none Touches script (turns.filter (· = c)) := exclusive_filter c turns
  obtain ⟨has, -⟩ := Exclusive.serve (step_neutral d) (accepted d) hex
  have hcount : (turns.filter (· = c)).count c = (script c).length := by
    rw [List.count_filter (by simp), h c]
  rw [d.replies_eq, Romfsd.serveRecord, has c, hcount]
  exact List.take_of_length_le (by rw [length_answers])

/-! ## Schedules that do not -/

/-- Both clients have opened the record, one has not closed it, and the other one either has not
closed it or has left the server with a closed one. -/
def Doomed (turns : List Party) (record : Option Word) : Prop :=
  (∀ c, openAt c < turns.count c) ∧ ∃ c, (recordAfter c (turns.count c)).isSome ∧
    ((recordAfter c.other (turns.count c.other)).isSome ∨ record = none)

variable {i : Party}

/-- A turn that opens and closes nothing keeps a schedule doomed. -/
theorem Doomed.same {record' : Option Word} (h : Doomed turns record)
    (hi : (recordAfter i (turns.count i + 1)).isSome = (recordAfter i (turns.count i)).isSome)
    (hr : record = none → record' = none) : Doomed (turns ++ [i]) record' := by
  have hafter : ∀ c, (recordAfter c ((turns ++ [i]).count c)).isSome =
      (recordAfter c (turns.count c)).isSome := by
    intro c
    by_cases hc : c = i
    · rw [hc, count_snoc_self, hi]
    · rw [count_snoc_of_ne hc]
  obtain ⟨hopen, c, hc, ho⟩ := h
  refine ⟨fun c => (hopen c).trans_le ?_, c, by rw [hafter]; exact hc, ?_⟩
  · exact List.Sublist.count_le c (List.sublist_append_left _ _)
  · rw [hafter]
    exact ho.imp_right hr

/-- A close of the open record leaves the other client with a closed one. -/
theorem Doomed.closes (h : Doomed turns record)
    (heq : record.isSome = (recordAfter i (turns.count i)).isSome)
    (hi : recordAfter i (turns.count i + 1) = none) : Doomed (turns ++ [i]) none := by
  obtain ⟨hopen, c, hc, ho⟩ := h
  -- the client that is left with it is the one that does not close
  have hother : (recordAfter i.other (turns.count i.other)).isSome := by
    by_cases hci : c = i
    · subst hci
      refine ho.resolve_right fun hnone => ?_
      rw [hnone, hc] at heq
      cases heq
    · have hic : i.other = c := (ne_iff_other.mp hci).symm
      rw [hic]
      exact hc
  refine ⟨fun c => (hopen c).trans_le ?_, i.other, ?_, .inr rfl⟩
  · exact List.Sublist.count_le c (List.sublist_append_left _ _)
  · rw [count_snoc_of_ne (ne_iff_other.mpr rfl)]
    exact hother

/-- A doomed schedule stays doomed as long as the replies are those that the clients get alone. -/
theorem Doomed.turn (h : Doomed turns record) {call : Call Message Message}
    (hc : (script i)[turns.count i]? = some call)
    (hreply : (d.step call.request record).1 =
      (d.step call.request (recordAfter i (turns.count i))).1) :
    Doomed (turns ++ [i]) (d.step call.request record).2 := by
  have hnext := recordAfter_succ hc
  show Doomed _ ((recordOp call.request).next record)
  by_cases ho : recordOp call.request = .other
  · refine h.same ?_ ?_ <;> simp [hnext, ho, Op.next]
  by_cases hopen : recordOp call.request = .opens
  · have hlt := h.1 i
    rw [← opens_once hc hopen] at hlt
    exact absurd hlt (Nat.lt_irrefl _)
  have heq : record.isSome = (recordAfter i (turns.count i)).isSome := by
    refine Op.reply_isSome hopen ho ?_
    rw [d.step_reply ho, d.step_reply ho, hreply]
  by_cases hclose : recordOp call.request = .closes
  · rw [hclose] at hnext ⊢
    exact h.closes heq hnext
  · refine h.same ?_ fun hnone => ?_
    · rw [hnext, Op.next_isSome hopen hclose]
    · rw [← Option.not_isSome_iff_eq_none, Op.next_isSome hopen hclose, hnone]
      simp

/-- Both clients are done, so the schedule is not doomed. -/
theorem not_doomed (h : Complete turns) : ¬ Doomed turns record := by
  rintro ⟨-, c, hc, -⟩
  rw [h c, recordAfter_end] at hc
  cases hc

/-- The first call that comes too early: its reply is not the one that its client gets alone, or the
schedule is doomed. -/
theorem doomed_of_not_mayCall
    (howned : Owned d.step none script turns record) {call : Call Message Message}
    (hc : (script i)[turns.count i]? = some call) (ht : Touches call.request)
    (hopen : recordAfter i.other (turns.count i.other) ≠ none)
    (hreply : (d.step call.request record).1 =
      (d.step call.request (recordAfter i (turns.count i))).1) :
    Doomed (turns ++ [i]) (d.step call.request record).2 := by
  have hne : i.other ≠ i := ne_iff_other.mpr rfl
  have hidle : recordAfter i (turns.count i) = none :=
    (howned.unique i i.other hne.symm).resolve_right hopen
  have hrecord : record = recordAfter i.other (turns.count i.other) := howned.owner i.other hopen
  have hsome : (recordAfter i.other (turns.count i.other)).isSome :=
    Option.isSome_iff_ne_none.mpr hopen
  by_cases hop : recordOp call.request = .opens
  · refine ⟨fun c => ?_, i.other, ?_, .inl ?_⟩
    · by_cases hci : c = i
      · rw [hci, count_snoc_self, opens_once hc hop]
        exact Nat.lt_succ_self _
      · rw [count_snoc_of_ne hci, ne_iff_other.mp hci]
        exact openAt_lt hsome
    · rw [count_snoc_of_ne hne]
      exact hsome
    · have hother : i.other.other = i := by cases i <;> rfl
      rw [hother, count_snoc_self, recordAfter_succ hc, hop]
      rfl
  · have heq : record.isSome = (recordAfter i (turns.count i)).isSome := by
      refine Op.reply_isSome hop ht ?_
      rw [d.step_reply ht, d.step_reply ht, hreply]
    rw [hidle, hrecord, hsome] at heq
    cases heq

/-- As long as every reply is the one that its client gets alone, the clients were kept apart, or
the schedule is doomed. -/
theorem exclusive_or_doomed (h : Faithful d.step none script turns) :
    (Exclusive d.step none Touches script turns ∧
      Owned d.step none script turns (d.serveRecord turns).server) ∨
    Doomed turns (d.serveRecord turns).server := by
  induction turns using List.reverseRecOn with
  | nil => exact .inl ⟨exclusive_nil, owned_start⟩
  | append_singleton turns i ih =>
    have hbefore : Faithful d.step none script turns := fun j =>
      (System.replies_le turns [i] j).trans (h j)
    have has := hbefore.asAlone (accepted d)
    obtain ⟨-, hreply⟩ := h.snoc has
    rw [Romfsd.serveRecord, System.serve_snoc]
    rcases ih hbefore with ⟨hex, howned⟩ | hd
    · by_cases hmay : MayCall d.step none Touches script turns i
      · have hown := (hmay.turn (step_neutral d) (accepted d) has howned).2
        exact .inl ⟨exclusive_snoc.mpr ⟨hex, hmay⟩, hown⟩
      · simp only [MayCall, not_forall] at hmay
        obtain ⟨call, hc, ht, j, hj, hopen⟩ := hmay
        rw [ne_iff_other.mp hj] at hopen
        rw [server_turn_some has hc]
        exact .inr (doomed_of_not_mayCall howned hc ht hopen (hreply call hc))
    · cases hc : (script i)[turns.count i]? with
      | none =>
        rw [server_turn_none has hc]
        exact .inr (hd.same (by rw [recordAfter_succ_none hc]) id)
      | some call =>
        rw [server_turn_some has hc]
        exact .inr (hd.turn hc (hreply call hc))

/-! ## What the clients see of each other -/

/-- Under a schedule in which both clients make all their calls, each of them gets the replies that
it gets alone (when the turns of the other one are left out) exactly when the schedule keeps them
apart. -/
theorem replies_alone_iff (d : Romfsd) (turns : List Party) (h : Complete turns) :
    (∀ c, d.replies turns c = d.replies (turns.filter (· = c)) c) ↔ Apart turns := by
  rw [apart_iff d]
  refine ⟨fun hsame => ?_, fun hex c => ?_⟩
  · have hfaithful : Faithful d.step none script turns := by
      intro c
      have hc := hsame c
      rw [d.replies_alone h, d.replies_eq] at hc
      exact ⟨[], by rw [List.append_nil]; exact hc⟩
    rcases exclusive_or_doomed hfaithful with ⟨hex, -⟩ | hd
    · exact hex
    · exact absurd hd (not_doomed h)
  · obtain ⟨has, -⟩ := hex.serve (step_neutral d) (accepted d)
    rw [d.replies_alone h, d.replies_eq, Romfsd.serveRecord, has c, h c]
    exact List.take_of_length_le (by rw [length_answers])

/-- The probe makes all its calls, and then the gateway. -/
def inTurn : List Party := List.replicate 15 .probe ++ List.replicate 13 .gateway

set_option maxRecDepth 100000 in
theorem replies_alone_in_turn :
    Romfsd.image.replies inTurn .probe =
      Romfsd.image.replies (inTurn.filter (· = .probe)) .probe ∧
    Romfsd.image.replies inTurn .gateway =
      Romfsd.image.replies (inTurn.filter (· = .gateway)) .gateway := by
  have hcomplete : Complete inTurn := fun c => by cases c <;> decide
  have hsame := (replies_alone_iff Romfsd.image inTurn hcomplete).mpr (by decide +kernel)
  exact ⟨hsame .probe, hsame .gateway⟩

/-- The gateway makes all its calls after the probe has opened the record. -/
def overlapping : List Party :=
  List.replicate 8 .probe ++ List.replicate 13 .gateway ++ List.replicate 7 .probe

set_option maxRecDepth 100000 in
/-- The probe finds the record closed where it reads the initial word alone. -/
theorem probe_sees_gateway : Complete overlapping ∧
    Romfsd.image.replies overlapping .probe ≠
      Romfsd.image.replies (overlapping.filter (· = .probe)) .probe :=
  ⟨fun c => by cases c <;> decide, by decide +kernel⟩

end SeLinOS.Romfs
