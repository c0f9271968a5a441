import SeLinOS.Gateway.UserCopy
import SeLinOS.Romfs.Server

/-!
# The bounded `fstat`

The step of `run_linux_syscall_abi_probe` that stores the two words of the version record, each with
a copy of its own.

* `versionFstat`, `FstatOutcome`: the step, and how it ends.
* `fstat_all_or_nothing_iff`: when a request that is rejected has written nothing.
-/

namespace SeLinOS.Gateway

open CLogic Prog Sel4 Romfs

def LINUX_FSTAT : Word := 5

/-- `"SELSTAT0"`. -/
def LINUX_M10_STAT_MAGIC : Word := 0x53454c5354415430

def LINUX_M10_STAT_SIZE : Word := 8

/-- The registers of a syscall that the step reads. -/
structure SyscallFrame where
  rax : Word
  rdi : Word
  rsi : Word
  deriving DecidableEq

/-- The tests of the step on the registers. -/
def SyscallFrame.IsVersionFstat (frame : SyscallFrame) : Prop :=
  ¬ (frame.rax ≠ LINUX_FSTAT ∨ frame.rdi ≠ FD_VERSION ∨ frame.rsi = 0 ∨
    frame.rsi > BitVec.allOnes 64 - 8)

instance (frame : SyscallFrame) : Decidable frame.IsVersionFstat :=
  inferInstanceAs (Decidable (¬ _))

/-- The step with the frame of the fault, `none` where the fault is no syscall: true where it
replies, false where it rejects. `mapped` and `mapped'`: the frames of the two copies can be
mapped. -/
def versionFstat {ε : Type} (mapped mapped' : Bool) (fault : Option SyscallFrame) :
    Prog ε RootTask Bool :=
  match fault with
  | none => pure false
  | some frame => do
    if ¬ frame.IsVersionFstat then pure false
    else if ← copyLinuxWordToUser mapped frame.rsi LINUX_M10_STAT_MAGIC then
      copyLinuxWordToUser mapped' (frame.rsi + 8) LINUX_M10_STAT_SIZE
    else pure false

/-- The process has the word at `a`. -/
def HasWord (u : UserSpace) (a value : Word) : Prop :=
  u.bytes a.toNat 8 = (storedBytes value).map some

instance (u : UserSpace) (a value : Word) : Decidable (HasWord u a value) :=
  inferInstanceAs (Decidable (_ = _))

/-- A request that is rejected changes no byte of the process, and one that is not stores both words
of the record. -/
def AllOrNothing (mapped mapped' : Bool) (fault : Option SyscallFrame) (s : RootTask) : Prop :=
  ∃ success t, (versionFstat mapped mapped' fault : Prog Empty RootTask Bool) s = .ok success t ∧
    (success = false → t.user = s.user) ∧
    (success = true → ∃ frame, fault = some frame ∧
      HasWord t.user frame.rsi LINUX_M10_STAT_MAGIC ∧
      HasWord t.user (frame.rsi + 8) LINUX_M10_STAT_SIZE)

/-- The step is left between the two words of the record. -/
structure Torn (mapped mapped' : Bool) (frame : SyscallFrame) (u : UserSpace) : Prop where
  admitted : frame.IsVersionFstat
  first : Admits mapped u frame.rsi.toNat 8
  second : ¬ Admits mapped' u (frame.rsi + 8).toNat 8

variable {ε : Type} {E : ε → RootTask → Prop} {mapped mapped' : Bool} {u : UserSpace}
  {frame : SyscallFrame} {s t : RootTask} {a value : Word}

/-! ## A word of the process -/

theorem CopiedToUser.hasWord {admitted : Prop} {r : Bool}
    (h : CopiedToUser admitted a.toNat 8 (wordByte value) s r t) (hr : r = true) :
    HasWord t.user a value := by
  rw [HasWord, h.stored hr, storedBytes, List.map_map]
  rfl

theorem blitFrame_eq_self {frame offset n : Nat} {f : Nat → UInt8}
    (h : ∀ i < n, u.frame frame (offset + i) = f i) : blitFrame u frame offset n f = u := by
  have hblit : (u.frame frame).blit offset n f = u.frame frame := by
    funext x
    by_cases hx : offset ≤ x ∧ x < offset + n
    · have hbyte := h (x - offset) (by omega)
      rw [Mem.blit_in hx.1 hx.2, ← hbyte, Nat.add_sub_of_le hx.1]
    · exact Mem.blit_out hx
  rw [blitFrame, hblit, Function.update_eq_self]

/-- A copy changes nothing exactly where the process has the word. -/
theorem CopiedToUser.user_eq_iff {admitted : Prop}
    (h : CopiedToUser admitted a.toNat 8 (wordByte value) s true t) :
    t.user = s.user ↔ HasWord s.user a value := by
  constructor
  · intro huser
    rw [← huser]
    exact h.hasWord rfl
  · intro hword
    obtain ⟨frame, hin, huser⟩ := h.blit rfl
    rw [HasWord, bytes_of_frame hin, storedBytes] at hword
    have hbytes := (List.map_inj_right fun _ _ => Option.some.inj).mp hword
    rw [List.map_inj_left] at hbytes
    rw [huser]
    exact blitFrame_eq_self fun i hi => hbytes i (List.mem_range.mpr hi)

theorem toNat_next (ha : a ≤ BitVec.allOnes 64 - 8) : (a + 8).toNat = a.toNat + 8 := by
  have hmax : (BitVec.allOnes 64 - 8).toNat = 2 ^ 64 - 9 := by decide
  have height : (8 : Word).toNat = 8 := rfl
  rw [BitVec.le_def, hmax] at ha
  rw [BitVec.toNat_add, height, Nat.mod_eq_of_lt (by omega)]

/-- The word before the one that is stored is kept, in its page or in the page before. -/
theorem CopiedToUser.hasWord_before {admitted : Prop} {r : Bool} {other : Word} {frame : Nat}
    (h : CopiedToUser admitted (a + 8).toNat 8 (wordByte value) s r t)
    (ha : a ≤ BitVec.allOnes 64 - 8) (hin : InPage s.user a.toNat 8 frame)
    (hword : HasWord s.user a other) : HasWord t.user a other := by
  have hin' : InPage t.user a.toNat 8 frame :=
    ⟨(congrFun h.cap _).trans hin.cap, hin.noWrap, hin.page⟩
  rw [HasWord, bytes_of_frame hin] at hword
  rw [HasWord, bytes_of_frame hin', ← hword]
  refine congrArg (List.map some) (List.map_congr_left fun i hi => ?_)
  rw [List.mem_range] at hi
  have hpage := hin.page
  refine h.others _ _ fun hno => ?_
  simp only [toNat_next ha, pageBase, PAGE_SIZE] at hno hpage
  omega

theorem admits_congr {u' : UserSpace} {a n : Nat} (h : u'.cap = u.cap) :
    Admits mapped u' a n ↔ Admits mapped u a n := by
  refine and_congr_right fun _ => exists_congr fun _ => ⟨fun hin => ?_, fun hin => ?_⟩
  · exact ⟨(congrFun h _).symm.trans hin.cap, hin.noWrap, hin.page⟩
  · exact ⟨(congrFun h _).trans hin.cap, hin.noWrap, hin.page⟩

/-! ## The step -/

/-- How the step ends. -/
inductive FstatOutcome (mapped mapped' : Bool) (frame : SyscallFrame) (s t : RootTask) : Bool → Prop
  | refused (h : ¬ (frame.IsVersionFstat ∧ Admits mapped s.user frame.rsi.toNat 8))
      (huser : t.user = s.user) : FstatOutcome mapped mapped' frame s t false
  | torn (h : Torn mapped mapped' frame s.user)
      (huser : t.user = s.user ↔ HasWord s.user frame.rsi LINUX_M10_STAT_MAGIC) :
      FstatOutcome mapped mapped' frame s t false
  | stored (h : Admits mapped' s.user (frame.rsi + 8).toNat 8)
      (hfirst : HasWord t.user frame.rsi LINUX_M10_STAT_MAGIC)
      (hsecond : HasWord t.user (frame.rsi + 8) LINUX_M10_STAT_SIZE) :
      FstatOutcome mapped mapped' frame s t true

theorem versionFstat_wp : wp (versionFstat mapped mapped' (some frame))
    (fun success t => FstatOutcome mapped mapped' frame s t success) E s := by
  unfold versionFstat
  refine wp_ite (fun hno => wp_pure (.refused (fun h => hno h.1) rfl)) fun hyes => ?_
  rw [not_not] at hyes
  refine wp_seq copyLinuxWordToUser_wp (fun _ _ h => h) fun first t hfirst => ?_
  refine wp_ite (fun hr => ?_) fun hr => ?_
  · obtain rfl : first = true := hr
    have hadmits := hfirst.success.mp rfl
    obtain ⟨-, page, hin⟩ := hadmits
    have hadmits' : Admits mapped' t.user (frame.rsi + 8).toNat 8 ↔
        Admits mapped' s.user (frame.rsi + 8).toNat 8 := admits_congr hfirst.cap
    have hrsi : frame.rsi ≤ BitVec.allOnes 64 - 8 := by
      rw [SyscallFrame.IsVersionFstat, not_or, not_or, not_or] at hyes
      exact BitVec.not_lt.mp hyes.2.2.2
    refine wp_mono copyLinuxWordToUser_wp (fun second t' hsecond => ?_) fun _ _ h => h
    cases second with
    | false =>
      refine .torn ⟨hyes, hfirst.success.mp rfl, fun h => ?_⟩ ?_
      · exact absurd (hsecond.success.mpr (hadmits'.mpr h)) Bool.false_ne_true
      · rw [hsecond.kept rfl]
        exact hfirst.user_eq_iff
    | true =>
      have hin' : InPage t.user frame.rsi.toNat 8 page :=
        ⟨(congrFun hfirst.cap _).trans hin.cap, hin.noWrap, hin.page⟩
      exact .stored (hadmits'.mp (hsecond.success.mp rfl))
        (hsecond.hasWord_before hrsi hin' (hfirst.hasWord rfl)) (hsecond.hasWord rfl)
  · obtain rfl : first = false := Bool.eq_false_iff.mpr hr
    exact wp_pure (.refused (fun h => hr (hfirst.success.mpr h.2)) (hfirst.kept rfl))

/-- **A rejected fstat writes nothing**, and an accepted one stores both words, exactly where the
step is not left between two words, or the process has the first word already. -/
theorem fstat_all_or_nothing_iff (mapped mapped' : Bool) (fault : Option SyscallFrame)
    (s : RootTask) : AllOrNothing mapped mapped' fault s ↔
      ∀ frame, fault = some frame → Torn mapped mapped' frame s.user →
        HasWord s.user frame.rsi LINUX_M10_STAT_MAGIC := by
  cases fault with
  | none =>
    refine iff_of_true ⟨false, s, rfl, fun _ => rfl, fun h => absurd h Bool.false_ne_true⟩ ?_
    exact fun frame h => absurd h.symm (Option.some_ne_none frame)
  | some frame =>
    have hwp : wp (versionFstat mapped mapped' (some frame))
        (fun success t => FstatOutcome mapped mapped' frame s t success)
        (fun (_ : Empty) _ => False) s := versionFstat_wp
    obtain ⟨success, t, hrun, hend⟩ := exists_ok hwp
    constructor
    · rintro ⟨success', t', hrun', hrejected, haccepted⟩ frame' hframe htorn
      cases hframe
      cases hrun.symm.trans hrun'
      cases hend with
      | refused h _ => exact absurd ⟨htorn.admitted, htorn.first⟩ h
      | torn _ huser => exact huser.mp (hrejected rfl)
      | stored h _ _ => exact absurd h htorn.second
    · intro h
      refine ⟨success, t, hrun, ?_⟩
      cases hend with
      | refused _ huser => exact ⟨fun _ => huser, fun hfalse => absurd hfalse Bool.false_ne_true⟩
      | torn htorn huser =>
        exact ⟨fun _ => huser.mpr (h frame rfl htorn),
          fun hfalse => absurd hfalse Bool.false_ne_true⟩
      | stored _ hfirst hsecond =>
        exact ⟨fun hfalse => absurd hfalse.symm Bool.false_ne_true,
          fun _ => ⟨frame, rfl, hfirst, hsecond⟩⟩

/-- A record across the end of a page of which the next page is not mapped: the request is rejected,
and the first word is stored. -/
theorem fstat_torn : ¬ AllOrNothing true true (some ⟨5, 6, 0x1ff8⟩) (sampleTask []) ∧
    ∃ t, (versionFstat true true (some ⟨5, 6, 0x1ff8⟩) : Prog Empty RootTask Bool)
        (sampleTask []) = .ok false t ∧
      (sampleTask []).user.bytes 0x1ff8 8 = (List.replicate 8 0).map some ∧
      t.user.bytes 0x1ff8 8 = [0x30, 0x54, 0x41, 0x54, 0x53, 0x4c, 0x45, 0x53].map some := by
  have hmissing : (onePage []).cap (pageBase 0x2000) = none := by decide
  have htorn : Torn true true ⟨5, 6, 0x1ff8⟩ (sampleTask []).user :=
    ⟨by decide, ⟨rfl, 1, by decide, by decide, by decide⟩,
      fun ⟨_, _, hin⟩ => absurd (hin.cap.symm.trans hmissing) (Option.some_ne_none _)⟩
  have hword : ¬ HasWord (sampleTask []).user 0x1ff8 LINUX_M10_STAT_MAGIC := by decide +kernel
  have hfinal : ((versionFstat true true (some ⟨5, 6, 0x1ff8⟩) : Prog Empty RootTask Bool)
      (sampleTask [])).final.map (·.user.bytes 0x1ff8 8) =
        some ([0x30, 0x54, 0x41, 0x54, 0x53, 0x4c, 0x45, 0x53].map some) := by
    decide +kernel
  have hwp : wp (versionFstat true true (some ⟨5, 6, 0x1ff8⟩))
      (fun success t => FstatOutcome true true ⟨5, 6, 0x1ff8⟩ (sampleTask []) t success)
      (fun (_ : Empty) _ => False) (sampleTask []) := versionFstat_wp
  obtain ⟨success, t, hrun, hend⟩ := exists_ok hwp
  cases hend with
  | refused h _ => exact absurd ⟨htorn.admitted, htorn.first⟩ h
  | stored h _ _ => exact absurd h htorn.second
  | torn _ huser =>
    rw [hrun] at hfinal
    refine ⟨?_, t, hrun, by decide +kernel, Option.some.inj hfinal⟩
    rintro ⟨success', t', hrun', hrejected, -⟩
    cases hrun.symm.trans hrun'
    exact hword (huser.mp (hrejected rfl))

end SeLinOS.Gateway
