import SeLinOS.CLogic.Chain
import SeLinOS.Pci.Assign

/-!
# The walk over the capability list

`selinos_pci_inspect_qemu_virtio_blk_common_capability`, which looks for the common configuration in
the capability list of the first modern virtio-blk function of bus 0. The list is in the
configuration space of the device and may be cyclic or malformed.

* `inspectCommonCapability`: the function.
* `ConfigSpace`: the 256 bytes of a function, and the capability chain in them.
* `inspectCommonCapability_iff`: the function finds the first common capability of the chain.
-/

namespace SeLinOS.Pci

open CLogic Sel4 CLogic.Part

def PCI_STATUS_CAPABILITIES : BitVec 16 := 0x0010
def PCI_HEADER_TYPE_OFF : BitVec 32 := 0x0c
def PCI_CAPABILITY_LIST_OFF : BitVec 32 := 0x34
def PCI_CAPABILITY_FIRST : BitVec 8 := 0x40
def PCI_CAPABILITY_LAST : BitVec 8 := 0xf0
def PCI_CAPABILITY_LIMIT : Nat := 48
def PCI_CAP_ID_VENDOR_SPECIFIC : BitVec 8 := 0x09
def VIRTIO_PCI_CAP_COMMON_CFG : BitVec 8 := 0x01

/-- The machine and the capability of the caller. -/
structure Inspection (δ : Type) where
  machine : δ
  capability : CommonCapability

instance {δ : Type} : Part (Inspection δ) δ where
  part := Inspection.machine
  withPart machine s := { s with machine }
  part_withPart _ _ := rfl
  withPart_part _ := rfl
  withPart_withPart _ _ _ := rfl

section Model

variable {δ ε σ : Type} [Part σ δ] (m : Machine δ)

/-- `read_config_byte`. -/
def readConfigByte (ioport : Word) (device function offset : BitVec 32) (d : δ) :
    Option (BitVec 8) × δ :=
  match readConfigDword m ioport device function (offset &&& 0xfc) d with
  | (none, d) => (none, d)
  | (some word, d) => (some ((word >>> (8 * (offset &&& 3)).toNat).setWidth 8), d)

/-- `release_config_ioport(...); return success;` -/
def releaseReturn {α : Type} (slot : Word) (success : Bool) : Prog Bool σ α := do
  Prog.modify fun s => withPart (releaseConfigIoport m slot (part s)) s
  Prog.ret success

/-- `if (!f(&value)) { release_config_ioport(...); return false; }` -/
def readOrRelease {α : Type} (slot : Word) (f : δ → Option α × δ) : Prog Bool σ α := do
  match ← Prog.access f with
  | none => releaseReturn m slot false
  | some a => pure a

/-- `if (!c) { release_config_ioport(...); return false; }` -/
def unlessRelease (slot : Word) (c : Prop) [Decidable c] : Prog Bool σ Unit :=
  Prog.when (¬ c) (releaseReturn m slot false)

/-- The identity of a modern virtio-blk function. -/
def IsVirtioBlk (identity : BitVec 32) : Prop :=
  (identity &&& 0xffff).setWidth 16 = SELINOS_QEMU_VIRTIO_VENDOR_ID ∧
    (identity >>> 16).setWidth 16 = SELINOS_QEMU_VIRTIO_BLK_MODERN_DEVICE_ID

instance (identity : BitVec 32) : Decidable (IsVirtioBlk identity) := instDecidableAnd

/-- One iteration of the search for the device. -/
def matchDevice (slot : Word) (k : Nat) : Prog ε σ (Option (BitVec 32)) := do
  let identity ← Prog.access (readConfigDword m slot (BitVec.ofNat 32 k) 0 PCI_VENDOR_DEVICE_OFF)
  match identity with
  | none => pure none
  | some identity =>
    if IsVirtioBlk identity then pure (some (BitVec.ofNat 32 k)) else pure none

/-- The tests of a common capability on its type, BAR, offset and length. -/
def CommonFields (cfgType bar : BitVec 8) (offset length : BitVec 32) : Prop :=
  cfgType = VIRTIO_PCI_CAP_COMMON_CFG ∧ bar.zeroExtend 32 < PCI_BAR_COUNT ∧ offset &&& 3 = 0 ∧
    length ≥ VIRTIO_COMMON_CFG_MIN_LENGTH ∧ length &&& 3 = 0

instance (cfgType bar : BitVec 8) (offset length : BitVec 32) :
    Decidable (CommonFields cfgType bar offset length) := by
  unfold CommonFields
  infer_instance

/-- The condition of the capability at `current`: the tests that read are made one after the
other, and a read that fails is a test that fails. -/
def readCommonFields (slot : Word) (device : BitVec 32) (current capId : BitVec 8) :
    Prog ε (Inspection δ) (Option (BitVec 8 × BitVec 32 × BitVec 32)) := do
  let place : BitVec 32 := current.zeroExtend 32
  if capId ≠ PCI_CAP_ID_VENDOR_SPECIFIC then pure none
  else
    match ← Prog.access (readConfigByte m slot device 0 (place + 3)) with
    | none => pure none
    | some cfgType =>
      match ← Prog.access (readConfigByte m slot device 0 (place + 4)) with
      | none => pure none
      | some bar =>
        match ← Prog.access (readConfigDword m slot device 0 (place + 8)) with
        | none => pure none
        | some offset =>
          match ← Prog.access (readConfigDword m slot device 0 (place + 12)) with
          | none => pure none
          | some length =>
            if CommonFields cfgType bar offset length then pure (some (bar, offset, length))
            else pure none

/-- One iteration of the walk, from `current` to the next offset. -/
def walkStep (slot : Word) (device : BitVec 32) (current : BitVec 8) :
    Prog Bool (Inspection δ) (BitVec 8) := do
  let place : BitVec 32 := current.zeroExtend 32
  unlessRelease m slot (PCI_CAPABILITY_FIRST ≤ current ∧ current ≤ PCI_CAPABILITY_LAST ∧
    current &&& 3 = 0)
  let capId ← readOrRelease m slot (readConfigByte m slot device 0 place)
  let next ← readOrRelease m slot (readConfigByte m slot device 0 (place + 1))
  match ← readCommonFields m slot device current capId with
  | some (bar, offset, length) =>
    Prog.modify fun s => { s with capability :=
      ⟨⟨device, 0, SELINOS_QEMU_VIRTIO_VENDOR_ID, SELINOS_QEMU_VIRTIO_BLK_MODERN_DEVICE_ID⟩,
        place, bar.zeroExtend 32, offset, length⟩ }
    releaseReturn m slot true
  | none =>
    -- `break`, which leads to the same end as the limit.
    if next = 0 then releaseReturn m slot false else pure next

/-- `selinos_pci_inspect_qemu_virtio_blk_common_capability`. -/
def inspectCommonCapability : Prog Bool (Inspection δ) Unit := do
  match ← Prog.access (acquireConfigIoport m) with
  | none => Prog.ret false
  | some slot =>
    let matched ← Prog.firstUp (matchDevice m slot) 0 32
    match matched with
    | none => releaseReturn m slot false
    | some device =>
      let status ←
        readOrRelease m slot (readConfigWord m slot device 0 (PCI_COMMAND_STATUS_OFF + 2))
      let header ← readOrRelease m slot (readConfigDword m slot device 0 PCI_HEADER_TYPE_OFF)
      unlessRelease m slot (status &&& PCI_STATUS_CAPABILITIES ≠ 0 ∧ header >>> 16 &&& 0x7f = 0)
      let current ← readOrRelease m slot (readConfigByte m slot device 0 PCI_CAPABILITY_LIST_OFF)
      let _ ← Prog.foldUp (fun _ current => walkStep m slot device current) 0
        PCI_CAPABILITY_LIMIT current
      releaseReturn m slot false

end Model

/-! ## The configuration space -/

/-- The 256 bytes of the configuration space of a function. -/
abbrev ConfigSpace := BitVec 8 → BitVec 8

namespace ConfigSpace

variable (space : ConfigSpace)

/-- The dword at an offset. -/
def dword (o : BitVec 8) : BitVec 32 :=
  (space o).zeroExtend 32 ||| (space (o + 1)).zeroExtend 32 <<< 8 |||
    (space (o + 2)).zeroExtend 32 <<< 16 ||| (space (o + 3)).zeroExtend 32 <<< 24

/-- The registers of function 0 of the device are the dwords of the space. -/
def Shows (R : BitVec 32 → BitVec 32) (device : BitVec 32) : Prop :=
  ∀ o : BitVec 8, o &&& 3 = 0 → R (configAddress device 0 (o.zeroExtend 32)) = space.dword o

/-- The node of the capability list that a pointer names, if it is in range. -/
def pointer (p : BitVec 8) : Option (BitVec 8) :=
  if PCI_CAPABILITY_FIRST ≤ p ∧ p ≤ PCI_CAPABILITY_LAST ∧ p &&& 3 = 0 then some p else none

/-- The node after a node. A pointer that is zero is out of range. -/
def next (p : BitVec 8) : Option (BitVec 8) := pointer (space (p + 1))

/-- The capability at `p` is one of the common configuration. -/
def IsCommon (p : BitVec 8) : Prop :=
  space p = PCI_CAP_ID_VENDOR_SPECIFIC ∧
    CommonFields (space (p + 3)) (space (p + 4)) (space.dword (p + 8)) (space.dword (p + 12))

instance (p : BitVec 8) : Decidable (space.IsCommon p) := instDecidableAnd

/-- The common capability at `p`, as the caller gets it. -/
def commonCapability (device : BitVec 32) (p : BitVec 8) : CommonCapability :=
  ⟨⟨device, 0, SELINOS_QEMU_VIRTIO_VENDOR_ID, SELINOS_QEMU_VIRTIO_BLK_MODERN_DEVICE_ID⟩,
    p.zeroExtend 32, (space (p + 4)).zeroExtend 32, space.dword (p + 8), space.dword (p + 12)⟩

/-- The first common capability of the chain is at `p`. -/
def FirstCommon (p : BitVec 8) : Prop :=
  First space.next (pointer (space 0x34)) space.IsCommon p

end ConfigSpace

/-- The first device of bus 0 whose function 0 is a modern virtio-blk function. -/
def FirstDevice (R : BitVec 32 → BitVec 32) (device : BitVec 32) : Prop :=
  ∃ k < 32, device = BitVec.ofNat 32 k ∧
    IsVirtioBlk (R (configAddress device 0 PCI_VENDOR_DEVICE_OFF)) ∧
    ∀ j < k, ¬ IsVirtioBlk (R (configAddress (BitVec.ofNat 32 j) 0 PCI_VENDOR_DEVICE_OFF))

section Bytes

variable {space : ConfigSpace} {o : BitVec 8} {R : BitVec 32 → BitVec 32} {device : BitVec 32}

/-- The bytes of a dword. -/
theorem dword_bytes (x y z w : BitVec 8) {d : BitVec 32}
    (hd : d = x.zeroExtend 32 ||| y.zeroExtend 32 <<< 8 ||| z.zeroExtend 32 <<< 16 |||
      w.zeroExtend 32 <<< 24) :
    (d >>> 0).setWidth 8 = x ∧ (d >>> 8).setWidth 8 = y ∧ (d >>> 16).setWidth 8 = z ∧
      (d >>> 24).setWidth 8 = w := by
  have hhigh : ∀ (v : BitVec 8) i, 8 ≤ i → v.getLsbD i = false := fun v i h => v.getLsbD_of_ge i h
  subst hd
  refine ⟨?_, ?_, ?_, ?_⟩ <;> ext i hi
  · simp
  · simp [hi, show 8 + i < 16 by omega, show 8 + i < 24 by omega, show 8 + i < 32 by omega]
  · simp [hi, show ¬ 16 + i < 8 by omega, show 16 + i < 24 by omega, show 16 + i < 32 by omega,
      hhigh _ (16 + i) (by omega), hhigh _ (16 + i - 8) (by omega)]
  · simp [hi, show ¬ 24 + i < 8 by omega, show ¬ 24 + i < 16 by omega, show 24 + i < 32 by omega,
      hhigh _ (24 + i) (by omega), hhigh _ (24 + i - 8) (by omega),
      hhigh _ (24 + i - 16) (by omega)]

theorem offset_split : ∀ o : BitVec 8, ∃ r < 4, o = (o &&& 0xfc) + BitVec.ofNat 8 r ∧
    (8 * (o.zeroExtend 32 &&& 3)).toNat = 8 * r ∧
    o.zeroExtend 32 &&& 0xfc = (o &&& 0xfc).zeroExtend 32 ∧ (o &&& 0xfc) &&& 3 = 0 := by
  decide

/-- `read_config_byte` takes the byte of the space out of its dword. -/
theorem ConfigSpace.Shows.byte (h : space.Shows R device) (o : BitVec 8) :
    ((R (configAddress device 0 (o.zeroExtend 32 &&& 0xfc)) >>>
      (8 * (o.zeroExtend 32 &&& 3)).toNat).setWidth 8 : BitVec 8) = space o := by
  obtain ⟨r, hr, hsplit, hshift, hbase, haligned⟩ := offset_split o
  rw [hshift, hbase, h _ haligned]
  conv_rhs => rw [hsplit]
  generalize o &&& 0xfc = base
  obtain ⟨h0, h1, h2, h3⟩ := dword_bytes _ _ _ _ (show space.dword base = _ from rfl)
  interval_cases r
  · simpa using h0
  · exact h1
  · exact h2
  · exact h3

end Bytes

/-! ## The walk -/

section Walk

open Prog ConfigSpace

variable {writable R : BitVec 32 → BitVec 32} {env : PortEnv} {space : ConfigSpace}
  {device : BitVec 32} {slot : Word} {s : Inspection Bus}

theorem PortEnv.passes_all (hports : ∀ n, env.fails n = false) (n : Nat) : env.passes n = true := by
  rw [PortEnv.passes, hports, hports]
  rfl

section Reads

variable {σ ε α : Type} [Part σ Bus] {s : σ} {Q : α → σ → Prop} {E : Bool → σ → Prop}

theorem wp_releaseReturn {success : Bool} (h : E success s) :
    wp (releaseReturn (busMachine writable env) slot success) Q E s := by
  refine wp_bind (wp_modify (wp_ret ?_))
  rwa [releaseConfigIoport_bus, withPart_part]

theorem wp_readOrRelease {f : Bus → Option α × Bus}
    (h : wp (Prog.access f) (fun r t => match r with
      | some a => Q a t
      | none => E false t) E s) :
    wp (readOrRelease (busMachine writable env) slot f) Q E s := by
  refine wp_bind (wp_mono h ?_ fun _ _ h => h)
  rintro r t hr
  cases r with
  | some a => exact wp_pure hr
  | none => exact wp_releaseReturn hr

theorem wp_unlessRelease {c : Prop} [Decidable c] {Q : Unit → σ → Prop}
    (hok : c → Q () s) (hfail : ¬ c → E false s) :
    wp (unlessRelease (busMachine writable env) slot c) Q E s :=
  wp_when (fun h => wp_releaseReturn (hfail h)) fun h => hok (Decidable.not_not.mp h)

variable {E : ε → σ → Prop}

/-- A read of a dword that succeeds. -/
theorem wp_readsDword {Q : Option (BitVec 32) → σ → Prop} {dev offset : BitVec 32}
    (hports : ∀ n, env.fails n = false) (hR : (part s).registers = R)
    (h : ∀ b : Bus, b.registers = R →
      Q (some (R (configAddress dev 0 offset))) (withPart b s)) :
    wp (Prog.access (readConfigDword (busMachine writable env) slot dev 0 offset)) Q E s := by
  refine wp_access readConfigDword_bus ?_
  rw [PortEnv.passes_all hports, if_pos rfl]
  exact hR ▸ h _ hR

/-- A read of a word that succeeds. -/
theorem wp_readsWord {Q : Option (BitVec 16) → σ → Prop} {dev offset : BitVec 32}
    (hports : ∀ n, env.fails n = false) (hR : (part s).registers = R)
    (h : ∀ b : Bus, b.registers = R →
      Q (some (halfOf (upperHalf offset) (R (configAddress dev 0 offset)))) (withPart b s)) :
    wp (Prog.access (readConfigWord (busMachine writable env) slot dev 0 offset)) Q E s := by
  refine wp_access readConfigWord_bus ?_
  rw [PortEnv.passes_all hports, if_pos rfl]
  exact hR ▸ h _ hR

/-- A read of a byte of the space. -/
theorem wp_readsByte {Q : Option (BitVec 8) → σ → Prop} {offset : BitVec 32} {o : BitVec 8}
    (hports : ∀ n, env.fails n = false) (hspace : space.Shows R device)
    (hR : (part s).registers = R) (ho : offset = o.zeroExtend 32)
    (h : ∀ b : Bus, b.registers = R → Q (some (space o)) (withPart b s)) :
    wp (Prog.access (readConfigByte (busMachine writable env) slot device 0 offset)) Q E s := by
  have hread : readConfigByte (busMachine writable env) slot device 0 offset (part s) =
      (some (space o), (part s).touch env (configAddress device 0 (offset &&& 0xfc))) := by
    rw [readConfigByte, readConfigDword_bus, PortEnv.passes_all hports, if_pos rfl]
    dsimp only
    rw [hR, ho, hspace.byte]
  exact wp_access hread (h _ hR)

/-- The search for the device finds the first one. -/
theorem wp_matchDevices (hports : ∀ n, env.fails n = false) (hR : (part s).registers = R)
    (hdevice : FirstDevice R device) :
    wp (firstUp (matchDevice (busMachine writable env) slot) 0 32)
      (fun d t => d = some device ∧ (part t).registers = R) E s := by
  obtain ⟨k, hk, rfl, hid, hbefore⟩ := hdevice
  refine wp_firstUp (fun i t => i ≤ k ∧ (part t).registers = R) 0 32 s ⟨Nat.zero_le k, hR⟩ ?_
    fun t ht => absurd ht.1 (by omega)
  rintro i t - hi ⟨hik, ht⟩
  refine wp_bind (wp_readsDword hports ht fun b hb => ?_)
  have hregisters : (part (withPart b t)).registers = R := by rw [part_withPart, hb]
  refine wp_ite (fun hyes => wp_pure ⟨?_, hregisters⟩) fun hno => wp_pure ⟨?_, hregisters⟩
  · rcases Nat.lt_or_eq_of_le hik with hlt | rfl
    · exact absurd hyes (hbefore i hlt)
    · rfl
  · rcases Nat.lt_or_eq_of_le hik with hlt | rfl
    · exact hlt
    · exact absurd hid hno

end Reads

/-- The offsets in a capability do not wrap. -/
theorem pointer_offsets : ∀ p : BitVec 8, p ≤ PCI_CAPABILITY_LAST →
    p.zeroExtend 32 + 1 = (p + 1).zeroExtend 32 ∧ p.zeroExtend 32 + 3 = (p + 3).zeroExtend 32 ∧
    p.zeroExtend 32 + 4 = (p + 4).zeroExtend 32 ∧ p.zeroExtend 32 + 8 = (p + 8).zeroExtend 32 ∧
    p.zeroExtend 32 + 12 = (p + 12).zeroExtend 32 ∧
    (p &&& 3 = 0 → (p + 8) &&& 3 = 0 ∧ (p + 12) &&& 3 = 0) := by
  decide

/-- The fields of the capability at `p`, if it is a common one. -/
theorem readCommonFields_wp {ε : Type} {E : ε → Inspection Bus → Prop}
    {Q : Option (BitVec 8 × BitVec 32 × BitVec 32) → Inspection Bus → Prop} {p : BitVec 8}
    (hports : ∀ n, env.fails n = false) (hspace : space.Shows R device)
    (hR : s.machine.registers = R) (hp : p ≤ PCI_CAPABILITY_LAST) (haligned : p &&& 3 = 0)
    (hyes : space.IsCommon p → ∀ b : Bus, b.registers = R →
      Q (some (space (p + 4), space.dword (p + 8), space.dword (p + 12)))
        { s with machine := b })
    (hno : ¬ space.IsCommon p → ∀ b : Bus, b.registers = R → Q none { s with machine := b }) :
    wp (readCommonFields (busMachine writable env) slot device p (space p)) Q E s := by
  obtain ⟨-, h3, h4, h8, h12, hwords⟩ := pointer_offsets p hp
  obtain ⟨hword8, hword12⟩ := hwords haligned
  unfold readCommonFields
  refine wp_ite (fun hid => wp_pure (hno (fun h => hid h.1) _ hR)) fun hid => ?_
  refine wp_bind (wp_readsByte hports hspace hR h3 fun b hb => ?_)
  refine wp_bind (wp_readsByte hports hspace hb h4 fun b hb => ?_)
  refine wp_bind (wp_readsDword hports hb fun b hb => ?_)
  refine wp_bind (wp_readsDword hports hb fun b hb => ?_)
  rw [h8, h12, hspace _ hword8, hspace _ hword12]
  refine wp_ite (fun h => wp_pure (hyes ⟨Decidable.not_not.mp hid, h⟩ _ hb)) fun h => ?_
  exact wp_pure (hno (fun hc => h hc.2) _ hb)

/-- What the walk gives, in terms of a search over the chain. -/
def WalkResult {τ : Type} (capabilityAt : BitVec 8 → τ) (found : Option (BitVec 8))
    (success : Bool) (capability : τ) : Prop :=
  match found with
  | some p => success = true ∧ capability = capabilityAt p
  | none => success = false

/-- A walk that finds what a search finds returns true if and only if there is such a node. -/
theorem WalkResult.iff {τ : Type} {capabilityAt : BitVec 8 → τ} {found : Option (BitVec 8)}
    {success : Bool} {c : τ} {P : BitVec 8 → Prop} (h : WalkResult capabilityAt found success c)
    (hfound : ∀ p, found = some p ↔ P p) :
    (success = true ↔ ∃ p, P p) ∧ ∀ p, P p → c = capabilityAt p := by
  cases found with
  | some q =>
    obtain ⟨rfl, rfl⟩ := h
    refine ⟨⟨fun _ => ⟨q, (hfound q).mp rfl⟩, fun _ => rfl⟩, fun p hp => ?_⟩
    rw [Option.some.inj ((hfound p).mpr hp)]
  | none =>
    have hfalse : success = false := h
    subst hfalse
    exact ⟨⟨nofun, fun ⟨p, hp⟩ => nomatch (hfound p).mpr hp⟩, fun p hp => nomatch (hfound p).mpr hp⟩

/-- One iteration: the walk ends, or it goes on with a node that is not a common capability. -/
theorem walkStep_wp {p : BitVec 8} (hports : ∀ n, env.fails n = false)
    (hspace : space.Shows R device) (hR : s.machine.registers = R) (n : Nat) :
    wp (walkStep (busMachine writable env) slot device p)
      (fun q t => t.machine.registers = R ∧ search space.next space.IsCommon (n + 1) (pointer p) =
        search space.next space.IsCommon n (pointer q))
      (fun success t => WalkResult (space.commonCapability device)
        (search space.next space.IsCommon (n + 1) (pointer p)) success t.capability) s := by
  unfold walkStep
  refine wp_bind (wp_unlessRelease (fun hvalid => ?_) fun hvalid => ?_)
  · rw [show pointer p = some p from if_pos hvalid, search]
    have hnext := (pointer_offsets p hvalid.2.1).1
    refine wp_bind (wp_readOrRelease (wp_readsByte hports hspace hR rfl fun b hb => ?_))
    refine wp_bind (wp_readOrRelease (wp_readsByte hports hspace hb hnext fun b hb => ?_))
    refine wp_bind (readCommonFields_wp hports hspace hb hvalid.2.1 hvalid.2.2
      (fun hcommon b hb => ?_) fun hcommon b hb => ?_)
    · rw [if_pos hcommon]
      exact wp_bind (wp_modify (wp_releaseReturn ⟨rfl, rfl⟩))
    · rw [if_neg hcommon]
      refine wp_ite (fun hzero => wp_releaseReturn ?_) fun _ => wp_pure ⟨hb, rfl⟩
      have hend : space.next p = none := by
        rw [next, hzero]
        rfl
      rw [hend, search_none]
      rfl
  · rw [show pointer p = none from if_neg hvalid, search_none]
    rfl

theorem walk_wp (hports : ∀ n, env.fails n = false) (hspace : space.Shows R device) (n lo : Nat)
    (p : BitVec 8) (s : Inspection Bus) (hR : s.machine.registers = R) :
    wp (foldUp (fun _ current => walkStep (busMachine writable env) slot device current) lo n p)
      (fun _ t => WalkResult (space.commonCapability device)
        (search space.next space.IsCommon n (pointer p)) false t.capability)
      (fun success t => WalkResult (space.commonCapability device)
        (search space.next space.IsCommon n (pointer p)) success t.capability) s := by
  induction n generalizing lo p s with
  | zero => exact wp_pure rfl
  | succ n ih =>
    refine wp_seq (walkStep_wp hports hspace hR n) (fun _ _ h => h) fun q t ⟨ht, hq⟩ => ?_
    rw [hq]
    exact ih (lo + 1) q t ht

/-- The tests before the walk: the function has a capability list and a header of type 0. -/
def ConfigSpace.HasList (space : ConfigSpace) : Prop :=
  space 0x06 &&& 0x10 ≠ 0 ∧ space 0x0e &&& 0x7f = 0

/-- The nodes of a chain are the 45 offsets that are in range. -/
def pointers : Finset (BitVec 8) := (Finset.range 45).image fun i => BitVec.ofNat 8 (0x40 + 4 * i)

theorem mem_pointers : ∀ p : BitVec 8,
    PCI_CAPABILITY_FIRST ≤ p ∧ p ≤ PCI_CAPABILITY_LAST ∧ p &&& 3 = 0 → p ∈ pointers := by
  decide

theorem mem_pointers_of_follow {i : Nat} {p : BitVec 8}
    (h : follow space.next (pointer (space 0x34)) i = some p) : p ∈ pointers := by
  have hpointer : ∀ {q r : BitVec 8}, pointer q = some r → r ∈ pointers := by
    intro q r h
    rw [pointer] at h
    split at h
    · next hvalid =>
      cases h
      exact mem_pointers q hvalid
    · cases h
  cases i with
  | zero => exact hpointer h
  | succ i =>
    obtain ⟨c, -, hc⟩ := Option.bind_eq_some_iff.mp h
    exact hpointer hc

/-- The limit of the walk does not matter. -/
theorem search_limit {good : BitVec 8 → Prop} [DecidablePred good] {p : BitVec 8} :
    search space.next good PCI_CAPABILITY_LIMIT (pointer (space 0x34)) = some p ↔
      First space.next (pointer (space 0x34)) good p :=
  search_eq_some_iff (fun _ _ h => mem_pointers_of_follow h) (by decide)

theorem status_iff (hspace : space.Shows R device) :
    halfOf (upperHalf (PCI_COMMAND_STATUS_OFF + 2))
        (R (configAddress device 0 (PCI_COMMAND_STATUS_OFF + 2))) &&& PCI_STATUS_CAPABILITIES ≠ 0 ↔
      space 0x06 &&& 0x10 ≠ 0 := by
  have hword : R (configAddress device 0 (PCI_COMMAND_STATUS_OFF + 2)) = space.dword 0x04 :=
    hspace 0x04 (by decide)
  have hbyte := (dword_bytes _ _ _ _ (show space.dword 0x04 = _ from rfl)).2.2.1
  have hbit : (space 0x06).getLsbD 4 = (space.dword 0x04).getLsbD 20 := by
    rw [show space 0x06 = _ from hbyte.symm]
    simp
  rw [hword, show upperHalf (PCI_COMMAND_STATUS_OFF + 2) = true by decide,
    show PCI_STATUS_CAPABILITIES = BitVec.twoPow 16 4 by decide,
    show (0x10 : BitVec 8) = BitVec.twoPow 8 4 by decide, BitVec.and_twoPow, BitVec.and_twoPow,
    hbit, show (halfOf true (space.dword 0x04)).getLsbD 4 = (space.dword 0x04).getLsbD 20 by
      simp [halfOf]]
  cases (space.dword 0x04).getLsbD 20 <;> decide

theorem header_iff (hspace : space.Shows R device) :
    R (configAddress device 0 PCI_HEADER_TYPE_OFF) >>> 16 &&& 0x7f = 0 ↔
      space 0x0e &&& 0x7f = 0 := by
  have hword : R (configAddress device 0 PCI_HEADER_TYPE_OFF) = space.dword 0x0c :=
    hspace 0x0c (by decide)
  have hbyte := (dword_bytes _ _ _ _ (show space.dword 0x0c = _ from rfl)).2.2.1
  rw [hword, show space 0x0e = _ from hbyte.symm, ← BitVec.toNat_inj, ← BitVec.toNat_inj,
    BitVec.toNat_and, BitVec.toNat_and, BitVec.toNat_setWidth]
  simp only [show (0x7f : BitVec 32).toNat = 2 ^ 7 - 1 by decide,
    show (0x7f : BitVec 8).toNat = 2 ^ 7 - 1 by decide, Nat.and_two_pow_sub_one_eq_mod,
    show (0 : BitVec 32).toNat = 0 from rfl, show (0 : BitVec 8).toNat = 0 from rfl,
    Nat.mod_mod_of_dvd _ (show 2 ^ 7 ∣ 2 ^ 8 by decide)]

/-- **The capability walk**, for every configuration space of the device: the function returns, and
it returns true if and only if the function has a capability list and a header of type 0 and the
chain comes to a common capability before it ends or comes back to an offset; the caller then has
the first one. -/
theorem inspectCommonCapability_iff (hports : ∀ n, env.fails n = false)
    (hacquires : env.acquires s.machine.operations = true)
    (hdevice : FirstDevice s.machine.registers device)
    (hspace : space.Shows s.machine.registers device) :
    ∃ success t, inspectCommonCapability (busMachine writable env) s = .ret success t ∧
      (success = true ↔ space.HasList ∧ ∃ p, space.FirstCommon p) ∧
      ∀ p, success = true → space.FirstCommon p →
        t.capability = space.commonCapability device p := by
  generalize hR : s.machine.registers = R at *
  refine exists_returns ?_
  unfold inspectCommonCapability
  refine wp_bind (wp_acquire (fun _ slot => ?_) fun h => nomatch h.symm.trans hacquires)
  -- The device.
  refine wp_seq (wp_matchDevices hports hR hdevice) (fun _ _ h => h) ?_
  rintro _ t ⟨rfl, ht⟩
  -- The tests before the walk.
  refine wp_bind (wp_readOrRelease (wp_readsWord hports ht fun b hb => ?_))
  refine wp_bind (wp_readOrRelease (wp_readsDword hports hb fun b hb => ?_))
  have hlist := and_congr (status_iff hspace) (header_iff hspace)
  refine wp_bind (wp_unlessRelease (fun htests => ?_) fun htests => ?_)
  · have hpointer : PCI_CAPABILITY_LIST_OFF = (0x34 : BitVec 8).zeroExtend 32 := by decide
    refine wp_bind (wp_readOrRelease (wp_readsByte hports hspace hb hpointer fun b hb => ?_))
    -- The walk.
    have hresult : ∀ {success : Bool} {t : Inspection Bus},
        WalkResult (space.commonCapability device) (search space.next space.IsCommon
          PCI_CAPABILITY_LIMIT (pointer (space 0x34))) success t.capability →
        (success = true ↔ space.HasList ∧ ∃ p, space.FirstCommon p) ∧
          ∀ p, success = true → space.FirstCommon p →
            t.capability = space.commonCapability device p := fun h => by
      obtain ⟨hiff, hfields⟩ := h.iff fun p => search_limit
      exact ⟨hiff.trans (and_iff_right (hlist.mp htests)).symm, fun p _ hp => hfields p hp⟩
    exact wp_seq (walk_wp hports hspace PCI_CAPABILITY_LIMIT 0 _ _ hb) (fun _ _ h => hresult h)
      fun _ _ h => wp_releaseReturn (hresult h)
  · exact ⟨⟨(nomatch ·), fun h => absurd (hlist.mpr h.1) htests⟩, fun _ h => nomatch h⟩

end Walk

/-! ## A function with two capabilities -/

/-- A modern virtio-blk function with a common capability at 0x50, behind one at 0x40 whose length
is too small. -/
def blkSpace (status : BitVec 8) : ConfigSpace := fun o =>
  match o.toNat with
  | 0x00 => 0xf4
  | 0x01 => 0x1a
  | 0x02 => 0x42
  | 0x03 => 0x10
  | 0x06 => status
  | 0x34 => 0x40
  | 0x40 => 0x09
  | 0x41 => 0x50
  | 0x43 => 0x01
  | 0x4c => 0x34
  | 0x50 => 0x09
  | 0x53 => 0x01
  | 0x5c => 0x38
  | _ => 0

/-- The function is function 0 of device 3, and there is no other. -/
def walkStart (status : BitVec 8) : Inspection Bus where
  machine :=
    { address := 0
      registers := fun address =>
        if address &&& 0xffffff03 = configAddress 3 0 0 then
          (blkSpace status).dword (address.setWidth 8)
        else 0xffffffff
      operations := 0
      writes := [] }
  capability := ⟨⟨0, 0, 0, 0⟩, 0, 0, 0, 0⟩

theorem walkStart_device (status : BitVec 8) :
    FirstDevice (walkStart status).machine.registers 3 := by
  refine ⟨3, by omega, rfl, ?_⟩
  revert status
  decide +kernel

set_option maxRecDepth 100000 in
theorem walkStart_shows : ∀ status : BitVec 8,
    (blkSpace status).Shows (walkStart status).machine.registers 3 := by
  intro status o ho
  obtain ⟨haddress, hoffset⟩ : configAddress 3 0 (o.zeroExtend 32) &&& 0xffffff03 =
      configAddress 3 0 0 ∧ (configAddress 3 0 (o.zeroExtend 32)).setWidth 8 = o := by
    revert o
    decide +kernel
  show (if _ then _ else _) = _
  rw [if_pos haddress, hoffset]

theorem blkSpace_first (status : BitVec 8) : (blkSpace status).FirstCommon 0x50 := by
  have hchain : follow (blkSpace status).next (ConfigSpace.pointer 0x40) 0 = some 0x40 ∧
      follow (blkSpace status).next (ConfigSpace.pointer 0x40) 1 = some 0x50 := by
    revert status
    decide +kernel
  have hshort : ¬ (blkSpace status).IsCommon 0x40 := by
    revert status
    decide +kernel
  refine ⟨1, hchain.2, ?_, fun i hi b hb => ?_, fun i j hij hj => ?_⟩
  · revert status
    decide +kernel
  · obtain rfl : i = 0 := by omega
    cases hchain.1.symm.trans hb
    exact hshort
  · obtain ⟨rfl, rfl⟩ : i = 0 ∧ j = 1 := by omega
    exact fun heq => nomatch (hchain.1.symm.trans heq).trans hchain.2

/-- The walk passes over the first capability and finds the second. -/
theorem inspectCommonCapability_iff_blk : ∃ t,
    inspectCommonCapability (busMachine (fun _ => 0) (portsWith fun _ => false)) (walkStart 0x10) =
      .ret true t ∧
    (blkSpace 0x10).HasList ∧ (blkSpace 0x10).FirstCommon 0x50 ∧
    t.capability = (blkSpace 0x10).commonCapability 3 0x50 := by
  have hlist : (blkSpace 0x10).HasList := by
    unfold ConfigSpace.HasList
    decide
  obtain ⟨success, t, hrun, hiff, hfields⟩ :=
    @inspectCommonCapability_iff (fun _ => 0) (portsWith fun _ => false) _ _ _ (fun _ => rfl) rfl
      (walkStart_device 0x10) (walkStart_shows 0x10)
  have hsuccess : success = true := hiff.mpr ⟨hlist, 0x50, blkSpace_first 0x10⟩
  rw [hsuccess] at hrun
  exact ⟨t, hrun, hlist, blkSpace_first 0x10, hfields 0x50 hsuccess (blkSpace_first 0x10)⟩

set_option maxRecDepth 100000 in
/-- Without the bit of the status register there is no walk. -/
theorem inspectCommonCapability_needs_status :
    FirstDevice (walkStart 0).machine.registers 3 ∧
    (blkSpace 0).Shows (walkStart 0).machine.registers 3 ∧
    ¬ ∃ success t, inspectCommonCapability (busMachine (fun _ => 0) (portsWith fun _ => false))
        (walkStart 0) = .ret success t ∧
      (success = true ↔ ∃ p, (blkSpace 0).FirstCommon p) := by
  refine ⟨walkStart_device 0, walkStart_shows 0, ?_⟩
  rintro ⟨success, t, hrun, hiff⟩
  have hfalse : ((inspectCommonCapability (busMachine (fun _ => 0) (portsWith fun _ => false))
      (walkStart 0)).returned.map (·.1)) = some false := by
    decide +kernel
  rw [hrun] at hfalse
  cases hfalse
  exact nomatch hiff.mpr ⟨0x50, blkSpace_first 0⟩

end SeLinOS.Pci
