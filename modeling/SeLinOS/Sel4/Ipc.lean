import Mathlib.Tactic.NormNum

/-!
# seL4 messages

A message as its receiver sees it: the label, the number of extra capabilities and the words in the
message registers, `seL4_MessageInfo_get_length` of them. A register past the length reads as 0; the
servers here look at a register only when the length covers it.
-/

namespace SeLinOS.Sel4

/-- `seL4_Word`. -/
abbrev Word : Type := BitVec 64

/-- `seL4_MessageInfo_t` and the message registers. -/
structure Message where
  label : Word
  extraCaps : Nat
  words : List Word
  deriving Repr, DecidableEq

namespace Message

/-- `seL4_MessageInfo_get_length`. -/
def length (m : Message) : Nat := m.words.length

/-- `seL4_GetMR(i)`. -/
def mr (m : Message) (i : Nat) : Word := m.words.getD i 0

/-- A message of words only. -/
def ofWords (words : List Word) : Message := ⟨0, 0, words⟩

@[simp] theorem ofWords_words (words : List Word) : (ofWords words).words = words := rfl

@[simp] theorem ofWords_inj {words words' : List Word} :
    ofWords words = ofWords words' ↔ words = words' := by
  simp [ofWords]

end Message

end SeLinOS.Sel4
