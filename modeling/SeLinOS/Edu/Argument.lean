import SeLinOS.CLogic.Bytes
import SeLinOS.CLogic.Hex
import SeLinOS.Sel4.Ipc

/-!
# The arguments of the edu processes

The root task hands the record of a device to the processes that serve it as hexadecimal text in
their arguments. Three encoders write it (`selinos_edu_domain.c`), of 16, 8 and 2 digits; one
decoder reads a text of any length (`deviced.c`, `irqd.c` and `dmad.c` each have a copy) and one of
the driver (`edu_kapi_probe.c`) a text of a given length.

* `formatWordHex`, `formatDmaHex`, `formatByteHex`: the encoders.
* `parseHexWord`, `parseHexValue`: the decoders.
* `parseHexWord_format`, `parseHexValue_format`: what is read is what was written.
-/

namespace SeLinOS.Edu

open CLogic Sel4

/-- `hex`. -/
def HEX : List UInt8 :=
  [0x30, 0x31, 0x32, 0x33, 0x34, 0x35, 0x36, 0x37, 0x38, 0x39, 0x61, 0x62, 0x63, 0x64, 0x65, 0x66]

/-- `hex[(value >> shift) & 0xfu]`. -/
def hexChar {w : Nat} (value : BitVec w) (shift : Nat) : UInt8 :=
  HEX.getD ((value >>> shift) &&& 0xf).toNat 0

/-- The characters of a buffer before its NUL, which are all that a process gets of an argument. -/
def argument (buffer : List UInt8) : CStr where
  bytes := buffer.takeWhile (· != 0)
  noNul h := by simpa using List.mem_takeWhile_imp h

/-- `format_word_hex`, with the 17 bytes of the buffer. -/
def formatWordHex (value : Word) : List UInt8 :=
  (List.range 16).map (fun i => hexChar value (60 - 4 * i)) ++ [0]

/-- The loop of `issue_edu_dma_lease` over the DMA argument. -/
def formatDmaHex (paddr : Word) : List UInt8 :=
  (List.range 8).map (fun i => hexChar paddr (28 - 4 * i)) ++ [0]

/-- `format_byte_hex`. -/
def formatByteHex (value : BitVec 32) : List UInt8 := [hexChar value 4, hexChar value 0, 0]

/-- The value of a digit, as both decoders compute it. -/
def hexDigit (w : Nat) (c : UInt8) : Option (BitVec w) :=
  if 0x30 ≤ c ∧ c ≤ 0x39 then some (BitVec.ofNat w (c - 0x30).toNat)
  else if 0x61 ≤ c ∧ c ≤ 0x66 then some (BitVec.ofNat w (c - 0x61).toNat + 10)
  else none

/-- The loop of `parse_hex_word`, up to the NUL of the text. -/
def parseWordFrom (parsed : Word) : List UInt8 → Option Word
  | [] => some parsed
  | c :: rest =>
    match hexDigit 64 c with
    | none => none
    | some digit => parseWordFrom (parsed <<< 4 ||| digit) rest

/-- The loop of `parse_hex_value` over the next `n` characters, and its test for the NUL. The NUL of
the text is not a digit. -/
def parseValueFrom (value : BitVec 32) : Nat → List UInt8 → Option (BitVec 32)
  | 0, rest => if rest = [] then some value else none
  | _ + 1, [] => none
  | n + 1, c :: rest =>
    match hexDigit 32 c with
    | none => none
    | some digit => parseValueFrom (value <<< 4 ||| digit) n rest

/-- `parse_hex_word` of `deviced`. -/
def Deviced.parseHexWord (text : CStr) : Option Word := parseWordFrom 0 text.bytes

/-- `parse_hex_word` of `irqd`. -/
def Irqd.parseHexWord (text : CStr) : Option Word := parseWordFrom 0 text.bytes

/-- `parse_hex_word` of `dmad`. -/
def Dmad.parseHexWord (text : CStr) : Option Word := parseWordFrom 0 text.bytes

/-- `parse_hex_value` of the driver. -/
def Driver.parseHexValue (text : CStr) (digits : Nat) : Option (BitVec 32) :=
  parseValueFrom 0 digits text.bytes

/-! ## Digits -/

/-- The characters of the digits of a number. -/
def hexText (n k : Nat) : List UInt8 := (nibbles n k).map fun d => HEX.getD d 0

theorem HEX_ne_nul : ∀ d < 16, HEX.getD d 0 ≠ 0 := by decide

/-- Each digit reads back as its value, in both widths. -/
theorem hexDigit_HEX : ∀ d < 16, hexDigit 64 (HEX.getD d 0) = some (BitVec.ofNat 64 d) ∧
    hexDigit 32 (HEX.getD d 0) = some (BitVec.ofNat 32 d) := by
  decide

theorem parseWordFrom_digits (parsed : Word) {digits : List Nat} (h : ∀ d ∈ digits, d < 16) :
    parseWordFrom parsed (digits.map fun d => HEX.getD d 0) = some (pushNibbles parsed digits) := by
  induction digits generalizing parsed with
  | nil => rfl
  | cons d digits ih =>
    rw [List.map_cons, parseWordFrom, (hexDigit_HEX d (h d List.mem_cons_self)).1]
    exact ih _ fun e he => h e (List.mem_cons_of_mem d he)

theorem parseValueFrom_digits (value : BitVec 32) {digits : List Nat} (h : ∀ d ∈ digits, d < 16) :
    parseValueFrom value digits.length (digits.map fun d => HEX.getD d 0) =
      some (pushNibbles value digits) := by
  induction digits generalizing value with
  | nil => rfl
  | cons d digits ih =>
    rw [List.map_cons, List.length_cons, parseValueFrom,
      (hexDigit_HEX d (h d List.mem_cons_self)).2]
    exact ih _ fun e he => h e (List.mem_cons_of_mem d he)

/-- A process gets all the digits of a buffer. -/
theorem argument_hexText (n k : Nat) : (argument (hexText n k ++ [0])).bytes = hexText n k := by
  have hdigits : ∀ c ∈ hexText n k, (c != 0) = true := by
    intro c hc
    obtain ⟨d, hd, rfl⟩ := List.mem_map.mp hc
    simpa using HEX_ne_nul d (lt_of_mem_nibbles hd)
  show (hexText n k ++ [0]).takeWhile (· != 0) = hexText n k
  rw [List.takeWhile_append_of_pos hdigits, List.takeWhile_cons_of_neg (by decide),
    List.append_nil]

theorem hexChar_eq {w : Nat} (hw : 4 ≤ w) (value : BitVec w) (shift : Nat) :
    hexChar value shift = HEX.getD (nibble value.toNat shift) 0 := by
  rw [hexChar, toNat_and_15 hw]

theorem formatWordHex_eq (value : Word) : formatWordHex value = hexText value.toNat 16 ++ [0] := by
  rw [formatWordHex, hexText, nibbles_eq_map, List.map_map]
  congr 1
  refine List.map_congr_left fun i _ => ?_
  rw [hexChar_eq (by decide), Function.comp_apply, show 60 - 4 * i = 4 * (16 - 1 - i) by omega]

theorem formatDmaHex_eq (paddr : Word) : formatDmaHex paddr = hexText paddr.toNat 8 ++ [0] := by
  rw [formatDmaHex, hexText, nibbles_eq_map, List.map_map]
  congr 1
  refine List.map_congr_left fun i _ => ?_
  rw [hexChar_eq (by decide), Function.comp_apply, show 28 - 4 * i = 4 * (8 - 1 - i) by omega]

theorem formatByteHex_eq (value : BitVec 32) :
    formatByteHex value = hexText value.toNat 2 ++ [0] := by
  rw [formatByteHex, hexChar_eq (by decide), hexChar_eq (by decide)]
  rfl

/-! ## Round trips -/

theorem parseWordFrom_hexText {n k : Nat} (h : n < 16 ^ k) :
    parseWordFrom 0 (argument (hexText n k ++ [0])).bytes = some (BitVec.ofNat 64 n) := by
  rw [argument_hexText, hexText, parseWordFrom_digits 0 fun _ => lt_of_mem_nibbles,
    pushNibbles_zero h]

theorem parseHexValue_hexText {n k : Nat} (h : n < 16 ^ k) :
    Driver.parseHexValue (argument (hexText n k ++ [0])) k = some (BitVec.ofNat 32 n) := by
  have hread := parseValueFrom_digits 0 fun d (hd : d ∈ nibbles n k) => lt_of_mem_nibbles hd
  rw [length_nibbles, pushNibbles_zero h] at hread
  rw [Driver.parseHexValue, argument_hexText]
  exact hread

/-- A word of 16 digits. -/
theorem parseWordFrom_formatWordHex (value : Word) :
    parseWordFrom 0 (argument (formatWordHex value)).bytes = some value := by
  rw [formatWordHex_eq, parseWordFrom_hexText value.isLt, BitVec.ofNat_toNat, BitVec.setWidth_eq]

/-- A byte of 2 digits, read as a word. -/
theorem parseWordFrom_formatByteHex {value : BitVec 32} (h : value ≤ 0xff) :
    parseWordFrom 0 (argument (formatByteHex value)).bytes = some (value.setWidth 64) := by
  rw [formatByteHex_eq, parseWordFrom_hexText (Nat.lt_succ_of_le h), BitVec.ofNat_toNat]

/-- A byte of 2 digits, read by the driver. -/
theorem parseHexValue_formatByteHex {value : BitVec 32} (h : value ≤ 0xff) :
    Driver.parseHexValue (argument (formatByteHex value)) 2 = some value := by
  rw [formatByteHex_eq, parseHexValue_hexText (Nat.lt_succ_of_le h), BitVec.ofNat_toNat,
    BitVec.setWidth_eq]

/-- An address of 8 digits, read by the driver. -/
theorem parseHexValue_formatDmaHex {paddr : Word} (h : paddr.toNat < 2 ^ 32) :
    Driver.parseHexValue (argument (formatDmaHex paddr)) 8 = some (paddr.setWidth 32) := by
  rw [formatDmaHex_eq, parseHexValue_hexText (by omega), BitVec.ofNat_toNat]

end SeLinOS.Edu
