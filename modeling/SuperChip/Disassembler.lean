import SuperChip.Opcode
import SuperChip.Text.Hexadecimal

/-!
# The disassembler

An opcode is shown by its mnemonic with the operands, together with a sentence
on what it does and the pattern of its opcodes.  The disassembler executes
nothing and asks no machine: it reads opcodes for itself, by their first digit,
and where a family has several instructions it looks them up in a table.  The
names of both variants are shown whatever variant is active, and an opcode
without a name is shown as an error with its word.
-/

namespace SuperChip

/-- What the disassembler says about an opcode. -/
structure Disassembly where
  mnemonic : String
  meaning : String
  pattern : String
  deriving DecidableEq, Repr

namespace Disassembly

/-! ## Operands -/

/-- The name of a register. -/
def registerName (x : Fin 16) : String := s!"v{x.val}"

/-- The names of the registers up to one of them. -/
def registerRange (x : Fin 16) : String := s!"v0-v{x.val}"

/-- An operand of two digits. -/
def byteText (kk : UInt8) : String := "0x" ++ Hexadecimal.upper 2 kk.toNat

/-- An operand of three digits. -/
def addressText (target : Nat) : String := "0x" ++ Hexadecimal.upper 3 target

/-- A name filled up to four characters. -/
def column (name : String) : String :=
  name ++ String.ofList (List.replicate (4 - name.length) ' ')

/-! ## Tables -/

/-- The words of family `0` that have a name. -/
def systemText? : Nat → Option Disassembly
  | 0x00E0 => some ⟨"cls", "Clear the entire display.", "00E0"⟩
  | 0x00EE => some ⟨"ret", "Pop address from stack to PC to return from a subroutine.", "00EE"⟩
  | 0x00FB => some ⟨"scright", "Scroll display right by 4 pixels. (SCHIP)", "00FB"⟩
  | 0x00FC => some ⟨"scleft", "Scroll display left by 4 pixels. (SCHIP)", "00FC"⟩
  | 0x00FD => some ⟨"exit", "Exit the interpreter. (SCHIP)", "00FD"⟩
  | 0x00FE => some ⟨"low", "Switch to 64x32 resolution. (SCHIP)", "00FE"⟩
  | 0x00FF => some ⟨"high", "Switch to 128x64 resolution. (SCHIP)", "00FF"⟩
  | _ => none

/-- The name, the meaning and the pattern of an operation of two registers, by the last
digit. -/
def arithmeticText? : Nat → Option (String × String × String)
  | 0x0 => some ("ld", "Set Vx to Vy.", "8xy0")
  | 0x1 => some ("or", "Set Vx to Vx OR Vy.", "8xy1")
  | 0x2 => some ("and", "Set Vx to Vx AND Vy.", "8xy2")
  | 0x3 => some ("xor", "Set Vx to Vx XOR Vy.", "8xy3")
  | 0x4 => some ("add", "Add Vy to Vx. VF=1 on carry, else 0.", "8xy4")
  | 0x5 => some ("sub", "Subtract Vy from Vx. VF=1 if no borrow, else 0.", "8xy5")
  | 0x6 => some ("shr", "Shift Vx right by 1. VF=bit shifted out.", "8xy6")
  | 0x7 => some ("subn", "Set Vx to Vy - Vx. VF=1 if no borrow, else 0.", "8xy7")
  | 0xE => some ("shl", "Shift Vx left by 1. VF=bit shifted out.", "8xyE")
  | _ => none

/-- The name, the meaning and the pattern of an instruction about a key, by the last two
digits. -/
def keyText? : Nat → Option (String × String × String)
  | 0x9E => some ("skp", "Skip next instruction if key Vx is pressed.", "Ex9E")
  | 0xA1 => some ("sknp", "Skip next instruction if key Vx is not pressed.", "ExA1")
  | _ => none

/-- The instructions of family `F` with a register, by the last two digits. -/
def transferText? (x : Fin 16) : Nat → Option Disassembly
  | 0x07 => some ⟨s!"ld   {registerName x}, DT", "Set Vx to the delay timer.", "Fx07"⟩
  | 0x0A =>
    some ⟨s!"ld   {registerName x}, K", "Wait for a key press, store the key in Vx.", "Fx0A"⟩
  | 0x15 => some ⟨s!"ld   DT, {registerName x}", "Set the delay timer to Vx.", "Fx15"⟩
  | 0x18 => some ⟨s!"ld   ST, {registerName x}", "Set the sound timer to Vx.", "Fx18"⟩
  | 0x1E => some ⟨s!"add  I, {registerName x}", "Add Vx to I.", "Fx1E"⟩
  | 0x29 =>
    some ⟨s!"ld   F, {registerName x}", "Point I at the 5-byte glyph for digit Vx.", "Fx29"⟩
  | 0x30 =>
    some ⟨s!"ld   HF, {registerName x}",
      "Point I at the 10-byte glyph for digit Vx. (SCHIP)", "Fx30"⟩
  | 0x33 => some ⟨s!"bcd  {registerName x}", "Store BCD of Vx at I, I+1, I+2.", "Fx33"⟩
  | 0x55 => some ⟨s!"ld   [I], {registerRange x}", "Store V0..Vx to memory at I.", "Fx55"⟩
  | 0x65 => some ⟨s!"ld   {registerRange x}, [I]", "Load V0..Vx from memory at I.", "Fx65"⟩
  | 0x75 =>
    some ⟨s!"ld   R, {registerRange x}", "Save V0..Vx to RPL flags. (SCHIP)", "Fx75"⟩
  | 0x85 =>
    some ⟨s!"ld   {registerRange x}, R", "Load V0..Vx from RPL flags. (SCHIP)", "Fx85"⟩
  | _ => none

end Disassembly

namespace Opcode

open Disassembly

/-- The word of an opcode in four digits. -/
def word (op : Opcode) : String := Hexadecimal.upper 4 op.toNat

/-- What is said about an opcode without a name: what it is not, and the pattern of its
neighbours. -/
def unnamed (op : Opcode) (meaning pattern : String) : Disassembly :=
  ⟨s!"ERROR 0x{op.word}", meaning, pattern⟩

/-- An opcode of family `0`, by its word; a scroll down has its rows in the last digit. -/
def systemNamed? (op : Opcode) : Option Disassembly :=
  systemText? op.toNat <|>
    if op.toNat / 16 = 0x00C then
      some ⟨s!"scdown {op.n.val}", "Scroll display down by N pixels. (SCHIP)", "00Cn"⟩
    else none

/-- An opcode of family `8`, by its last digit; a shift shows one register only. -/
def arithmeticNamed? (op : Opcode) : Option Disassembly :=
  (arithmeticText? op.n.val).map fun (name, meaning, pattern) =>
    if op.n.val = 0x6 ∨ op.n.val = 0xE then
      ⟨s!"{column name} {registerName op.x}", meaning, pattern⟩
    else ⟨s!"{column name} {registerName op.x}, {registerName op.y}", meaning, pattern⟩

/-- An opcode of family `E`, by its last two digits. -/
def keyNamed? (op : Opcode) : Option Disassembly :=
  (keyText? op.kk.toNat).map fun (name, meaning, pattern) =>
    ⟨s!"{column name} {registerName op.x}", meaning, pattern⟩

/-- An opcode of family `F`, by its last two digits. -/
def transferNamed? (op : Opcode) : Option Disassembly :=
  transferText? op.x op.kk.toNat

/-- What the disassembler says about an opcode. -/
def disassembly (op : Opcode) : Disassembly :=
  match op.family.val with
  | 0x0 => op.systemNamed?.getD (op.unnamed "Unknown 0-group instruction" "0nnn")
  | 0x1 => ⟨s!"jp   {addressText op.nnn}", "Jump to address NNN.", "1nnn"⟩
  | 0x2 => ⟨s!"call {addressText op.nnn}", "Push PC to stack, then jump to NNN.", "2nnn"⟩
  | 0x3 =>
    ⟨s!"se   {registerName op.x}, {byteText op.kk}",
      "Skip next instruction if Vx equals KK.", "3xkk"⟩
  | 0x4 =>
    ⟨s!"sne  {registerName op.x}, {byteText op.kk}",
      "Skip next instruction if Vx does not equal KK.", "4xkk"⟩
  | 0x5 =>
    ⟨s!"se   {registerName op.x}, {registerName op.y}",
      "Skip next instruction if Vx equals Vy.", "5xy0"⟩
  | 0x6 => ⟨s!"ld   {registerName op.x}, {byteText op.kk}", "Load KK into Vx.", "6xkk"⟩
  | 0x7 =>
    ⟨s!"add  {registerName op.x}, {byteText op.kk}", "Add KK to Vx (no carry flag).", "7xkk"⟩
  | 0x8 => op.arithmeticNamed?.getD (op.unnamed "Unknown arithmetic/logic op" "8xy?")
  | 0x9 =>
    ⟨s!"sne  {registerName op.x}, {registerName op.y}",
      "Skip next instruction if Vx does not equal Vy.", "9xy0"⟩
  | 0xA =>
    ⟨s!"ld   I, {addressText op.nnn}", "Load NNN into the index register I.", "Annn"⟩
  | 0xB => ⟨s!"jp   v0, {addressText op.nnn}", "Jump to NNN plus V0.", "Bnnn"⟩
  | 0xC =>
    ⟨s!"rnd  {registerName op.x}, {byteText op.kk}",
      "Set Vx to a random byte AND KK.", "Cxkk"⟩
  | 0xD =>
    ⟨s!"drw  {registerName op.x}, {registerName op.y}, 0x{Hexadecimal.upper 1 op.n.val}",
      "Draw N-row sprite from I at (Vx, Vy). VF=1 on collision.", "Dxyn"⟩
  | 0xE => op.keyNamed?.getD (op.unnamed "Unknown key instruction" "Ex??")
  | _ => op.transferNamed?.getD (op.unnamed "Unknown F-group instruction" "Fx??")

/-- The mnemonic of an opcode with its operands. -/
def mnemonic (op : Opcode) : String := op.disassembly.mnemonic

end Opcode

end SuperChip
