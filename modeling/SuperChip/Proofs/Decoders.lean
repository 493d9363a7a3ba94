import SuperChip.Disassembler
import SuperChip.Proofs.OpcodeTable

/-!
# The disassembler and the machine read opcodes alike

Opcodes are read twice.  The machine takes the digits of an opcode apart and finds its
instruction (`Instruction.decode`), and the disassembler looks words and last digits up in
tables of names (`Opcode.disassembly`).  Neither asks the other.  Here each instruction is
given its text, and it is shown that this is what the disassembler says of every opcode that
asks for the instruction; an opcode that asks for none is shown as an error.

## Strategy

Only four families have tables.  A table has finitely many keys, so that there is one lemma
for each that runs through all digits; the other families have one instruction each, and
there both sides say the same from the start.
-/

namespace SuperChip

open Disassembly

/-! ## The texts of the instructions -/

namespace Arithmetic

/-- The name of an operation, filled up to four characters. -/
def name : Arithmetic → String
  | copy => "ld  "
  | or => "or  "
  | and => "and "
  | xor => "xor "
  | add => "add "
  | subtract => "sub "
  | shiftRight => "shr "
  | subtractFrom => "subn"
  | shiftLeft => "shl "

/-- What an operation does, in a sentence. -/
def meaning : Arithmetic → String
  | copy => "Set Vx to Vy."
  | or => "Set Vx to Vx OR Vy."
  | and => "Set Vx to Vx AND Vy."
  | xor => "Set Vx to Vx XOR Vy."
  | add => "Add Vy to Vx. VF=1 on carry, else 0."
  | subtract => "Subtract Vy from Vx. VF=1 if no borrow, else 0."
  | shiftRight => "Shift Vx right by 1. VF=bit shifted out."
  | subtractFrom => "Set Vx to Vy - Vx. VF=1 if no borrow, else 0."
  | shiftLeft => "Shift Vx left by 1. VF=bit shifted out."

/-- The pattern of the opcodes of an operation. -/
def pattern : Arithmetic → String
  | copy => "8xy0"
  | or => "8xy1"
  | and => "8xy2"
  | xor => "8xy3"
  | add => "8xy4"
  | subtract => "8xy5"
  | shiftRight => "8xy6"
  | subtractFrom => "8xy7"
  | shiftLeft => "8xyE"

/-- Whether the second register is read. -/
def isBinary : Arithmetic → Bool
  | shiftRight => false
  | shiftLeft => false
  | _ => true

end Arithmetic

namespace Instruction

/-- The text of an instruction. -/
def disassembly : Instruction → Disassembly
  | clear => ⟨"cls", "Clear the entire display.", "00E0"⟩
  | ret => ⟨"ret", "Pop address from stack to PC to return from a subroutine.", "00EE"⟩
  | scrollDown rows =>
    ⟨s!"scdown {rows.val}", "Scroll display down by N pixels. (SCHIP)", "00Cn"⟩
  | scrollRight => ⟨"scright", "Scroll display right by 4 pixels. (SCHIP)", "00FB"⟩
  | scrollLeft => ⟨"scleft", "Scroll display left by 4 pixels. (SCHIP)", "00FC"⟩
  | exit => ⟨"exit", "Exit the interpreter. (SCHIP)", "00FD"⟩
  | switchResolution .low => ⟨"low", "Switch to 64x32 resolution. (SCHIP)", "00FE"⟩
  | switchResolution .high => ⟨"high", "Switch to 128x64 resolution. (SCHIP)", "00FF"⟩
  | jump target => ⟨s!"jp   {addressText target}", "Jump to address NNN.", "1nnn"⟩
  | call target =>
    ⟨s!"call {addressText target}", "Push PC to stack, then jump to NNN.", "2nnn"⟩
  | skipImmediate true x kk =>
    ⟨s!"se   {registerName x}, {byteText kk}", "Skip next instruction if Vx equals KK.", "3xkk"⟩
  | skipImmediate false x kk =>
    ⟨s!"sne  {registerName x}, {byteText kk}",
      "Skip next instruction if Vx does not equal KK.", "4xkk"⟩
  | skipRegister true x y _ =>
    ⟨s!"se   {registerName x}, {registerName y}",
      "Skip next instruction if Vx equals Vy.", "5xy0"⟩
  | skipRegister false x y _ =>
    ⟨s!"sne  {registerName x}, {registerName y}",
      "Skip next instruction if Vx does not equal Vy.", "9xy0"⟩
  | loadImmediate x kk =>
    ⟨s!"ld   {registerName x}, {byteText kk}", "Load KK into Vx.", "6xkk"⟩
  | addImmediate x kk =>
    ⟨s!"add  {registerName x}, {byteText kk}", "Add KK to Vx (no carry flag).", "7xkk"⟩
  | combine operation x y =>
    ⟨if operation.isBinary then s!"{operation.name} {registerName x}, {registerName y}"
      else s!"{operation.name} {registerName x}", operation.meaning, operation.pattern⟩
  | loadIndex target =>
    ⟨s!"ld   I, {addressText target}", "Load NNN into the index register I.", "Annn"⟩
  | jumpOffset target => ⟨s!"jp   v0, {addressText target}", "Jump to NNN plus V0.", "Bnnn"⟩
  | random x kk =>
    ⟨s!"rnd  {registerName x}, {byteText kk}", "Set Vx to a random byte AND KK.", "Cxkk"⟩
  | draw x y n =>
    ⟨s!"drw  {registerName x}, {registerName y}, 0x{Hexadecimal.upper 1 n.val}",
      "Draw N-row sprite from I at (Vx, Vy). VF=1 on collision.", "Dxyn"⟩
  | skipKey true x =>
    ⟨s!"skp  {registerName x}", "Skip next instruction if key Vx is pressed.", "Ex9E"⟩
  | skipKey false x =>
    ⟨s!"sknp {registerName x}", "Skip next instruction if key Vx is not pressed.", "ExA1"⟩
  | readDelay x => ⟨s!"ld   {registerName x}, DT", "Set Vx to the delay timer.", "Fx07"⟩
  | awaitKey x =>
    ⟨s!"ld   {registerName x}, K", "Wait for a key press, store the key in Vx.", "Fx0A"⟩
  | setDelay x => ⟨s!"ld   DT, {registerName x}", "Set the delay timer to Vx.", "Fx15"⟩
  | setSound x => ⟨s!"ld   ST, {registerName x}", "Set the sound timer to Vx.", "Fx18"⟩
  | addIndex x => ⟨s!"add  I, {registerName x}", "Add Vx to I.", "Fx1E"⟩
  | smallGlyph x =>
    ⟨s!"ld   F, {registerName x}", "Point I at the 5-byte glyph for digit Vx.", "Fx29"⟩
  | bigGlyph x =>
    ⟨s!"ld   HF, {registerName x}", "Point I at the 10-byte glyph for digit Vx. (SCHIP)", "Fx30"⟩
  | decimal x => ⟨s!"bcd  {registerName x}", "Store BCD of Vx at I, I+1, I+2.", "Fx33"⟩
  | store x => ⟨s!"ld   [I], {registerRange x}", "Store V0..Vx to memory at I.", "Fx55"⟩
  | load x => ⟨s!"ld   {registerRange x}, [I]", "Load V0..Vx from memory at I.", "Fx65"⟩
  | saveFlags x => ⟨s!"ld   R, {registerRange x}", "Save V0..Vx to RPL flags. (SCHIP)", "Fx75"⟩
  | loadFlags x =>
    ⟨s!"ld   {registerRange x}, R", "Load V0..Vx from RPL flags. (SCHIP)", "Fx85"⟩

end Instruction

namespace Opcode

open Instruction

variable (op : Opcode)

/-! ## The four tables -/

theorem systemNamed?_eq (hfamily : op.family.val = 0x0) :
    op.systemNamed? = (decodeDisplay op).map Instruction.disassembly := by
  obtain ⟨family, ⟨x, hx⟩, ⟨y, hy⟩, ⟨n, hn⟩⟩ := op
  -- the three digits behind the family, as the one number that the table asks for
  obtain ⟨k, rfl, rfl, rfl⟩ : ∃ k, x = k / 256 ∧ y = k / 16 % 16 ∧ n = k % 16 :=
    ⟨x * 256 + y * 16 + n, by omega, by omega, by omega⟩
  have hword : (⟨family, ⟨k / 256, hx⟩, ⟨k / 16 % 16, hy⟩, ⟨k % 16, hn⟩⟩ : Opcode).toNat = k := by
    have hzero : family.val = 0 := hfamily
    simp only [toNat, hzero]
    omega
  rw [systemNamed?, hword]
  clear hword hfamily
  unfold systemText? decodeDisplay
  dsimp only
  split
  case h_8 =>
    by_cases hscroll : k / 16 = 0x00C
    · have hx' : k / 256 = 0 := by omega
      have hy' : k / 16 % 16 = 0xC := by omega
      simp only [if_pos hscroll, hx', hy']
      rfl
    · -- neither a word of the table nor a scroll down, so that no digits match
      rw [if_neg hscroll]
      split
      case h_9 => rfl
      all_goals
        exfalso
        grind
  all_goals rfl

theorem arithmeticText?_eq (n : Fin 16) :
    (arithmeticText? n.val).map (fun entry => (column entry.1, entry.2)) =
      (decodeArithmetic n).map fun operation =>
        (operation.name, operation.meaning, operation.pattern) := by
  decide +kernel +revert

/-- The shifts read one register. -/
theorem isBinary_of_decodeArithmetic {n : Fin 16} {operation : Arithmetic}
    (h : decodeArithmetic n = some operation) :
    operation.isBinary = !decide (n.val = 0x6 ∨ n.val = 0xE) := by
  -- there are sixteen digits, so that all of them are tried
  have hall : ∀ n : Fin 16, (decodeArithmetic n).all (fun operation =>
      operation.isBinary == !decide (n.val = 0x6 ∨ n.val = 0xE)) = true := by
    decide
  have hn := hall n
  rw [h] at hn
  simpa using hn

theorem arithmeticNamed?_eq :
    op.arithmeticNamed? =
      (decodeArithmetic op.n).map fun operation => (combine operation op.x op.y).disassembly := by
  have htable := arithmeticText?_eq op.n
  rw [arithmeticNamed?]
  cases hoperation : decodeArithmetic op.n with
  | none =>
      rw [hoperation, Option.map_none, Option.map_eq_none_iff] at htable
      rw [htable]
      rfl
  | some operation =>
      rw [hoperation, Option.map_some, Option.map_eq_some_iff] at htable
      obtain ⟨⟨name, meaning, pattern⟩, hfound, hsame⟩ := htable
      simp only [Prod.mk.injEq] at hsame
      obtain ⟨hname, hmeaning, hpattern⟩ := hsame
      have hbinary := isBinary_of_decodeArithmetic hoperation
      rw [hfound, Option.map_some, Option.map_some]
      by_cases hshift : op.n.val = 0x6 ∨ op.n.val = 0xE
      · simp [Instruction.disassembly, hname, hmeaning, hpattern, hshift, hbinary]
      · simp [Instruction.disassembly, hname, hmeaning, hpattern, hshift, hbinary]

theorem keyNamed?_eq : op.keyNamed? = (decodeKey op).map Instruction.disassembly := by
  obtain ⟨family, x, ⟨y, hy⟩, ⟨n, hn⟩⟩ := op
  -- the last two digits, as the one number that the table asks for
  obtain ⟨k, rfl, rfl⟩ : ∃ k, y = k / 16 ∧ n = k % 16 := ⟨y * 16 + n, by omega, by omega⟩
  have hskp : column "skp" ++ " " = "skp  " := by decide +kernel
  have hsknp : column "sknp" ++ " " = "sknp " := by decide +kernel
  rw [keyNamed?, toNat_kk, Nat.div_add_mod']
  unfold keyText? decodeKey
  dsimp only
  split
  case h_3 =>
    split
    case h_3 => rfl
    all_goals
      exfalso
      grind
  all_goals simp [Instruction.disassembly, toString, hskp, hsknp]

theorem transferNamed?_eq :
    op.transferNamed? = (decodeTransfer op).map Instruction.disassembly := by
  obtain ⟨family, x, ⟨y, hy⟩, ⟨n, hn⟩⟩ := op
  obtain ⟨k, rfl, rfl⟩ : ∃ k, y = k / 16 ∧ n = k % 16 := ⟨y * 16 + n, by omega, by omega⟩
  rw [transferNamed?, toNat_kk, Nat.div_add_mod']
  unfold transferText? decodeTransfer
  dsimp only
  split
  case h_13 =>
    split
    case h_13 => rfl
    all_goals
      exfalso
      grind
  all_goals rfl

/-! ## Agreement -/

variable {op}

/-- An opcode that asks for an instruction is shown as this instruction. -/
theorem disassembly_of_decode {instruction : Instruction} (h : decode op = some instruction) :
    op.disassembly = instruction.disassembly := by
  unfold decode at h
  split at h
  case h_1 hfamily =>
    simp only [disassembly, hfamily, systemNamed?_eq op hfamily, h]
    rfl
  case h_9 hfamily =>
    obtain ⟨operation, hoperation, rfl⟩ := Option.map_eq_some_iff.mp h
    simp only [disassembly, hfamily, arithmeticNamed?_eq, hoperation]
    rfl
  case h_15 hfamily =>
    simp only [disassembly, hfamily, keyNamed?_eq, h]
    rfl
  case h_16 =>
    unfold disassembly
    split
    case h_16 =>
      rw [transferNamed?_eq, h]
      rfl
    all_goals grind
  -- the families that are left have one instruction each, and no table
  all_goals
    rename_i hfamily
    cases h
    simp only [disassembly, hfamily]
    rfl

/-- An opcode that asks for no instruction is shown as an error. -/
theorem disassembly_of_decode_none (h : decode op = none) :
    ∃ meaning pattern, op.disassembly = op.unnamed meaning pattern := by
  unfold decode at h
  split at h
  case h_1 hfamily =>
    simp only [disassembly, hfamily, systemNamed?_eq op hfamily, h]
    exact ⟨_, _, rfl⟩
  case h_9 hfamily =>
    rw [Option.map_eq_none_iff] at h
    simp only [disassembly, hfamily, arithmeticNamed?_eq, h]
    exact ⟨_, _, rfl⟩
  case h_15 hfamily =>
    simp only [disassembly, hfamily, keyNamed?_eq, h]
    exact ⟨_, _, rfl⟩
  case h_16 =>
    unfold disassembly
    split
    case h_16 =>
      rw [transferNamed?_eq, h]
      exact ⟨_, _, rfl⟩
    all_goals grind
  all_goals cases h

end Opcode

end SuperChip
