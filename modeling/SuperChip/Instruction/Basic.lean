import SuperChip.Opcode
import SuperChip.Variant

/-!
# Instructions

An instruction is what an opcode asks of the machine, with its operands taken
apart.  `Instruction.decode` is how the machine reads opcodes; the disassembler
has tables of its own.  An opcode that is refused has a meaning in no variant;
`Instruction.definedIn` says which of the others a variant executes.
-/

namespace SuperChip

/-- The operations of two registers; the result goes into the first. -/
inductive Arithmetic where
  | copy
  | or
  | and
  | xor
  | add
  | subtract
  | shiftRight
  | subtractFrom
  | shiftLeft
  deriving DecidableEq, Repr

/-- The instructions of both variants. -/
inductive Instruction where
  /-- Clear the whole display plane. -/
  | clear
  | ret
  /-- Scroll the active rectangle down. -/
  | scrollDown (rows : Fin 16)
  | scrollRight
  | scrollLeft
  /-- Do nothing; the host may stop here. -/
  | exit
  /-- Clear the plane and choose the active rectangle. -/
  | switchResolution (resolution : Resolution)
  | jump (target : Nat)
  | call (target : Nat)
  /-- Skip the next instruction if register and operand are equal, or if not. -/
  | skipImmediate (whenEqual : Bool) (x : Fin 16) (kk : UInt8)
  /-- Skip the next instruction if two registers are equal, or if not. The last
  digit is zero in the extended set. -/
  | skipRegister (whenEqual : Bool) (x y : Fin 16) (n : Fin 16)
  | loadImmediate (x : Fin 16) (kk : UInt8)
  /-- Add the operand and leave the flag alone. -/
  | addImmediate (x : Fin 16) (kk : UInt8)
  | combine (operation : Arithmetic) (x y : Fin 16)
  | loadIndex (target : Nat)
  /-- Jump to the operand plus register zero. -/
  | jumpOffset (target : Nat)
  /-- Load a random byte masked with the operand. -/
  | random (x : Fin 16) (kk : UInt8)
  | draw (x y : Fin 16) (n : Fin 16)
  /-- Skip the next instruction if the key in a register is pressed, or if not. -/
  | skipKey (whenPressed : Bool) (x : Fin 16)
  /-- Load the delay timer. -/
  | readDelay (x : Fin 16)
  | awaitKey (x : Fin 16)
  | setDelay (x : Fin 16)
  | setSound (x : Fin 16)
  | addIndex (x : Fin 16)
  /-- Point the index register at a small glyph. -/
  | smallGlyph (x : Fin 16)
  /-- Point the index register at a big glyph. -/
  | bigGlyph (x : Fin 16)
  /-- Store the three decimal digits of a register. -/
  | decimal (x : Fin 16)
  /-- Store the registers up to one of them. -/
  | store (x : Fin 16)
  /-- Load the registers up to one of them. -/
  | load (x : Fin 16)
  /-- Save the registers up to one of them in the persistent flags. -/
  | saveFlags (x : Fin 16)
  /-- Load the registers up to one of them from the persistent flags. -/
  | loadFlags (x : Fin 16)
  deriving DecidableEq, Repr

namespace Instruction

/-! ## Reading an opcode -/

/-- The instructions without operands and the scroll by rows. -/
def decodeDisplay (op : Opcode) : Option Instruction :=
  match op.x.val, op.y.val, op.n.val with
  | 0x0, 0xC, _ => some (.scrollDown op.n)
  | 0x0, 0xE, 0x0 => some .clear
  | 0x0, 0xE, 0xE => some .ret
  | 0x0, 0xF, 0xB => some .scrollRight
  | 0x0, 0xF, 0xC => some .scrollLeft
  | 0x0, 0xF, 0xD => some .exit
  | 0x0, 0xF, 0xE => some (.switchResolution .low)
  | 0x0, 0xF, 0xF => some (.switchResolution .high)
  | _, _, _ => none

/-- The operation of two registers that a last digit names. -/
def decodeArithmetic (n : Fin 16) : Option Arithmetic :=
  match n.val with
  | 0x0 => some .copy
  | 0x1 => some .or
  | 0x2 => some .and
  | 0x3 => some .xor
  | 0x4 => some .add
  | 0x5 => some .subtract
  | 0x6 => some .shiftRight
  | 0x7 => some .subtractFrom
  | 0xE => some .shiftLeft
  | _ => none

/-- The two instructions about the key in a register. -/
def decodeKey (op : Opcode) : Option Instruction :=
  match op.y.val, op.n.val with
  | 0x9, 0xE => some (.skipKey true op.x)
  | 0xA, 0x1 => some (.skipKey false op.x)
  | _, _ => none

/-- The timers, the key wait, the index register and the transfers. -/
def decodeTransfer (op : Opcode) : Option Instruction :=
  match op.y.val, op.n.val with
  | 0x0, 0x7 => some (.readDelay op.x)
  | 0x0, 0xA => some (.awaitKey op.x)
  | 0x1, 0x5 => some (.setDelay op.x)
  | 0x1, 0x8 => some (.setSound op.x)
  | 0x1, 0xE => some (.addIndex op.x)
  | 0x2, 0x9 => some (.smallGlyph op.x)
  | 0x3, 0x0 => some (.bigGlyph op.x)
  | 0x3, 0x3 => some (.decimal op.x)
  | 0x5, 0x5 => some (.store op.x)
  | 0x6, 0x5 => some (.load op.x)
  | 0x7, 0x5 => some (.saveFlags op.x)
  | 0x8, 0x5 => some (.loadFlags op.x)
  | _, _ => none

/-- The instruction that an opcode asks for, if any variant has one. -/
def decode (op : Opcode) : Option Instruction :=
  match op.family.val with
  | 0x0 => decodeDisplay op
  | 0x1 => some (.jump op.nnn)
  | 0x2 => some (.call op.nnn)
  | 0x3 => some (.skipImmediate true op.x op.kk)
  | 0x4 => some (.skipImmediate false op.x op.kk)
  | 0x5 => some (.skipRegister true op.x op.y op.n)
  | 0x6 => some (.loadImmediate op.x op.kk)
  | 0x7 => some (.addImmediate op.x op.kk)
  | 0x8 => (decodeArithmetic op.n).map fun operation => .combine operation op.x op.y
  | 0x9 => some (.skipRegister false op.x op.y op.n)
  | 0xA => some (.loadIndex op.nnn)
  | 0xB => some (.jumpOffset op.nnn)
  | 0xC => some (.random op.x op.kk)
  | 0xD => some (.draw op.x op.y op.n)
  | 0xE => decodeKey op
  | _ => decodeTransfer op

/-! ## Variants -/

/-- Whether a variant executes an instruction.  The extended set has scrolling,
resolutions, big glyphs and persistent flags of its own, but wants a zero as
the last digit of a comparison of registers. -/
def definedIn : Variant → Instruction → Bool
  | .schip, .skipRegister _ _ _ n => n == 0
  | .schip, _ => true
  | .chip8, .scrollDown _ => false
  | .chip8, .scrollRight => false
  | .chip8, .scrollLeft => false
  | .chip8, .exit => false
  | .chip8, .switchResolution _ => false
  | .chip8, .bigGlyph _ => false
  | .chip8, .saveFlags _ => false
  | .chip8, .loadFlags _ => false
  | .chip8, _ => true

/-- The instruction that an opcode asks for in a variant. -/
def decodeIn (variant : Variant) (op : Opcode) : Option Instruction :=
  (decode op).filter (definedIn variant)

/-- Whether an instruction takes a number from the random source. -/
def drawsRandom : Instruction → Bool
  | .random _ _ => true
  | _ => false

end Instruction

end SuperChip
