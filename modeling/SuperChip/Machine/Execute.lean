import SuperChip.Instruction.Basic
import SuperChip.Machine.Basic

/-!
# What each instruction does

An instruction is executed on a machine whose program counter already points
behind it.  Most instructions just change the machine.  Some meet an anomaly:
the program has asked for something that cannot be done, and the machine goes
on without it.  And an instruction fails with a fault where a host has put the
machine out of its ranges.
-/

namespace SuperChip

/-- What is wrong with a program that goes on nevertheless. -/
inductive Anomaly where
  /-- The variant has no instruction for the opcode. -/
  | unknownOpcode
  /-- No instruction fits between the program counter and the end of memory. -/
  | pcOverrun
  | stackOverflow
  | stackUnderflow
  /-- A register does not hold the number of a key. -/
  | badKey
  | spriteOverrun
  deriving DecidableEq, Repr

/-- The name of an anomaly in reports. -/
def Anomaly.name : Anomaly → String
  | unknownOpcode => "unknown-opcode"
  | pcOverrun => "pc-overrun"
  | stackOverflow => "stack-overflow"
  | stackUnderflow => "stack-underflow"
  | badKey => "bad-key"
  | spriteOverrun => "sprite-overrun"

/-- How the execution of an instruction ends, with the machine after it. -/
inductive Effect where
  | completed (m : Machine)
  | anomalous (anomaly : Anomaly) (m : Machine)
  | faulted (fault : Fault) (m : Machine)

/-! ## Combining two registers -/

namespace Arithmetic

/-- What an operation writes to its first register. -/
def result : Arithmetic → UInt8 → UInt8 → UInt8
  | copy, _, b => b
  | or, a, b => a ||| b
  | and, a, b => a &&& b
  | xor, a, b => a ^^^ b
  | add, a, b => a + b
  | subtract, a, b => a - b
  | shiftRight, a, _ => a >>> 1
  | subtractFrom, a, b => b - a
  | shiftLeft, a, _ => a <<< 1

/-- The flag of an operation that has one: the carry, the absence of a borrow
from unequal operands, or the bit shifted out. -/
def flag? : Arithmetic → UInt8 → UInt8 → Option UInt8
  | add, a, b => some (if 255 < a.toNat + b.toNat then 1 else 0)
  | subtract, a, b => some (if b < a then 1 else 0)
  | shiftRight, a, _ => some (a &&& 1)
  | subtractFrom, a, b => some (if a < b then 1 else 0)
  | shiftLeft, a, _ => some (a >>> 7)
  | _, _, _ => none

/-- Whether an operation is a shift, which takes its operand after the flag is written. -/
def isShift : Arithmetic → Bool
  | shiftRight => true
  | shiftLeft => true
  | _ => false

end Arithmetic

namespace Machine

/-- The machine after the flag of an operation on two registers is written. -/
def writeFlag (m : Machine) (operation : Arithmetic) (x y : Fin 16) : Machine :=
  match operation.flag? (m.v.get x) (m.v.get y) with
  | some flag => m.setRegister flagRegister flag
  | none => m

/-- Combine two registers. The result is written after the flag, so it wins
where the flag register is the first operand; and a shift of the flag register
shifts the flag that was just written there. -/
def combine (m : Machine) (operation : Arithmetic) (x y : Fin 16) : Machine :=
  let flagged := m.writeFlag operation x y
  let first := if operation.isShift then flagged.v.get x else m.v.get x
  flagged.setRegister x (operation.result first (m.v.get y))

/-! ## Subroutines -/

/-- Return from a subroutine; with no address on the stack the machine goes on. -/
def ret (m : Machine) : Effect :=
  if m.sp = 0 then .anomalous .stackUnderflow m
  else
    let m := { m with sp := m.sp - 1 }
    match indexIn 16 .stackRead m.sp with
    | .ok slot => .completed { m with pc := m.stack.get slot }
    | .error fault => .faulted fault m

/-- Call a subroutine. A call that finds the stack full jumps nevertheless. -/
def call (m : Machine) (target : Nat) : Effect :=
  if 16 ≤ m.sp then .anomalous .stackOverflow { m with pc := target }
  else match indexIn 16 .stackWrite m.sp with
    | .ok slot =>
      .completed { m with stack := Slots.put m.stack slot m.pc, sp := m.sp + 1, pc := target }
    | .error fault => .faulted fault m

/-! ## Sprites -/

/-- The shape of a sprite with a last digit: without one it is a large sprite,
where the resolution or the variant has them. -/
def spriteShape (variant : Variant) (resolution : Resolution) (n : Fin 16) : SpriteShape :=
  if n = 0 ∧ resolution = .high then ⟨2, 16⟩
  else if n = 0 ∧ variant = .schip then ⟨1, 16⟩
  else ⟨1, n.val⟩

/-- Draw the sprite at the index register. The flag register, where a collision
shows, has been cleared. A sprite that does not lie in memory is not drawn. -/
def stamp (m : Machine) (x y : Nat) (shape : SpriteShape) : Effect :=
  if (Memory.size : Int) < m.i + shape.size then .anomalous .spriteOverrun m
  else match m.memory.readIndices m.i shape.size with
    | .error fault => .faulted fault m
    | .ok sprite =>
      match m.plane.stamp m.resolution x y shape.rowBytes sprite with
      | (plane, hit) =>
        let m := { m with plane := plane }
        .completed (if hit then m.setRegister flagRegister 1 else m)

/-- An effect after which the picture counts as changed, unless it is a fault. -/
def signalRedraw : Effect → Effect
  | .completed m => .completed { m with redraw := true }
  | .anomalous anomaly m => .anomalous anomaly { m with redraw := true }
  | .faulted fault m => .faulted fault m

/-- Draw a sprite at the position in two registers, which may be the flag
register. -/
def draw (m : Machine) (variant : Variant) (x y n : Fin 16) : Effect :=
  let column := (m.v.get x).toNat
  let row := (m.v.get y).toNat
  signalRedraw <|
    (m.setRegister flagRegister 0).stamp column row (spriteShape variant m.resolution n)

/-! ## Keys -/

/-- Skip the next instruction if the key in a register is pressed, or if not. -/
def skipKey (m : Machine) (whenPressed : Bool) (x : Fin 16) : Effect :=
  if key : (m.v.get x).toNat < 16 then
    .completed (m.skipIf ((m.keys.get ⟨(m.v.get x).toNat, key⟩ != 0) == whenPressed))
  else .anomalous .badKey m

/-! ## Transfers -/

/-- Copy the delay timer, unless a host has set it to what is no byte. -/
def readDelay (m : Machine) (x : Fin 16) : Effect :=
  if 0 ≤ m.delay ∧ m.delay < 256 then .completed (m.setRegister x (lowByte m.delay))
  else .faulted .notAByte m

/-- The three decimal digits of a byte, the highest first. -/
def decimalDigits (value : UInt8) : List UInt8 := [value / 100, value / 10 % 10, value % 10]

/-- The registers up to one of them, loaded from consecutive addresses. -/
def loadedRegisters (m : Machine) (x : Fin 16) : Vector UInt8 16 :=
  Vector.ofFn fun r => if r ≤ x then m.memory.read (m.i + r.val) else m.v.get r

/-- The persistent flags with the registers up to one of them saved there. -/
def savedFlags (m : Machine) (x : Fin 16) : Vector UInt8 8 :=
  Vector.ofFn fun r : Fin 8 =>
    if r.val ≤ x.val then m.v.get (r.castLE (by decide)) else m.flags.get r

/-- The registers up to one of them, loaded from the persistent flags, of which
there are eight. -/
def restoredRegisters (m : Machine) (x : Fin 16) : Vector UInt8 16 :=
  Vector.ofFn fun r =>
    if persistent : r.val < 8 then if r ≤ x then m.flags.get ⟨r.val, persistent⟩ else m.v.get r
    else m.v.get r

/-! ## All instructions -/

/-- Execute an instruction of a variant, with a number from the random source
for the one instruction that takes one. -/
def execute (variant : Variant) (random : Int) (m : Machine) : Instruction → Effect
  | .clear => .completed (m.repaint .blank)
  | .ret => m.ret
  | .scrollDown rows => .completed (m.scrollDown rows.val)
  | .scrollRight => .completed m.scrollRight
  | .scrollLeft => .completed m.scrollLeft
  | .exit => .completed m
  | .switchResolution resolution => .completed (m.switchResolution resolution)
  | .jump target => .completed { m with pc := target }
  | .call target => m.call target
  | .skipImmediate whenEqual x kk => .completed (m.skipIf ((m.v.get x == kk) == whenEqual))
  | .skipRegister whenEqual x y _ => .completed (m.skipIf ((m.v.get x == m.v.get y) == whenEqual))
  | .loadImmediate x kk => .completed (m.setRegister x kk)
  | .addImmediate x kk => .completed (m.setRegister x (m.v.get x + kk))
  | .combine operation x y => .completed (m.combine operation x y)
  | .loadIndex target => .completed { m with i := target }
  | .jumpOffset target => .completed { m with pc := target + (m.v.get 0).toNat }
  | .random x kk => .completed (m.setRegister x (lowByte random &&& kk))
  | .draw x y n => m.draw variant x y n
  | .skipKey whenPressed x => m.skipKey whenPressed x
  | .readDelay x => m.readDelay x
  | .awaitKey x => .completed { m with waiting := true, awaitedRegister := x }
  | .setDelay x => .completed { m with delay := (m.v.get x).toNat }
  | .setSound x => .completed { m with sound := (m.v.get x).toNat }
  | .addIndex x => .completed { m with i := (lowWord (m.i + (m.v.get x).toNat)).toNat }
  | .smallGlyph x => .completed { m with i := (m.v.get x).toNat * Font.smallHeight }
  | .bigGlyph x => .completed { m with i := Font.bigBase + (m.v.get x).toNat * Font.bigHeight }
  | .decimal x =>
    .completed { m with memory := m.memory.writeAll m.i (decimalDigits (m.v.get x)) }
  | .store x =>
    .completed { m with memory := m.memory.writeAll m.i (m.v.toList.take (x.val + 1)) }
  | .load x => .completed { m with v := m.loadedRegisters x }
  | .saveFlags x => .completed { m with flags := m.savedFlags x }
  | .loadFlags x => .completed { m with v := m.restoredRegisters x }

end Machine

end SuperChip
