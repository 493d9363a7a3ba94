import SuperChip.LowBits
import SuperChip.Memory
import SuperChip.Plane.Scroll
import SuperChip.Plane.Sprite
import SuperChip.Slots

/-!
# The machine

The machine is everything that a program can see or change.  It performs no
input and no output: the host writes the keys, lets the timers tick and takes
the signals `redraw` and `beep` away.  A host may also set the address
registers, the stack pointer and the timers, to any integer at all; a machine
that only runs programs keeps them in their ranges.
-/

namespace SuperChip

/-- The state of a machine. -/
structure Machine where
  memory : Memory
  /-- The registers; the last one holds the flag of an operation. -/
  v : Vector UInt8 16
  i : Int
  /-- The address of the next instruction. -/
  pc : Int
  /-- The return addresses; slots behind the pointer keep their values. -/
  stack : Vector Int 16
  /-- The number of return addresses. -/
  sp : Int
  delay : Int
  sound : Int
  plane : Plane
  resolution : Resolution
  /-- The keys, of which those that are not zero are pressed. -/
  keys : Vector UInt8 16
  /-- The picture has changed since the host took this signal. -/
  redraw : Bool
  /-- The sound timer has run out since the host took this signal. -/
  beep : Bool
  waiting : Bool
  /-- The register that the last wait for a key was for. -/
  awaitedRegister : Fin 16
  /-- The persistent flags, which no restart clears. -/
  flags : Vector UInt8 8
  deriving DecidableEq

namespace Machine

/-- The register that holds the flag of an operation. -/
def flagRegister : Fin 16 := 15

/-- A machine that has loaded nothing yet. -/
def fresh : Machine where
  memory := .zeroed
  v := Vector.replicate 16 0
  i := 0
  pc := Memory.programStart
  stack := Vector.replicate 16 0
  sp := 0
  delay := 0
  sound := 0
  plane := .blank
  resolution := .low
  keys := Vector.replicate 16 0
  redraw := false
  beep := false
  waiting := false
  awaitedRegister := 0
  flags := Vector.replicate 8 0

/-- The machine restarted with a program that fits into memory. Only the
persistent flags remain. -/
def restarted (m : Machine) (program : List UInt8) : Machine :=
  { fresh with memory := .withProgram program, redraw := true, flags := m.flags }

/-- Load a program and start anew; a program that is too large changes nothing. -/
def restart (m : Machine) (program : List UInt8) : Except Fault Machine :=
  if programLimit < program.length then .error (.programTooLarge program.length)
  else .ok (m.restarted program)

/-- Write a block of bytes to memory, if it fits there. -/
def loadBlock (m : Machine) (address : Int) (block : List UInt8) : Except Fault Machine := do
  return { m with memory := ← m.memory.load address block }

/-- One tick of both timers. The sound timer signals when it runs out. -/
def tick (m : Machine) : Machine :=
  { m with
    delay := if 0 < m.delay then m.delay - 1 else m.delay
    sound := if 0 < m.sound then m.sound - 1 else m.sound
    beep := m.beep || m.sound == 1 }

/-! ## Parts of an instruction's work -/

/-- Write a register. -/
def setRegister (m : Machine) (x : Fin 16) (value : UInt8) : Machine :=
  { m with v := Slots.put m.v x value }

/-- The machine after the next instruction is passed over if a condition holds. -/
def skipIf (m : Machine) (condition : Bool) : Machine :=
  if condition then { m with pc := m.pc + 2 } else m

/-- Replace the plane, and signal that the picture has changed. -/
def repaint (m : Machine) (plane : Plane) : Machine :=
  { m with plane := plane, redraw := true }

/-- Scroll down by some rows; by none or less, nothing happens and no signal is
given. -/
def scrollDown (m : Machine) (rows : Int) : Machine :=
  if rows ≤ 0 then m else m.repaint (m.plane.scrollDown m.resolution rows.toNat)

/-- Scroll right, which always counts as a change of the picture. -/
def scrollRight (m : Machine) : Machine := m.repaint (m.plane.scrollRight m.resolution)

/-- Scroll left, which always counts as a change of the picture. -/
def scrollLeft (m : Machine) : Machine := m.repaint (m.plane.scrollLeft m.resolution)

/-- Choose the active rectangle and clear the whole plane. -/
def switchResolution (m : Machine) (resolution : Resolution) : Machine :=
  { m with resolution := resolution, plane := .blank, redraw := true }

/-- The number of the first key that is pressed. -/
def pressedKey? (m : Machine) : Option (Fin 16) :=
  (List.finRange 16).find? fun key => m.keys.get key != 0

/-- End the wait for a key if one is pressed. -/
def resolveWait (m : Machine) : Machine :=
  match m.pressedKey? with
  | some key => { m.setRegister m.awaitedRegister (UInt8.ofNat key.val) with waiting := false }
  | none => m

/-! ## What the host sees -/

/-- The rows of the picture that the host sees, one pixel a byte. -/
def pictureRows (m : Machine) : List (List UInt8) := m.plane.active m.resolution

/-- The pixels of the active rectangle, row after row. -/
def framePixels (m : Machine) : List UInt8 := m.pictureRows.flatten

end Machine

end SuperChip
