import SuperChip.Listing
import SuperChip.Monitor.Basic

/-!
# Running programs in the monitor

`step` shows each instruction that it executes, and breaks off where the
machine waits for a key that nobody presses.  `run` runs frames; with
breakpoints it looks at the program counter before each step and stops there,
inside a frame, unless the machine waits for a key.
-/

namespace SuperChip.Monitor

variable {ρ : Type} [Generator ρ]

/-- Whether there is a program to run; if not, this is said. -/
def ready : Attempt (Monitor ρ) Bool := do
  if (← get).console.loaded then pure true
  else
    print "No ROM loaded.  Use 'load <file>'."
    pure false

/-! ## Steps -/

/-- The line that shows an instruction in memory. -/
def instructionLine (address : Int) (op : Opcode) : String :=
  (ListingRow.opcode address op).line

/-- Execute a number of instructions, each with its line. -/
def steps : Nat → Attempt (Monitor ρ) Unit
  | 0 => pure ()
  | count + 1 => do
    let before := (← get).machine
    if before.waiting then
      onConsole Console.step
      let after := (← get).machine
      if after.waiting then
        print s!"  waiting for key -> V{Hexadecimal.upper 1 after.awaitedRegister.val}"
      else steps count
    else
      let op := before.memory.opcode before.pc
      onConsole Console.step
      print ("  " ++ instructionLine before.pc op)
      steps count

/-- The command `step`. -/
def step (argument : String) : Attempt (Monitor ρ) Unit := do
  if ← ready then
    steps (← numberOr 1 argument).toNat

/-! ## Frames -/

/-- Whether a machine is about to execute an instruction at a breakpoint. -/
def atBreakpoint (breakpoints : List Int) (m : Machine) : Bool :=
  breakpoints.contains m.pc && !m.waiting

/-- Run steps up to a breakpoint; the result says whether one was hit. -/
def stepsToBreakpoint (breakpoints : List Int) : Nat → Attempt (Console ρ) Bool
  | 0 => pure false
  | count + 1 => do
    if atBreakpoint breakpoints (← get).machine then pure true
    else
      Console.step
      stepsToBreakpoint breakpoints count

/-- Run frames up to a breakpoint, where `done` frames were run before; the
result is the number of frames run when one was hit. -/
def framesToBreakpoint (breakpoints : List Int) (done : Nat) :
    Nat → Attempt (Console ρ) (Option Nat)
  | 0 => pure none
  | count + 1 => do
    if ← stepsToBreakpoint breakpoints (← get).stepsPerFrame then pure (some done)
    else
      let _ ← Console.closeFrame
      framesToBreakpoint breakpoints (done + 1) count

/-- Run frames, up to a breakpoint if there are any; the result is the number of
frames run when one was hit. -/
def framesWith (breakpoints : List Int) (frames : Int) : Attempt (Console ρ) (Option Nat) := do
  if breakpoints = [] then
    let _ ← Console.run frames
    pure none
  else framesToBreakpoint breakpoints 0 frames.toNat

/-- What is said at the end of a run, if the number in it has a numeral: where the run
was interrupted, behind so many frames, or how many frames it has run. -/
def endLine (frames pc : Int) : Option Nat → Except Fault String
  | some done => do
    let number ← numeralOf done
    return s!"\nBreakpoint hit at {Hexadecimal.address pc} (frame {number})"
  | none => do
    let number ← numeralOf frames
    return s!"Ran {number} frames."

/-- Run frames and say how the run has ended. The frames come first: where a number
has no numeral, they stay run. -/
def advanceFrames (frames : Int) : Attempt (Monitor ρ) Unit := do
  let hit ← onConsole (framesWith (← get).breakpoints frames)
  print (← Attempt.ofExcept (endLine frames (← get).machine.pc hit))

/-- The command `run`. -/
def run (argument : String) : Attempt (Monitor ρ) Unit := do
  if ← ready then
    advanceFrames (← numberOr 60 argument)

end SuperChip.Monitor
