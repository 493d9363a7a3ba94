import SuperChip.Console.Basic

/-!
# Steps and frames of a console

A frame is a number of steps and one end of a frame.  Before each step the
machine gets the keypad; at the end of a frame both timers tick once, and the
signals of the machine are taken away and passed on to the listeners, the beep
before the picture.
-/

namespace SuperChip.Console

variable {ρ : Type}

/-- Fail if no program is loaded. -/
def requireProgram : Attempt (Console ρ) Unit := fun c =>
  if c.loaded then .ok () c else .error .noProgram c

/-- Hand the keypad over to the machine. -/
def showKeypad (c : Console ρ) : Console ρ :=
  { c with engine := c.engine.onMachine fun m => { m with keys := keyBytes c.keypad } }

/-- One step of the engine with the present keypad. -/
def step [Generator ρ] : Attempt (Console ρ) Unit := do
  requireProgram
  modify showKeypad
  onEngine Engine.step
  modify fun c => { c with steps := c.steps + 1 }

/-! ## The end of a frame -/

/-- One tick of the timers, at which one more frame is counted. -/
def tickFrame (c : Console ρ) : Console ρ :=
  { c with engine := c.engine.onMachine Machine.tick, frames := c.frames + 1 }

/-- Take the beep away from the machine and pass it on. -/
def drainBeep (c : Console ρ) : Console ρ :=
  if c.machine.beep then
    announceBeep
      { c with
        engine := c.engine.onMachine fun m => { m with beep := false }
        beeps := c.beeps + 1 }
  else c

/-- Take the signal of a changed picture away from the machine and pass it on. -/
def drainRedraw (c : Console ρ) : Console ρ :=
  if c.machine.redraw then
    announceFrame { c with engine := c.engine.onMachine fun m => { m with redraw := false } }
  else c

/-- The console after the end of a frame, and whether the picture had changed. -/
def frameEnded (c : Console ρ) : Bool × Console ρ :=
  let c := drainBeep (tickFrame c)
  (c.machine.redraw, drainRedraw c)

/-- End a frame; the result says whether the picture has changed. -/
def closeFrame : Attempt (Console ρ) Bool := fun c =>
  .ok c.frameEnded.1 c.frameEnded.2

/-- Run one frame; the result says whether the picture has changed. -/
def advanceFrame [Generator ρ] : Attempt (Console ρ) Bool := do
  requireProgram
  Attempt.iterate step (← get).stepsPerFrame
  closeFrame

/-- Run frames, where `redraws` of the frames before had a changed picture. -/
def runFrom [Generator ρ] (redraws : Nat) : Nat → Attempt (Console ρ) Nat
  | 0 => pure redraws
  | frames + 1 => do
    let redraw ← advanceFrame
    runFrom (if redraw then redraws + 1 else redraws) frames

/-- Run frames, none if the number is negative; the result is the number of
frames in which the picture has changed. -/
def run [Generator ρ] (frames : Int) : Attempt (Console ρ) Nat := runFrom 0 frames.toNat

end SuperChip.Console
