import SuperChip.Engine

/-!
# The console

The console is an engine with the host's side of it: the keypad, the counters,
and the listeners that hear of finished frames and beeps.  Frames are counted,
not timed; whoever calls for frames decides when.

A listener is named, not called: the console keeps a log of the signals that
its host listeners and its bell have received.  A recorder is a frame listener
that belongs to the console and keeps the frames that it hears of.
-/

namespace SuperChip

/-- Who hears of a frame whose picture has changed. -/
inductive FrameListener where
  | none
  | host
  | recorder (id : Nat)
  deriving DecidableEq, Repr

/-- Who hears of a beep. -/
inductive BeepListener where
  | none
  | host
  /-- The bell of a window, which may be muted. -/
  | bell (audible : Bool)
  deriving DecidableEq, Repr

/-- What the host has received. -/
inductive Signal where
  /-- The picture has changed at the end of a frame. -/
  | frame (count : Nat)
  /-- The sound timer has run out in a frame. -/
  | beep (count : Nat)
  | bell
  deriving DecidableEq, Repr

/-- A listener that keeps the frames it hears of. -/
structure Recorder where
  /-- The number of frames that it keeps; zero keeps all. -/
  keep : Int
  /-- The frames, the last one at the end. -/
  snapshots : List (List UInt8)
  /-- The listener that it replaces while it listens. -/
  replaced : FrameListener
  deriving DecidableEq, Repr

namespace Recorder

/-- A recorder that has heard nothing yet. -/
def fresh (keep : Int) : Recorder := ⟨keep, [], .none⟩

/-- Keep one more frame, and forget the first one if there are too many. -/
def record (recorder : Recorder) (frame : List UInt8) : Recorder :=
  let all := recorder.snapshots ++ [frame]
  { recorder with
    snapshots := if recorder.keep ≠ 0 ∧ recorder.keep < all.length then all.drop 1 else all }

end Recorder

/-- An engine and its host. -/
structure Console (ρ : Type) where
  engine : Engine ρ
  stepsPerFrame : Nat
  stepsPerFrame_pos : 0 < stepsPerFrame
  /-- The keys that the host holds down. -/
  keypad : Vector Bool 16
  frames : Nat
  steps : Nat
  beeps : Nat
  programSize : Nat
  loaded : Bool
  frameListener : FrameListener
  beepListener : BeepListener
  recorders : Array Recorder
  /-- What the host has received, the last signal at the end. -/
  signals : Array Signal

namespace Console

variable {ρ : Type}

/-- The number of steps in a frame, unless a host chooses another one. -/
def defaultCycles : Int := 10

/-- The keypad with no key held down. -/
def releasedKeypad : Vector Bool 16 := Vector.replicate 16 false

/-- A console for a variant, by name, with a number of steps in a frame. -/
def assemble (variantName : String) (cycles : Int) (strict : Bool) (random : ρ) :
    Except Fault (Console ρ) :=
  if positive : 0 < cycles then do
    let variant ← Variant.ofName variantName
    return {
      engine := .fresh variant strict true random
      stepsPerFrame := cycles.toNat
      stepsPerFrame_pos := by omega
      keypad := releasedKeypad
      frames := 0
      steps := 0
      beeps := 0
      programSize := 0
      loaded := false
      frameListener := .none
      beepListener := .none
      recorders := #[]
      signals := #[] }
  else .error .noCycles

/-- The machine of a console. -/
def machine (c : Console ρ) : Machine := c.engine.machine

/-- Let the engine of a console do something. -/
def onEngine {α : Type} (operation : Attempt (Engine ρ) α) : Attempt (Console ρ) α :=
  Attempt.onPart Console.engine (fun engine c => { c with engine := engine }) operation

/-! ## Loading -/

/-- Load a program and start all counters anew. A console whose program does
not fit has none afterwards. -/
def load (program : List UInt8) : Attempt (Console ρ) Unit := do
  modify fun c => { c with loaded := false }
  onEngine (Engine.restart program)
  modify fun c => { c with
    keypad := releasedKeypad, programSize := program.length, frames := 0, steps := 0, beeps := 0,
    loaded := true }

/-- The bytes in the file with a path. No path has a null character in it. -/
def readFile (files : Files) (path : String) : Except Fault (List UInt8) :=
  if path.toList.contains (Char.ofNat 0) then .error .nullInPath
  else (files.read path).mapError .file

/-- Load the program in a file; a file that does not open leaves the console alone. -/
def loadFrom (files : Files) (path : String) : Attempt (Console ρ) Unit := do
  load (← Attempt.ofExcept (readFile files path))

/-! ## The keypad -/

/-- Hold a key down, or let it go. -/
def holdKey (key : Fin 16) (pressed : Bool) (c : Console ρ) : Console ρ :=
  { c with keypad := Slots.put c.keypad key pressed }

/-- Hold the key with a number down, or let it go, if there is such a key. -/
def holdKeyNumber (key : Int) (pressed : Bool) : Attempt (Console ρ) Unit := fun c =>
  if inside : 0 ≤ key ∧ key < 16 then .ok () (c.holdKey ⟨key.toNat, by omega⟩ pressed)
  else .error (.keyOutOfRange key) c

/-- Let all keys go. -/
def releaseKeys (c : Console ρ) : Console ρ := { c with keypad := releasedKeypad }

/-- The keypad as the machine sees it. -/
def keyBytes (keypad : Vector Bool 16) : Vector UInt8 16 :=
  keypad.map fun pressed => if pressed then 1 else 0

/-! ## Listeners -/

/-- Add a recorder; it gets the next number. -/
def addRecorder (keep : Int) (c : Console ρ) : Console ρ :=
  { c with recorders := c.recorders.push (.fresh keep) }

/-- Let a recorder keep the present picture. -/
def recordFrame (id : Nat) (c : Console ρ) : Console ρ :=
  { c with recorders := c.recorders.modify id fun r => r.record c.machine.framePixels }

/-- Let a recorder listen in place of the present listener. -/
def startRecorder (id : Nat) (c : Console ρ) : Console ρ :=
  { c with
    recorders := c.recorders.modify id fun r => { r with replaced := c.frameListener }
    frameListener := .recorder id }

/-- Give the place back to the listener that a recorder has replaced. -/
def stopRecorder (id : Nat) (c : Console ρ) : Console ρ :=
  match c.recorders[id]? with
  | some recorder =>
    { c with
      frameListener := recorder.replaced
      recorders := c.recorders.modify id fun r => { r with replaced := .none } }
  | none => c

/-- Tell the frame listener that the picture has changed. -/
def announceFrame (c : Console ρ) : Console ρ :=
  match c.frameListener with
  | .none => c
  | .host => { c with signals := c.signals.push (.frame c.frames) }
  | .recorder id => c.recordFrame id

/-- Tell the beep listener of a beep. -/
def announceBeep (c : Console ρ) : Console ρ :=
  match c.beepListener with
  | .none => c
  | .host => { c with signals := c.signals.push (.beep c.frames) }
  | .bell audible => if audible then { c with signals := c.signals.push .bell } else c

end Console

end SuperChip
