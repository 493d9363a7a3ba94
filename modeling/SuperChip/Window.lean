import SuperChip.Console.Frame
import SuperChip.Picture

/-!
# Playing in a window

A window drives its console: it polls the events of the host, runs one frame,
paints the picture if it has changed, and starts again.  All events of a poll
are handled, and then the loop ends if one of them asked for it.  The host may
also ask for the end between two polls.  While the window is open, beeps ring
its bell; the beep listener of before is back when it closes, whatever the
reason.

What the window shows is kept as a log of the frames and the paintings.  The
picture is painted on a surface, which is scaled to the size of the window
afterwards.  The window takes a surface of the picture's size when it opens, and
another one when a picture with another size is to be painted.

The host opens the window in front of all that, or refuses to.  What it opens for a
title and a size, and what it refuses, is its own affair: the window system is a
parameter of a run.
-/

namespace SuperChip

/-! ## What the host delivers -/

/-- A key of the host's keyboard. -/
inductive HostKey where
  /-- The key with a character on it; letters are in lower case. -/
  | character (c : Char)
  | escape
  /-- Any other key, by a number of the host. -/
  | unlabelled (code : Nat)
  deriving DecidableEq, Repr

/-- What the host reports of the window and the keyboard. -/
inductive HostEvent where
  /-- A key goes down, or up. -/
  | key (key : HostKey) (down : Bool)
  | quit
  /-- Anything else that happens to the window. -/
  | other
  deriving DecidableEq, Repr

namespace HostEvent

/-- The characters of the keyboard that stand for the sixteen keys in turn. -/
def layout : List Char := "x123qweasdzc4rfv".toList

/-- The key of the keypad that a character stands for. -/
def keypadKey? (c : Char) : Option (Fin 16) :=
  (List.finRange 16).find? fun key => layout[key.val]? == some c

/-- The key of the keypad that an event presses or releases. -/
def keypadPress? : HostEvent → Option (Fin 16 × Bool)
  | key (.character character) down => (keypadKey? character).map fun number => (number, down)
  | _ => none

/-- Whether an event asks for the end of the loop; the escape key does so in
both directions. -/
def endsLoop : HostEvent → Bool
  | key .escape _ => true
  | quit => true
  | _ => false

end HostEvent

/-- What happens between two frames: the host may ask for the end, and if it
does not, these events are polled. -/
structure Poll where
  stop : Bool
  events : List HostEvent
  deriving DecidableEq, Repr

/-- A window as the host has opened it. -/
structure HostWindow where
  caption : String
  width : Int
  height : Int
  deriving DecidableEq, Repr

/-- The window system of a host. -/
structure WindowSystem where
  /-- The window for a title and a size, or why there is none. -/
  opens : String → Int × Int → Except String HostWindow

/-! ## What a window has done -/

/-- A frame that has been run, with the keys that were held in it and how it ended. -/
structure FrameEntry where
  frame : Nat
  keypad : Vector Bool 16
  redraw : Bool
  pc : Int

/-- A painting, behind so many frames: the size of the surface, the resolution of the machine
at that time, and the picture in the colours of the window. -/
structure Painting where
  frame : Nat
  width : Nat
  height : Nat
  resolution : Resolution
  picture : Picture.Coloured
  deriving DecidableEq, Repr

/-- A console in a window. -/
structure Window (ρ : Type) where
  console : Console ρ
  host : Option HostWindow
  /-- The width and the height of the surface, once the window is open. -/
  surface : Nat × Nat
  /-- The frames so far, the last one at the end. -/
  frames : Array FrameEntry
  /-- The paintings so far, the last one at the end. -/
  paintings : Array Painting

namespace Window

variable {ρ : Type}

/-- A console in front of its window, which is not open yet. -/
def onto (console : Console ρ) : Window ρ := ⟨console, none, (0, 0), #[], #[]⟩

/-! ## Size -/

/-- The scale that is used for one that is asked for. -/
def effectiveScale (scale : Int) : Int := max 1 scale

/-- The width and the height that are asked of the host. -/
def size (scale : Int) : Int × Int := (64 * effectiveScale scale, 32 * effectiveScale scale)

/-- The width and the height of the picture at present. -/
def pictureSize (c : Console ρ) : Nat × Nat :=
  (c.machine.resolution.width, c.machine.resolution.height)

/-! ## One pass of the loop -/

/-- The present picture in the colours of the window. -/
def colouredPicture (c : Console ρ) : Except Fault Picture.Coloured :=
  Picture.coloured c.machine.plane.pixels.toArray c.machine.resolution.width
    c.machine.resolution.height Picture.foreground Picture.background

/-- Paint the present picture on the present surface. -/
def paint : Attempt (Window ρ) Unit := do
  let picture ← Attempt.ofExcept (colouredPicture (← get).console)
  modify fun w => { w with paintings := w.paintings.push {
    frame := w.console.frames
    width := w.surface.1
    height := w.surface.2
    resolution := w.console.machine.resolution
    picture := picture } }

/-- Take another surface if the present one has not the size of the picture. -/
def fitSurface (w : Window ρ) : Window ρ :=
  if w.surface = pictureSize w.console then w else { w with surface := pictureSize w.console }

/-- Paint the picture after it has changed, on a surface of its size. -/
def repaint : Attempt (Window ρ) Unit := do
  modify fitSurface
  paint

/-- Handle one event: a key that is mapped is pressed or released. -/
def handle (c : Console ρ) (event : HostEvent) : Console ρ :=
  match event.keypadPress? with
  | some (key, down) => c.holdKey key down
  | none => c

/-- Run one frame and paint the picture if it has changed. -/
def advanceFrame [Generator ρ] : Attempt (Window ρ) Unit := do
  let redraw ←
    Attempt.onPart Window.console (fun c w => { w with console := c }) Console.advanceFrame
  if redraw then repaint
  modify fun w => { w with
    frames := w.frames.push ⟨w.console.frames, w.console.keypad, redraw, w.console.machine.pc⟩ }

/-! ## The loop -/

/-- Run frames in silence. -/
def idle [Generator ρ] : Nat → Attempt (Window ρ) Unit := Attempt.iterate advanceFrame

/-- Whether the loop has come to its limit after a number of frames. -/
def limitReached (limit : Option Int) (frames : Nat) : Bool :=
  limit.any fun most => most ≤ (frames : Int)

/-- The number of frames that the loop still runs, after some, while the host is
silent: it sees its limit only after a frame, and without a limit the window
closes. -/
def silentFrames (limit : Option Int) (frames : Nat) : Nat :=
  limit.elim 0 fun most => (max 1 (most - frames)).toNat

/-- Go through polls, after a number of frames, until one of them ends the loop or
the limit is reached.  After the last poll the host is silent. -/
def play [Generator ρ] (limit : Option Int) : Nat → List Poll → Attempt (Window ρ) Unit
  | frames, [] => idle (silentFrames limit frames)
  | frames, poll :: rest =>
    if poll.stop then pure ()
    else do
      modify fun w => { w with console := poll.events.foldl handle w.console }
      if poll.events.any HostEvent.endsLoop then pure ()
      else do
        advanceFrame
        if limitReached limit (frames + 1) then pure () else play limit (frames + 1) rest

/-- The polls of a loop that has just started: it has forgotten whether it was
asked to end before. -/
def started : List Poll → List Poll
  | [] => []
  | poll :: rest => { poll with stop := false } :: rest

/-- Give the window's place back to a beep listener. -/
def restoreBeep (listener : BeepListener) (w : Window ρ) : Window ρ :=
  { w with console := { w.console with beepListener := listener } }

/-- Have the host open the window, and take a first surface. -/
def openHost (system : WindowSystem) (title : String) (scale : Int) :
    Attempt (Window ρ) Unit := do
  match system.opens title (size scale) with
  | .ok opened => modify fun w => { w with host := some opened, surface := pictureSize w.console }
  | .error reason => throw (.windowRefused reason)

/-- Play in the open window; the bell is its own only for that time. -/
def playAudibly [Generator ρ] (audible : Bool) (limit : Option Int) (polls : List Poll) :
    Attempt (Window ρ) Unit := fun w =>
  let listener := w.console.beepListener
  let playing : Attempt (Window ρ) Unit := do
    paint
    play limit 0 (started polls)
  match playing (restoreBeep (.bell audible) w) with
  | .ok () w => .ok () (restoreBeep listener w)
  | .error fault w => .error fault (restoreBeep listener w)

/-- Open a window of a window system and play in it. -/
def run [Generator ρ] (system : WindowSystem) (title : String) (scale : Int) (audible : Bool)
    (limit : Option Int) (polls : List Poll) : Attempt (Window ρ) Unit := do
  openHost system title scale
  playAudibly audible limit polls

/-- What a window that fails leaves on the error channel; one that has not
opened leaves nothing. -/
def complaint (w : Window ρ) (fault : Fault) : String :=
  if w.host.isSome then s!"\n[display] error: {fault.message}\n" else ""

/-- What the bells among some signals leave on the output channel. -/
def bellText (signals : List Signal) : String :=
  String.ofList <| (signals.filter (· == .bell)).map fun _ => '\x07'

end Window

end SuperChip
