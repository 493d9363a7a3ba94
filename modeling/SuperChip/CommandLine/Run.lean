import SuperChip.CommandLine.Parse
import SuperChip.CommandLine.Usage
import SuperChip.Listing
import SuperChip.Monitor.Session
import SuperChip.Picture
import SuperChip.Random.Twister
import SuperChip.Window

/-!
# Runs of the program

A run reads its settings, opens the program, and then does what the settings
say.  What the run meets outside is described by its surroundings: the files,
the lines that are typed, the window, and the random source that is taken
unless the settings seed one.  The answer holds all that was written on the two
output channels.
-/

namespace SuperChip

/-- What a run has written, and how it has ended. -/
structure Transcript where
  output : String
  errors : String
  deriving DecidableEq, Repr

namespace Transcript

/-- The transcript of a run that has written nothing. -/
def empty : Transcript := ⟨"", ""⟩

/-- Write on the output channel. -/
def say (t : Transcript) (text : String) : Transcript := { t with output := t.output ++ text }

/-- Write on the error channel. -/
def complain (t : Transcript) (text : String) : Transcript := { t with errors := t.errors ++ text }

end Transcript

/-- How a run ends. -/
inductive Ending where
  /-- With a status. -/
  | returned (status : Nat)
  /-- With a status, before anything was done. -/
  | exited (status : Nat)
  | failed (fault : Fault)
  /-- Because the value of an option is needed and empty. -/
  | valueless (option : OptionName)
  deriving DecidableEq, Repr

/-- What becomes of a window that is to be opened. -/
inductive WindowHost where
  /-- The window system opens it, and it is closed before its first frame. -/
  | closing (system : WindowSystem)
  /-- The window system opens it, and the user interrupts the run. -/
  | interrupting (system : WindowSystem)
  /-- There is no window system, for a reason. -/
  | missing (reason : String)

/-- What a run meets outside. -/
structure Surroundings where
  files : Files
  typed : List String
  /-- Whether the user interrupts the run behind the last line. -/
  interrupted : Bool
  window : WindowHost
  random : Twister

namespace Run

/-- An error as a line on the error channel. -/
def errorLine (text : String) : String := s!"ERROR: {text}\n"

/-- A report as a line on the error channel. -/
def reportLine (report : Report) : String :=
  s!"[strict] {report.anomaly.name} at {Hexadecimal.address report.pc} " ++
    s!"(op {Hexadecimal.upper 4 report.word})\n"

/-- The lines of all reports of a console. -/
def reportLines {ρ : Type} (c : Console ρ) : String :=
  String.join (c.engine.reports.toList.map reportLine)

/-! ## Before the program runs -/

/-- The program that the settings name; no program is the empty one. -/
def program (files : Files) (settings : Settings) : Except Fault (List UInt8) :=
  match settings.rom with
  | none => .ok []
  | some path => Console.readFile files path

/-- The value of an option that a run needs, or the end of the run. -/
def needed {α : Type} (option : OptionName) :
    OptionValue α → Except (Ending × Transcript) α
  | .given value => .ok value
  | .empty => .error (.valueless option, .empty)

/-- The random source of a run, or the end of the run. -/
def randomSource (settings : Settings) (random : Twister) :
    Except (Ending × Transcript) Twister :=
  match settings.seed with
  | some seed => Twister.ofSeed <$> needed .seed seed
  | none => .ok random

/-- A console for the settings, or the reason why there is none.  The number of
steps in a frame is looked at before the variant. -/
def assemble (settings : Settings) (cycles : Int) (random : Twister) :
    Except String (Console Twister) :=
  match settings.variant with
  | .given variant =>
    (Console.assemble variant.name cycles settings.strict random).mapError Fault.message
  | .empty =>
    .error (if 0 < cycles then OptionName.emptyMessage .variant else Fault.noCycles.message)

/-- The line that says what was loaded into a console. -/
def loadedLine (console : Console Twister) (path : String) (size : Nat) : String :=
  s!"Loaded {size} bytes from '{path}' ({console.engine.variant.name}, " ++
    s!"{console.stepsPerFrame} cycles/frame)\n"

/-- A console for the settings, with the program if they name one, and what is
said about it; or the end of the run. -/
def prepare (settings : Settings) (bytes : List UInt8) (random : Twister) :
    Except (Ending × Transcript) (Console Twister × Transcript) := do
  let random ← randomSource settings random
  let cycles ← needed .cycles settings.cycles
  match assemble settings cycles random with
  | .error text => .error (.returned 2, Transcript.empty.complain (errorLine text))
  | .ok console =>
    match settings.rom with
    | none => .ok (console, .empty)
    | some path =>
      match Console.load bytes console with
      | .ok () console =>
        .ok (console, Transcript.empty.say (loadedLine console path bytes.length))
      | .error fault _ => .error (.returned 1, Transcript.empty.complain (errorLine fault.message))

/-! ## The modes -/

/-- Run without a window: a recorder listens, and the last picture is printed
with the counts of frames and beeps. -/
def headless (frames : Int) (console : Console Twister) (t : Transcript) :
    Ending × Transcript :=
  let recorded := (console.addRecorder 1).startRecorder console.recorders.size
  match Console.run frames recorded with
  | .ok _ after =>
    let after := after.stopRecorder console.recorders.size
    (.returned 0,
      ((t.complain (reportLines after)).say
        (Picture.text "#" "." after.machine.pictureRows ++ "\n")).say
        s!"[headless] {after.frames} frames, {after.beeps} beeps\n")
  | .error .noProgram after =>
    (.returned 1, (t.complain (reportLines after)).complain (errorLine Fault.noProgram.message))
  | .error fault after => (.failed fault, t.complain (reportLines after))

/-- The title of the window. -/
def title (settings : Settings) : String := "CHIP-8: " ++ settings.rom.getD ""

/-- Run in a window. A missing window system is reported, and a run that the user interrupts
ends without an error. -/
def play (settings : Settings) (scale : Int) (host : WindowHost) (console : Console Twister)
    (t : Transcript) : Ending × Transcript :=
  match host with
  | .missing reason =>
    (.returned 1,
      (t.complain s!"[display] pygame not available: {reason}\n").complain
        "[display] Install with: pip install pygame\n")
  | .interrupting system =>
    match Window.openHost system (title settings) scale (.onto console) with
    | .ok () _ => (.returned 0, t.say "\n")
    | .error fault _ => (.failed fault, t)
  | .closing system =>
    match Window.run system (title settings) scale settings.bell none [⟨false, [.quit]⟩]
        (.onto console) with
    | .ok () window =>
      (.returned 0, t.say (Window.bellText window.console.signals.toList))
    | .error fault window =>
      (.failed fault,
        (t.say (Window.bellText window.console.signals.toList)).complain (window.complaint fault))

/-- The monitor of a run, which knows the path of the program. -/
def monitor (settings : Settings) (console : Console Twister) : Monitor Twister :=
  { Monitor.observing console with programPath := settings.rom }

/-- Run in the monitor, with the lines that are typed. -/
def observe (settings : Settings) (outside : Surroundings) (console : Console Twister)
    (t : Transcript) : Ending × Transcript :=
  let ending :=
    Monitor.session outside.files outside.interrupted (monitor settings console) outside.typed
  let t := (t.say ending.output).complain (reportLines ending.monitor.console)
  match ending.fault with
  | none => (.returned 0, t)
  | some fault => (.failed fault, t)

/-! ## The whole run -/

/-- A console that is ready for its mode, and what is said about it; or the end
of a run that needs none. -/
def ready (settings : Settings) (files : Files) (random : Twister) :
    Except (Ending × Transcript) (Console Twister × Transcript) :=
  if settings.rom = none ∧ settings.mode ≠ .monitor then
    .error (.returned 2,
      Transcript.empty.complain (errorLine "a ROM file is required (or use --monitor)"))
  else match program files settings with
    | .error (.file cause) =>
      .error (.returned 1, Transcript.empty.complain (errorLine (Fault.file cause).message))
    | .error fault => .error (.failed fault, .empty)
    | .ok bytes =>
      if settings.mode = .disassemble then
        .error (.returned 0,
          Transcript.empty.say (Listing.text Memory.programStart bytes ++ "\n"))
      else prepare settings bytes random

/-- What is done in a mode with a console that is ready. -/
def perform (settings : Settings) (outside : Surroundings) (console : Console Twister)
    (t : Transcript) : Ending × Transcript :=
  match settings.mode, settings.frames, settings.scale with
  | .monitor, _, _ => observe settings outside console t
  | .headless, .given frames, _ => headless frames console t
  | .headless, .empty, _ => (.valueless .frames, t)
  | .window, _, .given scale | .disassemble, _, .given scale =>
    play settings scale outside.window console t
  | .window, _, .empty | .disassemble, _, .empty => (.valueless .scale, t)

/-- A run with its settings read. -/
def ofSettings (settings : Settings) (outside : Surroundings) : Ending × Transcript :=
  match ready settings outside.files outside.random with
  | .error ended => ended
  | .ok (console, t) => perform settings outside console t

/-- The answer to a command line that starts no run. -/
def refused : Refusal → Ending × Transcript
  | .help => (.exited 0, Transcript.empty.say Usage.help)
  | .error cause => (.exited 2, Transcript.empty.complain (Usage.complaint cause))

/-- A run from the command line on. -/
def ofArguments (arguments : List String) (outside : Surroundings) : Ending × Transcript :=
  match Settings.ofArguments arguments with
  | .ok settings => ofSettings settings outside
  | .error refusal => refused refusal

end Run

end SuperChip
