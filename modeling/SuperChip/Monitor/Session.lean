import SuperChip.Monitor.Command
import SuperChip.Monitor.Inspection
import SuperChip.Monitor.Loading
import SuperChip.Monitor.Running
import SuperChip.Monitor.Settings

/-!
# Conversations with the monitor

A line is read as a command and performed; the result says whether the monitor
is to stop.  A session greets, and then asks for lines until one of them stops
it.  Where the lines end, the end of the input is a command of its own, unless
the user interrupts instead.
-/

namespace SuperChip.Monitor

variable {ρ : Type} [Generator ρ]

/-! ## One line -/

/-- Perform a command that does not stop the monitor. -/
def goOn (operation : Attempt (Monitor ρ) Unit) : Attempt (Monitor ρ) Bool := do
  operation
  pure false

/-- Perform a command. -/
def perform (files : Files) (command : Command) (argument : String) :
    Attempt (Monitor ρ) Bool :=
  match command with
  | .load => goOn (load files argument)
  | .reset => goOn (reset files)
  | .step => goOn (step argument)
  | .run => goOn (run argument)
  | .resume => goOn (run argument)
  | .bp => goOn (setBreakpoint argument)
  | .bpd => goOn (deleteBreakpoint argument)
  | .key => goOn (key argument)
  | .regs => goOn do print (← get).machine.registersText
  | .status => goOn do print (← Attempt.ofExcept (← get).console.statusText)
  | .timers => goOn timers
  | .frame => goOn frame
  | .dump => goOn (dump argument)
  | .setmem => goOn (setMemory argument)
  | .disasm => goOn (disassemble argument)
  | .quit => do
    print "Goodbye."
    pure true
  | .endOfInput => do
    print ""
    print "Goodbye."
    pure true
  | .help => goOn (print (Command.helpAnswer argument))

/-- Read a line and do what it says. -/
def execute (files : Files) (line : String) : Attempt (Monitor ρ) Bool :=
  match MonitorLine.read line with
  | .blank => pure false
  | .command command argument => perform files command argument
  | .unknown text => goOn <|
    print s!"Unknown command: {quoted (firstWord text)}. Type 'help' for available commands."

/-- The path that a line makes the monitor open, if it makes it open one. -/
def requestedPath? {ρ : Type} (m : Monitor ρ) (line : String) : Option String :=
  match MonitorLine.read line with
  | .command .load argument => (ShellWords.split argument).toOption.bind List.head?
  | .command .reset _ => m.programPath
  | _ => none

/-! ## A session -/

/-- The greeting of a session. -/
def greeting : String :=
  "\n".intercalate
    ["",
      "╔══════════════════════════════════════════════════════════╗",
      "║            CHIP-8 / SUPER-CHIP Monitor                   ║",
      "║   Type 'help' for commands.  'quit' to exit.             ║",
      "╚══════════════════════════════════════════════════════════╝",
      ""]

/-- What stands in front of each line that is typed. -/
def prompt : String := "CHIP8> "

/-- The output of the entries printed since a number of them was printed. -/
def outputSince (count : Nat) (m : Monitor ρ) : String :=
  String.join ((m.printed.toList.drop count).map (· ++ "\n"))

/-- The end of a session. -/
structure SessionEnd (ρ : Type) where
  monitor : Monitor ρ
  output : String
  /-- The fault that has ended the session, if one has. -/
  fault : Option Fault

/-- What a session prints when the user interrupts it. -/
def farewell : String := "\nInterrupted. Goodbye.\n"

/-- Ask for lines, of which these are typed, behind some output. -/
def converse (files : Files) (interrupted : Bool) (output : String) (m : Monitor ρ) :
    List String → SessionEnd ρ
  | [] =>
    let output := output ++ prompt
    if interrupted then ⟨m, output ++ farewell, none⟩
    else match execute files "EOF" m with
      | .ok _ after => ⟨after, output ++ outputSince m.printed.size after, none⟩
      | .error fault after => ⟨after, output ++ outputSince m.printed.size after, some fault⟩
  | line :: rest =>
    let output := output ++ prompt
    match execute files line m with
    | .ok stop after =>
      let output := output ++ outputSince m.printed.size after
      if stop then ⟨after, output, none⟩ else converse files interrupted output after rest
    | .error fault after => ⟨after, output ++ outputSince m.printed.size after, some fault⟩

/-- A session from its greeting on. -/
def session (files : Files) (interrupted : Bool) (m : Monitor ρ) (lines : List String) :
    SessionEnd ρ :=
  converse files interrupted (greeting ++ "\n") m lines

end SuperChip.Monitor
