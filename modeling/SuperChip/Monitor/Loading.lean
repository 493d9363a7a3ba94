import SuperChip.Monitor.Basic

/-!
# Loading programs in the monitor

A program that does not fit and a file that does not open are reported, and the
path of the last program stays.  `reset` loads the file of that path again, by
the very command that loaded it: the path is written as one word first.
-/

namespace SuperChip.Monitor

variable {ρ : Type}

/-- Load the program in a file. -/
def loadPath (files : Files) (path : String) : Attempt (Monitor ρ) Unit := fun m =>
  match Console.loadFrom files path m.console with
  | .ok () console =>
    let start := Hexadecimal.address Memory.programStart
    print s!"Loaded {console.programSize} bytes from '{path}' at {start}"
      { m with console := console, programPath := some path }
  | .error (.programTooLarge size) console =>
    print s!"Error: {(Fault.programTooLarge size).message}" { m with console := console }
  | .error (.file cause) console =>
    print s!"Error reading '{path}': {(Fault.file cause).message}" { m with console := console }
  | .error fault console => .error fault { m with console := console }

/-- The command `load`. -/
def load (files : Files) (argument : String) : Attempt (Monitor ρ) Unit := do
  match ← splitWords argument with
  | [] => print "Usage: load <file>"
  | path :: _ => loadPath files path

/-- The command `reset`. -/
def reset (files : Files) : Attempt (Monitor ρ) Unit := do
  match (← get).programPath with
  | none => print "No ROM file to reload."
  | some path => load files (ShellWords.quote path)

end SuperChip.Monitor
