import SuperChip.Text.Blank

/-!
# The commands of the monitor

A line typed into the monitor starts with the name of a command, which is the
longest start of letters, digits and underscores of the plain alphabet; what
follows is the argument.  A question mark at the start is short for `help`.
Several commands have more than one name.
-/

namespace SuperChip

/-- The commands of the monitor. -/
inductive Command where
  | load
  | reset
  | step
  | run
  | resume
  | bp
  | bpd
  | key
  | regs
  | status
  | timers
  | frame
  | dump
  | setmem
  | disasm
  | quit
  | endOfInput
  | help
  deriving DecidableEq, Repr

namespace Command

/-- The names by which a command is called. -/
def names : Command → List String
  | load => ["load"]
  | reset => ["reset"]
  | step => ["step"]
  | run => ["run"]
  | resume => ["continue", "c"]
  | bp => ["bp", "break"]
  | bpd => ["bpd"]
  | key => ["key"]
  | regs => ["regs"]
  | status => ["status"]
  | timers => ["timers"]
  | frame => ["frame"]
  | dump => ["dump", "mem"]
  | setmem => ["setmem"]
  | disasm => ["disasm", "dis"]
  | quit => ["quit", "exit", "q"]
  | endOfInput => ["EOF"]
  | help => ["help"]

/-- All commands. -/
def all : List Command :=
  [load, reset, step, run, resume, bp, bpd, key, regs, status, timers, frame, dump, setmem,
    disasm, quit, endOfInput, help]

/-- The command with a name. -/
def ofName? (name : String) : Option Command :=
  all.find? fun command => command.names.contains name

/-! ## Help -/

/-- What `help` says about a command; the end of input has no text. -/
def helpText? : Command → Option String
  | load => some "Load a ROM file at 0x200: load <file>"
  | reset => some "Reload the current ROM from disk and reset the engine."
  | step => some "Step N instructions: step [count]"
  | run => some "Run N frames (default 60), stopping at breakpoints: run [frames]"
  | resume => some "Alias for 'run'."
  | bp => some "Set breakpoint: bp <address>"
  | bpd => some "Delete breakpoint: bpd <address|all>"
  | key => some
      ("Press or release a key: key <0-F> [down|up]\n" ++
        "        With no state, shows the current key map.")
  | regs => some "Show registers, timers and the call stack."
  | status => some "Show full system status."
  | timers => some "Show the delay and sound timers."
  | frame => some "Print the active display rectangle as ASCII art."
  | dump => some "Hex dump memory: dump <address> [count]\n        Count defaults to 64 bytes."
  | setmem => some "Set memory bytes: setmem <address> <byte> [byte] ..."
  | disasm => some
      "Disassemble: disasm [address] [count]\n        Defaults to current PC, 16 instructions."
  | quit => some "Exit the monitor."
  | endOfInput => none
  | help => some "List available commands with \"help\" or detailed help with \"help cmd\"."

/-- The overview of all commands, in columns. -/
def overview : String :=
  "\n".intercalate
    ["",
      "Documented commands (type help <topic>):",
      "========================================",
      "bp     c         disasm  frame  load  quit   run     step  ",
      "bpd    continue  dump    help   mem   regs   setmem  timers",
      "break  dis       exit    key    q     reset  status",
      "",
      "Undocumented commands:",
      "======================",
      "EOF",
      ""]

/-- The answer to `help` with a topic, which may be empty. -/
def helpAnswer (topic : String) : String :=
  if topic = "" then overview
  else match (ofName? topic).bind helpText? with
    | some text => text
    | none => s!"*** No help on {topic}"

end Command

/-! ## Lines -/

/-- A line typed into the monitor. -/
inductive MonitorLine where
  | blank
  | command (command : Command) (argument : String)
  /-- A line that starts with the name of no command; the line without the
  blanks at its ends. -/
  | unknown (text : String)
  deriving DecidableEq, Repr

namespace MonitorLine

/-- Whether a character belongs to the name of a command. -/
def isNameChar (c : Char) : Bool := c.isAlphanum || c == '_'

/-- A line without blanks at its ends, read as a name and an argument. -/
def ofText (text : String) : MonitorLine :=
  let name := String.ofList (text.toList.takeWhile isNameChar)
  match Command.ofName? name with
  | some known => .command known (trimmed (String.ofList (text.toList.dropWhile isNameChar)))
  | none => .unknown text

/-- A line as it is typed, read as a name and an argument. -/
def read (line : String) : MonitorLine :=
  match (trimmed line).toList with
  | [] => .blank
  | '?' :: rest => ofText (String.ofList ("help ".toList ++ rest))
  | text => ofText (String.ofList text)

end MonitorLine

end SuperChip
