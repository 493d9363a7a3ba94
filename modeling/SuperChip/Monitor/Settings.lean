import SuperChip.Monitor.Basic

/-!
# Breakpoints, keys and memory in the monitor

These commands change what the monitor or its console holds without running the
program.  Bytes are written to memory one by one as they are read, so a number
that does not parse leaves the bytes in front of it written.
-/

namespace SuperChip.Monitor

variable {ρ : Type}

/-! ## Breakpoints -/

/-- Print the breakpoints. -/
def listBreakpoints : Attempt (Monitor ρ) Unit := do
  match (← get).breakpoints with
  | [] => print "No breakpoints set."
  | breakpoints =>
    print "Breakpoints:"
    breakpoints.forM fun address => print s!"  {Hexadecimal.address address}"

/-- The command `bp`. -/
def setBreakpoint (argument : String) : Attempt (Monitor ρ) Unit := do
  if trimmed argument = "" then listBreakpoints
  else
    let address ← address argument
    modify fun m => { m with breakpoints := withBreakpoint address m.breakpoints }
    print s!"Breakpoint set at {Hexadecimal.address address}"

/-- The command `bpd`. -/
def deleteBreakpoint (argument : String) : Attempt (Monitor ρ) Unit := do
  if lowercased (trimmed argument) = "all" then
    modify fun m => { m with breakpoints := [] }
    print "All breakpoints cleared."
  else
    let address ← address argument
    modify fun m => { m with breakpoints := withoutBreakpoint address m.breakpoints }
    print s!"Breakpoint at {Hexadecimal.address address} removed."

/-! ## Keys -/

/-- Print the keys and their states. -/
def listKeys : Attempt (Monitor ρ) Unit := do
  let keypad := (← get).console.keypad
  print ("  " ++ " ".intercalate ((List.range 16).map (Hexadecimal.upper 1)))
  print ("  " ++ " ".intercalate (keypad.toList.map fun pressed => if pressed then "1" else "."))

/-- Press or release the key with a number; the result is the number. -/
def holdKey (number : String) (pressed : Bool) : Attempt (Console ρ) Int := do
  let key ← Attempt.ofExcept ((Numeral.read .hexadecimal number).mapError .numeral)
  Console.holdKeyNumber key pressed
  pure key

/-- The state of a key. -/
def stateName (pressed : Bool) : String := if pressed then "down" else "up"

/-- The command `key`. A key that does not exist is reported. -/
def key (argument : String) : Attempt (Monitor ρ) Unit := do
  match ← splitWords argument with
  | [] => listKeys
  | number :: state =>
    let pressed := (state.head?.map lowercased) != some "up"
    fun m =>
      match holdKey number pressed m.console with
      | .ok key console =>
        print s!"  key {Hexadecimal.upper 1 key.toNat} {stateName pressed}"
          { m with console := console }
      | .error fault console => print s!"Error: {fault.message}" { m with console := console }

/-! ## Memory -/

/-- Write the bytes that some words stand for, from an address on. -/
def writeBytes (address : Int) : List String → Attempt (Monitor ρ) Unit
  | [] => pure ()
  | word :: rest => do
    let value ← Attempt.ofExcept (readNumber word)
    onConsole <| Console.onEngine <| modify <| Engine.onMachine fun machine =>
      { machine with memory := machine.memory.write address (lowByte value) }
    writeBytes (address + 1) rest

/-- The command `setmem`. -/
def setMemory (argument : String) : Attempt (Monitor ρ) Unit := do
  match ← splitWords argument with
  | [] | [_] => print "Usage: setmem <addr> <byte...>"
  | start :: words =>
    let start ← address start
    writeBytes start words
    print s!"  Wrote {words.length} bytes at {Hexadecimal.address start}"

end SuperChip.Monitor
