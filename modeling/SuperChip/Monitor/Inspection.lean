import SuperChip.Listing
import SuperChip.Monitor.Basic
import SuperChip.Picture

/-!
# Looking at a program in the monitor

None of these commands changes anything but what is printed.  A dump takes
indices, of which negative ones count from the end of memory, and ends with
memory; a disassembly takes addresses, which go round, and ends before the last
byte.
-/

namespace SuperChip.Monitor

variable {ρ : Type}

/-- The command `timers`. -/
def timers : Attempt (Monitor ρ) Unit := do
  let machine := (← get).machine
  print s!"  DT = {machine.delay}  ST = {machine.sound}"

/-- The command `frame`, which prints the picture. -/
def frame : Attempt (Monitor ρ) Unit := do
  (← get).machine.pictureRows.forM fun row => print (Picture.rowText "#" "." row)

/-! ## Dumps -/

/-- The number of bytes in a row of a dump. -/
def dumpWidth : Nat := 16

/-- A row of a dump as a line. -/
def dumpLine (start : Int) (bytes : List UInt8) : String :=
  s!"  {Hexadecimal.address start}: " ++
    " ".intercalate (bytes.map fun byte => Hexadecimal.lower 2 byte.toNat)

/-- Print a number of rows, the last of which ends before `stop`. -/
def dumpRows (stop : Int) : Int → Nat → Attempt (Monitor ρ) Unit
  | _, 0 => pure ()
  | start, rows + 1 => do
    let size := (min (dumpWidth : Int) (stop - start)).toNat
    let bytes ← Attempt.ofExcept ((← get).machine.memory.readIndices start size)
    print (dumpLine start bytes)
    dumpRows stop (start + dumpWidth) rows

/-- The command `dump`. The number of rows is fixed before the first is printed. -/
def dump (argument : String) : Attempt (Monitor ρ) Unit := do
  match ← splitWords argument with
  | [] => print "Usage: dump <address> [count]"
  | start :: rest =>
    let start ← address start
    let count ← match rest with
      | [] => pure 64
      | count :: _ => Attempt.ofExcept (readNumber count)
    let stop := min (start + count) Memory.size
    dumpRows stop start (((stop - start + 15) / 16).toNat)

/-! ## Disassemblies -/

/-- The mark in front of an instruction. -/
def marker (current : Bool) : String := if current then ">>>" else "   "

/-- Print a number of instructions from an address on, up to the end of memory. -/
def disassembleFrom (address : Int) : Nat → Attempt (Monitor ρ) Unit
  | 0 => pure ()
  | count + 1 => do
    let machine := (← get).machine
    if (Memory.size : Int) - 1 ≤ address then pure ()
    else
      let row := ListingRow.opcode address (machine.memory.opcode address)
      print s!"  {marker (address == machine.pc)} {row.line}"
      disassembleFrom (address + 2) count

/-- The command `disasm`; it starts at the program counter unless it is told another
address. -/
def disassemble (argument : String) : Attempt (Monitor ρ) Unit := do
  let words ← splitWords argument
  let start ← match words.head? with
    | some start => address start
    | none => pure (← get).machine.pc
  let count ← match words.tail.head? with
    | some count => Attempt.ofExcept (readNumber count)
    | none => pure 16
  disassembleFrom start count.toNat

end SuperChip.Monitor
