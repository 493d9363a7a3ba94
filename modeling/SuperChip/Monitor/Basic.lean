import SuperChip.Console.Frame
import SuperChip.Console.Status
import SuperChip.Disassembler
import SuperChip.Text.Lowercase

/-!
# The monitor

The monitor is a console with breakpoints, the path of the program that was
loaded last, and a log of what it has printed.  An operation of the monitor may
fail, and what it has printed before it fails stays printed.
-/

namespace SuperChip

/-- A console under observation. -/
structure Monitor (ρ : Type) where
  console : Console ρ
  /-- The breakpoints, in ascending order. -/
  breakpoints : List Int
  /-- The path of the file that was loaded last. -/
  programPath : Option String
  /-- What has been printed, each entry with a line feed behind it. -/
  printed : Array String

namespace Monitor

variable {ρ : Type}

/-- A monitor that observes a console. -/
def observing (console : Console ρ) : Monitor ρ := ⟨console, [], none, #[]⟩

/-- The machine that a monitor observes. -/
def machine (m : Monitor ρ) : Machine := m.console.machine

/-! ## Operations -/

/-- Print a text, with a line feed behind it. -/
def print (text : String) : Attempt (Monitor ρ) Unit :=
  modify fun m => { m with printed := m.printed.push text }

/-- Let the console of a monitor do something. -/
def onConsole {α : Type} (operation : Attempt (Console ρ) α) : Attempt (Monitor ρ) α :=
  Attempt.onPart Monitor.console (fun console m => { m with console := console }) operation

/-- The words of an argument. -/
def splitWords (argument : String) : Attempt (Monitor ρ) (List String) :=
  Attempt.ofExcept ((ShellWords.split argument).mapError .words)

/-- The number that a text stands for, with its base shown by a mark. -/
def readNumber (text : String) : Except Fault Int :=
  (Numeral.read .byMark (trimmed text)).mapError .numeral

/-- An address in an argument: the program counter, the index register or a
number. -/
def readAddress (machine : Machine) (text : String) : Except Fault Int :=
  let text := lowercased (trimmed text)
  if text = "pc" then .ok machine.pc
  else if text = "i" then .ok machine.i
  else (Numeral.read .byMark text).mapError .numeral

/-- The number that an argument holds, or another one if it is empty. -/
def numberOr (otherwise : Int) (text : String) : Attempt (Monitor ρ) Int :=
  if trimmed text = "" then pure otherwise else Attempt.ofExcept (readNumber text)

/-- The address that an argument means for the present machine. -/
def address (text : String) : Attempt (Monitor ρ) Int := do
  Attempt.ofExcept (readAddress (← get).machine text)

/-! ## Breakpoints -/

/-- Breakpoints in ascending order with one more among them. -/
def withBreakpoint (address : Int) : List Int → List Int
  | [] => [address]
  | first :: rest =>
    if address < first then address :: first :: rest
    else if address = first then first :: rest
    else first :: withBreakpoint address rest

/-- Breakpoints without the one at an address. -/
def withoutBreakpoint (address : Int) (breakpoints : List Int) : List Int :=
  breakpoints.filter (· ≠ address)

end Monitor

end SuperChip
