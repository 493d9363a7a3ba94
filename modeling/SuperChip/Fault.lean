import SuperChip.Folder
import SuperChip.Text.Numeral
import SuperChip.Text.ShellWords

/-!
# Faults

A fault ends the operation that meets it.  Faults are named by their cause, and
`Fault.message` is the one place where their wording is found.  Anomalies of a
running program, such as an opcode without meaning, are no faults: the machine
goes on, and a strict engine reports them.
-/

namespace SuperChip

/-- The largest program that fits between its base and the end of memory. -/
def programLimit : Nat := 3584

/-- The causes for which an operation fails. -/
inductive Fault where
  | programTooLarge (size : Nat)
  /-- Bytes do not fit into memory at their address. -/
  | loadOutside (address : Int) (count : Nat)
  | noProgram
  /-- A frame would run no instruction. -/
  | noCycles
  | unknownVariant (name : String)
  | notAByte
  | memoryIndex
  /-- The stack has no slot to read at this index. -/
  | stackRead
  /-- The stack has no slot to write at this index. -/
  | stackWrite
  /-- An index is too large in either direction to be one at all. -/
  | indexTooWide
  | keyOutOfRange (key : Int)
  | numeral (cause : Numeral.Error)
  | words (cause : ShellWords.Error)
  | file (cause : FolderError)
  | nullInPath
  /-- The host does not open a window, for a reason of its own. -/
  | windowRefused (reason : String)
  | planeSize (size : Nat)
  | colourComponent (value : Int)
  | colourTooWide
  | unevenColours
  deriving DecidableEq, Repr

/-- The wording of a fault. -/
def Fault.message : Fault → String
  | .programTooLarge size => s!"ROM too large for memory: {size} bytes (limit {programLimit})"
  | .loadOutside address count =>
    s!"load of {count} bytes at {Hexadecimal.address address} exceeds memory"
  | .noProgram => "no ROM loaded"
  | .noCycles => "cycles_per_frame must be at least 1"
  | .unknownVariant name => s!"unknown variant {quoted name} (expected one of schip, chip8)"
  | .notAByte => "byte must be in range(0, 256)"
  | .memoryIndex => "bytearray index out of range"
  | .stackRead => "list index out of range"
  | .stackWrite => "list assignment index out of range"
  | .indexTooWide => "cannot fit 'int' into an index-sized integer"
  | .keyOutOfRange key =>
    match Numeral.write key with
    | .ok number => s!"key index out of range: {number}"
    | .error cause => cause.message
  | .numeral cause => cause.message
  | .words cause => cause.message
  | .file cause => cause.message
  | .nullInPath => "embedded null byte"
  | .windowRefused reason => reason
  | .planeSize size => s!"cannot reshape array of size {size} into shape (64,128)"
  | .colourComponent value => s!"Python integer {value} out of bounds for uint8"
  | .colourTooWide => "Python int too large to convert to C long"
  | .unevenColours =>
    "setting an array element with a sequence. The requested array has an inhomogeneous " ++
      "shape after 1 dimensions. The detected shape was (2,) + inhomogeneous part."

/-- The decimal numeral of a number that an operation writes. -/
def numeralOf (number : Int) : Except Fault String :=
  (Numeral.write number).mapError .numeral

end SuperChip
