import SuperChip.Console.Basic

/-!
# The options of the command line

A run is described by its settings: the path of the program, what is to be done
with it, and how.  Each option has one or two spellings.  Three of them choose
what is to be done, and exclude each other.  The value of an option may be
empty; a run finds fault with that only when it needs the value.
-/

namespace SuperChip

/-- What is done with a program. -/
inductive Mode where
  | window
  /-- It runs without a window, and its last picture is printed. -/
  | headless
  | disassemble
  | monitor
  deriving DecidableEq, Repr

/-- The value of an option. -/
inductive OptionValue (α : Type) where
  /-- The divider `--` stands in the place of the value. -/
  | empty
  | given (value : α)
  deriving DecidableEq, Repr

/-- What the command line asks for. -/
structure Settings where
  rom : Option String
  variant : OptionValue Variant
  cycles : OptionValue Int
  scale : OptionValue Int
  strict : Bool
  seed : Option (OptionValue Int)
  bell : Bool
  mode : Mode
  frames : OptionValue Int
  deriving DecidableEq, Repr

/-- The settings of a run without options. -/
def Settings.default : Settings where
  rom := none
  variant := .given .schip
  cycles := .given Console.defaultCycles
  scale := .given 10
  strict := false
  seed := none
  bell := true
  mode := .window
  frames := .given 600

/-- The options, by what they set. -/
inductive OptionName where
  | help
  | variant
  | cycles
  | scale
  | strict
  | seed
  | noBell
  | headless
  | disassemble
  | monitor
  | frames
  deriving DecidableEq, Repr

namespace OptionName

/-- All options, in the order in which they are offered. -/
def all : List OptionName :=
  [help, variant, cycles, scale, strict, seed, noBell, headless, disassemble, monitor, frames]

/-- The ways to write an option, with the one that the help shows first in front. -/
def spellings : OptionName → List String
  | help => ["-h", "--help"]
  | variant => ["--variant"]
  | cycles => ["--cycles"]
  | scale => ["--scale"]
  | strict => ["--strict"]
  | seed => ["--seed"]
  | noBell => ["--no-bell"]
  | headless => ["--headless"]
  | disassemble => ["--disassemble", "-d"]
  | monitor => ["--monitor", "-m"]
  | frames => ["--frames"]

/-- The name of an option in messages. -/
def label (option : OptionName) : String := "/".intercalate option.spellings

/-- Whether an option is followed by a value. -/
def takesValue : OptionName → Bool
  | variant => true
  | cycles => true
  | scale => true
  | seed => true
  | frames => true
  | _ => false

/-- What is said when a run needs the value of an option and finds it empty; an
option without a value is never asked for one. -/
def emptyMessage : OptionName → String
  | variant => "unknown variant [] (expected one of schip, chip8)"
  | cycles => "'<' not supported between instances of 'list' and 'int'"
  | scale => "'>' not supported between instances of 'list' and 'int'"
  | seed => "The only supported seed types are: None,\nint, float, str, bytes, and bytearray."
  | frames => "'list' object cannot be interpreted as an integer"
  | _ => ""

/-- The mode that an option chooses; the window is chosen by none. -/
def mode? : OptionName → Option Mode
  | headless => some .headless
  | disassemble => some .disassemble
  | monitor => some .monitor
  | _ => none

/-- All spellings with their options. -/
def table : List (String × OptionName) :=
  all.flatMap fun option => option.spellings.map fun spelling => (spelling, option)

/-- The option with a spelling, written out in full. -/
def ofSpelling? (spelling : String) : Option OptionName :=
  (table.find? fun entry => entry.1 == spelling).map Prod.snd

end OptionName

/-! ## What is wrong with a command line -/

/-- The reasons why a command line is refused. -/
inductive UsageError where
  | invalidInteger (option : OptionName) (text : String)
  | invalidVariant (text : String)
  | missingValue (option : OptionName)
  /-- An option has a value and wants none. -/
  | unwantedValue (option : OptionName) (text : String)
  | conflict (option earlier : OptionName)
  /-- A shortened option has several readings. -/
  | ambiguous (text : String) (spellings : List String)
  | unrecognised (texts : List String)
  deriving DecidableEq, Repr

/-- What the user is told about a command line that is refused. -/
def UsageError.message : UsageError → String
  | .invalidInteger option text =>
    s!"argument {option.label}: invalid int value: {quoted text}"
  | .invalidVariant text =>
    let choices := ", ".intercalate (Variant.all.map fun variant => quoted variant.name)
    s!"argument {OptionName.variant.label}: invalid choice: {quoted text} (choose from {choices})"
  | .missingValue option => s!"argument {option.label}: expected one argument"
  | .unwantedValue option text =>
    s!"argument {option.label}: ignored explicit argument {quoted text}"
  | .conflict option earlier =>
    s!"argument {option.label}: not allowed with argument {earlier.label}"
  | .ambiguous text spellings =>
    s!"ambiguous option: {text} could match " ++ ", ".intercalate spellings
  | .unrecognised texts => "unrecognized arguments: " ++ " ".intercalate texts

end SuperChip
