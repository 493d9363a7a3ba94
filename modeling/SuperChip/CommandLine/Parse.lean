import SuperChip.CommandLine.Argument

/-!
# The settings that a command line asks for

The arguments are taken from left to right, and the first problem ends the
reading.  A plain argument is the path of the program, unless there is one
already.  What cannot be placed is set aside and refused at the end, when
nothing else is wrong.  The request for help is answered as soon as it is
reached.

A text that is attached to an option is its value.  An option without a value
takes no text, but a short one may have the letters of more short ones attached,
and then each letter must stand for an option before any of them is taken.  The
divider, attached to an option as its value, leaves the value empty.
-/

namespace SuperChip

/-- The reasons why a command line does not start a run. -/
inductive Refusal where
  | help
  | error (cause : UsageError)
  deriving DecidableEq, Repr

/-- A command line that is partly read. -/
structure Reading where
  settings : Settings
  /-- The options that have chosen a mode. -/
  modes : List OptionName
  /-- The arguments that could not be placed. -/
  leftover : List String

namespace Reading

/-- A command line of which nothing has been read. -/
def start : Reading := ⟨.default, [], []⟩

/-- Keep arguments that have no place; they are refused at the end. -/
def setAside (reading : Reading) (texts : List String) : Reading :=
  { reading with leftover := reading.leftover ++ texts }

/-- Change the settings read so far. -/
def setting (reading : Reading) (change : Settings → Settings) : Reading :=
  { reading with settings := change reading.settings }

/-! ## Options -/

/-- The options that exclude a mode, in the order in which they are offered. -/
def modeOptions : List OptionName := [.headless, .disassemble, .monitor]

/-- Choose a mode, which no other option may have chosen before. -/
def chooseMode (reading : Reading) (option : OptionName) (mode : Mode) :
    Except Refusal Reading :=
  match modeOptions.find? fun other => other != option && reading.modes.contains other with
  | some earlier => .error (.error (.conflict option earlier))
  | none => .ok { reading.setting ({ · with mode := mode }) with modes := option :: reading.modes }

/-- Take an option without a value; one that asks for help ends the reading. -/
def takeFlag (reading : Reading) (option : OptionName) : Except Refusal Reading :=
  match option, option.mode? with
  | .help, _ => .error .help
  | .strict, _ => .ok (reading.setting ({ · with strict := true }))
  | .noBell, _ => .ok (reading.setting ({ · with bell := false }))
  | _, some mode => reading.chooseMode option mode
  | _, none => .ok reading

/-- The integer that an option is given. -/
def integer (option : OptionName) (text : String) : Except Refusal Int :=
  match Numeral.read .decimal text with
  | .ok value => .ok value
  | .error _ => .error (.error (.invalidInteger option text))

/-- The variant that an option is given. -/
def variant (text : String) : Except Refusal Variant :=
  match Variant.ofName text with
  | .ok variant => .ok variant
  | .error _ => .error (.error (.invalidVariant text))

/-- The value that a text stands for; the divider stands for the empty one. -/
def valueOf {α : Type} (read : String → Except Refusal α) (text : String) :
    Except Refusal (OptionValue α) :=
  if text = "--" then .ok .empty else .given <$> read text

/-- Take an option with its value. -/
def takeValue (reading : Reading) (option : OptionName) (text : String) :
    Except Refusal Reading :=
  match option with
  | .variant => do
    let variant ← valueOf variant text
    return reading.setting ({ · with variant := variant })
  | .cycles => do
    let cycles ← valueOf (integer option) text
    return reading.setting ({ · with cycles := cycles })
  | .scale => do
    let scale ← valueOf (integer option) text
    return reading.setting ({ · with scale := scale })
  | .seed => do
    let seed ← valueOf (integer option) text
    return reading.setting ({ · with seed := some seed })
  | .frames => do
    let frames ← valueOf (integer option) text
    return reading.setting ({ · with frames := frames })
  | _ => .ok reading

/-- A short option and the ones behind it in the same argument, of which none
has a value. -/
def joinedOptions (option : OptionName) : List Char → Except UsageError (List OptionName)
  | [] => .ok [option]
  | letter :: rest =>
    match OptionName.ofSpelling? (String.ofList ['-', letter]) with
    | none => .error (.unwantedValue option (String.ofList (letter :: rest)))
    | some following => (option :: ·) <$> joinedOptions following rest

/-- The options without values in an argument with a text attached to its
option, which only a short one may have. -/
def attachedOptions (option : OptionName) (short : Bool) (text : String) :
    Except UsageError (List OptionName) :=
  if short && text != "" then joinedOptions option text.toList
  else .error (.unwantedValue option text)

/-- Take options without values one after the other. -/
def takeFlags (reading : Reading) : List OptionName → Except Refusal Reading
  | [] => .ok reading
  | option :: rest => do
    (← reading.takeFlag option).takeFlags rest

/-! ## All arguments -/

/-- Read the rest of the arguments; `placed` says whether the argument just in
front of them is the path of the program. -/
def takeAll (reading : Reading) (placed : Bool) : List Argument → Except Refusal Reading
  | [] => .ok reading
  | .plain text :: rest =>
    if reading.settings.rom.isSome then (reading.setAside [text]).takeAll false rest
    else (reading.setting ({ · with rom := some text })).takeAll true rest
  | .divider :: rest =>
    -- A divider that no path goes with is left over.
    if reading.settings.rom.isSome && !placed then (reading.setAside ["--"]).takeAll false rest
    else reading.takeAll false rest
  | .unknown text :: rest => (reading.setAside [text]).takeAll false rest
  | .option name _ none :: rest =>
    if name.takesValue then
      match rest with
      | .plain text :: rest => do (← reading.takeValue name text).takeAll false rest
      | _ => .error (.error (.missingValue name))
    else do (← reading.takeFlag name).takeAll false rest
  | .option name short (some text) :: rest =>
    if name.takesValue then do (← reading.takeValue name text).takeAll false rest
    else
      match attachedOptions name short text with
      | .error cause => .error (.error cause)
      | .ok options => do (← reading.takeFlags options).takeAll false rest

end Reading

/-- The settings that the arguments ask for, or the reason why no run starts. -/
def Settings.ofArguments (arguments : List String) : Except Refusal Settings :=
  match Argument.classifyAll arguments with
  | .error cause => .error (.error cause)
  | .ok arguments => do
    let reading ← Reading.start.takeAll false arguments
    if reading.leftover = [] then pure reading.settings
    else throw (.error (.unrecognised reading.leftover))

end SuperChip
