import SuperChip.CommandLine.Options
import SuperChip.Text.Digit

/-!
# The arguments of the command line, one by one

Before anything is done, every argument is classified.  Behind the divider `--`
all arguments are plain.  In front of it an argument is an option if it starts
with a dash and does not look like a negative number or, if no option has its
spelling, like a text with a space in it.  A long option may be shortened as
far as it stays distinct, and may have a text attached behind an equals sign; a
short option may have one behind an equals sign or right behind its letter.
-/

namespace SuperChip

/-- An argument, by its class. -/
inductive Argument where
  | plain (text : String)
  | divider
  /-- An option, spelled with one dash or two, and the text that is attached to
  it: behind an equals sign or, if it is short, right behind it. -/
  | option (name : OptionName) (short : Bool) (attached : Option String)
  /-- An argument that looks like an option and is none. -/
  | unknown (text : String)
  deriving DecidableEq, Repr

namespace Argument

/-- The part of a text in front of the first equals sign, and what stands behind
that sign if there is one. -/
def partition (text : String) : String × Option String :=
  let chars := text.toList
  (String.ofList (chars.takeWhile (· ≠ '=')),
    match chars.dropWhile (· ≠ '=') with
    | [] => none
    | _ :: value => some (String.ofList value))

/-- Whether an option is spelled with one dash. -/
def isShort (spelling : String) : Bool := !spelling.startsWith "--"

/-- Whether characters are digits of any script, and at least one. -/
def areDigits (chars : List Char) : Bool :=
  !chars.isEmpty && chars.all fun c => (decimalValue? c).isSome

/-- Whether a text is a dash and a plain number: digits, perhaps with a point in
front of the last ones. A line feed at the end does not count. -/
def looksNegative (text : String) : Bool :=
  match text.toList with
  | '-' :: number =>
    let number := if number.getLast? = some '\n' then number.dropLast else number
    areDigits number ||
      match number.dropWhile (· ≠ '.') with
      | _ :: places =>
        areDigits places &&
          (number.takeWhile (· ≠ '.')).all fun c => (decimalValue? c).isSome
      | [] => false
  | _ => false

/-- The readings of an option that has no exact spelling: shortened if it starts
with two dashes, with more text behind it if it starts with one. -/
def readings (text : String) : List (String × Argument) :=
  if text.startsWith "--" then
    let (start, value) := partition text
    (OptionName.table.filter fun entry => entry.1.startsWith start).map fun (spelling, name) =>
      (spelling, .option name false value)
  else
    let start := String.ofList (text.toList.take 2)
    (OptionName.table.filter fun entry => entry.1 == start).map fun (spelling, name) =>
      (spelling, .option name true (some (String.ofList (text.toList.drop 2))))

/-- The class of an argument that starts with a dash and has more characters. -/
def classifyDashed (text : String) : Except UsageError Argument :=
  let (start, value) := partition text
  match OptionName.ofSpelling? text, OptionName.ofSpelling? start with
  | some name, _ => .ok (.option name (isShort text) none)
  | none, some name => .ok (.option name (isShort start) value)
  | none, none =>
    match readings text with
    | [] =>
      .ok (if looksNegative text || text.toList.contains ' ' then .plain text else .unknown text)
    | [(_, argument)] => .ok argument
    | several => .error (.ambiguous text (several.map Prod.fst))

/-- The class of an argument that no divider stands in front of; a dash alone is plain. -/
def classify (text : String) : Except UsageError Argument :=
  if text.startsWith "-" && text != "-" then classifyDashed text else .ok (.plain text)

/-- The classes of all arguments, up to the first that has none. -/
def classifyAll : List String → Except UsageError (List Argument)
  | [] => .ok []
  | text :: rest =>
    if text = "--" then .ok (.divider :: rest.map .plain)
    else do return (← classify text) :: (← classifyAll rest)

/-! ## Small cases -/

example : (classify "--fr=3").toOption = some (.option .frames false (some "3")) := by
  decide +kernel
example : (classify "-dm").toOption = some (.option .disassemble true (some "m")) := by
  decide +kernel
example : (classify "-.5").toOption = some (.plain "-.5") := by decide +kernel
example : (classify "-x").toOption = some (.unknown "-x") := by decide +kernel
example : (classify "--s").toOption = none := by decide +kernel

end Argument

end SuperChip
