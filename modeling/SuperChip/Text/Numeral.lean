import SuperChip.Text.Blank
import SuperChip.Text.Digit
import SuperChip.Text.Quoted

/-!
# Integers written as text

A numeral is a sign, a mark of its base and digits, with blanks around it that
do not count.  Single underscores may stand between digits, and one between the
mark and the first digit.  Decimal digits of every script are read as the ten
plain ones before anything else.

How the base is found depends on the place where the numeral stands (`Radix`):
a count on the command line is decimal, the number of a key is hexadecimal, and
any other number in the monitor shows its base by its mark.  Decimal numerals
of very many digits are neither read nor written.
-/

namespace SuperChip.Numeral

/-- How a numeral shows its base. -/
inductive Radix where
  /-- By a mark; without one the numeral is decimal and, unless its value is
  zero, does not start with a zero. -/
  | byMark
  /-- Decimal, zeros in front allowed. -/
  | decimal
  /-- Hexadecimal, with or without its mark. -/
  | hexadecimal
  deriving DecidableEq, Repr

/-- The number by which a message names the radix. -/
def Radix.number : Radix → Nat
  | .byMark => 0
  | .decimal => 10
  | .hexadecimal => 16

/-- The reasons why a text is not read as an integer, or an integer not written
as text. -/
inductive Error where
  | malformed (radix : Radix) (text : String)
  /-- The text is a decimal numeral of too many digits. -/
  | tooLong (digits : Nat)
  | tooLarge
  deriving DecidableEq, Repr

/-- The largest number of digits of a decimal numeral. -/
def decimalLimit : Nat := 4300

/-- The number of characters that a message shows of a quoted text. -/
def shownLimit : Nat := 200

/-- What the user is told about a numeral that is refused. -/
def Error.message : Error → String
  | .malformed radix text =>
    s!"invalid literal for int() with base {radix.number}: " ++
      String.ofList ((quoted text).toList.take shownLimit)
  | .tooLong digits =>
    s!"Exceeds the limit ({decimalLimit} digits) for integer string conversion: " ++
      s!"value has {digits} digits; use sys.set_int_max_str_digits() to increase the limit"
  | .tooLarge =>
    s!"Exceeds the limit ({decimalLimit} digits) for integer string conversion; " ++
      "use sys.set_int_max_str_digits() to increase the limit"

/-! ## Characters -/

/-- The blanks that may surround a numeral: the separators of files, groups,
records and units are not among them. -/
def isPadding (c : Char) : Bool :=
  isBlank c && !(decide (0x1C ≤ c.toNat) && decide (c.toNat ≤ 0x1F))

/-- A digit of any script as a plain one. -/
def plainDigit (c : Char) : Char :=
  match decimalValue? c with
  | some value => Char.ofNat (48 + value)
  | none => c

/-- The value of a digit or letter in base thirty-six. -/
def digitValue? (c : Char) : Option Nat :=
  if '0' ≤ c ∧ c ≤ '9' then some (c.toNat - 48)
  else if 'a' ≤ c ∧ c ≤ 'z' then some (c.toNat - 87)
  else if 'A' ≤ c ∧ c ≤ 'Z' then some (c.toNat - 55)
  else none

/-- The value of a character that is a digit in a base. -/
def digitIn? (base : Nat) (c : Char) : Option Nat :=
  (digitValue? c).filter (· < base)

/-! ## Digits -/

/-- The digits of a text in which each underscore stands between two of them. -/
def digits? (base : Nat) : List Char → Option (List Nat)
  | [] => none
  | [c] => (digitIn? base c).map ([·])
  | c :: '_' :: rest => do return (← digitIn? base c) :: (← digits? base rest)
  | c :: rest => do return (← digitIn? base c) :: (← digits? base rest)

/-- The number that digits stand for, the most significant first. -/
def value (base : Nat) (digits : List Nat) : Nat :=
  digits.foldl (fun total digit => total * base + digit) 0

/-- What follows the sign of a numeral: the base, the digits and underscores
behind the mark, and whether only zero may be written so. -/
structure Body where
  base : Nat
  text : List Char
  onlyZero : Bool

/-- A text without the underscore that it may start with. -/
def skipUnderscore : List Char → List Char
  | '_' :: rest => rest
  | text => text

/-- The base whose mark is `0` and this letter. -/
def markedBase? (letter : Char) : Option Nat :=
  if letter = 'x' ∨ letter = 'X' then some 16
  else if letter = 'o' ∨ letter = 'O' then some 8
  else if letter = 'b' ∨ letter = 'B' then some 2
  else none

/-- What follows the sign, taken apart the way the radix wants it. -/
def body : Radix → List Char → Body
  | .decimal, text => ⟨10, text, false⟩
  | .hexadecimal, '0' :: letter :: rest =>
    if markedBase? letter = some 16 then ⟨16, skipUnderscore rest, false⟩
    else ⟨16, '0' :: letter :: rest, false⟩
  | .hexadecimal, text => ⟨16, text, false⟩
  | .byMark, '0' :: letter :: rest =>
    match markedBase? letter with
    | some base => ⟨base, skipUnderscore rest, false⟩
    | none => ⟨10, '0' :: letter :: rest, true⟩
  | .byMark, text => ⟨10, text, false⟩

/-- The sign of a numeral, as whether it is negative, and its body. -/
def signed : List Char → Bool × List Char
  | '-' :: rest => (true, rest)
  | '+' :: rest => (false, rest)
  | text => (false, text)

/-- The magnitude of a body, and nothing if it is malformed. -/
def Body.magnitude? (body : Body) : Except Nat (Option Nat) :=
  let isBodyChar := fun c => c == '_' || (digitIn? body.base c).isSome
  match digits? body.base (body.text.takeWhile isBodyChar) with
  | none => .ok none
  | some digits =>
    -- The limit on decimal digits is checked before what follows the digits.
    if body.base = 10 ∧ decimalLimit < digits.length then .error digits.length
    else if body.text.dropWhile isBodyChar ≠ [] then .ok none
    else
      let magnitude := value body.base digits
      .ok (if body.onlyZero && magnitude != 0 then none else some magnitude)

/-- The integer that a text stands for. The error shows the text as it was given. -/
def read (radix : Radix) (text : String) : Except Error Int :=
  let (negative, rest) := signed (trimmedBy isPadding (text.toList.map plainDigit))
  match (body radix rest).magnitude? with
  | .error digits => .error (.tooLong digits)
  | .ok none => .error (.malformed radix text)
  | .ok (some magnitude) => .ok (if negative then -(magnitude : Int) else magnitude)

/-- The decimal numeral of an integer, unless it has too many digits. -/
def write (number : Int) : Except Error String :=
  if number.natAbs < Nat.pow 10 decimalLimit then .ok (toString number) else .error .tooLarge

/-! ## Small cases -/

example : (read .byMark " -0x_1F ").toOption = some (-31) := by decide +kernel
example : (read .byMark "0_0").toOption = some 0 := by decide +kernel
example : (read .byMark "007").toOption = none := by decide +kernel
example : (read .decimal "007").toOption = some 7 := by decide +kernel
example : (read .hexadecimal "0b1").toOption = some 0xB1 := by decide +kernel
example : (write (-(10 ^ 4299))).toOption.isSome := by decide +kernel
example : (write (-(10 ^ 4300))).toOption = none := by decide +kernel

end SuperChip.Numeral
