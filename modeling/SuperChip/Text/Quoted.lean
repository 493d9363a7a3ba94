import SuperChip.Text.Hexadecimal
import SuperChip.Text.Printable

/-!
# Quoted texts in messages

A message shows a text that it complains about in quotes: in single ones,
unless the text holds a single quote and no double one.  A backslash, the
quote in use, the line feed, the carriage return and the tab have a short
escape, and any other character that is not printable is written by its code
point in two, four or eight digits.
-/

namespace SuperChip.Quoted

/-- The single quote, by its code point. -/
def singleQuote : Char := '\x27'

/-- The quote that a text is put in. -/
def delimiter (text : List Char) : Char :=
  if text.contains singleQuote && !text.contains '"' then '"' else singleQuote

/-- The escape of a character that is not printable, by its code point. -/
def codePointEscape (code : Nat) : List Char :=
  if code ≤ 0xFF then '\\' :: 'x' :: (Hexadecimal.lower 2 code).toList
  else if code ≤ 0xFFFF then '\\' :: 'u' :: (Hexadecimal.lower 4 code).toList
  else '\\' :: 'U' :: (Hexadecimal.lower 8 code).toList

/-- One character between the quotes `quote`. -/
def escape (quote c : Char) : List Char :=
  if c = '\\' ∨ c = quote then ['\\', c]
  else if c = '\n' then ['\\', 'n']
  else if c = '\r' then ['\\', 'r']
  else if c = '\t' then ['\\', 't']
  else if isPrintable c then [c]
  else codePointEscape c.toNat

/-- A text between quotes, with its escapes. -/
def encode (text : List Char) : List Char :=
  let quote := delimiter text
  quote :: text.flatMap (escape quote) ++ [quote]

end SuperChip.Quoted

namespace SuperChip

/-- A text as a message quotes it. -/
def quoted (text : String) : String := String.ofList (Quoted.encode text.toList)

end SuperChip
