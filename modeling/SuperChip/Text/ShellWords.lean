/-!
# Words of a command line

An argument of the monitor is split into words as a shell does it.  Words end
at a space, tab, carriage return or line feed.  Between single quotes every
character stands for itself, and so it does between double quotes, where a
backslash in front of a double quote or a backslash is dropped.  Outside quotes
a backslash makes the next character part of the word.  An empty pair of quotes
is an empty word.

`quote` writes a text as one word that splits back into the text: a text of
harmless characters is written as it is, any other between single quotes, with
each single quote of its own between double ones.
-/

namespace SuperChip.ShellWords

/-- The reasons why a text does not split. -/
inductive Error where
  | openQuotation
  /-- The text ends with the backslash of an escape. -/
  | danglingEscape
  deriving DecidableEq, Repr

/-- What the user is told about an argument that does not split. -/
def Error.message : Error → String
  | .openQuotation => "No closing quotation"
  | .danglingEscape => "No escaped character"

/-- The single quote, by its code point. -/
def singleQuote : Char := '\x27'

/-- Whether a character opens a quotation. -/
def isQuote (c : Char) : Bool := c == singleQuote || c == '"'

/-- Whether a character ends a word outside quotes. -/
def isSeparator (c : Char) : Bool := c == ' ' || c == '\t' || c == '\r' || c == '\n'

/-- Where in a text the reader stands. -/
inductive Phase where
  | between
  /-- In a word and outside quotes. -/
  | inside
  /-- Between two of the quotes `mark`. -/
  | quotation (mark : Char)
  /-- Behind a backslash, which stood between two of the quotes `mark` if there
  is one. -/
  | escape (mark : Option Char)
  deriving DecidableEq, Repr

/-- The words of the rest of a text, where `word` holds the characters of the
word under way, the last one first. -/
def splitFrom : Phase → List Char → List Char → Except Error (List (List Char))
  | .between, _, [] => .ok []
  | .inside, word, [] => .ok [word.reverse]
  | .quotation _, _, [] => .error .openQuotation
  | .escape _, _, [] => .error .danglingEscape
  | .between, word, c :: rest =>
    if isSeparator c then splitFrom .between word rest
    else if c = '\\' then splitFrom (.escape none) word rest
    else if isQuote c then splitFrom (.quotation c) word rest
    else splitFrom .inside (c :: word) rest
  | .inside, word, c :: rest =>
    if isSeparator c then do return word.reverse :: (← splitFrom .between [] rest)
    else if c = '\\' then splitFrom (.escape none) word rest
    else if isQuote c then splitFrom (.quotation c) word rest
    else splitFrom .inside (c :: word) rest
  | .quotation mark, word, c :: rest =>
    if c = mark then splitFrom .inside word rest
    else if c = '\\' ∧ mark = '"' then splitFrom (.escape (some mark)) word rest
    else splitFrom (.quotation mark) (c :: word) rest
  | .escape none, word, c :: rest => splitFrom .inside (c :: word) rest
  | .escape (some mark), word, c :: rest =>
    if c = mark ∨ c = '\\' then splitFrom (.quotation mark) (c :: word) rest
    else splitFrom (.quotation mark) (c :: '\\' :: word) rest

/-- The words of a text. -/
def split (text : String) : Except Error (List String) := do
  return (← splitFrom .between [] text.toList).map String.ofList

/-! ## Writing one word -/

/-- Whether a character stands for itself in every shell. -/
def isHarmless (c : Char) : Bool :=
  c.isAlphanum || "_@%+=:,./-".toList.contains c

/-- A character between single quotes; a single quote leaves them, stands
between double ones and enters them again. -/
def protect (c : Char) : List Char :=
  if c = singleQuote then [singleQuote, '"', singleQuote, '"', singleQuote] else [c]

/-- A text as the characters of one word. -/
def quoteChars (text : List Char) : List Char :=
  if text = [] then [singleQuote, singleQuote]
  else if text.all isHarmless then text
  else singleQuote :: text.flatMap protect ++ [singleQuote]

/-- A text as one word, which splits back into the text. -/
def quote (text : String) : String := String.ofList (quoteChars text.toList)

/-! ## Small cases -/

example : (split "a 'b c' \"d\\\"e\" ''").toOption = some ["a", "b c", "d\"e", ""] := by
  decide +kernel
example : (split "'a").toOption = none := by decide +kernel
example : quote "it's" = "'it'\"'\"'s'" := by decide +kernel

end SuperChip.ShellWords
