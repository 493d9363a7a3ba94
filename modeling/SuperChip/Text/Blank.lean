import SuperChip.Text.CodeRange

/-!
# Blanks around and between words

A blank is one of the twenty-nine characters that the character standard calls
white space or that separate paragraphs, files and records.  A line typed into
the monitor loses its blanks at both ends, and so does an argument.
-/

namespace SuperChip

/-- The blanks, by code point. -/
def blankRanges : List CodeRange :=
  [(0x09, 0x0D), (0x1C, 0x20), (0x85, 0x85), (0xA0, 0xA0), (0x1680, 0x1680), (0x2000, 0x200A),
   (0x2028, 0x2029), (0x202F, 0x202F), (0x205F, 0x205F), (0x3000, 0x3000)]

/-- Whether a character is a blank. -/
def isBlank (c : Char) : Bool := CodeRange.anyContains blankRanges c

/-- The characters left after those of a class are removed at both ends. -/
def trimmedBy (blank : Char → Bool) (text : List Char) : List Char :=
  ((text.dropWhile blank).reverse.dropWhile blank).reverse

/-- A text without the blanks at its two ends. -/
def trimmed (text : String) : String :=
  String.ofList (trimmedBy isBlank text.toList)

/-- The characters up to the first blank, of a text that starts with none. -/
def firstWord (text : String) : String :=
  String.ofList (text.toList.takeWhile fun c => !isBlank c)

/-- A text that neither starts nor ends with a blank loses nothing. -/
theorem trimmedBy_eq_self {blank : Char → Bool} {text : List Char}
    (hfirst : ∀ c ∈ text.head?, blank c = false) (hlast : ∀ c ∈ text.getLast?, blank c = false) :
    trimmedBy blank text = text := by
  have hdrop : ∀ {text : List Char}, (∀ c ∈ text.head?, blank c = false) →
      text.dropWhile blank = text := by
    intro text hfirst
    cases text with
    | nil => rfl
    | cons c rest => rw [List.dropWhile_cons_of_neg (by simp [hfirst c rfl])]
  rw [trimmedBy, hdrop hfirst, hdrop (by simpa using hlast), List.reverse_reverse]

end SuperChip
