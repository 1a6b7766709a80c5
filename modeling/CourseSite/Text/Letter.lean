/-
  Character classes that reach beyond ASCII.

  * `isBlank`: the property White_Space, line breaks included.
  * `isLetter`: the property Alphabetic; `isLetterOrNumeral` adds all numerals.
  * `isPunctuation`: punctuation and symbols.
-/
import CourseSite.Text.LetterTable
import CourseSite.Text.PunctuationTable

namespace CourseSite.Text

/-- A code point lies in one of the closed intervals. -/
def inRanges (ranges : List (Nat × Nat)) (c : Char) : Bool :=
  ranges.any fun (first, last) => first ≤ c.toNat && c.toNat ≤ last

/-- White space: the six ASCII blanks and the Unicode spaces and separators. -/
def blankRanges : List (Nat × Nat) :=
  [(0x9, 0xD), (0x20, 0x20), (0x85, 0x85), (0xA0, 0xA0), (0x1680, 0x1680), (0x2000, 0x200A),
   (0x2028, 0x2029), (0x202F, 0x202F), (0x205F, 0x205F), (0x3000, 0x3000)]

/-- White space, line breaks included. -/
def isBlank (c : Char) : Bool := inRanges blankRanges c

/-- An alphabetic character. -/
def isLetter (c : Char) : Bool :=
  if c.toNat < 0x80 then c.isAlpha else inRanges alphabeticRanges c

/-- A numeral of any kind: digits, letter numbers and fractions. -/
def isNumeral (c : Char) : Bool :=
  if c.toNat < 0x80 then c.isDigit else inRanges numericRanges c

/-- An alphabetic character or a numeral. -/
def isLetterOrNumeral (c : Char) : Bool := isLetter c || isNumeral c

/-- A punctuation character or a symbol of ASCII. -/
def isAsciiPunctuation (c : Char) : Bool :=
  inRanges [(0x21, 0x2F), (0x3A, 0x40), (0x5B, 0x60), (0x7B, 0x7E)] c

/-- A punctuation character or a symbol. -/
def isPunctuation (c : Char) : Bool :=
  if c.toNat < 0x80 then isAsciiPunctuation c else inRanges punctuationRanges c

/-- The text without white space at either end. -/
def trim (text : String) : String :=
  String.ofList ((text.toList.dropWhile isBlank).reverse.dropWhile isBlank).reverse

end CourseSite.Text
