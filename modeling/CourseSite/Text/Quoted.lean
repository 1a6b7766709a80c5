/-
  Text between double quotes, as programmers read it.

  * `quoted`: a text with backslashes in front of what would be misread, and the
    codes of what would not be seen.
  * `quotedList`: several of them between brackets.
-/
import CourseSite.Text.InvisibleTable
import CourseSite.Text.Letter

namespace CourseSite.Text

/-- The character is not seen as itself: it is invisible, or drawn as part of the one
    before it. -/
def isUnseen (c : Char) : Bool :=
  if c.toNat < 0x80 then c.toNat < 0x20 || c.toNat = 0x7F
  else inRanges extendRanges c || inRanges invisibleRanges c

/-- A character between double quotes. -/
def quoteChar (c : Char) : List Char :=
  match c with
  | '\x00' => ['\\', '0']
  | '\t' => ['\\', 't']
  | '\n' => ['\\', 'n']
  | '\r' => ['\\', 'r']
  | '"' => ['\\', '"']
  | '\\' => ['\\', '\\']
  | c =>
    if isUnseen c then ['\\', 'u', '\x7b'] ++ Nat.toDigits 16 c.toNat ++ ['\x7d'] else [c]

/-- A text between double quotes. -/
def quoted (text : String) : String :=
  String.ofList ('"' :: text.toList.flatMap quoteChar ++ ['"'])

/-- Some texts between brackets, each between double quotes. -/
def quotedList (texts : List String) : String :=
  "[" ++ ", ".intercalate (texts.map quoted) ++ "]"

end CourseSite.Text
