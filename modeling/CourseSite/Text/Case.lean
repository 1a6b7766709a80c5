/-
  Upper and lower case of whole texts, by the unconditional Unicode mappings
  and the rule for the final sigma.

  * `upperChar`, `lowerChar`: the mapping of one character, which may be several.
  * `upper`, `lower`: the mapping of a text; `lower` writes a sigma that ends a
    word as `ς`.
  * `fold`: the form in which texts that differ in case alone are equal.
-/
import CourseSite.Text.CaseTable
import CourseSite.Text.Letter

namespace CourseSite.Text

/-- The run covers the code point. -/
def CaseRun.covers (run : CaseRun) (n : Nat) : Bool :=
  run.first ≤ n && n ≤ run.last && (n - run.first) % run.step == 0

/-- The mapping of one character through its expansions and runs; a character
    in neither stays. -/
def mapCase (expansions : List (Nat × List Nat)) (runs : List CaseRun) (c : Char) : List Char :=
  match expansions.find? (·.1 == c.toNat) with
  | some (_, codes) => codes.map Char.ofNat
  | none =>
    match runs.find? (·.covers c.toNat) with
    | some run => [Char.ofNat ((c.toNat : Int) + run.delta).toNat]
    | none => [c]

/-- The upper case of one character. -/
def upperChar (c : Char) : List Char :=
  if c.toNat < 0x80 then [c.toUpper] else mapCase upperExpansions upperRuns c

/-- The lower case of one character, apart from its place in a word. -/
def lowerChar (c : Char) : List Char :=
  if c.toNat < 0x80 then [c.toLower] else mapCase lowerExpansions lowerRuns c

/-- Past the characters that case ignores stands a cased one. -/
def meetsCased (cs : List Char) : Bool :=
  match cs.dropWhile (inRanges caseIgnorableRanges) with
  | [] => false
  | c :: _ => inRanges casedRanges c

/-- The upper case of a text. -/
def upper (text : String) : String := String.ofList (text.toList.flatMap upperChar)

/-- The lower case of the characters `rest` that stand behind `before`, which is
    given nearest first: a capital sigma with a cased character before it in
    its word, and none after it, is final. -/
def lowerFrom (before : List Char) : List Char → List Char
  | [] => []
  | c :: rest =>
    (if c = 'Σ' then [if meetsCased before && !meetsCased rest then 'ς' else 'σ']
      else lowerChar c) ++ lowerFrom (c :: before) rest

/-- The lower case of a text. -/
def lower (text : String) : String := String.ofList (lowerFrom [] text.toList)

/-- The form of one character that all its cases share.  The dotless i has no other
    case here: its upper case belongs to the dotted one. -/
def foldChar (c : Char) : List Char :=
  if c = 'ı' then [c] else ((lowerChar c).flatMap upperChar).flatMap lowerChar

/-- The form of a text that it shares with the texts that differ from it in case alone. -/
def fold (text : String) : String := String.ofList (text.toList.flatMap foldChar)

end CourseSite.Text
