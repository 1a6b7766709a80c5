/-
  The grammar of argument lists.

  * `Listed`: entries separated by commas, with white space around each; a comma may
    follow the last one.
  * `Quoted`, `Numeral`, `Truth`, `Key`: the tokens, with what they stand for.
  * `Alike`: the elements of an array have the shape of the first one.
  * `Denotes`: a text is the literal of a value.

  `Listed Denotes` is the grammar of argument lists.
-/
import CourseSite.Proofs.Decimal.Nearest
import CourseSite.Directive.Literal

namespace CourseSite.Directive.Grammar

open Text (isBlank isLetterOrNumeral)
open Literal (isQuote isWordChar)

/-! ## Lists -/

/-- White space, line breaks included. -/
def Blanks (cs : List Char) : Prop := ∀ c ∈ cs, isBlank c = true

/-- Entries separated by commas.  A comma stands behind an entry, never alone. -/
inductive Listed {α : Type} (Entry : List Char → α → Prop) : List Char → List α → Prop
  | none {blanks} : Blanks blanks → Listed Entry blanks []
  | last {before entry behind a} : Blanks before → Entry entry a → Blanks behind →
      Listed Entry (before ++ entry ++ behind) [a]
  | more {before entry behind cs a as} : Blanks before → Entry entry a → Blanks behind →
      Listed Entry cs as → Listed Entry (before ++ entry ++ behind ++ ',' :: cs) (a :: as)

/-! ## Tokens -/

/-- The characters with a meaning behind a backslash. -/
def escapes : List (Char × Char) :=
  [('n', '\n'), ('t', '\t'), ('r', '\r'), ('\\', '\\'), ('\'', '\''), ('"', '"')]

/-- What stands between two quotes, and the text it stands for.  A backslash and a
    character without a meaning behind it stand for themselves. -/
inductive Quoted (quote : Char) : List Char → List Char → Prop
  | nil : Quoted quote [] []
  | escape {e c cs text} : (e, c) ∈ escapes → Quoted quote cs text →
      Quoted quote ('\\' :: e :: cs) (c :: text)
  | pair {c cs text} : c ∉ escapes.map (·.1) → Quoted quote cs text →
      Quoted quote ('\\' :: c :: cs) ('\\' :: c :: text)
  | char {c cs text} : c ≠ '\\' → c ≠ quote → Quoted quote cs text →
      Quoted quote (c :: cs) (c :: text)

/-- The whole number that decimal digits denote, by the places of the digits. -/
def decimal : List Char → ℕ
  | [] => 0
  | c :: cs => (c.toNat - '0'.toNat) * 10 ^ cs.length + decimal cs

/-- An optional sign. -/
def IsSign (sign : List Char) : Prop := sign = [] ∨ sign = ['+'] ∨ sign = ['-']

/-- Decimal digits. -/
def Digits (cs : List Char) : Prop := ∀ c ∈ cs, c.isDigit = true

/-- A number: an integer if there is no point, and otherwise the nearest double. -/
inductive Numeral : List Char → Value → Prop
  | integer {sign digits n} : IsSign sign → Digits digits → digits ≠ [] →
      n.toInt = (if sign = ['-'] then -(decimal digits : ℤ) else decimal digits) →
      Numeral (sign ++ digits) (.integer n)
  | float {sign whole fraction x} : IsSign sign → Digits whole → Digits fraction →
      whole ++ fraction ≠ [] → x.negative = decide (sign = ['-']) →
      Double.IsNearest (decimal (whole ++ fraction) * 10 ^ (-fraction.length : ℤ)) x →
      Numeral (sign ++ whole ++ '.' :: fraction) (.float x)

/-- A truth value, whatever the case of its letters. -/
inductive Truth : List Char → Value → Prop
  | ofTrue {cs} : cs.map Char.toLower = ['t', 'r', 'u', 'e'] → Truth cs (.bool true)
  | ofFalse {cs} : cs.map Char.toLower = ['f', 'a', 'l', 's', 'e'] → Truth cs (.bool false)

/-- The key of a field: a string, or a word that starts with a letter, a numeral or an
    underscore and goes on with those and hyphens. -/
inductive Key : List Char → String → Prop
  | quoted {quote cs text} : isQuote quote = true → Quoted quote cs text →
      Key (quote :: (cs ++ [quote])) (String.ofList text)
  | word {c cs} : isLetterOrNumeral c = true ∨ c = '_' → (∀ c ∈ cs, isWordChar c = true) →
      Key (c :: cs) (String.ofList (c :: cs))

/-! ## Values -/

/-- Two values have one shape: they are of the same kind, and arrays that are not empty
    have first elements of one shape. -/
inductive SameShape : Value → Value → Prop
  | scalar {v w} : v.kind = w.kind → v.kind ≠ .array → SameShape v w
  | emptyLeft {items} : SameShape (.array []) (.array items)
  | emptyRight {items} : SameShape (.array items) (.array [])
  | nested {v vs w ws} : SameShape v w → SameShape (.array (v :: vs)) (.array (w :: ws))

/-- All items have the shape of the first one. -/
def Alike (items : List Value) : Prop := ∀ first ∈ items.head?, ∀ item ∈ items, SameShape item first

/-- A field: a key and a value with a colon between them. -/
inductive Field (Denotes : List Char → Value → Prop) : List Char → String × Value → Prop
  | mk {key name before behind cs v} : Key key name → Blanks before → Blanks behind →
      Denotes cs v → Field Denotes (key ++ before ++ ':' :: (behind ++ cs)) (name, v)

/-- The text is a literal of the value. -/
inductive Denotes : List Char → Value → Prop
  | string {quote cs text} : isQuote quote = true → Quoted quote cs text →
      Denotes (quote :: (cs ++ [quote])) (.string (String.ofList text))
  | number {cs v} : Numeral cs v → Denotes cs v
  | truth {cs v} : Truth cs v → Denotes cs v
  | object {cs fields} : Listed (Field Denotes) cs fields → (fields.map (·.1)).Nodup →
      Denotes ('\x7b' :: (cs ++ ['\x7d'])) (.object fields)
  | array {cs items} : Listed Denotes cs items → Alike items →
      Denotes ('[' :: (cs ++ [']'])) (.array items)

end CourseSite.Directive.Grammar
