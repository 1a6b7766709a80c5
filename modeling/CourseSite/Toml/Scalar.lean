/-
  The scalars and keys of TOML text.

  * `Problem`: why a text is not TOML.
  * `string`: a string of one of the four kinds at the start of a text.
  * `word?`: what a value without quotes stands for.
  * `key`: the names of a dotted key.

  Every reader returns the text behind what it read.
-/
import CourseSite.Text.Digits
import CourseSite.Text.Split
import CourseSite.Toml.Value

namespace CourseSite.Toml

/-- Why a text cannot be read. -/
inductive Problem where
  | expectedKey
  | expectedEquals
  | expectedValue
  | expectedLineEnd
  | expectedClosing
  | unterminatedString
  | invalidCharacter
  | invalidEscape
  | invalidValue
  | duplicateKey
  | tooDeep
deriving DecidableEq

/-- The description of a problem. -/
def Problem.message : Problem → String
  | .expectedKey => "key expected"
  | .expectedEquals => "key with no value, expected \x60=\x60"
  | .expectedValue => "value expected"
  | .expectedLineEnd => "unexpected content behind a value, expected newline"
  | .expectedClosing => "unclosed bracket"
  | .unterminatedString => "unclosed string"
  | .invalidCharacter => "invalid control character"
  | .invalidEscape => "invalid escape sequence"
  | .invalidValue => "invalid value"
  | .duplicateKey => "duplicate key"
  | .tooDeep => "cannot recurse further; max recursion depth met"

/-! ## Characters -/

/-- A space or a tab. -/
def isBlank (c : Char) : Bool := c = ' ' || c = '\t'

/-- The character may stand in a comment or a string. -/
def isText (c : Char) : Bool := c = '\t' || (0x20 ≤ c.toNat && c.toNat != 0x7F)

/-- The text behind leading blanks. -/
def skipBlanks (cs : List Char) : List Char := cs.dropWhile isBlank

/-- The text behind a line break, if one is there. -/
def lineBreak? : List Char → Option (List Char)
  | '\n' :: cs => some cs
  | '\r' :: '\n' :: cs => some cs
  | _ => none

/-! ## Strings -/

/-- The character of a hexadecimal code. -/
def codePoint (digits : Nat) (cs : List Char) : Except Problem (List Char × List Char) :=
  let code := cs.take digits
  match if code.length < digits then none else (Text.natural? 16 code).bind Text.scalar? with
  | none => .error .invalidEscape
  | some char => .ok ([char], cs.drop digits)

/-- What stands behind a backslash. -/
def escape : List Char → Except Problem (List Char × List Char)
  | 'b' :: cs => .ok (['\x08'], cs)
  | 't' :: cs => .ok (['\t'], cs)
  | 'n' :: cs => .ok (['\n'], cs)
  | 'f' :: cs => .ok (['\x0c'], cs)
  | 'r' :: cs => .ok (['\r'], cs)
  | 'e' :: cs => .ok (['\x1b'], cs)
  | '"' :: cs => .ok (['"'], cs)
  | '\\' :: cs => .ok (['\\'], cs)
  | 'x' :: cs => codePoint 2 cs
  | 'u' :: cs => codePoint 4 cs
  | 'U' :: cs => codePoint 8 cs
  | _ => .error .invalidEscape

/-- The characters of a string on one line, behind the opening quote. -/
def lineString (quote : Char) : Nat → List Char → Except Problem (List Char × List Char)
  | 0, _ => .error .unterminatedString
  | _ + 1, [] => .error .unterminatedString
  | fuel + 1, c :: cs =>
    if c = quote then .ok ([], cs)
    else if c = '\\' ∧ quote = '"' then do
      let (here, cs) ← escape cs
      let (more, cs) ← lineString quote fuel cs
      return (here ++ more, cs)
    else if isText c then (lineString quote fuel cs).map fun (more, cs) => (c :: more, cs)
    else .error .invalidCharacter

/-- The text behind leading blanks and line breaks. -/
def skipBreaks : List Char → List Char
  | [] => []
  | '\r' :: '\n' :: cs => skipBreaks cs
  | c :: cs => if isBlank c || c = '\n' then skipBreaks cs else c :: cs

/-- The text behind a backslash at the end of a line, with the blanks and line breaks
    there; nothing if there is more on the line. -/
def continuation? (cs : List Char) : Option (List Char) :=
  (lineBreak? (skipBlanks cs)).map skipBreaks

/-- The characters of a string over several lines, behind the opening quotes.  Up to
    two quotes may stand right before the closing ones. -/
def textString (quote : Char) : Nat → List Char → Except Problem (List Char × List Char)
  | 0, _ => .error .unterminatedString
  | _ + 1, [] => .error .unterminatedString
  | fuel + 1, c :: cs =>
    let continueWith (here : List Char) (cs : List Char) : Except Problem (List Char × List Char) :=
      (textString quote fuel cs).map fun (more, cs) => (here ++ more, cs)
    if c = quote then
      let quotes := (c :: cs).takeWhile (· = quote)
      if quotes.length < 3 then continueWith [c] cs
      else
        let inner := min (quotes.length - 3) 2
        .ok (List.replicate inner quote, (c :: cs).drop (inner + 3))
    else if c = '\\' ∧ quote = '"' then
      match continuation? cs with
      | some cs => continueWith [] cs
      | none =>
        match escape cs with
        | .error problem => .error problem
        | .ok (here, cs) => continueWith here cs
    else if c = '\r' then
      match cs with
      | '\n' :: cs => continueWith ['\r', '\n'] cs
      | _ => .error .invalidCharacter
    else if isText c || c = '\n' then continueWith [c] cs
    else .error .invalidCharacter

/-- The string whose opening quote was read. -/
def string (quote : Char) (cs : List Char) : Except Problem (String × List Char) :=
  let read := match cs with
    | a :: b :: rest =>
      if a = quote ∧ b = quote then
        let rest := (lineBreak? rest).getD rest
        textString quote (rest.length + 1) rest
      else lineString quote (cs.length + 1) cs
    | cs => lineString quote (cs.length + 1) cs
  read.map fun (text, cs) => (String.ofList text, cs)

/-! ## Values without quotes -/

/-- The digits of a text in which a single underscore may stand between two digits. -/
def digits? (isDigit : Char → Bool) : List Char → Option (List Char)
  | [] => none
  | [c] => if isDigit c then some [c] else none
  | c :: '_' :: cs => if isDigit c then (digits? isDigit cs).map (c :: ·) else none
  | c :: cs => if isDigit c then (digits? isDigit cs).map (c :: ·) else none

/-- The number of digits in a base. -/
def natural? (base : Nat) (cs : List Char) : Option Nat :=
  (digits? (fun c => (Text.digit? base c).isSome) cs).bind (Text.natural? base)

/-- Decimal digits without a leading zero. -/
def decimal? (cs : List Char) : Option Nat :=
  if cs.length > 1 ∧ cs.head? = some '0' then none else natural? 10 cs

/-- The whole number that a word shows. -/
def integer? : List Char → Option Int
  | '0' :: 'x' :: cs => (natural? 16 cs).map Int.ofNat
  | '0' :: 'o' :: cs => (natural? 8 cs).map Int.ofNat
  | '0' :: 'b' :: cs => (natural? 2 cs).map Int.ofNat
  | '-' :: cs => (decimal? cs).map fun n => -(n : Int)
  | '+' :: cs => (decimal? cs).map Int.ofNat
  | cs => (decimal? cs).map Int.ofNat

/-- The word is a fraction: with a point, with an exponent, or one of the special
    values. -/
def isFraction (cs : List Char) : Bool :=
  let unsigned := match cs with
    | '-' :: cs => cs
    | '+' :: cs => cs
    | cs => cs
  let isExponent (cs : List Char) : Bool :=
    (natural? 10 (match cs with
      | '-' :: cs => cs
      | '+' :: cs => cs
      | cs => cs)).isSome
  let isMark (c : Char) : Bool := c = 'e' || c = 'E'
  let whole := unsigned.takeWhile fun c => c != '.' && !isMark c
  let rest := unsigned.drop whole.length
  String.ofList unsigned = "inf" || String.ofList unsigned = "nan" ||
    ((decimal? whole).isSome &&
      match rest with
      | '.' :: rest =>
        let places := rest.takeWhile (!isMark ·)
        (natural? 10 places).isSome &&
          match rest.drop places.length with
          | [] => true
          | _ :: exponent => isExponent exponent
      | _ :: exponent => isExponent exponent
      | [] => false)

/-- The value of exactly so many digits. -/
def digitsOf? (count : Nat) (cs : List Char) : Option Nat :=
  if cs.length = count ∧ cs.all Char.isDigit then Text.natural? 10 cs else none

/-- Two digits with a value below a bound. -/
def isPair (bound : Nat) (cs : List Char) : Bool := (digitsOf? 2 cs).any (· < bound)

/-- The number of days of a month; a month that does not exist has none. -/
def daysOf (year month : Nat) : Nat :=
  if month = 2 then
    if year % 4 = 0 ∧ (year % 100 ≠ 0 ∨ year % 400 = 0) then 29 else 28
  else if [4, 6, 9, 11].contains month then 30
  else if 1 ≤ month ∧ month ≤ 12 then 31
  else 0

/-- The word is a date such as `1979-05-27`. -/
def isDate (cs : List Char) : Bool :=
  match Text.split (· = '-') cs with
  | [year, month, day] =>
    match digitsOf? 4 year, digitsOf? 2 month, digitsOf? 2 day with
    | some year, some month, some day => 1 ≤ day && day ≤ daysOf year month
    | _, _, _ => false
  | _ => false

/-- The word is a time of day, perhaps with fractions of a second. -/
def isClock (cs : List Char) : Bool :=
  match Text.split (· = ':') cs with
  | [hour, minute] => isPair 24 hour && isPair 60 minute
  | [hour, minute, second] =>
    isPair 24 hour && isPair 60 minute && isPair 61 (second.take 2) &&
      match second.drop 2 with
      | [] => true
      | c :: places => c = '.' && !places.isEmpty && places.all Char.isDigit
  | _ => false

/-- The word is a time of day that may be followed by its distance from universal
    time. -/
def isZonedClock (cs : List Char) : Bool :=
  let clock := cs.takeWhile fun c => c.isDigit || c = ':' || c = '.'
  isClock clock &&
    match cs.drop clock.length with
    | [] => true
    | [c] => c = 'Z' || c = 'z'
    | c :: distance =>
      (c = '+' || c = '-') &&
        match Text.split (· = ':') distance with
        | [hour, minute] => isPair 24 hour && isPair 60 minute
        | _ => false

/-- The word is a date, a time of day, or both. -/
def isTime (cs : List Char) : Bool :=
  isDate cs || isClock cs ||
    (isDate (cs.take 10) && (cs.drop 10).head?.any (fun c => c = 'T' || c = 't' || c = ' ') &&
      isZonedClock (cs.drop 11))

/-- What a word stands for.  A whole number has at most 128 bits. -/
def word? (cs : List Char) : Option Scalar :=
  if String.ofList cs = "true" then some (.boolean true)
  else if String.ofList cs = "false" then some (.boolean false)
  else
    match integer? cs with
    | some n => if Text.fits128 n then some (.integer n) else none
    | none => if isFraction cs then some .fraction else if isTime cs then some .time else none

/-- The characters of a word at the start of a text; a date goes on behind a blank
    with the time. -/
def word (cs : List Char) : List Char :=
  let isPart (c : Char) : Bool :=
    c.isAlphanum || c = '_' || c = '+' || c = '-' || c = '.' || c = ':'
  let first := cs.takeWhile isPart
  match cs.drop first.length with
  | ' ' :: rest =>
    if isDate first ∧ (rest.head?.any Char.isDigit) then first ++ ' ' :: rest.takeWhile isPart
    else first
  | _ => first

/-! ## Keys -/

/-- The character may stand in a key without quotes. -/
def isKeyChar (c : Char) : Bool := c.isAlphanum || c = '_' || c = '-'

/-- One name of a key. -/
def name : List Char → Except Problem (String × List Char)
  | '"' :: cs => simple '"' cs
  | '\'' :: cs => simple '\'' cs
  | cs =>
    let bare := cs.takeWhile isKeyChar
    if bare.isEmpty then .error .expectedKey
    else .ok (String.ofList bare, cs.drop bare.length)
where
  /-- A quoted name, which keeps to one line. -/
  simple (quote : Char) (cs : List Char) : Except Problem (String × List Char) :=
    (lineString quote (cs.length + 1) cs).map fun (text, cs) => (String.ofList text, cs)

/-- The greatest number of names in a key, and of brackets around a value. -/
def deepest : Nat := 80

/-- Names with dots between them, and the text behind the blanks that follow them. -/
def names : Nat → List Char → Except Problem (List String × List Char)
  | 0, _ => .error .expectedKey
  | fuel + 1, cs => do
    let (first, cs) ← name (skipBlanks cs)
    match skipBlanks cs with
    | '.' :: cs =>
      let (others, cs) ← names fuel cs
      return (first :: others, cs)
    | cs => return ([first], cs)

/-- The names of a key. -/
def key (cs : List Char) : Except Problem (List String × List Char) := do
  let (path, rest) ← names (cs.length + 1) cs
  if deepest < path.length then .error .tooDeep else return (path, rest)

end CourseSite.Toml
