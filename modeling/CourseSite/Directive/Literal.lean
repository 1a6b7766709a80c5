/-
  The argument list of a directive, read from the text between its parentheses.

      arguments := [ value { "," value } [ "," ] ]
      value     := string | number | bool | object | array
      string    := "'" chars "'" | '"' chars '"'
      number    := [ "+" | "-" ] digits [ "." digits ]   (one digit on either side)
      bool      := "true" | "false"                      (any case)
      object    := "{" [ key ":" value { "," key ":" value } [ "," ] ] "}"
      key       := word | string
      array     := "[" [ value { "," value } [ "," ] ] "]"

  White space is insignificant between tokens; line breaks inside strings are
  kept.  The keys of an object are distinct and the elements of an array have
  one shape.

  * `skipBlanks`, `stringTail`, `number`, `word`, `key`: the tokens, each by
    recursion on the text.
  * `value`, `items`, `fields`: the grammar, by recursion on the length of the
    text; `Parsed` carries the proof that the rest is shorter.
  * `parseArguments`: the values of a whole argument list.
-/
import CourseSite.Directive.SyntaxError
import CourseSite.Text.Letter

namespace CourseSite.Directive

open Text (isBlank isLetter isLetterOrNumeral)

namespace Literal

/-! ## Tokens -/

/-- The line on which the character behind `c` stands. -/
def lineAfter (line : Nat) (c : Char) : Nat := if c = '\n' then line + 1 else line

/-- The line and the text behind the leading white space. -/
def skipBlanks (line : Nat) : List Char → Nat × List Char
  | [] => (line, [])
  | c :: cs => if isBlank c then skipBlanks (lineAfter line c) cs else (line, c :: cs)

theorem skipBlanks_length_le (line : Nat) (cs : List Char) :
    (skipBlanks line cs).2.length ≤ cs.length := by
  induction cs generalizing line with
  | nil => simp [skipBlanks]
  | cons c cs ih =>
    rw [skipBlanks]
    split
    · exact Nat.le_succ_of_le (ih _)
    · exact Nat.le_refl _

theorem length_le_of_skipBlanks {line line' : Nat} {cs rest : List Char}
    (h : skipBlanks line cs = (line', rest)) : rest.length ≤ cs.length := by
  have := skipBlanks_length_le line cs
  rwa [h] at this

/-- What a backslash and the character behind it stand for; an unknown pair
    stands for itself. -/
def unescape (c : Char) : List Char :=
  match c with
  | 'n' => ['\n']
  | 't' => ['\t']
  | 'r' => ['\r']
  | '\\' => ['\\']
  | '\'' => ['\'']
  | '"' => ['"']
  | c => ['\\', c]

/-- The decoded characters up to the closing quote, with the line and the text
    behind it.  A string that is not closed is reported on its first line. -/
def stringTail (quote : Char) (first line : Nat) :
    List Char → Except SyntaxError (List Char × Nat × List Char)
  | [] => .error ⟨first, .unterminatedString⟩
  | ['\\'] => .error ⟨first, .unterminatedString⟩
  | '\\' :: c :: cs =>
    match stringTail quote first (lineAfter line c) cs with
    | .error e => .error e
    | .ok (text, line, rest) => .ok (unescape c ++ text, line, rest)
  | c :: cs =>
    if c = quote then .ok ([], line, cs)
    else
      match stringTail quote first (lineAfter line c) cs with
      | .error e => .error e
      | .ok (text, line, rest) => .ok (c :: text, line, rest)

theorem stringTail_length_lt {quote : Char} {first line : Nat} {cs text rest : List Char}
    {line' : Nat} (h : stringTail quote first line cs = .ok (text, line', rest)) :
    rest.length < cs.length := by
  fun_induction stringTail quote first line cs generalizing text rest line' with
  | case1 => simp at h
  | case2 => simp at h
  | case3 => simp at h
  | case4 line c cs text₁ line₁ rest₁ hr ih =>
    simp only [Except.ok.injEq, Prod.mk.injEq] at h
    have := ih hr
    grind
  | case5 => grind
  | case6 => simp at h
  | case7 line c cs _ _ _ text₁ line₁ rest₁ hr ih =>
    simp only [Except.ok.injEq, Prod.mk.injEq] at h
    have := ih hr
    grind

/-- The whole number that decimal digits denote. -/
def digitsValue (digits : List Char) : Nat :=
  digits.foldl (fun n c => 10 * n + (c.toNat - '0'.toNat)) 0

/-- An optional sign. -/
def splitSign : List Char → List Char × List Char
  | '+' :: cs => (['+'], cs)
  | '-' :: cs => (['-'], cs)
  | cs => ([], cs)

/-- An optional point with the digits behind it. -/
def splitFraction : List Char → Option (List Char) × List Char
  | '.' :: cs => (some (cs.takeWhile Char.isDigit), cs.dropWhile Char.isDigit)
  | cs => (none, cs)

/-- The 64-bit integer of a sign and digits. -/
def signedInteger (negative : Bool) (magnitude : Nat) : Except Overflow Int64 :=
  if negative then
    if magnitude ≤ 0x8000000000000000 then .ok (Int64.ofInt (-magnitude)) else .error .tooSmall
  else
    if magnitude < 0x8000000000000000 then .ok (Int64.ofInt magnitude) else .error .tooLarge

/-- The character may stand directly behind a number. -/
def endsNumber (c : Char) : Bool := isBlank c || c = ',' || c = ']' || c = '}'

/-- The value of a sign, digits and an optional fraction, written as `text`. -/
def numeral (line : Nat) (sign whole : List Char) (fraction : Option (List Char)) (text : String) :
    Except SyntaxError Value :=
  let negative := sign == ['-']
  match fraction with
  | some digits =>
    .ok (.float (Double.ofDecimal negative (digitsValue (whole ++ digits)) (-digits.length)))
  | none =>
    match signedInteger negative (digitsValue whole) with
    | .ok n => .ok (.integer n)
    | .error overflow => .error ⟨line, .integerRange text overflow⟩

/-- A number and the text behind it: an integer without a point, which has to fit
    64 bits, and a double with one. -/
def number (line : Nat) (cs : List Char) : Except SyntaxError (Value × List Char) :=
  let (sign, unsigned) := splitSign cs
  let whole := unsigned.takeWhile Char.isDigit
  let (fraction, rest) := splitFraction (unsigned.dropWhile Char.isDigit)
  let text := String.ofList (sign ++ whole ++ fraction.elim [] ('.' :: ·))
  if whole = [] ∧ fraction.getD [] = [] then .error ⟨line, .invalidNumber text⟩
  else
    match rest.head?.filter (!endsNumber ·) with
    | some c => .error ⟨line, .afterNumber c text⟩
    | none =>
      match numeral line sign whole fraction text with
      | .error e => .error e
      | .ok value => .ok (value, rest)

theorem length_takeWhile_add_length_dropWhile (p : Char → Bool) (cs : List Char) :
    (cs.takeWhile p).length + (cs.dropWhile p).length = cs.length := by
  rw [← List.length_append, List.takeWhile_append_dropWhile]

theorem splitSign_length_le (cs : List Char) : (splitSign cs).2.length ≤ cs.length := by
  unfold splitSign
  split <;> simp

theorem splitFraction_length (cs : List Char) :
    ((splitFraction cs).1.getD []).length + (splitFraction cs).2.length ≤ cs.length := by
  unfold splitFraction
  split
  · rename_i cs
    have := length_takeWhile_add_length_dropWhile Char.isDigit cs
    simp
    omega
  · simp

theorem number_length_lt {line : Nat} {cs rest : List Char} {value : Value}
    (h : number line cs = .ok (value, rest)) : rest.length < cs.length := by
  have hsign := splitSign_length_le cs
  have hwhole := length_takeWhile_add_length_dropWhile Char.isDigit (splitSign cs).2
  have hfraction := splitFraction_length ((splitSign cs).2.dropWhile Char.isDigit)
  unfold number at h
  simp only at h
  split at h
  · simp at h
  · rename_i hdigits
    split at h
    · simp at h
    · split at h
      · simp at h
      · simp only [Except.ok.injEq, Prod.mk.injEq] at h
        rw [← h.2]
        by_cases hw : (splitSign cs).2.takeWhile Char.isDigit = []
        · have hf :
              0 < ((splitFraction ((splitSign cs).2.dropWhile Char.isDigit)).1.getD []).length :=
            List.length_pos_iff.2 fun hf => hdigits ⟨hw, hf⟩
          omega
        · have := List.length_pos_iff.2 hw
          omega

/-- The character continues a word or a key. -/
def isWordChar (c : Char) : Bool := isLetterOrNumeral c || c = '_' || c = '-'

/-- A bare word that starts with `c`, which has to be a truth value, and the text
    behind it. -/
def word (line : Nat) (c : Char) (cs : List Char) : Except SyntaxError (Value × List Char) :=
  let text := c :: cs.takeWhile isWordChar
  let rest := cs.dropWhile isWordChar
  let folded := text.map Char.toLower
  if folded = ['t', 'r', 'u', 'e'] then .ok (.bool true, rest)
  else if folded = ['f', 'a', 'l', 's', 'e'] then .ok (.bool false, rest)
  else .error ⟨line, .unexpectedWord (String.ofList text)⟩

theorem word_length_le {line : Nat} {c : Char} {cs rest : List Char} {value : Value}
    (h : word line c cs = .ok (value, rest)) : rest.length ≤ cs.length := by
  have := length_takeWhile_add_length_dropWhile isWordChar cs
  unfold word at h
  grind

/-- The character opens and closes a string. -/
def isQuote (c : Char) : Bool := c = '\'' || c = '"'

/-- An object key that starts with `c`, with the line and the text behind it. -/
def key (line : Nat) (c : Char) (cs : List Char) : Except SyntaxError (String × Nat × List Char) :=
  if isQuote c then
    match stringTail c line line cs with
    | .error e => .error e
    | .ok (text, line, rest) => .ok (String.ofList text, line, rest)
  else if isLetterOrNumeral c || c = '_' then
    .ok (String.ofList (c :: cs.takeWhile isWordChar), line, cs.dropWhile isWordChar)
  else .error ⟨line, .expectedKey c⟩

theorem key_length_le {line line' : Nat} {c : Char} {cs rest : List Char} {text : String}
    (h : key line c cs = .ok (text, line', rest)) : rest.length ≤ cs.length := by
  have := length_takeWhile_add_length_dropWhile isWordChar cs
  unfold key at h
  split at h
  · split at h
    · simp at h
    · rename_i hs
      have := stringTail_length_lt hs
      grind
  · grind

/-! ## Grammar -/

/-- A value that was read, and the line and the text behind it. -/
structure Parsed (bound : Nat) (α : Type) where
  value : α
  line : Nat
  rest : List Char
  shorter : rest.length < bound

/-- The shapes of the first element and of the first element that does not agree
    with it. -/
def mixed? : List Value → Option (Shape × Shape)
  | [] => none
  | first :: others =>
    let shape := Shape.ofValue first
    ((first :: others).map Shape.ofValue |>.find? (!Shape.agrees · shape)).map (shape, ·)

mutual

/-- The value at the start of the text. -/
def value (line : Nat) : (cs : List Char) → Except SyntaxError (Parsed cs.length Value)
  | [] => .error ⟨line, .expectedValue⟩
  | c :: cs =>
    if isQuote c then
      match h : stringTail c line line cs with
      | .error e => .error e
      | .ok (text, line, rest) =>
        .ok ⟨.string (String.ofList text), line, rest,
          Nat.lt_succ_of_lt (stringTail_length_lt h)⟩
    else if c = '\x7b' then
      match fields [] line cs with
      | .error e => .error e
      | .ok p => .ok ⟨.object p.value, p.line, p.rest, p.shorter⟩
    else if c = '[' then
      match items (some ']') line cs with
      | .error e => .error e
      | .ok p =>
        match mixed? p.value with
        | some (expected, found) => .error ⟨line, .mixedArray expected found⟩
        | none => .ok ⟨.array p.value, p.line, p.rest, p.shorter⟩
    else if c = '-' || c = '+' || c = '.' || c.isDigit then
      match h : number line (c :: cs) with
      | .error e => .error e
      | .ok (v, rest) => .ok ⟨v, line, rest, number_length_lt h⟩
    else if isLetter c || c = '_' then
      match h : word line c cs with
      | .error e => .error e
      | .ok (v, rest) => .ok ⟨v, line, rest, Nat.lt_succ_of_le (word_length_le h)⟩
    else .error ⟨line, .unexpectedCharacter c⟩
termination_by cs => 2 * cs.length

/-- Values up to the closing character, which is read too, or up to the end of
    the text if there is none. -/
def items (close : Option Char) (line : Nat) (cs : List Char) :
    Except SyntaxError (Parsed (cs.length + 1) (List Value)) :=
  match h : skipBlanks line cs with
  | (line, []) =>
    match close with
    | none => .ok ⟨[], line, [], Nat.succ_pos _⟩
    | some close => .error ⟨line, .unterminatedList close⟩
  | (line, c :: rest) =>
    have hc : rest.length < cs.length := length_le_of_skipBlanks h
    if some c = close then .ok ⟨[], line, rest, Nat.lt_succ_of_lt hc⟩
    else
      match value line (c :: rest) with
      | .error e => .error e
      | .ok first =>
        have hf : first.rest.length < cs.length := Nat.lt_of_lt_of_le first.shorter hc
        match h' : skipBlanks first.line first.rest with
        | (line, []) =>
          match close with
          | none => .ok ⟨[first.value], line, [], Nat.succ_pos _⟩
          | some close => .error ⟨line, .unterminatedList close⟩
        | (line, c :: rest) =>
          have hr : rest.length < cs.length :=
            Nat.lt_of_lt_of_le (length_le_of_skipBlanks h') (Nat.le_of_lt hf)
          if c = ',' then
            match items close line rest with
            | .error e => .error e
            | .ok more => .ok ⟨first.value :: more.value, more.line, more.rest, by
                have := more.shorter; omega⟩
          else if some c = close then .ok ⟨[first.value], line, rest, Nat.lt_succ_of_lt hr⟩
          else .error ⟨line, .expectedComma c⟩
termination_by 2 * cs.length + 1

/-- Fields up to the closing brace, which is read too, behind the fields `seen`. -/
def fields (seen : Fields Value) (line : Nat) (cs : List Char) :
    Except SyntaxError (Parsed (cs.length + 1) (Fields Value)) :=
  match h : skipBlanks line cs with
  | (line, []) => .error ⟨line, .unterminatedObject⟩
  | (line, c :: rest) =>
    have hc : rest.length < cs.length := length_le_of_skipBlanks h
    if c = '\x7d' then .ok ⟨seen, line, rest, Nat.lt_succ_of_lt hc⟩
    else
      match hk : key line c rest with
      | .error e => .error e
      | .ok (name, line, rest) =>
        match h' : skipBlanks line rest with
        | (line, ':' :: rest') =>
          match h'' : skipBlanks line rest' with
          | (line, start) =>
            have hs : start.length < cs.length := by
              have := key_length_le hk
              have : (':' :: rest').length ≤ _ := length_le_of_skipBlanks h'
              have := length_le_of_skipBlanks h''
              grind
            match value line start with
            | .error e => .error e
            | .ok v =>
              if seen.contains name then .error ⟨v.line, .duplicateKey name⟩
              else
                match hv : skipBlanks v.line v.rest with
                | (line, []) => .error ⟨line, .unterminatedObject⟩
                | (line, c :: rest) =>
                  have hr : rest.length < cs.length :=
                    Nat.lt_trans (Nat.lt_of_lt_of_le (length_le_of_skipBlanks hv)
                      (Nat.le_of_lt v.shorter)) hs
                  if c = ',' then
                    match fields (seen ++ [(name, v.value)]) line rest with
                    | .error e => .error e
                    | .ok more => .ok ⟨more.value, more.line, more.rest, by
                        have := more.shorter; omega⟩
                  else if c = '\x7d' then
                    .ok ⟨seen ++ [(name, v.value)], line, rest, Nat.lt_succ_of_lt hr⟩
                  else .error ⟨line, .expectedFieldEnd c⟩
        | (line, _) => .error ⟨line, .expectedColon name⟩
termination_by 2 * cs.length + 1

end

end Literal

/-- The values of the argument list `raw` of a directive on line `line`. -/
def parseArguments (line : Nat) (raw : List Char) : Except SyntaxError (List Value) :=
  (Literal.items none line raw).map (·.value)

end CourseSite.Directive
