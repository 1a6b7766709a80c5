/-
  What stands in front of a node of YAML text, and in front of a document.

  * `anchorName`: the name of an anchor or of an alias at the cursor.
  * `tag`: the tag at the cursor: a handle, which is short for the start of the tag, and the
    rest of it.
  * `directive`: the directive at the cursor.
-/
import CourseSite.Text.Digits
import CourseSite.Yaml.Cursor

namespace CourseSite.Yaml

/-- The bytes of a tag.  Escapes make any bytes possible. -/
abbrev Octets := List UInt8

namespace Property

/-- The character may stand in the name of an anchor, of a handle or of a directive. -/
def isNameChar (c : Char) : Bool := c.isAlphanum || c = '_' || c = '-'

/-! ## Anchors -/

/-- The name of the anchor or alias whose indicator is at the cursor. -/
def anchorName (c : Cursor) : Except Problem (String × Cursor) :=
  let name := (c.skip 1).rest.takeWhile isNameChar
  let c := c.skip (1 + name.length)
  let isEnd (next : Char) : Bool := ['?', ':', ',', ']', '\x7d', '%', '@', '\x60'].contains next
  if name.isEmpty || !(endsWord c.peek || c.peek.any isEnd) then .error .expectedName
  else .ok (String.ofList name, c)

/-! ## Tags -/

/-- The character may stand in a tag.  Between angle brackets, commas and square brackets
    may, too. -/
def isTagChar (verbatim : Bool) (c : Char) : Bool :=
  isNameChar c ||
    [';', '/', '?', ':', '@', '&', '=', '+', '$', '.', '%', '!', '~', '*', '\'', '(',
      ')'].contains c ||
    (verbatim && [',', '[', ']'].contains c)

/-- The byte of an escape such as `%2F`. -/
def octet? : List Char → Option UInt8
  | '%' :: a :: b :: _ => (Text.natural? 16 [a, b]).map (·.toUInt8)
  | _ => none

/-- The number of bytes of a character that starts with this one; zero if none does. -/
def width (first : UInt8) : Nat :=
  if first &&& 0x80 = 0x00 then 1
  else if first &&& 0xE0 = 0xC0 then 2
  else if first &&& 0xF0 = 0xE0 then 3
  else if first &&& 0xF8 = 0xF0 then 4
  else 0

/-- Some more escapes of a character. -/
def moreOctets : Nat → Cursor → Except Problem (Octets × Cursor)
  | 0, c => .ok ([], c)
  | n + 1, c =>
    match octet? c.rest with
    | none => .error .expectedOctet
    | some octet =>
      if octet &&& 0xC0 = 0x80 then
        (moreOctets n (c.skip 3)).map fun (more, c) => (octet :: more, c)
      else .error .invalidOctet

/-- The escapes of one character. -/
def octets (c : Cursor) : Except Problem (Octets × Cursor) :=
  match octet? c.rest with
  | none => .error .expectedOctet
  | some first =>
    match width first with
    | 0 => .error .invalidOctet
    | n + 1 => (moreOctets n (c.skip 3)).map fun (more, c) => (first :: more, c)

/-- The characters of a tag at the cursor, as bytes. -/
def tagText (verbatim : Bool) : Nat → Cursor → Except Problem (Octets × Cursor)
  | 0, c => .ok ([], c)
  | fuel + 1, c =>
    match c.peek with
    | none => .ok ([], c)
    | some ch =>
      if isTagChar verbatim ch then
        match if ch = '%' then octets c else .ok ([ch.toNat.toUInt8], c.skip 1) with
        | .error problem => .error problem
        | .ok (here, c) => (tagText verbatim fuel c).map fun (more, c) => (here ++ more, c)
      else .ok ([], c)

/-- The handle of a tag or of a directive, whose `!` is at the cursor: this alone, or a second
    one behind a name, which may be empty. -/
def handle (c : Cursor) : List Char × Cursor :=
  let name := (c.skip 1).rest.takeWhile isNameChar
  let c := c.skip (1 + name.length)
  if c.peek = some '!' then ('!' :: name ++ ['!'], c.skip 1) else ('!' :: name, c)

/-- The bytes up to one that is zero. -/
def untilZero (octets : Octets) : Octets := octets.takeWhile (· ≠ 0)

/-- The bytes of ASCII characters. -/
def ofChars (cs : List Char) : Octets := cs.map (·.toNat.toUInt8)

/-- The handle of the tag at the cursor, the bytes behind it, and the cursor behind the tag.  The
    handle is empty if nothing is abbreviated: between angle brackets, or in a lone `!`. -/
def tag (c : Cursor) : Except Problem (String × Octets × Cursor) :=
  let fuel := c.rest.length
  if c.peekAt 1 = some '<' then
    match tagText true fuel (c.skip 2) with
    | .error problem => .error problem
    | .ok ([], _) => .error .expectedTag
    | .ok (text, c) =>
      if c.peek = some '>' then .ok ("", untilZero text, c.skip 1) else .error .expectedTagClosing
  else
    let (start, c) := handle c
    match tagText false fuel c with
    | .error problem => .error problem
    | .ok (text, c) =>
      if 1 < start.length ∧ start.getLast? = some '!' then
        if text.isEmpty then .error .expectedTag else .ok (String.ofList start, untilZero text, c)
      else
        let text := untilZero (ofChars start.tail ++ text)
        if text.isEmpty then .ok ("", ofChars ['!'], c) else .ok ("!", text, c)

/-! ## Directives -/

/-- What a directive says: the version of the language, or what a handle is short for. -/
inductive Directive where
  | version (major minor : Nat)
  | handle (name : String) (start : Octets)

/-- A number of the version, of at most nine digits. -/
def versionNumber (c : Cursor) : Except Problem (Nat × Cursor) :=
  let digits := c.rest.takeWhile Char.isDigit
  if digits.length > 9 then .error .invalidDirective
  else
    match Text.natural? 10 digits with
    | none => .error .invalidDirective
    | some n => .ok (n, c.skip digits.length)

/-- The version behind the name of a directive. -/
def version (c : Cursor) : Except Problem (Directive × Cursor) := do
  let (major, c) ← versionNumber c
  if c.peek ≠ some '.' then throw .invalidDirective
  let (minor, c) ← versionNumber (c.skip 1)
  return (.version major minor, c)

/-- The handle behind the name of a directive, and what it is short for. -/
def abbreviation (c : Cursor) : Except Problem (Directive × Cursor) := do
  if c.peek ≠ some '!' then throw .invalidDirective
  let (name, c) := handle c
  if !(name = ['!'] ∨ (1 < name.length ∧ name.getLast? = some '!')) then throw .invalidDirective
  if !c.peek.any isBlank then throw .invalidDirective
  let c := c.skipWhile isBlank
  let (start, c) ← tagText true c.rest.length c
  if start.isEmpty || !endsWord c.peek then throw .invalidDirective
  return (.handle (String.ofList name) (untilZero start), c)

/-- The directive whose `%` is at the cursor, and the cursor behind its line. -/
def directive (c : Cursor) : Except Problem (Directive × Cursor) := do
  let name := (c.skip 1).rest.takeWhile isNameChar
  let c := c.skip (1 + name.length)
  if name.isEmpty || !endsWord c.peek then throw .invalidDirective
  let c := c.skipWhile isBlank
  let (directive, c) ←
    if String.ofList name = "YAML" then version c
    else if String.ofList name = "TAG" then abbreviation c
    else throw .unknownDirective
  let c := c.skipWhile isBlank
  let c := if c.peek = some '#' then c.skipWhile (!isBreak ·) else c
  if !endsLine c.peek then throw .expectedLineBreak
  return (directive, c.readBreak.2)

end Property

end CourseSite.Yaml
