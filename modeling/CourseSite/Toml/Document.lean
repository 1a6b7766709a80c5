/-
  TOML documents.

  * `Item`: a scalar, a list, a table or a list of tables, as it is read.
  * `put`: a value under a dotted key.  `openTable` and `openElement` make the
    table of a header and an element of a list of tables.
  * `parse`: the entries of a document.  Nothing is defined twice.
  * `reader`: this way to read a text.
-/
import CourseSite.Toml.Scalar

namespace CourseSite.Toml

/-- How a table came to be. -/
inductive Origin where
  /-- By a header of its own. -/
  | header
  /-- On the way to the table of a longer header. -/
  | implied
  /-- By a dotted key. -/
  | dotted
  /-- Between braces. -/
  | braces
deriving DecidableEq

/-- A value of a document, with how its tables came to be. -/
inductive Item where
  | scalar (value : Scalar)
  | list (items : List Item)
  | table (origin : Origin) (entries : List (String × Item))
  | tables (elements : List (List (String × Item)))

/-- Values by key, in the order of the document. -/
abbrev Entries := List (String × Item)

/-! ## Tables -/

/-- The value of a key. -/
def get? (entries : Entries) (key : String) : Option Item :=
  (entries.find? (·.1 == key)).map (·.2)

/-- The entries with the value of a key replaced, or with a new key at the end. -/
def set (key : String) (item : Item) : Entries → Entries
  | [] => [(key, item)]
  | (other, old) :: entries =>
    if other = key then (key, item) :: entries else (other, old) :: set key item entries

/-- A change of the last element of a list. -/
def changeLast (change : Entries → Except Problem Entries) :
    List Entries → Except Problem (List Entries)
  | [] => .error .duplicateKey
  | [last] => (change last).map ([·])
  | first :: rest => (changeLast change rest).map (first :: ·)

/-- A value under a dotted key.  Only tables that dotted keys made themselves take
    values in this way. -/
def put (item : Item) : List String → Origin → Entries → Except Problem Entries
  | [], _, _ => .error .expectedKey
  | [key], origin, entries =>
    if origin = .implied ∨ (get? entries key).isSome then .error .duplicateKey
    else .ok (set key item entries)
  | key :: keys, _, entries =>
    match get? entries key with
    | none => (put item keys .dotted []).map fun inner => set key (.table .dotted inner) entries
    | some (.table origin inner) =>
      if origin = .header ∨ origin = .braces then .error .duplicateKey
      else (put item keys origin inner).map fun inner => set key (.table origin inner) entries
    | some _ => .error .duplicateKey

/-- A change of the table at the end of a header, the last element of every list of
    tables on the way.  Tables on the way are made as needed. -/
def changeAt (change : String → Entries → Except Problem Entries) :
    List String → Entries → Except Problem Entries
  | [], _ => .error .expectedKey
  | [key], entries => change key entries
  | key :: keys, entries =>
    match get? entries key with
    | none =>
      (changeAt change keys []).map fun inner => set key (.table .implied inner) entries
    | some (.table origin inner) =>
      if origin = .braces then .error .duplicateKey
      else (changeAt change keys inner).map fun inner => set key (.table origin inner) entries
    | some (.tables elements) =>
      (changeLast (changeAt change keys) elements).map fun elements =>
        set key (.tables elements) entries
    | some _ => .error .duplicateKey

/-- The table of a header.  It may have been implied before. -/
def openTable (path : List String) (entries : Entries) : Except Problem Entries :=
  changeAt (fun key entries =>
    match get? entries key with
    | none => .ok (set key (.table .header []) entries)
    | some (.table .implied inner) => .ok (set key (.table .header inner) entries)
    | some _ => .error .duplicateKey) path entries

/-- One more element of a list of tables. -/
def openElement (path : List String) (entries : Entries) : Except Problem Entries :=
  changeAt (fun key entries =>
    match get? entries key with
    | none => .ok (set key (.tables [[]]) entries)
    | some (.tables elements) => .ok (set key (.tables (elements ++ [[]])) entries)
    | some _ => .error .duplicateKey) path entries

/-- A value under a dotted key below the header in effect. -/
def putBelow (header keys : List String) (item : Item) (entries : Entries) :
    Except Problem Entries :=
  if header.isEmpty then put item keys .header entries
  else
    changeAt (fun key entries =>
      match get? entries key with
      | some (.table origin inner) =>
        (put item keys .header inner).map fun inner => set key (.table origin inner) entries
      | some (.tables elements) =>
        (changeLast (put item keys .header) elements).map fun elements =>
          set key (.tables elements) entries
      | _ => .error .duplicateKey) header entries

/-! ## Values -/

/-- The text behind blanks and a comment, at the end of a line or of the text. -/
def lineEnd (cs : List Char) : Except Problem (List Char) :=
  let cs := skipBlanks cs
  let cs := if cs.head? = some '#' then cs.tail.dropWhile isText else cs
  if cs.isEmpty then .ok []
  else
    match lineBreak? cs with
    | some cs => .ok cs
    | none => .error .expectedLineEnd

/-- The text behind blanks, comments and line breaks. -/
def skipLines : Nat → List Char → Except Problem (List Char)
  | 0, cs => .ok cs
  | fuel + 1, cs =>
    match skipBlanks cs with
    | '#' :: cs => (lineEnd ('#' :: cs)).bind (skipLines fuel)
    | cs =>
      match lineBreak? cs with
      | some cs => skipLines fuel cs
      | none => .ok cs

mutual

/-- The value at the start of a text, at most `depth` brackets deep. -/
def value (fuel depth : Nat) (cs : List Char) : Except Problem (Item × List Char) :=
  match fuel with
  | 0 => .error .expectedValue
  | fuel + 1 =>
    match cs with
    | '"' :: cs => (string '"' cs).map fun (text, cs) => (.scalar (.string text), cs)
    | '\'' :: cs => (string '\'' cs).map fun (text, cs) => (.scalar (.string text), cs)
    | '[' :: cs =>
      match depth with
      | 0 => .error .tooDeep
      | depth + 1 => (elements fuel depth cs).map fun (items, cs) => (.list items, cs)
    | '\x7b' :: cs =>
      match depth with
      | 0 => .error .tooDeep
      | depth + 1 =>
        (members fuel depth [] cs).map fun (entries, cs) => (.table .braces entries, cs)
    | cs =>
      match word? (word cs) with
      | some scalar => .ok (.scalar scalar, cs.drop (word cs).length)
      | none => .error (if (word cs).isEmpty then .expectedValue else .invalidValue)

/-- The elements of a list behind its opening bracket or a comma. -/
def elements (fuel depth : Nat) (cs : List Char) : Except Problem (List Item × List Char) :=
  match fuel with
  | 0 => .error .expectedClosing
  | fuel + 1 => do
    let cs ← skipLines (cs.length + 1) cs
    match cs with
    | ']' :: cs => return ([], cs)
    | cs =>
      let (item, cs) ← value fuel depth cs
      let cs ← skipLines (cs.length + 1) cs
      match cs with
      | ']' :: cs => return ([item], cs)
      | ',' :: cs =>
        let (items, cs) ← elements fuel depth cs
        return (item :: items, cs)
      | _ => .error .expectedClosing

/-- The entries of a table behind its opening brace or a comma, added to the earlier
    ones. -/
def members (fuel depth : Nat) (entries : Entries) (cs : List Char) :
    Except Problem (Entries × List Char) :=
  match fuel with
  | 0 => .error .expectedClosing
  | fuel + 1 => do
    let cs ← skipLines (cs.length + 1) cs
    match cs with
    | '\x7d' :: cs => return (entries, cs)
    | cs =>
      let (keys, cs) ← key cs
      match cs with
      | '=' :: cs =>
        let (item, cs) ← value fuel depth (skipBlanks cs)
        let entries ← put item keys .braces entries
        let cs ← skipLines (cs.length + 1) cs
        match cs with
        | '\x7d' :: cs => return (entries, cs)
        | ',' :: cs => members fuel depth entries cs
        | _ => .error .expectedClosing
      | _ => .error .expectedEquals

end

/-! ## Documents -/

/-- The state behind a header: the path of the table that it opens, the entries, and
    the text. -/
def header (cs : List Char) (entries : Entries) :
    Except Problem (List String × Entries × List Char) :=
  match cs with
  | '[' :: cs => do
    let (path, cs) ← key cs
    match cs with
    | ']' :: ']' :: cs => return (path, ← openElement path entries, ← lineEnd cs)
    | _ => .error .expectedClosing
  | cs => do
    let (path, cs) ← key cs
    match cs with
    | ']' :: cs => return (path, ← openTable path entries, ← lineEnd cs)
    | _ => .error .expectedClosing

/-- The entries of a document from a line on, under the header in effect. -/
def statements : Nat → List String → Entries → List Char → Except Problem Entries
  | 0, _, entries, _ => .ok entries
  | fuel + 1, path, entries, cs => do
    let cs ← skipLines (cs.length + 1) cs
    match cs with
    | [] => return entries
    | '[' :: cs =>
      let (path, entries, cs) ← header cs entries
      statements fuel path entries cs
    | cs =>
      let (keys, cs) ← key cs
      match cs with
      | '=' :: cs =>
        let cs := skipBlanks cs
        let (item, cs) ← value (cs.length + 1) deepest cs
        let entries ← putBelow path keys item entries
        let cs ← lineEnd cs
        statements fuel path entries cs
      | _ => .error .expectedEquals

/-- The entries of a document, which may start with a byte order mark. -/
def parse (text : String) : Except Problem Entries :=
  let cs := match text.toList with
    | '\uFEFF' :: cs => cs
    | cs => cs
  statements (cs.length + 1) [] [] cs

/-! ## Results -/

mutual

/-- The value that an item is. -/
def Item.value : Item → Value
  | .scalar value => .scalar value
  | .list items => .list (values items)
  | .table _ entries => .table (table entries)
  | .tables elements => .list (tables elements)

/-- The values that items are. -/
def values : List Item → List Value
  | [] => []
  | item :: items => item.value :: values items

/-- The table of some entries. -/
def table : List (String × Item) → List (String × Value)
  | [] => []
  | (key, item) :: entries => (key, item.value) :: table entries

/-- The tables of a list of tables. -/
def tables : List (List (String × Item)) → List Value
  | [] => []
  | entries :: elements => .table (table entries) :: tables elements

end

/-- Text read as a document. -/
def reader : Reader := fun text => ((parse text).map table).mapError Problem.message

end CourseSite.Toml
