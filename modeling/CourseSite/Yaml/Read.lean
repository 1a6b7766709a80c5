/-
  What the nodes of a YAML document mean, by the core schema.

  * `Value.ofScalar`: the meaning of a scalar.  Without a tag, only a plain one can be
    anything but text.
  * `Document`: the node of a text, with the nodes that aliases stand for.
  * `Document.value`: its value.  The keys of a mapping differ.
  * `Document.names`: the names in its list.
  * `reader`: these ways to read a text.
-/
import CourseSite.Yaml.Node
import CourseSite.Yaml.Value

namespace CourseSite.Yaml

namespace Value

/-! ## Scalars -/

/-- The first zero of several digits: such a text is no number. -/
def hasLeadingZero (cs : List Char) : Bool :=
  match cs with
  | '0' :: c :: rest => (c :: rest).all Char.isDigit
  | _ => false

/-- A text without its sign, and whether the sign is a minus. -/
def splitSign : List Char → Bool × List Char
  | '-' :: cs => (true, cs)
  | '+' :: cs => (false, cs)
  | cs => (false, cs)

/-- The text is one of those that mean null. -/
def isNull (text : String) : Bool := ["~", "null", "Null", "NULL"].contains text

/-- The truth value that a text shows. -/
def bool? (text : String) : Option Bool :=
  if ["true", "True", "TRUE"].contains text then some true
  else if ["false", "False", "FALSE"].contains text then some false
  else none

/-- The whole number that a text shows: decimal, or behind `0x`, `0o` or
    `0b` in another base. -/
def integer? (cs : List Char) : Option Int :=
  let (negative, digits) := splitSign cs
  let magnitude := match digits with
    | '0' :: 'x' :: digits => Text.natural? 16 digits
    | '0' :: 'o' :: digits => Text.natural? 8 digits
    | '0' :: 'b' :: digits => Text.natural? 2 digits
    | digits => if hasLeadingZero digits then none else Text.natural? 10 digits
  magnitude.map fun (n : Nat) => if negative then -(n : Int) else n

/-- Digits, fraction digits and exponent of a decimal number. -/
def decimal? (cs : List Char) : Option (List Char × List Char × Int) :=
  let whole := cs.takeWhile Char.isDigit
  let rest := cs.dropWhile Char.isDigit
  let (places, rest) := match rest with
    | '.' :: rest => (rest.takeWhile Char.isDigit, rest.dropWhile Char.isDigit)
    | rest => ([], rest)
  if whole.isEmpty && places.isEmpty then none
  else
    match rest with
    | [] => some (whole, places, 0)
    | e :: rest =>
      if e = 'e' ∨ e = 'E' then
        let (negative, digits) := splitSign rest
        (Text.natural? 10 digits).map fun (n : Nat) =>
          (whole, places, if negative then -(n : Int) else n)
      else none

/-- The fraction that a text shows.  A number too large for a double is none. -/
def fraction? (cs : List Char) : Option Double :=
  let (negative, unsigned) := splitSign cs
  if [".inf", ".Inf", ".INF"].contains (String.ofList unsigned) then
    some (Double.infinity negative)
  else if [".nan", ".NaN", ".NAN"].contains (String.ofList cs) then some Double.nan
  else
    (decimal? unsigned).bind fun (whole, places, exponent) =>
      (Text.natural? 10 (whole ++ places)).bind fun digits =>
        let x := Double.ofDecimal negative digits (exponent - places.length)
        if x.isFinite then some x else none

/-- The value of a whole number, which has at most 64 bits.  A greater one that 128 bits would
    hold is an error, and a yet greater one no whole number. -/
def ofInteger? (n : Int) : Option (Except Problem Value) :=
  if Text.fits64 n then some (.ok (.integer n))
  else if Text.fits128 n then some (.error .integerRange)
  else none

/-- The meaning of a plain scalar. -/
def ofPlain (text : String) : Except Problem Value :=
  if text = "" ∨ isNull text then .ok .null
  else
    match bool? text with
    | some b => .ok (.bool b)
    | none =>
      match (integer? text.toList).bind ofInteger? with
      | some read => read
      | none =>
        match if hasLeadingZero (splitSign text.toList).2 then none else fraction? text.toList with
        | some x => .ok (.fraction x)
        | none => .ok (.string text)

/-- What a tag of the core schema asks for. -/
inductive Kind where
  | null
  | bool
  | integer
  | fraction

/-- What a tag asks for, if it is one of these. -/
def Kind.ofTag? (tag : Octets) : Option Kind :=
  let isNamed (name : String) : Bool :=
    tag == Property.ofChars ("tag:yaml.org,2002:" ++ name).toList
  if isNamed "null" then some .null
  else if isNamed "bool" then some .bool
  else if isNamed "int" then some .integer
  else if isNamed "float" then some .fraction
  else none

/-- The meaning of a scalar of a kind. -/
def ofKind (text : String) : Kind → Except Problem Value
  | .null => if isNull text then .ok .null else .error .wrongTag
  | .bool => (bool? text).elim (.error .wrongTag) fun b => .ok (.bool b)
  | .integer => ((integer? text.toList).bind ofInteger?).getD (.error .wrongTag)
  | .fraction => (fraction? text.toList).elim (.error .wrongTag) fun x => .ok (.fraction x)

/-- The tag is a local one: it starts with `!`. -/
def isLocal (tag : Octets) : Bool := tag.head? = some '!'.toNat.toUInt8

/-- The name of a local tag, unless its bytes are not UTF-8. -/
def localName? (tag : Octets) : Option String :=
  if isLocal tag then String.fromUTF8? ⟨tag.tail.toArray⟩ else none

/-- The meaning of a scalar with a tag. -/
def ofScalar (tag : Option Octets) (text : String) (plain : Bool) : Except Problem Value :=
  match tag.bind Kind.ofTag? with
  | some kind => ofKind text kind
  | none => if plain && tag.all isLocal then ofPlain text else .ok (.string text)

/-! ## Keys -/

/-- The names of two tags are the same but for a `!` in front. -/
def sameTag (a b : String) : Bool :=
  let bare (tag : String) : List Char := match tag.toList with
    | '!' :: c :: cs => c :: cs
    | cs => cs
  bare a = bare b

mutual

/-- Two values are the same key.  The members of a mapping may stand in any order. -/
def same : Value → Value → Bool
  | .null, .null => true
  | .bool a, .bool b => a = b
  | .integer a, .integer b => a = b
  | .fraction a, .fraction b => a = b || (a.rank = 0 && b.rank = 0)
  | .string a, .string b => a = b
  | .sequence a, .sequence b => sameItems a b
  | .mapping a, .mapping b => a.length = b.length && sameMembers a b
  | .tagged tag a, .tagged other b => sameTag tag other && same a b
  | _, _ => false

/-- The values of two sequences are the same. -/
def sameItems : List Value → List Value → Bool
  | [], [] => true
  | a :: as, b :: bs => same a b && sameItems as bs
  | _, _ => false

/-- The members of a mapping are among those of another one. -/
def sameMembers : List (Value × Value) → List (Value × Value) → Bool
  | [], _ => true
  | (key, a) :: as, bs =>
    (bs.any fun (other, b) => same key other && same a b) && sameMembers as bs

end

end Value

/-! ## Documents -/

namespace Node

mutual

/-- The nodes at and below a node, in the order of the text. -/
def nodes : Node → List Node
  | .sequence items => .sequence items :: nodesOfItems items
  | .mapping members => .mapping members :: nodesOfMembers members
  | .tagged tag node => .tagged tag node :: nodes node
  | .anchored number node => .anchored number node :: nodes node
  | node => [node]

/-- The nodes at and below the items of a sequence. -/
def nodesOfItems : List Node → List Node
  | [] => []
  | item :: items => nodes item ++ nodesOfItems items

/-- The nodes at and below the members of a mapping. -/
def nodesOfMembers : List (Node × Node) → List Node
  | [] => []
  | (key, value) :: members => nodes key ++ nodes value ++ nodesOfMembers members

end

/-- The number of events that a node itself makes: begin and end of a collection are two. -/
def events : Node → Nat
  | .scalar _ _ | .reference _ => 1
  | .sequence _ | .mapping _ => 2
  | .tagged _ _ | .anchored _ _ => 0

/-- The tag of a node, and the node without it. -/
def untag : Node → Option Octets × Node
  | .tagged tag node => (some tag, node)
  | node => (none, node)

end Node

/-- The node of a text, the nodes with anchors in the order of the text, and the greatest number
    of aliases that may be followed. -/
structure Document where
  root : Node
  anchored : List (Nat × Node)
  patience : Nat

namespace Document

/-- The document of a node. -/
def ofNode (root : Node) : Document where
  root := root
  anchored := root.nodes.filterMap fun
    | .anchored number node => some (number, node)
    | _ => none
  patience := 100 * root.nodes.foldl (fun count node => count + node.events) 0

/-- The document of a text; none if there are only blanks and comments. -/
def ofText? (text : String) : Except Problem (Option Document) := do
  let root ← Node.ofTokens? (← Token.scan text)
  return root.map ofNode

/-! ### Aliases -/

/-- What is read, with the number of aliases followed so far. -/
abbrev Following (α : Type) := StateT Nat (Except Problem) α

variable (document : Document)

/-- The last node whose anchor has a number. -/
def target (number : Nat) : Node :=
  ((document.anchored.reverse.find? (·.1 == number)).map (·.2)).getD Node.empty

/-- A node without its anchor, or the one that an alias stands for, and its tag. -/
def follow : Node → Following (Option Octets × Node)
  | .reference number => do
    let followed := (← get) + 1
    if document.patience < followed then throw .tooManyAliases
    set followed
    return (document.target number).untag
  | .anchored _ node => return node.untag
  | node => return node.untag

/-! ### Values -/

/-- The value of a node, at most `depth` collections deep. -/
def valueOf (depth : Nat) (node : Node) : Following Value := do
  let (tag, node) ← document.follow node
  let name := tag.bind Value.localName?
  if name = some "" then throw .emptyTag
  let value ← match depth, node with
    | _, .scalar text plain => Value.ofScalar (if name.isSome then none else tag) text plain
    | depth + 1, .sequence items => .sequence <$> items.mapM (valueOf depth)
    | depth + 1, .mapping members =>
      .mapping <$> members.foldlM (fun (known : List (Value × Value)) (key, node) => do
        let key ← valueOf depth key
        if known.any fun (earlier, _) => earlier.same key then throw .duplicateKey
        return known ++ [(key, ← valueOf depth node)]) []
    | _, _ => throw .tooDeep
  return name.elim value (.tagged · value)

/-- The value of a document. -/
def value : Except Problem Value := (document.valueOf 128 document.root).run' 0

/-! ### Names -/

/-- The name that a node is. -/
def nameOf (node : Node) : Following String := do
  match ← document.follow node with
  | (_, .scalar text _) => return text
  | _ => throw .notAName

/-- The names that a document lists; an absent node lists nothing. -/
def namesOf : Following (List String) := do
  match ← document.follow document.root with
  | (_, .sequence items) => items.mapM document.nameOf
  | (_, .scalar "" true) => return []
  | _ => throw .notAList

/-- The names in the list of a document. -/
def names : Except Problem (List String) := document.namesOf.run' 0

end Document

/-! ## Texts -/

/-- The names that a text lists. -/
def names (text : String) : Except Problem (List String) := do
  match ← Document.ofText? text with
  | none => return []
  | some document => document.names

/-- The value of a text of one document; null if there are only blanks and comments. -/
def value (text : String) : Except Problem Value := do
  match ← Document.ofText? text with
  | none => return .null
  | some document => document.value

/-- Text read by the core schema. -/
def reader : Reader where
  names text := (names text).mapError Problem.message
  value text := (value text).mapError Problem.message

end CourseSite.Yaml
