/-
  The tree of a YAML document.

  * `Node`: scalar, sequence or mapping, perhaps with an anchor or a tag; or an alias.
  * `Properties.take`: what stands in front of a node.
  * `Node.ofTokens?`: the node of the only document; there is none in a text
    without tokens.
-/
import CourseSite.Yaml.Token

namespace CourseSite.Yaml

/-- A node of a document.  An absent node is a plain scalar without text. -/
inductive Node where
  | scalar (text : String) (plain : Bool)
  | sequence (items : List Node)
  | mapping (members : List (Node × Node))
  | tagged (tag : Octets) (node : Node)
  | anchored (number : Nat) (node : Node)
  /-- An alias: the node with the anchor stands here, too. -/
  | reference (number : Nat)

/-- An anchor and a tag. -/
structure Properties where
  anchor : Option Nat := none
  tag : Option Octets := none
deriving DecidableEq

namespace Properties

/-- The anchor and the tag at the start of some tokens, in either order, and the tokens behind
    them. -/
def take : List Token → Properties × List Token
  | .anchor number :: .tag tag :: rest => (⟨number, tag⟩, rest)
  | .tag tag :: .anchor number :: rest => (⟨number, tag⟩, rest)
  | .anchor number :: rest => (⟨number, none⟩, rest)
  | .tag tag :: rest => (⟨none, tag⟩, rest)
  | rest => ({}, rest)

/-- The node with an anchor and a tag. -/
def attach (properties : Properties) (node : Node) : Node :=
  let node := properties.tag.elim node (.tagged · node)
  properties.anchor.elim node (.anchored · node)

/-- The properties of a scalar that is there: a lone `!` says nothing of it. -/
def ofScalar (properties : Properties) : Properties :=
  { properties with tag := properties.tag.filter (· ≠ Property.ofChars ['!']) }

end Properties

namespace Node

/-- An absent node. -/
def empty : Node := .scalar "" true

/-- What is read, and the tokens behind it. -/
abbrev Read (α : Type) := α × List Token

/-- The absent node, of which only an anchor or a tag is there. -/
def absent (properties : Properties) (rest : List Token) : Except Problem (Read Node) :=
  if properties = {} then .error .expectedNode else .ok (properties.attach empty, rest)

/-! ## Grammar

  The fuel bounds the depth of the calls.  Every call but the first of a
  production follows a token that was taken. -/

mutual

/-- A node.  Block collections stand in block context only; a sequence without
    indentation of its own only under a key. -/
def node (fuel : Nat) (inBlock unindented : Bool) (tokens : List Token) :
    Except Problem (Read Node) :=
  match fuel with
  | 0 => .error .tooDeep
  | fuel + 1 =>
    let (properties, tokens) := Properties.take tokens
    match tokens with
    | .scalar text plain :: rest => .ok (properties.ofScalar.attach (.scalar text plain), rest)
    | .openSequence :: rest =>
      (flowItems fuel true rest).map fun (items, rest) =>
        (properties.attach (.sequence items), rest)
    | .openMapping :: rest =>
      (flowMembers fuel true rest).map fun (members, rest) =>
        (properties.attach (.mapping members), rest)
    | .entry :: rest =>
      if unindented then
        (unindentedItems fuel tokens).map fun (items, rest) =>
          (properties.attach (.sequence items), rest)
      else absent properties (.entry :: rest)
    | .blockSequence :: rest =>
      if inBlock then
        (blockItems fuel rest).map fun (items, rest) => (properties.attach (.sequence items), rest)
      else absent properties (.blockSequence :: rest)
    | .blockMapping :: rest =>
      if inBlock then
        (blockMembers fuel rest).map fun (members, rest) =>
          (properties.attach (.mapping members), rest)
      else absent properties (.blockMapping :: rest)
    | .reference number :: rest =>
      if properties = {} then .ok (.reference number, rest)
      else absent properties (.reference number :: rest)
    | rest => absent properties rest

/-- A node, or the absent one in front of a token that ends it. -/
def nodeUnless (fuel : Nat) (inBlock unindented : Bool) (ends tokens : List Token) :
    Except Problem (Read Node) :=
  match fuel with
  | 0 => .error .tooDeep
  | fuel + 1 =>
    if tokens.head?.any ends.contains then .ok (empty, tokens)
    else node fuel inBlock unindented tokens

/-- The entries of a block sequence. -/
def blockItems (fuel : Nat) (tokens : List Token) : Except Problem (Read (List Node)) :=
  match fuel with
  | 0 => .error .tooDeep
  | fuel + 1 =>
    match tokens with
    | .entry :: rest => do
      let (item, rest) ← nodeUnless fuel true false [.entry, .blockEnd] rest
      let (items, rest) ← blockItems fuel rest
      return (item :: items, rest)
    | .blockEnd :: rest => .ok ([], rest)
    | _ => .error .expectedEntry

/-- The entries of a sequence at the indentation of its key. -/
def unindentedItems (fuel : Nat) (tokens : List Token) : Except Problem (Read (List Node)) :=
  match fuel with
  | 0 => .error .tooDeep
  | fuel + 1 =>
    match tokens with
    | .entry :: rest => do
      let (item, rest) ← nodeUnless fuel true false [.entry, .key, .value, .blockEnd] rest
      let (items, rest) ← unindentedItems fuel rest
      return (item :: items, rest)
    | _ => .ok ([], tokens)

/-- The members of a block mapping. -/
def blockMembers (fuel : Nat) (tokens : List Token) : Except Problem (Read (List (Node × Node))) :=
  match fuel with
  | 0 => .error .tooDeep
  | fuel + 1 =>
    match tokens with
    | .key :: rest => do
      let (key, rest) ← nodeUnless fuel true true [.key, .value, .blockEnd] rest
      let (value, rest) ← match rest with
        | .value :: rest => nodeUnless fuel true true [.key, .value, .blockEnd] rest
        | rest => .ok (empty, rest)
      let (members, rest) ← blockMembers fuel rest
      return ((key, value) :: members, rest)
    | .blockEnd :: rest => .ok ([], rest)
    | _ => .error .expectedKey

/-- The items of a flow sequence.  An item with a key is a mapping of its own. -/
def flowItems (fuel : Nat) (first : Bool) (tokens : List Token) :
    Except Problem (Read (List Node)) :=
  match fuel with
  | 0 => .error .tooDeep
  | fuel + 1 =>
    let rest? := match first, tokens with
      | true, rest => some rest
      | false, .comma :: rest => some rest
      | false, .closeSequence :: rest => some (.closeSequence :: rest)
      | false, _ => none
    match rest? with
    | none => .error .expectedSequenceEnd
    | some (.closeSequence :: rest) => .ok ([], rest)
    | some (.key :: rest) => do
      let (member, rest) ← flowPair fuel rest
      let (items, rest) ← flowItems fuel false rest
      return (.mapping [member] :: items, rest)
    | some rest => do
      let (item, rest) ← node fuel false false rest
      let (items, rest) ← flowItems fuel false rest
      return (item :: items, rest)

/-- Key and value of an item of a flow sequence.  What ends an absent key is taken
    with it. -/
def flowPair (fuel : Nat) (tokens : List Token) : Except Problem (Read (Node × Node)) :=
  match fuel with
  | 0 => .error .tooDeep
  | fuel + 1 => do
    let ends := [.comma, .closeSequence]
    let (key, rest) ←
      if tokens.head?.any (Token.value :: ends).contains then .ok (empty, tokens.tail)
      else node fuel false false tokens
    let (value, rest) ← match rest with
      | .value :: rest => nodeUnless fuel false false ends rest
      | rest => .ok (empty, rest)
    return ((key, value), rest)

/-- The members of a flow mapping. -/
def flowMembers (fuel : Nat) (first : Bool) (tokens : List Token) :
    Except Problem (Read (List (Node × Node))) :=
  match fuel with
  | 0 => .error .tooDeep
  | fuel + 1 =>
    let rest? := match first, tokens with
      | true, rest => some rest
      | false, .comma :: rest => some rest
      | false, .closeMapping :: rest => some (.closeMapping :: rest)
      | false, _ => none
    match rest? with
    | none => .error .expectedMappingEnd
    | some (.closeMapping :: rest) => .ok ([], rest)
    | some (.key :: rest) => do
      let ends := [.comma, .closeMapping]
      let (key, rest) ← nodeUnless fuel false false (.value :: ends) rest
      let (value, rest) ← match rest with
        | .value :: rest => nodeUnless fuel false false ends rest
        | rest => .ok (empty, rest)
      let (members, rest) ← flowMembers fuel false rest
      return ((key, value) :: members, rest)
    | some rest => do
      let (key, rest) ← node fuel false false rest
      let (members, rest) ← flowMembers fuel false rest
      return ((key, empty) :: members, rest)

end

/-! ## Documents -/

/-- The node of a document, whose start may be written out, and has to be behind directives.
    Behind such a start the node may be absent. -/
def document (tokens : List Token) : Except Problem (Read Node) :=
  let fuel := 3 * tokens.length + 3
  match tokens, tokens.dropWhile (· = .directive) with
  | _, [.documentStart] => .ok (empty, [])
  | _, .documentStart :: rest =>
    nodeUnless fuel true false [.directive, .documentStart, .documentEnd] rest
  | .directive :: _, _ => .error .expectedDocumentStart
  | tokens, _ => node fuel true false tokens

/-- The node of the only document of a text; none if there are no tokens. -/
def ofTokens? : List Token → Except Problem (Option Node)
  | [] => .ok none
  | tokens =>
    match document tokens with
    | .error problem => .error problem
    | .ok (root, rest) =>
      match rest.dropWhile (· = .documentEnd) with
      | [] => .ok (some root)
      | .documentStart :: _ | .directive :: _ => .error .severalDocuments
      | _ => .error .expectedDocumentStart

end Node

end CourseSite.Yaml
