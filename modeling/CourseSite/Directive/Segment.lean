/-
  Document text split into literal text and directive calls.

  * `Call`: a directive `@Name(arguments)` with its byte range and line.
  * `Segment`: literal text or a call; `Segment.parse` splits a document.

  A doubled marker `@@` is one literal `@`, and so is a marker without a name and
  a parenthesis behind it.  A comment `//` behind a call is dropped up to the end
  of its line.
-/
import CourseSite.Directive.Brackets

namespace CourseSite.Directive

/-! ## Places -/

/-- A place in a text: the bytes before it and its line, counted from 1. -/
structure Place where
  offset : Nat
  line : Nat
deriving DecidableEq

namespace Place

/-- The first place of a text. -/
def start : Place := ⟨0, 1⟩

/-- The place behind a character. -/
def after (p : Place) (c : Char) : Place :=
  ⟨p.offset + c.utf8Size, Literal.lineAfter p.line c⟩

/-- The place behind some text. -/
def advance (p : Place) (cs : List Char) : Place := cs.foldl after p

end Place

/-- A range of bytes, the end excluded. -/
structure Span where
  first : Nat
  last : Nat
deriving DecidableEq

/-! ## Calls -/

/-- A directive call. -/
structure Call where
  /-- The name as written. -/
  name : String
  /-- The values of the arguments in order. -/
  arguments : List Value
  /-- The text between the parentheses. -/
  rawArguments : String
  /-- The bytes from the marker to the closing parenthesis. -/
  span : Span
  /-- The line of the marker. -/
  line : Nat

/-- A piece of a document. -/
inductive Segment where
  | literal (text : String)
  | call (call : Call)

namespace Segment

/-- The character starts a directive name. -/
def startsName (c : Char) : Bool := c.isAlpha || c = '_'

/-- The character continues a directive name. -/
def isNameChar (c : Char) : Bool := c.isAlphanum || c = '_'

/-- The name at the start of the text and the text behind the parenthesis that
    follows it. -/
def callHead? (cs : List Char) : Option (List Char × List Char) :=
  if cs.head?.any startsName then
    match cs.dropWhile isNameChar with
    | '(' :: rest => some (cs.takeWhile isNameChar, rest)
    | _ => none
  else none

/-- The text up to the next line break, which may be a carriage return with a
    line feed, and the text from there on. -/
def splitLine : List Char → List Char × List Char
  | [] => ([], [])
  | '\n' :: cs => ([], '\n' :: cs)
  | '\r' :: '\n' :: cs => ([], '\r' :: '\n' :: cs)
  | c :: cs => (c :: (splitLine cs).1, (splitLine cs).2)

/-- The comment at the start of the text, with the blanks before it, and the text
    behind it. -/
def splitComment (cs : List Char) : List Char × List Char :=
  let isPad (c : Char) : Bool := c = ' ' || c = '\t'
  match cs.dropWhile isPad with
  | '/' :: '/' :: rest =>
    (cs.takeWhile isPad ++ '/' :: '/' :: (splitLine rest).1, (splitLine rest).2)
  | _ => ([], cs)

theorem callHead?_eq {cs name rest : List Char} (h : callHead? cs = some (name, rest)) :
    cs = name ++ '(' :: rest := by
  unfold callHead? at h
  split at h
  · split at h
    · rename_i hd
      simp only [Option.some.injEq, Prod.mk.injEq] at h
      rw [← h.1, ← h.2, ← hd, List.takeWhile_append_dropWhile]
    · simp at h
  · simp at h

theorem splitLine_eq (cs : List Char) : (splitLine cs).1 ++ (splitLine cs).2 = cs := by
  fun_induction splitLine cs <;> simp_all

theorem splitComment_eq (cs : List Char) : (splitComment cs).1 ++ (splitComment cs).2 = cs := by
  unfold splitComment
  simp only
  split
  · rename_i rest h
    have := List.takeWhile_append_dropWhile (p := fun c => decide (c = ' ') || decide (c = '\t'))
      (l := cs)
    rw [h] at this
    simp [splitLine_eq, this]
  · simp

/-- One character of literal text, or a call. -/
inductive Piece where
  | char (c : Char)
  | call (call : Call)

/-- The characters and calls of the text that starts at `place`. -/
def pieces (place : Place) (cs : List Char) : Except SyntaxError (List Piece) :=
  match cs with
  | [] => .ok []
  | c :: cs =>
    if c = '@' then
      if cs.head? = some '@' then
        (pieces (place.advance ['@', '@']) cs.tail).map (.char '@' :: ·)
      else
        match hhead : callHead? cs with
        | none => (pieces (place.after '@') cs).map (.char '@' :: ·)
        | some (name, inside) =>
          match hargs : Brackets.splitArguments place.line inside with
          | .error e => .error e
          | .ok (raw, rest) =>
            match parseArguments place.line raw with
            | .error e => .error e
            | .ok arguments =>
              let behind := place.advance ('@' :: name ++ '(' :: raw ++ [')'])
              let found : Call :=
                ⟨String.ofList name, arguments, String.ofList raw,
                  ⟨place.offset, behind.offset⟩, place.line⟩
              have : (splitComment rest).2.length < cs.length + 1 := by
                have h₁ := congrArg List.length (splitComment_eq rest)
                have h₂ := Brackets.splitArguments_length_lt hargs
                have h₃ := congrArg List.length (callHead?_eq hhead)
                simp only [List.length_append, List.length_cons] at h₁ h₃
                omega
              (pieces (behind.advance (splitComment rest).1) (splitComment rest).2).map
                (.call found :: ·)
    else (pieces (place.after c) cs).map (.char c :: ·)
termination_by cs.length

/-- Literal text as a segment, none for the empty text. -/
def ofChars : List Char → List Segment
  | [] => []
  | cs => [.literal (String.ofList cs)]

/-- The segments of the pieces behind the literal text `pending`, which is given
    last character first. -/
def gather (pending : List Char) : List Piece → List Segment
  | [] => ofChars pending.reverse
  | .char c :: pieces => gather (c :: pending) pieces
  | .call found :: pieces => ofChars pending.reverse ++ .call found :: gather [] pieces

/-- The segments of a document in order; adjacent literal text is one segment. -/
def parse (source : String) : Except SyntaxError (List Segment) :=
  (pieces .start source.toList).map (gather [])

end Segment

end CourseSite.Directive
