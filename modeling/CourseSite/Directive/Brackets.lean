/-
  The end of an argument list: the parenthesis that closes a call, found without
  reading the arguments as values.

  * `Reading`: inside a string quotes and backslashes count and brackets do not.
  * `splitArguments`: the text up to the closing parenthesis and the text behind
    it; brackets of the three kinds nest.
-/
import CourseSite.Directive.Literal

namespace CourseSite.Directive.Brackets

open Literal (lineAfter isQuote)

/-- What the next character belongs to. -/
inductive Reading where
  /-- Text outside strings. -/
  | code
  /-- A string with its quote, opened on line `first`. -/
  | quoted (quote : Char) (first : Nat)
  /-- The character behind a backslash of such a string. -/
  | escaped (quote : Char) (first : Nat)
deriving DecidableEq

/-- The character opens a bracket. -/
def isOpening (c : Char) : Bool := c = '(' || c = '[' || c = '\x7b'

/-- The character closes a bracket. -/
def isClosing (c : Char) : Bool := c = ')' || c = ']' || c = '\x7d'

/-- The two characters are a pair of brackets. -/
def closes (opened close : Char) : Bool :=
  (opened = '(' && close = ')') || (opened = '[' && close = ']') ||
    (opened = '\x7b' && close = '\x7d')

/-- The text ends inside the argument list that starts on line `start`. -/
def unterminated (start : Nat) (stack : List Char) : Reading → SyntaxError
  | .code =>
    match stack with
    | [] => ⟨start, .missingParenthesis⟩
    | opened :: _ => ⟨start, .neverClosed opened⟩
  | .quoted _ first => ⟨first, .unterminatedString⟩
  | .escaped _ first => ⟨first, .unterminatedString⟩

/-- The character belongs to the arguments. -/
def keep (c : Char) (split : List Char × List Char) : List Char × List Char :=
  (c :: split.1, split.2)

/-- The text before and behind the parenthesis that closes the list opened on
    line `start`; `stack` holds the open brackets, the innermost first. -/
def splitFrom (start line : Nat) (stack : List Char) (reading : Reading) :
    List Char → Except SyntaxError (List Char × List Char)
  | [] => .error (unterminated start stack reading)
  | c :: cs =>
    match reading with
    | .escaped quote first =>
      (splitFrom start (lineAfter line c) stack (.quoted quote first) cs).map (keep c)
    | .quoted quote first =>
      let reading :=
        if c = '\\' then .escaped quote first
        else if c = quote then .code
        else .quoted quote first
      (splitFrom start (lineAfter line c) stack reading cs).map (keep c)
    | .code =>
      if isQuote c then (splitFrom start line stack (.quoted c line) cs).map (keep c)
      else if isOpening c then (splitFrom start line (c :: stack) .code cs).map (keep c)
      else if isClosing c then
        match stack with
        | [] => if c = ')' then .ok ([], cs) else .error ⟨line, .unexpectedClosing c⟩
        | opened :: stack =>
          if closes opened c then (splitFrom start line stack .code cs).map (keep c)
          else .error ⟨line, .mismatchedClosing c opened⟩
      else (splitFrom start (lineAfter line c) stack .code cs).map (keep c)

/-- The raw arguments of a call whose parenthesis was opened on line `start`, and
    the text behind the closing one. -/
def splitArguments (start : Nat) (cs : List Char) : Except SyntaxError (List Char × List Char) :=
  splitFrom start start [] .code cs

/-- **Nothing is lost**: the arguments, the parenthesis and the rest are the text. -/
theorem splitFrom_eq {start line : Nat} {stack : List Char} {reading : Reading}
    {cs raw rest : List Char} (h : splitFrom start line stack reading cs = .ok (raw, rest)) :
    cs = raw ++ ')' :: rest := by
  induction cs generalizing line stack reading raw with
  | nil => simp [splitFrom] at h
  | cons c cs ih =>
    have step : ∀ {line stack reading},
        (splitFrom start line stack reading cs).map (keep c) = .ok (raw, rest) →
          c :: cs = raw ++ ')' :: rest := by
      intro line stack reading h
      cases hs : splitFrom start line stack reading cs with
      | error e => simp [hs, Except.map] at h
      | ok split =>
        simp only [hs, Except.map, Except.ok.injEq, keep, Prod.mk.injEq] at h
        obtain ⟨rfl, rfl⟩ := h
        rw [List.cons_append, ← ih hs]
    unfold splitFrom at h
    repeat' split at h
    all_goals first
      | exact step h
      | simp_all

theorem splitArguments_length_lt {start : Nat} {cs raw rest : List Char}
    (h : splitArguments start cs = .ok (raw, rest)) : rest.length < cs.length := by
  rw [splitFrom_eq h]
  simp
  omega

end CourseSite.Directive.Brackets
