/-
  References to environment variables in settings.

  * `expand`: a text with its references replaced.  A text without an opening
    `${` is left as it is; in any other one, `$NAME` is a reference as well as
    `${NAME}` and `${NAME:-default}`, and `$$` stands for a single `$`.
-/
import CourseSite.Text.Letter

namespace CourseSite.Settings

/-- The variables of the environment. -/
abbrev Environment := List (String × String)

/-- The value of a variable. -/
def Environment.get? (environment : Environment) (name : String) : Option String :=
  (environment.find? (·.1 == name)).map (·.2)

/-- The character may stand in a name that is not between braces. -/
def isNameChar (c : Char) : Bool := Text.isLetterOrNumeral c || c = '_'

/-- The text before the first closing brace and the text behind it. -/
def splitBrace : List Char → Option (List Char × List Char)
  | [] => none
  | c :: cs =>
    if c = '\x7d' then some ([], cs)
    else (splitBrace cs).map fun (inside, rest) => (c :: inside, rest)

theorem length_lt_of_splitBrace {cs inside rest : List Char}
    (h : splitBrace cs = some (inside, rest)) : rest.length < cs.length := by
  induction cs generalizing inside rest with
  | nil => simp [splitBrace] at h
  | cons c cs ih =>
    rw [splitBrace] at h
    split at h
    · cases h; simp
    · obtain ⟨⟨i, r⟩, hr, he⟩ := Option.map_eq_some_iff.1 h
      cases he
      exact Nat.lt_succ_of_lt (ih hr)

/-- The name before the first `:-` and the default behind it, if there is one. -/
def splitDefault : List Char → List Char × Option (List Char)
  | [] => ([], none)
  | ':' :: '-' :: cs => ([], some cs)
  | c :: cs => ((splitDefault cs).1.cons c, (splitDefault cs).2)

/-- The name and the default of a reference between braces.  Without a name in front
    of it, `:-` marks no default. -/
def reference (inside : List Char) : List Char × Option (List Char) :=
  match splitDefault inside with
  | ([], some _) => (inside, none)
  | split => split

/-- The characters that a reference stands for: the value, or else the default, or
    else an error with the name. -/
def lookUp (environment : Environment) (name : List Char) (fallback : Option (List Char)) :
    Except String (List Char) :=
  match environment.get? (String.ofList name), fallback with
  | some value, _ => .ok value.toList
  | none, some fallback => .ok fallback
  | none, none => .error (String.ofList name)

/-- A text with every kind of reference replaced.  What a reference stands for is not
    looked at again. -/
def expandAll (environment : Environment) : List Char → Except String (List Char)
  | [] => .ok []
  | '$' :: '\x7b' :: cs =>
    match _h : splitBrace cs with
    | none => (expandAll environment cs).map fun rest => '$' :: '\x7b' :: rest
    | some (inside, rest) =>
      match lookUp environment (reference inside).1 (reference inside).2 with
      | .error name => .error name
      | .ok value => (expandAll environment rest).map (value ++ ·)
  | '$' :: '$' :: cs => (expandAll environment cs).map ('$' :: ·)
  | '$' :: cs =>
    if (cs.takeWhile isNameChar).isEmpty then (expandAll environment cs).map ('$' :: ·)
    else
      match lookUp environment (cs.takeWhile isNameChar) none with
      | .error name => .error name
      | .ok value => (expandAll environment (cs.dropWhile isNameChar)).map (value ++ ·)
  | c :: cs => (expandAll environment cs).map (c :: ·)
termination_by cs => cs.length
decreasing_by
  all_goals simp only [List.length_cons]
  · omega
  · have := length_lt_of_splitBrace _h
    omega
  · omega
  · omega
  · have := (List.dropWhile_sublist (l := cs) isNameChar).length_le
    omega
  · omega

/-- A dollar sign with an opening brace stands somewhere in the text. -/
def mentions : List Char → Bool
  | '$' :: '\x7b' :: _ => true
  | [] => false
  | _ :: cs => mentions cs

/-- A text with its references replaced, or the name of a variable that is not set. -/
def expand (environment : Environment) (text : String) : Except String String :=
  if mentions text.toList then (expandAll environment text.toList).map String.ofList
  else .ok text

end CourseSite.Settings
