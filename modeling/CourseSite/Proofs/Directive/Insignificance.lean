/-
  The layout of an argument list is insignificant.

  * `Segment.Agrees`: the same literal text, or calls of one name with the same arguments.
  * `exists_parse_call`: behind a call the document is read as it is read alone, moved.
  * `layout_insignificant`: with other white space outside strings an argument list is read as the
    same values, and a document that starts with the call as segments that agree.
-/
import CourseSite.Proofs.Directive.Relocation
import CourseSite.Proofs.Directive.Spacing

namespace CourseSite.Directive

open Grammar

variable {line : ℕ} {raw raw' : List Char} {values : List Value}

/-- Argument lists with other white space are read as the same values, on whatever lines. -/
theorem parseArguments_of_relaid (h : Relaid raw raw') (hread : parseArguments line raw = .ok values)
    (line' : ℕ) : parseArguments line' raw' = .ok values :=
  parseArguments_of_listed (listed_of_relaid (listed_of_parseArguments hread) h) line'

namespace Segment

variable {name rest : String} {segments : List Segment}

/-! ## Documents that start with a call -/

/-- The same literal text, or calls of one name with the same arguments. -/
inductive Agrees : Segment → Segment → Prop
  | literal {text : String} : Agrees (.literal text) (.literal text)
  | call {a b : Call} : a.name = b.name → a.arguments = b.arguments → Agrees (.call a) (.call b)

theorem agrees_moved (bytes bytes' lines lines' : ℕ) (segment : Segment) :
    Agrees (segment.moved bytes lines) (segment.moved bytes' lines') := by
  cases segment with
  | literal => exact .literal
  | call => exact .call rfl rfl

theorem forall₂_agrees_moved (bytes bytes' lines lines' : ℕ) (segments : List Segment) :
    List.Forall₂ Agrees (segments.map (moved bytes lines)) (segments.map (moved bytes' lines')) := by
  rw [List.forall₂_map_left_iff, List.forall₂_map_right_iff, List.forall₂_same]
  exact fun segment _ => agrees_moved bytes bytes' lines lines' segment

/-- The source of a call with something behind it. -/
def withCall (name : String) (raw : List Char) (rest : String) : String :=
  "@" ++ name ++ "(" ++ String.ofList raw ++ ")" ++ rest

/-- **Behind a call and its comment the document is read as it is read alone**, moved by what
    stands before it. -/
theorem exists_parse_call (hname : IsIdentifier name.toList)
    (hread : parseArguments 1 raw = .ok values) (rest : String) :
    ∃ call front, call.name = name ∧ call.arguments = values ∧
      parse (withCall name raw rest) =
        (movedBehind front (parse (String.ofList (splitComment rest.toList).2))).map
          (.call call :: ·) := by
  obtain ⟨comment, behind, hrest, hcomment⟩ := exists_comment rest.toList
  have hsplit : (splitComment rest.toList).2 = behind := by
    rw [hrest, splitComment_append hcomment]
  let call : Call := ⟨name, values, String.ofList raw,
    ⟨0, String.utf8Len ('@' :: (name.toList ++ '(' :: (raw ++ [')'])))⟩, 1⟩
  have hcall : IsCall [] call := by
    constructor <;> simp [call, Call.toList_text, hname, hread]
  have hbehind := ((parse_eq_iff (String.ofList behind) _).1 rfl).moved
    (call.text.toList ++ comment)
  rw [List.append_nil, String.toList_ofList] at hbehind
  have hlaid := @Laid.call [] [] comment behind call _ .nil hcall hcomment hbehind
  refine ⟨call, call.text.toList ++ comment, rfl, rfl, ?_⟩
  rw [parse_eq_iff, hsplit]
  have hsource : (withCall name raw rest).toList = call.text.toList ++ (comment ++ behind) := by
    simp [withCall, call, Call.toList_text, hrest]
  rw [hsource]
  exact hlaid

/-- Two calls of one name with the same values before the same text. -/
theorem agrees_of_parse_call (hname : IsIdentifier name.toList)
    (hread : parseArguments 1 raw = .ok values) (hread' : parseArguments 1 raw' = .ok values)
    (h : parse (withCall name raw rest) = .ok segments) :
    ∃ segments', parse (withCall name raw' rest) = .ok segments' ∧
      List.Forall₂ Agrees segments segments' := by
  obtain ⟨call, front, hcall, hvalues, hparse⟩ := exists_parse_call hname hread rest
  obtain ⟨call', front', hcall', hvalues', hparse'⟩ := exists_parse_call hname hread' rest
  rw [hparse']
  rw [hparse] at h
  cases hbehind : parse (String.ofList (splitComment rest.toList).2) with
  | error e =>
    rw [hbehind] at h
    cases h
  | ok behind =>
    rw [hbehind] at h
    cases h
    exact ⟨_, rfl, .cons (.call (hcall.trans hcall'.symm) (hvalues.trans hvalues'.symm))
      (forall₂_agrees_moved _ _ _ _ behind)⟩

/-- **The layout of an argument list is insignificant.**  With other white space outside its strings
    an argument list is read as the same values or is not read either; and a document that starts
    with a call is then read as segments with the same literal text and the same calls, if it is
    read at all. -/
theorem layout_insignificant (h : Relaid raw raw') :
    (∀ line line' values,
      parseArguments line raw = .ok values ↔ parseArguments line' raw' = .ok values) ∧
    ∀ line values, parseArguments line raw = .ok values →
      ∀ name rest, IsIdentifier name.toList →
        (∀ segments, parse (withCall name raw rest) = .ok segments →
          ∃ segments', parse (withCall name raw' rest) = .ok segments' ∧
            List.Forall₂ Agrees segments segments') ∧
        ∀ segments', parse (withCall name raw' rest) = .ok segments' →
          ∃ segments, parse (withCall name raw rest) = .ok segments ∧
            List.Forall₂ Agrees segments segments' := by
  refine ⟨fun line line' values => ⟨fun hread => parseArguments_of_relaid h hread line',
    fun hread => parseArguments_of_relaid h.symm hread line⟩,
    fun line values hread name rest hname => ?_⟩
  have hread₁ := parseArguments_of_listed (listed_of_parseArguments hread) 1
  have hread₂ := parseArguments_of_relaid h hread 1
  refine ⟨fun segments hparse => agrees_of_parse_call hname hread₁ hread₂ hparse,
    fun segments' hparse => ?_⟩
  obtain ⟨segments, hparse', hall⟩ := agrees_of_parse_call hname hread₂ hread₁ hparse
  refine ⟨segments, hparse', hall.flip.imp fun a b hab => ?_⟩
  cases hab with
  | literal => exact .literal
  | call hcall hvalues => exact .call hcall.symm hvalues.symm

/-! ## A call on one line and on three -/

namespace Wide

/-- What stands between the quotes of a text with a quote and two blanks in it. -/
def inside : List Char := ['i', 't', '\\', '\'', 's', ' ', ' ', 'x']

/-- A text and an integer, with white space behind the integer, and around the text. -/
def tight : List Char := '\'' :: (inside ++ ['\'', ',', '1', ' '])

def wide : List Char := '\n' :: '\'' :: (inside ++ ['\'', ' ', ',', '\n', '\t', '1'])

theorem relaid : Relaid tight wide := by
  have hquoted : Quoted '\'' inside ['i', 't', '\'', 's', ' ', ' ', 'x'] :=
    .char (by decide) (by decide) (.char (by decide) (by decide) (.escape (by decide)
      (.char (by decide) (by decide) (.char (by decide) (by decide) (.char (by decide) (by decide)
        (.char (by decide) (by decide) .nil))))))
  have hblank : Blanks [' '] := List.forall_mem_singleton.2 (by decide +kernel)
  have hfeed : Blanks ['\n'] := List.forall_mem_singleton.2 (by decide +kernel)
  have htab : Blanks ['\n', '\t'] :=
    List.forall_mem_cons.2 ⟨by decide +kernel, List.forall_mem_singleton.2 (by decide +kernel)⟩
  have hdigit (cs : List Char) : ¬ StartsString '1' cs := fun h => absurd h.1 (by decide)
  have hinteger : Respaced ['1', ' '] ['1'] :=
    .char (hdigit _) (hdigit _) (.ending hblank blanks_nil)
  have hcomma : Respaced [',', '1', ' '] [' ', ',', '\n', '\t', '1'] :=
    .mark (by decide) blanks_nil hblank blanks_nil htab hinteger
  exact .mk blanks_nil hfeed (.string (by decide) hquoted hcomma)

end Wide

open Wide in
/-- A call with a text and an integer, on one line and over three. -/
theorem layout_insignificant_wide :
    parseArguments 1 tight = .ok [.string "it's  x", .integer 1] ∧
      parseArguments 7 wide = .ok [.string "it's  x", .integer 1] ∧
      ∃ segments, parse (withCall "T" wide "// c\n@@") = .ok segments ∧
        List.Forall₂ Agrees [.call ⟨"T", [.string "it's  x", .integer 1], "'it\\'s  x',1 ",
          ⟨0, 17⟩, 1⟩, .literal "\n@"] segments := by
  have hread : parseArguments 1 tight = .ok [.string "it's  x", .integer 1] := by cbv
  have hname : IsIdentifier "T".toList := ⟨by decide, List.forall_mem_nil _⟩
  have hparse : parse (withCall "T" tight "// c\n@@") = .ok [.call ⟨"T",
      [.string "it's  x", .integer 1], "'it\\'s  x',1 ", ⟨0, 17⟩, 1⟩, .literal "\n@"] := by cbv
  have h := layout_insignificant relaid
  exact ⟨hread, (h.1 1 7 _).1 hread, (h.2 1 _ hread "T" "// c\n@@" hname).1 _ hparse⟩

end Segment

end CourseSite.Directive
