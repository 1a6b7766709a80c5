/-
  Doubling every marker quotes a text.

  * `escape`: the text with every marker doubled.
  * `gap_escape`: an escaped text is literal text, whatever follows it, since its markers pair
    up from the left.
  * `collapse_escape`: it stands for the text that was escaped.
  * `escape_quotes`: so it is read as that text, and expanding it calls no extension.
-/
import CourseSite.Proofs.Directive.Parse
import CourseSite.Directive.Registry

namespace CourseSite.Directive

namespace Segment

/-! ## Escaped text -/

/-- A character with the marker doubled. -/
def escapeChar (c : Char) : List Char := if c = '@' then ['@', '@'] else [c]

/-- The text with every marker doubled. -/
def escape (text : String) : String := String.ofList (text.toList.flatMap escapeChar)

theorem sign_escapeChar (rest : List Char) (c : Char) : Sign rest (escapeChar c) c := by
  unfold escapeChar
  split
  · rename_i hc
    rw [hc]
    exact .doubled
  · rename_i hc
    exact .char hc

/-- Escaped text is literal text, whatever follows it. -/
theorem gap_escape (rest cs : List Char) : Gap rest (cs.flatMap escapeChar) := by
  induction cs with
  | nil => exact .nil
  | cons c cs ih =>
    rw [List.flatMap_cons]
    exact .cons (sign_escapeChar _ c) ih

/-- Escaped text stands for the text that was escaped. -/
theorem collapse_escape (cs : List Char) : collapse (cs.flatMap escapeChar) = cs := by
  induction cs with
  | nil => rfl
  | cons c cs ih =>
    have hsign := sign_escapeChar (cs.flatMap escapeChar ++ []) c
    rw [List.flatMap_cons, collapse_append hsign, ih]

theorem ofChars_toList (text : String) :
    ofChars text.toList = if text = "" then [] else [.literal text] := by
  split
  · rename_i htext
    rw [htext]
    rfl
  · rename_i htext
    have hne : text.toList ≠ [] := by simpa using htext
    obtain ⟨c, cs, hcons⟩ := List.exists_cons_of_ne_nil hne
    rw [hcons, ofChars, ← hcons, String.ofList_toList]
    exact List.cons_ne_nil c cs

theorem parse_escape (text : String) :
    parse (escape text) = .ok (if text = "" then [] else [.literal text]) := by
  rw [parse_eq_iff, escape, String.toList_ofList, ← ofChars_toList]
  have hlaid := @Laid.last [] _ (gap_escape [] text.toList)
  rwa [collapse_escape] at hlaid

end Segment

open Segment

/-! ## Expansion -/

/-- Text without calls stands for itself. -/
theorem Registry.expandSegments_ofText (registry : Registry) (fs : FileSystem) (page : PageInfo)
    (text : String) :
    registry.expandSegments fs page (if text = "" then [] else [.literal text]) = .ok text := by
  split
  · rename_i htext
    rw [htext]
    rfl
  · rw [expandSegments, expandSegments, Except.map, String.append_empty]

/-- **Escaping quotes every text.** The escaped text is read as the text itself, in one piece
    without calls, so that every registry expands it to the text and calls no extension. -/
theorem escape_quotes (text : String) :
    ∃ segments, parse (escape text) = .ok segments ∧
      segments = (if text = "" then [] else [.literal text]) ∧ calls segments = [] ∧
      ∀ (registry : Registry) (fs : FileSystem) (page : PageInfo),
        registry.expand fs page (escape text) = .ok text := by
  refine ⟨_, parse_escape text, rfl, ?_, fun registry fs page => ?_⟩
  · split <;> rfl
  · rw [Registry.expand, parse_escape]
    exact registry.expandSegments_ofText fs page text

end CourseSite.Directive
