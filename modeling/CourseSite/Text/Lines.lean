/-
  Lines of text.

  * `lines`: the lines of a text with their line feeds; nothing is lost.
-/

namespace CourseSite.Text

/-- The lines of a text, each with the line feed that ends it; only the last one
    may lack it. -/
def lines : List Char → List (List Char)
  | [] => []
  | c :: cs =>
    if c = '\n' then [c] :: lines cs
    else
      match lines cs with
      | [] => [[c]]
      | line :: rest => (c :: line) :: rest

/-- Nothing is lost between the lines. -/
theorem flatten_lines (cs : List Char) : (lines cs).flatten = cs := by
  fun_induction lines cs with
  | case1 => rfl
  | case2 cs ih => simp [ih]
  | case3 c cs hc h ih => rw [h] at ih; simp_all
  | case4 c cs hc line rest h ih => rw [h] at ih; simpa using ih

end CourseSite.Text
