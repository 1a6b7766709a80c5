/-
  Documents are read line by line, as long as no call runs over the end of a line.

  * `merge`: segments behind segments, with literal text that meets in one.
  * `EndsLine`: the text ends with a line feed.  No name, no comment and no pair of markers
    reaches across it: `Sign.extend`, `Gap.extend`, `Comment.extend`.
  * `Laid.append`: the layout of a text that ends a line and of the text behind it.
  * `parse_append_line`: what is read behind a line is what is read alone, moved.
-/
import CourseSite.Proofs.Directive.Relocation

namespace CourseSite.Directive.Segment

open Attempt (map_eq_ok_iff map_map)

variable {before rest gap comment cs more : List Char} {call : Call} {segments : List Segment}
  {result : Except SyntaxError (List Segment)}

/-! ## Segments behind segments -/

/-- Segments behind segments; literal text behind literal text is one segment. -/
def merge (segments more : List Segment) : List Segment :=
  match segments.getLast?, more.head? with
  | some (.literal text), some (.literal text') =>
    segments.dropLast ++ .literal (text ++ text') :: more.tail
  | _, _ => segments ++ more

/-- The segments up to a call have no part in the merging. -/
theorem merge_append_call (front segments more : List Segment) (call : Call) :
    merge (front ++ .call call :: segments) more =
      front ++ .call call :: merge segments more := by
  cases segments using List.reverseRecOn with
  | nil => simp [merge]
  | append_singleton segments last =>
    have hlast : (front ++ .call call :: (segments ++ [last])).getLast? = some last := by
      rw [← List.cons_append, ← List.append_assoc, List.getLast?_concat]
    have hinit : (front ++ .call call :: (segments ++ [last])).dropLast =
        front ++ .call call :: segments := by
      rw [← List.cons_append, ← List.append_assoc, List.dropLast_concat]
    unfold merge
    rw [hlast, hinit, List.getLast?_concat, List.dropLast_concat]
    split <;> simp

/-- Literal text before literal text; `tail` starts with a call, or there is none. -/
theorem merge_ofChars (cs cs' : List Char) {tail : List Segment}
    (h : ∀ text, tail.head? ≠ some (.literal text)) :
    merge (ofChars cs) (ofChars cs' ++ tail) = ofChars (cs ++ cs') ++ tail := by
  cases cs with
  | nil => rfl
  | cons c cs =>
    cases cs' with
    | nil =>
      rw [List.append_nil, merge]
      split
      · rename_i hhead
        exact absurd hhead (h _)
      · rfl
    | cons c' cs' =>
      change .literal (String.ofList (c :: cs) ++ String.ofList (c' :: cs')) :: tail = _
      rw [← String.ofList_append]
      rfl

/-! ## Literal text behind literal text -/

theorem Gap.append {gap' : List Char} (h : Gap (gap' ++ rest) gap) (h' : Gap rest gap') :
    Gap rest (gap ++ gap') := by
  induction h with
  | nil => exact h'
  | cons hsign _ ih =>
    rw [List.append_assoc]
    rw [← List.append_assoc] at hsign
    exact .cons hsign ih

theorem collapse_gap_append (h : Gap (cs ++ rest) gap) :
    collapse (gap ++ cs) = collapse gap ++ collapse cs := by
  induction h with
  | nil => rfl
  | cons hsign _ ih =>
    rw [List.append_assoc, collapse_append (by rwa [← List.append_assoc] at hsign), ih,
      collapse_append hsign, List.cons_append]

/-- Literal text before a layout belongs to its first literal text. -/
theorem Laid.gap_append (hgap : Gap cs gap) (h : Laid (before ++ gap) cs result) :
    Laid before (gap ++ cs) (result.map (merge (ofChars (collapse gap)))) := by
  cases h with
  | last hgap' =>
    have hmerge := @merge_ofChars (collapse gap) (collapse cs) [] nofun
    rw [List.append_nil, List.append_nil] at hmerge
    rw [← List.append_nil cs] at hgap
    rw [Except.map, hmerge, ← collapse_gap_append hgap]
    exact .last (hgap.append hgap')
  | @stuck _ gap' cs e hgap' hstuck =>
    rw [← List.append_assoc]
    exact .stuck (hgap.append hgap') (by simpa using hstuck)
  | @call _ gap' comment rest call result hgap' hcall hcomment hlaid =>
    have hfun : merge (ofChars (collapse gap)) ∘ (ofChars (collapse gap') ++ .call call :: ·) =
        (ofChars (collapse (gap ++ gap')) ++ .call call :: ·) := by
      funext segments
      rw [collapse_gap_append hgap]
      exact merge_ofChars _ _ nofun
    rw [map_map, hfun, ← List.append_assoc]
    exact .call (hgap.append hgap') (by simpa using hcall) hcomment (by simpa using hlaid)

/-! ## Texts that end a line -/

/-- The text ends with a line feed. -/
def EndsLine (cs : List Char) : Prop := ∃ line, cs = line ++ ['\n']

theorem EndsLine.of_append (h : EndsLine (before ++ rest)) (hne : rest ≠ []) : EndsLine rest := by
  obtain ⟨line, hline⟩ := h
  refine ⟨rest.dropLast, ?_⟩
  have hlast : rest.getLast hne = '\n' := by
    rw [← List.getLast_append_of_ne_nil (l := before) (by simp [hne]) hne]
    simp [hline]
  rw [← hlast, List.dropLast_append_getLast]

/-- A part without a line feed is not the last one. -/
theorem EndsLine.of_append_of_not_mem {part : List Char} (h : EndsLine (before ++ (part ++ rest)))
    (hne : part ≠ []) (hpart : '\n' ∉ part) : EndsLine rest := by
  have hbehind : EndsLine (part ++ rest) := h.of_append (by simp [hne])
  by_cases hrest : rest = []
  · subst hrest
    obtain ⟨line, hline⟩ := hbehind
    rw [List.append_nil] at hline
    rw [hline] at hpart
    simp at hpart
  · exact hbehind.of_append hrest

/-- What has no line feed and stands at the start of a text that goes on behind a line stands
    in that line. -/
theorem exists_of_append_eq {line part next : List Char} (hpart : '\n' ∉ part)
    (h : line ++ '\n' :: more = part ++ next) :
    ∃ next', line = part ++ next' ∧ next = next' ++ '\n' :: more := by
  rcases List.append_eq_append_iff.1 h with ⟨extra, rfl, hextra⟩ | ⟨next', rfl, hnext⟩
  · cases extra with
    | nil => exact ⟨[], by simp, by simpa using hextra.symm⟩
    | cons c extra =>
      cases hextra
      simp at hpart
  · exact ⟨next', rfl, hnext⟩

theorem StartsCall.of_line {line more' : List Char} (h : StartsCall (line ++ '\n' :: more)) :
    StartsCall (line ++ '\n' :: more') := by
  obtain ⟨name, inside, hname, heq⟩ := h
  have hfeed : '\n' ∉ name ++ ['('] := by
    simp only [List.mem_append, List.mem_singleton, not_or]
    exact ⟨fun hmem => absurd (hname.isNameChar _ hmem) (by decide), by decide⟩
  obtain ⟨next, rfl, -⟩ := exists_of_append_eq hfeed (by rw [heq, ← List.append_cons])
  exact ⟨name, next ++ '\n' :: more', hname, by simp⟩

theorem Sign.extend {sign : List Char} {c : Char} (h : Sign rest sign c) (hline : EndsLine rest)
    (more : List Char) : Sign (rest ++ more) sign c := by
  cases h with
  | char hc => exact .char hc
  | doubled => exact .doubled
  | bare hnext hcall =>
    obtain ⟨line, rfl⟩ := hline
    rw [List.append_assoc, List.singleton_append]
    refine .bare ?_ fun h => hcall h.of_line
    cases line with
    | nil => simp
    | cons => exact hnext

theorem Gap.extend (h : Gap rest gap) (hline : EndsLine (gap ++ rest)) (more : List Char) :
    Gap (rest ++ more) gap := by
  induction h with
  | nil => exact .nil
  | @cons sign c gap hsign hgap ih =>
    rw [List.append_assoc] at hline
    by_cases hbehind : gap ++ rest = []
    · -- The last character is the line feed, so that it is no marker.
      obtain ⟨rfl, rfl⟩ := List.append_eq_nil_iff.1 hbehind
      obtain ⟨line, hline⟩ := hline
      refine .cons (c := c) ?_ .nil
      cases hsign with
      | char hc => exact .char hc
      | doubled => exact .doubled
      | bare => cases line <;> simp at hline
    · have hend := hline.of_append hbehind
      refine .cons (c := c) ?_ (ih hend)
      rw [← List.append_assoc]
      exact hsign.extend hend more

theorem not_mem_pad {pad : List Char} (h : Pad pad) : '\n' ∉ pad := by
  intro hmem
  rcases h _ hmem with h | h <;> exact absurd h (by decide)

theorem Comment.not_mem (h : Comment comment rest) : '\n' ∉ comment := by
  cases h with
  | none => exact List.not_mem_nil
  | line hpad hline =>
    simp only [List.mem_append, List.mem_cons, not_or]
    exact ⟨not_mem_pad hpad, by decide, by decide, hline⟩

theorem LineEnd.extend {line : List Char} (h : LineEnd line rest) (hne : rest ≠ [])
    (more : List Char) : LineEnd line (rest ++ more) := by
  cases h with
  | text => exact absurd rfl hne
  | feed h => exact .feed h
  | both => exact .both

theorem Comment.extend (h : Comment comment rest) (hline : EndsLine rest) (more : List Char) :
    Comment comment (rest ++ more) := by
  obtain ⟨line, rfl⟩ := hline
  cases h with
  | none h =>
    refine .none fun pad text hpad heq => ?_
    have hfeed : '\n' ∉ pad ++ ['/', '/'] := by
      simp only [List.mem_append, List.mem_cons, List.not_mem_nil, or_false, not_or]
      exact ⟨not_mem_pad hpad, by decide, by decide⟩
    have hsplit : line ++ '\n' :: more = (pad ++ ['/', '/']) ++ text := by simpa using heq
    obtain ⟨next, rfl, -⟩ := exists_of_append_eq hfeed hsplit
    exact h pad (next ++ ['\n']) hpad (by simp)
  | line hpad hfeed hend => exact .line hpad hfeed (hend.extend (by simp) more)

/-! ## Documents -/

/-- The line ends behind a call and its comment. -/
theorem endsLine_of_call (hcomment : Comment comment rest)
    (h : EndsLine (gap ++ (call.text.toList ++ (comment ++ rest)))) : EndsLine rest := by
  have hpart : '\n' ∉ ')' :: comment := by
    rw [List.mem_cons, not_or]
    exact ⟨by decide, hcomment.not_mem⟩
  have hline : EndsLine ((gap ++ '@' :: (call.name.toList ++ '(' :: call.rawArguments.toList)) ++
      ((')' :: comment) ++ rest)) := by
    simpa [Call.toList_text] using h
  exact hline.of_append_of_not_mem nofun hpart

/-- **The layout of a text that ends a line goes on** with the layout of the text behind it. -/
theorem Laid.append (h : Laid before cs (.ok segments)) (hline : EndsLine cs)
    (hmore : Laid (before ++ cs) more result) :
    Laid before (cs ++ more) (result.map (merge segments)) := by
  generalize hok : Except.ok segments = laid at h
  induction h generalizing segments with
  | last hgap =>
    cases hok
    have hextend := hgap.extend (by simpa using hline) more
    exact hmore.gap_append hextend
  | stuck => cases hok
  | @call before gap comment rest call laid hgap hcall hcomment _ ih =>
    obtain ⟨segments', rfl, rfl⟩ := map_eq_ok_iff.1 hok.symm
    have hrest := endsLine_of_call hcomment hline
    have hlaid := ih hrest (by simpa using hmore) rfl
    have hextend := hgap.extend hline more
    have hfun : merge (ofChars (collapse gap) ++ .call call :: segments') =
        (ofChars (collapse gap) ++ .call call :: ·) ∘ merge segments' := by
      funext more
      exact merge_append_call _ _ _ _
    rw [hfun, ← map_map]
    simp only [List.append_assoc] at hextend ⊢
    exact .call hextend hcall (hcomment.extend hrest more) hlaid

/-- **Reading goes line by line.** If a text that ends a line can be read, then what is behind
    it is read as if it stood alone: its segments follow, moved by the bytes and the lines of
    that text, and its error is the same, moved by the lines. -/
theorem parse_append_line (a b : String) (segments : List Segment)
    (h : parse (a ++ "\n") = .ok segments) :
    (∀ more, parse b = .ok more → parse (a ++ "\n" ++ b) =
      .ok (merge segments (more.map
        (moved (a ++ "\n").utf8ByteSize ((a ++ "\n").toList.count '\n'))))) ∧
    ∀ e, parse b = .error e →
      parse (a ++ "\n" ++ b) = .error ⟨e.line + (a ++ "\n").toList.count '\n', e.cause⟩ := by
  have hline : EndsLine (a ++ "\n").toList := ⟨a.toList, by simp⟩
  have hbytes : String.utf8Len (a ++ "\n").toList = (a ++ "\n").utf8ByteSize := by
    rw [← String.utf8ByteSize_ofList, String.ofList_toList]
  have hall {result} (hb : parse b = result) : parse (a ++ "\n" ++ b) =
      (movedBehind (a ++ "\n").toList result).map (merge segments) := by
    have hmoved := ((parse_eq_iff b result).1 hb).moved (a ++ "\n").toList
    rw [List.append_nil] at hmoved
    rw [parse_eq_iff, String.toList_append]
    exact ((parse_eq_iff _ _).1 h).append hline hmoved
  constructor
  · intro more hb
    rw [hall hb, movedBehind, hbytes]
    rfl
  · intro e hb
    rw [hall hb]
    rfl

/-- A string over two lines and a comment before a line break of two characters; behind them a
    call, and two values without a comma. -/
theorem parse_append_line_note :
    parse ("é@A('x\ny')// c\r" ++ "\n") =
        .ok [.literal "é", .call ⟨"A", [.string "x\ny"], "'x\ny'", ⟨2, 11⟩, 1⟩, .literal "\r\n"] ∧
      parse "t@B(2)" = .ok [.literal "t", .call ⟨"B", [.integer 2], "2", ⟨1, 6⟩, 1⟩] ∧
      parse ("é@A('x\ny')// c\r" ++ "\n" ++ "t@B(2)") =
        .ok [.literal "é", .call ⟨"A", [.string "x\ny"], "'x\ny'", ⟨2, 11⟩, 1⟩,
          .literal "\r\nt", .call ⟨"B", [.integer 2], "2", ⟨18, 23⟩, 3⟩] ∧
      parse "\n@B(1 2)" = .error ⟨2, .expectedComma '2'⟩ ∧
      parse ("é@A('x\ny')// c\r" ++ "\n" ++ "\n@B(1 2)") = .error ⟨4, .expectedComma '2'⟩ := by
  have hline : parse ("é@A('x\ny')// c\r" ++ "\n") = .ok [.literal "é",
      .call ⟨"A", [.string "x\ny"], "'x\ny'", ⟨2, 11⟩, 1⟩, .literal "\r\n"] := by cbv
  have hread : parse "t@B(2)" =
      .ok [.literal "t", .call ⟨"B", [.integer 2], "2", ⟨1, 6⟩, 1⟩] := by cbv
  have herror : parse "\n@B(1 2)" = .error ⟨2, .expectedComma '2'⟩ := by cbv
  refine ⟨hline, hread, ((parse_append_line _ _ _ hline).1 _ hread).trans ?_, herror,
    ((parse_append_line _ _ _ hline).2 _ herror).trans ?_⟩
  · cbv
  · cbv

end CourseSite.Directive.Segment
