/-
  What the segments of a document say about its text.

  * `Turn`, `Run`: the reader takes one character of literal text or one call at a time; each
    turn moves it ahead, to the end of the document or to a call that cannot be read.
  * `Stands`: a call stands in the source at its span, with its line and its arguments.
  * `Faithful`: the segments are the source, with nothing lost and nothing invented.
  * `parse_faithful`: a document that is read is read faithfully, and the reading ends.
  * `brackets_agree`: the search for the closing parenthesis and the reading of the arguments
    agree on where a call ends.
-/
import CourseSite.Proofs.Directive.Layout

namespace CourseSite.Directive.Segment

open Brackets (splitArguments endsEarly)
open Attempt (map_eq_ok_iff)

variable {before rest gap cs : List Char} {call : Call} {segments : List Segment}
  {result : Except SyntaxError (List Segment)}

/-! ## Turns -/

/-- What the reader takes at once behind `before`, and the piece it makes of it: a character
    of literal text, or a call with the comment behind it. -/
inductive Turn (before rest : List Char) : List Char → Piece → Prop
  | sign {sign : List Char} {c : Char} : Sign rest sign c → Turn before rest sign (.char c)
  | call {call : Call} {comment : List Char} : IsCall before call → Comment comment rest →
      Turn before rest (call.text.toList ++ comment) (.call call)

theorem Sign.pos {sign : List Char} {c : Char} (h : Sign rest sign c) :
    0 < String.utf8Len sign := by
  cases h with
  | char => simpa using c.utf8Size_pos
  | doubled | bare => decide

theorem utf8Len_text_pos (call : Call) : 0 < String.utf8Len call.text.toList := by
  rw [Call.toList_text, String.utf8Len_cons]
  exact Nat.add_pos_right _ (Char.utf8Size_pos _)

/-- **A turn moves the reader ahead.** -/
theorem Turn.pos {turn : List Char} {piece : Piece} (h : Turn before rest turn piece) :
    0 < String.utf8Len turn := by
  cases h with
  | sign h => exact h.pos
  | @call call comment =>
    rw [String.utf8Len_append]
    exact Nat.add_pos_left (utf8Len_text_pos call) _

/-- **The reader goes on behind a turn.** -/
theorem pieces_of_turn {turn : List Char} {piece : Piece} (h : Turn before rest turn piece) :
    pieces (Place.start.advance before) (turn ++ rest) =
      (pieces (Place.start.advance (before ++ turn)) rest).map (piece :: ·) := by
  cases h with
  | sign h => rw [pieces_of_sign h, Place.advance_append]
  | call h hcomment => rw [List.append_assoc, pieces_of_call h hcomment]

/-- Turn after turn, from `before` up to `rest`. -/
inductive Run (rest : List Char) : List Char → List (List Char) → Prop
  | nil {before : List Char} : Run rest before []
  | cons {before turn : List Char} {turns : List (List Char)} {piece : Piece} :
      Turn before (turns.flatten ++ rest) turn piece → Run rest (before ++ turn) turns →
      Run rest before (turn :: turns)

theorem Run.pos {turns : List (List Char)} (h : Run rest before turns) :
    ∀ turn ∈ turns, 0 < String.utf8Len turn := by
  induction h with
  | nil => exact fun _ h => absurd h List.not_mem_nil
  | cons hturn _ ih => exact List.forall_mem_cons.2 ⟨hturn.pos, ih⟩

theorem run_of_gap (rest : List Char) (turns : List (List Char))
    (h : Gap (turns.flatten ++ rest) gap) (hrun : Run rest (before ++ gap) turns) :
    ∃ turns', turns'.flatten = gap ++ turns.flatten ∧ Run rest before turns' := by
  induction h generalizing before with
  | nil => exact ⟨turns, rfl, by simpa using hrun⟩
  | @cons sign c gap hsign _ ih =>
    rw [← List.append_assoc] at hrun
    obtain ⟨turns', hflatten, hrun⟩ := ih hrun
    rw [← List.append_assoc, ← hflatten] at hsign
    exact ⟨sign :: turns', by simp [hflatten], .cons (.sign hsign) hrun⟩

/-- **The reader comes to the end**, or to a call that it cannot read. -/
theorem run_of_laid (h : Laid before cs result) : ∃ turns rest, cs = turns.flatten ++ rest ∧
    Run rest before turns ∧ (rest = [] ∧ (∃ segments, result = .ok segments) ∨
      ∃ e, Stuck (before ++ turns.flatten) e rest ∧ result = .error e) := by
  induction h with
  | @last before gap hgap =>
    obtain ⟨turns, hflatten, hrun⟩ := run_of_gap [] [] hgap .nil
    exact ⟨turns, [], by simp [hflatten], hrun, .inl ⟨rfl, _, rfl⟩⟩
  | @stuck before gap cs e hgap hstuck =>
    obtain ⟨turns, hflatten, hrun⟩ := run_of_gap cs [] hgap .nil
    rw [List.flatten_nil, List.append_nil] at hflatten
    refine ⟨turns, cs, by rw [hflatten], hrun, .inr ⟨e, ?_, rfl⟩⟩
    rw [hflatten]
    exact hstuck
  | @call before gap comment rest call result hgap hcall hcomment _ ih =>
    obtain ⟨turns, rest', rfl, hrun, hend⟩ := ih
    have hcallRun := Run.cons (.call hcall hcomment) hrun
    have hgap' : Gap (((call.text.toList ++ comment) :: turns).flatten ++ rest') gap := by
      simpa using hgap
    obtain ⟨turns', hflatten, hrun⟩ := run_of_gap rest' _ hgap' hcallRun
    refine ⟨turns', rest', by simp [hflatten], hrun, ?_⟩
    rw [hflatten]
    rcases hend with ⟨hrest, segments, rfl⟩ | ⟨e, hstuck, rfl⟩
    · exact .inl ⟨hrest, _, rfl⟩
    · exact .inr ⟨e, by simpa using hstuck, rfl⟩

/-! ## Calls in the source -/

/-- The call of a segment. -/
def call? : Segment → Option Call
  | .literal _ => none
  | .call call => some call

/-- The calls of a document in order. -/
def calls (segments : List Segment) : List Call := segments.filterMap call?

theorem calls_ofChars (cs : List Char) : calls (ofChars cs) = [] := by
  cases cs <;> rfl

theorem calls_append_cons (cs : List Char) (call : Call) (segments : List Segment) :
    calls (ofChars cs ++ .call call :: segments) = call :: calls segments := by
  rw [calls, List.filterMap_append]
  change calls (ofChars cs) ++ call :: calls segments = _
  rw [calls_ofChars, List.nil_append]

/-- The call stands in the source where its span says: the span starts and ends at
    characters, it holds the text of the call, and the fields say what is written there. -/
structure Stands (source : String) (call : Call) : Prop where
  first : String.Pos.Raw.IsValid source ⟨call.span.first⟩
  last : String.Pos.Raw.IsValid source ⟨call.span.last⟩
  bounds : call.span.first < call.span.last ∧ call.span.last ≤ source.utf8ByteSize
  text : String.Pos.Raw.extract source ⟨call.span.first⟩ ⟨call.span.last⟩ = call.text
  identifier : IsIdentifier call.name.toList
  line : call.line = 1 +
    (String.Pos.Raw.extract source ⟨0⟩ ⟨call.span.first⟩).toList.count '\n'
  arguments : parseArguments call.line call.rawArguments.toList = .ok call.arguments

theorem isValid_of_append {source : String} (h : source.toList = before ++ rest) :
    String.Pos.Raw.IsValid source ⟨String.utf8Len before⟩ := by
  rw [String.Pos.Raw.isValid_iff_exists_append]
  refine ⟨String.ofList before, String.ofList rest, ?_, ?_⟩
  · rw [← String.ofList_append, ← h, String.ofList_toList]
  · rw [String.rawEndPos, String.utf8ByteSize_ofList]

theorem extract_of_append {source : String} {text : List Char}
    (h : source.toList = before ++ (text ++ rest)) :
    String.Pos.Raw.extract source ⟨String.utf8Len before⟩ ⟨String.utf8Len (before ++ text)⟩ =
      String.ofList text := by
  rw [← String.ofList_toList (s := source), h, ← List.append_assoc, String.utf8Len_append,
    String.extract_of_valid]

theorem stands_of_isCall {source : String} (h : IsCall before call)
    (hsource : source.toList = before ++ (call.text.toList ++ rest)) : Stands source call := by
  have hpos := utf8Len_text_pos call
  have hbehind : source.toList = before ++ call.text.toList ++ rest := by
    rw [hsource, List.append_assoc]
  have hbefore : String.Pos.Raw.extract source ⟨0⟩ ⟨String.utf8Len before⟩ =
      String.ofList before := by
    rw [← List.nil_append (before ++ _)] at hsource
    exact extract_of_append hsource
  constructor
  · rw [h.span]
    exact isValid_of_append hsource
  · rw [h.span]
    exact isValid_of_append hbehind
  · rw [h.span, ← String.ofList_toList (s := source), String.utf8ByteSize_ofList, hbehind]
    simp only [String.utf8Len_append]
    omega
  · rw [h.span]
    simpa using extract_of_append hsource
  · exact h.identifier
  · rw [h.line, h.span, hbefore, String.toList_ofList]
  · exact h.arguments

/-- Every call of a layout stands behind the text before it. -/
theorem Laid.isCall (h : Laid before cs result) (hok : result = .ok segments) :
    ∀ call ∈ calls segments, ∃ between rest, cs = between ++ (call.text.toList ++ rest) ∧
      IsCall (before ++ between) call := by
  induction h generalizing segments with
  | last =>
    cases hok
    rw [calls_ofChars]
    exact fun _ h => absurd h List.not_mem_nil
  | stuck => cases hok
  | @call before gap comment rest call result _ hcall _ _ ih =>
    obtain ⟨segments', rfl, rfl⟩ := map_eq_ok_iff.1 hok
    rw [calls_append_cons, List.forall_mem_cons]
    refine ⟨⟨gap, comment ++ rest, rfl, hcall⟩, fun call' hmem => ?_⟩
    obtain ⟨between, rest', rfl, hcall'⟩ := ih rfl call' hmem
    exact ⟨gap ++ (call.text.toList ++ comment) ++ between, rest', by simp, by simpa using hcall'⟩

/-- The spans of a layout lie one behind the other. -/
theorem Laid.pairwise (h : Laid before cs result) (hok : result = .ok segments) :
    (calls segments).Pairwise fun a b => a.span.last ≤ b.span.first := by
  induction h generalizing segments with
  | last =>
    cases hok
    rw [calls_ofChars]
    exact .nil
  | stuck => cases hok
  | @call before gap comment rest call result _ hcall _ hlaid ih =>
    obtain ⟨segments', rfl, rfl⟩ := map_eq_ok_iff.1 hok
    rw [calls_append_cons, List.pairwise_cons]
    refine ⟨fun call' hmem => ?_, ih rfl⟩
    obtain ⟨between, rest', -, hcall'⟩ := hlaid.isCall rfl call' hmem
    rw [hcall.span, hcall'.span]
    simp only [String.utf8Len_append]
    omega

/-! ## Literal text -/

theorem ofChars_ne_empty {text : String} (h : .literal text ∈ ofChars cs) : text ≠ "" := by
  cases cs with
  | nil => cases h
  | cons c cs =>
    have htext : text = String.ofList (c :: cs) := by simpa [ofChars] using h
    rw [htext]
    simp

theorem Laid.literal_ne_empty (h : Laid before cs result) (hok : result = .ok segments) :
    ∀ text, .literal text ∈ segments → text ≠ "" := by
  induction h generalizing segments with
  | last =>
    cases hok
    exact fun _ => ofChars_ne_empty
  | stuck => cases hok
  | call _ _ _ _ ih =>
    obtain ⟨segments', rfl, rfl⟩ := map_eq_ok_iff.1 hok
    intro text hmem
    rcases List.mem_append.1 hmem with hmem | hmem
    · exact ofChars_ne_empty hmem
    · rcases List.mem_cons.1 hmem with hmem | hmem
      · cases hmem
      · exact ih rfl text hmem

/-- One of two neighbours is a call. -/
def Apart (a b : Segment) : Prop := (call? a).isSome ∨ (call? b).isSome

theorem Laid.apart (h : Laid before cs result) (hok : result = .ok segments) :
    segments.IsChain Apart := by
  induction h generalizing segments with
  | @last _ gap =>
    cases hok
    cases collapse gap with
    | nil => exact .nil
    | cons => exact .singleton _
  | stuck => cases hok
  | @call _ gap _ _ call result _ _ _ _ ih =>
    obtain ⟨segments', rfl, rfl⟩ := map_eq_ok_iff.1 hok
    have hcall : (Segment.call call :: segments').IsChain Apart :=
      List.isChain_cons.2 ⟨fun _ _ => .inl rfl, ih rfl⟩
    cases collapse gap with
    | nil => exact hcall
    | cons => exact List.isChain_cons_cons.2 ⟨.inr rfl, hcall⟩

/-! ## The document -/

/-- Nothing of the source is lost and nothing is invented. -/
structure Faithful (source : String) (segments : List Segment) : Prop where
  /-- The literal text before, between and behind the calls is the source with every doubled
      marker collapsed and the comment behind each call removed. -/
  laid : Laid [] source.toList (.ok segments)
  stands : ∀ call ∈ calls segments, Stands source call
  ordered : (calls segments).Pairwise fun a b => a.span.last ≤ b.span.first
  filled : ∀ text, .literal text ∈ segments → text ≠ ""
  apart : segments.IsChain Apart

theorem faithful_of_laid {source : String} (h : Laid [] source.toList (.ok segments)) :
    Faithful source segments where
  laid := h
  stands := fun call hmem => by
    obtain ⟨between, rest, hsource, hcall⟩ := h.isCall rfl call hmem
    exact stands_of_isCall hcall hsource
  ordered := h.pairwise rfl
  filled := h.literal_ne_empty rfl
  apart := h.apart rfl

/-- **Reading loses and invents nothing, and it ends.** The segments of a document are its
    text; every turn moves the reader ahead by whole characters, and turn after turn it comes
    to the end or to a call that it reports. -/
theorem parse_faithful (source : String) :
    (∀ segments, parse source = .ok segments → Faithful source segments) ∧
    (∀ before rest turn piece, Turn before rest turn piece → 0 < String.utf8Len turn ∧
      pieces (Place.start.advance before) (turn ++ rest) =
        (pieces (Place.start.advance (before ++ turn)) rest).map (piece :: ·)) ∧
    ∃ turns rest, source.toList = turns.flatten ++ rest ∧ Run rest [] turns ∧
      (rest = [] ∧ (∃ segments, parse source = .ok segments) ∨
        ∃ e, Stuck turns.flatten e rest ∧ parse source = .error e) := by
  refine ⟨fun segments h => faithful_of_laid ((parse_eq_iff _ _).1 h),
    fun before rest turn piece h => ⟨h.pos, pieces_of_turn h⟩, ?_⟩
  exact run_of_laid ((parse_eq_iff source _).1 rfl)

/-- Multi-byte text, a doubled marker before a call, a comment and a bare marker at the end. -/
theorem parse_faithful_note :
    Faithful "é@@@Note(1) // c\r\nx@"
        [.literal "é@", .call ⟨"Note", [.integer 1], "1", ⟨4, 12⟩, 1⟩, .literal "\r\nx@"] ∧
      0 < String.utf8Len ['@', '@'] ∧ pieces (Place.start.advance ['é']) (['@', '@'] ++ ['x']) =
        (pieces (Place.start.advance (['é'] ++ ['@', '@'])) ['x']).map (.char '@' :: ·) :=
  ⟨(parse_faithful _).1 _ (by cbv), (parse_faithful "").2.1 ['é'] ['x'] _ _ (.sign .doubled)⟩

/-! ## The end of a call -/

/-- If the text ends too early, it is the search for the closing parenthesis that says so. -/
theorem brackets_of_stuck {e : SyntaxError} (h : Stuck before e cs)
    (he : endsEarly e.cause = true) :
    ∃ name inside, cs = '@' :: (name ++ '(' :: inside) ∧
      splitArguments (1 + before.count '\n') inside = .error e := by
  cases h with
  | brackets _ hsplit => exact ⟨_, _, rfl, hsplit⟩
  | arguments _ hsplit hread =>
    rw [Brackets.endsEarly_eq_false hsplit hread] at he
    cases he

/-- **The search for the closing parenthesis and the reading of the arguments agree.**
    Arguments that are found do not end inside a literal, so that an error of this kind comes
    from the search; and arguments that can be read are found, whatever follows them. -/
theorem brackets_agree (raw : List Char) (line : Nat) :
    (∀ start cs rest e, splitArguments start cs = .ok (raw, rest) →
      parseArguments line raw = .error e → endsEarly e.cause = false) ∧
    (∀ source e, parse source = .error e → endsEarly e.cause = true →
      ∃ before name inside, source.toList = before ++ '@' :: (name ++ '(' :: inside) ∧
        splitArguments (1 + before.count '\n') inside = .error e) ∧
    ∀ values, parseArguments line raw = .ok values → ∀ name, IsIdentifier name → ∀ place rest,
      callHead? (name ++ '(' :: (raw ++ ')' :: rest)) = some (name, raw ++ ')' :: rest) ∧
      splitArguments place.line (raw ++ ')' :: rest) = .ok (raw, rest) ∧
      let behind := place.advance ('@' :: name ++ '(' :: raw ++ [')'])
      pieces place ('@' :: (name ++ '(' :: (raw ++ ')' :: rest))) =
        (pieces (behind.advance (splitComment rest).1) (splitComment rest).2).map
          (.call ⟨String.ofList name, values, String.ofList raw,
            ⟨place.offset, behind.offset⟩, place.line⟩ :: ·) := by
  refine ⟨fun _ _ _ _ hsplit hread => Brackets.endsEarly_eq_false hsplit hread,
    fun source e h he => ?_, fun values h name hname place rest => ?_⟩
  · obtain ⟨turns, rest, hsource, -, ⟨-, segments, hok⟩ | ⟨e', hstuck, herror⟩⟩ :=
      run_of_laid ((parse_eq_iff source _).1 h)
    · cases hok
    · cases herror
      obtain ⟨name, inside, rfl, hsplit⟩ := brackets_of_stuck hstuck he
      exact ⟨turns.flatten, name, inside, hsource, hsplit⟩
  · have hhead : callHead? (name ++ '(' :: (raw ++ ')' :: rest)) =
        some (name, raw ++ ')' :: rest) :=
      callHead?_eq_some_iff.2 ⟨hname, rfl⟩
    have hsplit := Brackets.splitArguments_of_parseArguments h place.line rest
    have hread : parseArguments place.line raw = .ok values :=
      parseArguments_of_listed (listed_of_parseArguments h) _
    refine ⟨hhead, hsplit, ?_⟩
    rw [pieces_of_head hhead, hsplit]
    simp only [Except.bind, hread]

/-- A parenthesis in a string and brackets in brackets; two values without a comma; a string
    without its end. -/
theorem brackets_agree_note :
    endsEarly (.expectedComma '2') = false ∧
      (∃ before name inside, "@A(\"x".toList = before ++ '@' :: (name ++ '(' :: inside) ∧
        splitArguments (1 + before.count '\n') inside = .error ⟨1, .unterminatedString⟩) ∧
      splitArguments 7 "\")\", [\x7bk: 2\x7d]) behind".toList =
        .ok ("\")\", [\x7bk: 2\x7d]".toList, " behind".toList) :=
  ⟨(brackets_agree "1 2".toList 1).1 1 "1 2)".toList [] ⟨1, .expectedComma '2'⟩ (by cbv) (by cbv),
    (brackets_agree [] 1).2.1 "@A(\"x" ⟨1, .unterminatedString⟩ (by cbv) rfl,
    ((brackets_agree "\")\", [\x7bk: 2\x7d]".toList 1).2.2
      [.string ")", .array [.object [("k", .integer 2)]]] (by cbv) ['a', '1']
      ⟨rfl, List.forall_mem_singleton.2 rfl⟩ ⟨40, 7⟩ " behind".toList).2.1⟩

end CourseSite.Directive.Segment
