/-
  The layout of a document: literal text, calls, and the comments behind them.

  * `IsIdentifier`, `Comment`, `Sign`: what a name, a dropped comment and one character of
    literal text look like in the source.
  * `Gap`: the source of literal text; `collapse` is the text it stands for.
  * `IsCall`, `Stuck`: a call that is read, and one that cannot be.
  * `Laid`: what a document is read as, part by part: its segments, or the error of the first
    call that cannot be read.
  * `pieces_of_gap`, `pieces_of_call`, `pieces_of_stuck`: the reader on each part.
  * `parse_eq_iff`: the reader returns what the layout says.
-/
import CourseSite.Proofs.Directive.Scan
import CourseSite.Directive.Segment

namespace CourseSite.Directive

/-! ## Places -/

theorem Place.advance_eq (p : Place) (cs : List Char) :
    p.advance cs = ⟨p.offset + String.utf8Len cs, p.line + cs.count '\n'⟩ := by
  induction cs generalizing p with
  | nil => rfl
  | cons c cs ih =>
    rw [Place.advance, List.foldl_cons]
    change (p.after c).advance cs = _
    rw [ih, Place.after, Literal.lineAfter, String.utf8Len_cons, List.count_cons]
    by_cases hc : c = '\n' <;> simp [hc] <;> omega

theorem Place.advance_append (p : Place) (cs cs' : List Char) :
    p.advance (cs ++ cs') = (p.advance cs).advance cs' :=
  List.foldl_append

/-- A call as it is written. -/
def Call.text (call : Call) : String := "@" ++ call.name ++ "(" ++ call.rawArguments ++ ")"

theorem Call.toList_text (call : Call) :
    call.text.toList = '@' :: (call.name.toList ++ '(' :: (call.rawArguments.toList ++ [')'])) := by
  simp [Call.text]

namespace Segment

open Brackets (splitArguments)
open Attempt (map_map)
open Grammar (Starts takeWhile_eq dropWhile_eq)

/-! ## Names -/

/-- A letter or an underscore, and then letters, digits and underscores. -/
def IsIdentifier : List Char → Prop
  | [] => False
  | c :: cs => startsName c = true ∧ ∀ d ∈ cs, isNameChar d = true

variable {name inside raw rest text gap comment cs before : List Char} {c : Char} {place : Place}
  {e : SyntaxError} {call : Call} {segments : List Segment}

theorem isNameChar_of_startsName (h : startsName c = true) : isNameChar c = true := by
  simp only [startsName, isNameChar, Bool.or_eq_true, Char.isAlphanum] at h ⊢
  exact h.imp_left Or.inl

theorem IsIdentifier.isNameChar (h : IsIdentifier name) : ∀ c ∈ name, isNameChar c = true := by
  cases name with
  | nil => exact h.elim
  | cons c cs => exact List.forall_mem_cons.2 ⟨isNameChar_of_startsName h.1, h.2⟩

/-- **The head of a call** is an identifier and a parenthesis. -/
theorem callHead?_eq_some_iff :
    callHead? cs = some (name, inside) ↔ IsIdentifier name ∧ cs = name ++ '(' :: inside := by
  constructor
  · intro h
    have heq := callHead?_eq h
    refine ⟨?_, heq⟩
    unfold callHead? at h
    split at h
    · rename_i hfirst
      split at h
      · cases h
        cases cs with
        | nil => cases hfirst
        | cons c cs =>
          rw [List.head?_cons, Option.any_some] at hfirst
          rw [List.takeWhile_cons_of_pos (isNameChar_of_startsName hfirst)]
          exact ⟨hfirst, fun d hd => List.mem_takeWhile_imp hd⟩
      · cases h
    · cases h
  · rintro ⟨hname, rfl⟩
    have hparen : Starts (!isNameChar ·) ('(' :: inside) := by simp [Starts]; decide
    have hfirst : (name ++ '(' :: inside).head?.any startsName = true := by
      cases name with
      | nil => exact hname.elim
      | cons c cs => exact hname.1
    rw [callHead?, if_pos hfirst, dropWhile_eq hname.isNameChar hparen,
      takeWhile_eq hname.isNameChar hparen]
    rfl

/-- A name and an opening parenthesis follow. -/
def StartsCall (cs : List Char) : Prop :=
  ∃ name inside, IsIdentifier name ∧ cs = name ++ '(' :: inside

theorem callHead?_eq_none_iff : callHead? cs = none ↔ ¬ StartsCall cs := by
  rw [Option.eq_none_iff_forall_ne_some]
  constructor
  · rintro h ⟨name, inside, hname, heq⟩
    exact h (name, inside) (callHead?_eq_some_iff.2 ⟨hname, heq⟩)
  · rintro h ⟨name, inside⟩ heq
    exact h ⟨name, inside, callHead?_eq_some_iff.1 heq⟩

theorem StartsCall.head?_ne (h : StartsCall cs) : cs.head? ≠ some '@' := by
  obtain ⟨name, inside, hname, rfl⟩ := h
  cases name with
  | nil => exact hname.elim
  | cons c name =>
    rintro ⟨⟩
    exact absurd hname.1 (by decide)

/-! ## Comments -/

/-- Spaces and tabs. -/
def Pad (cs : List Char) : Prop := ∀ c ∈ cs, c = ' ' ∨ c = '\t'

/-- The line ends behind `line`: with the text, a line feed, or a carriage return and a line
    feed, of which no part belongs to the line. -/
inductive LineEnd (line : List Char) : List Char → Prop
  | text : LineEnd line []
  | feed {rest : List Char} : line.getLast? ≠ some '\r' → LineEnd line ('\n' :: rest)
  | both {rest : List Char} : LineEnd line ('\r' :: '\n' :: rest)

/-- What is dropped behind a call when `rest` follows it. -/
inductive Comment : List Char → List Char → Prop
  | none {rest : List Char} : (∀ pad line, Pad pad → rest ≠ pad ++ '/' :: '/' :: line) →
      Comment [] rest
  | line {pad line rest : List Char} : Pad pad → '\n' ∉ line → LineEnd line rest →
      Comment (pad ++ '/' :: '/' :: line) rest

theorem splitLine_append {line : List Char} (hfeed : '\n' ∉ line) (hend : LineEnd line rest) :
    splitLine (line ++ rest) = (line, rest) := by
  induction line with
  | nil => cases hend <;> rfl
  | cons c line ih =>
    rw [List.mem_cons, not_or] at hfeed
    have htail : LineEnd line rest := by
      cases hend with
      | text => exact .text
      | feed h => exact .feed fun hline => h (by simp [List.getLast?_cons, hline])
      | both => exact .both
    have hpair : ∀ cs', c = '\r' → line ++ rest ≠ '\n' :: cs' := by
      rintro cs' rfl heq
      cases line with
      | nil =>
        cases hend with
        | text => cases heq
        | feed h => exact h rfl
        | both => cases heq
      | cons d line =>
        cases heq
        exact hfeed.2 List.mem_cons_self
    rw [List.cons_append, splitLine, ih hfeed.2 htail]
    · exact fun h => hfeed.1 h.symm
    · exact hpair

theorem splitLine_spec (cs : List Char) : ∃ line rest, cs = line ++ rest ∧ '\n' ∉ line ∧
    LineEnd line rest := by
  fun_induction splitLine cs with
  | case1 => exact ⟨[], [], rfl, List.not_mem_nil, .text⟩
  | case2 cs => exact ⟨[], _, rfl, List.not_mem_nil, .feed (by simp)⟩
  | case3 cs => exact ⟨[], _, rfl, List.not_mem_nil, .both⟩
  | case4 c cs hfeed hpair ih =>
    obtain ⟨line, rest, rfl, hline, hend⟩ := ih
    refine ⟨c :: line, rest, rfl, by simp [hline, Ne.symm hfeed], ?_⟩
    cases hend with
    | text => exact .text
    | @feed rest h =>
      refine .feed fun hlast => ?_
      cases line with
      | nil => exact hpair rest (by simpa using hlast) rfl
      | cons d line => exact h (by simpa [List.getLast?_cons] using hlast)
    | both => exact .both

theorem dropWhile_pad {pad : List Char} (h : Pad pad) (line : List Char) :
    (pad ++ '/' :: line).dropWhile (fun c => c = ' ' || c = '\t') = '/' :: line ∧
      (pad ++ '/' :: line).takeWhile (fun c => c = ' ' || c = '\t') = pad := by
  have hpad : ∀ c ∈ pad, (c = ' ' || c = '\t' : Bool) = true := by simpa [Pad] using h
  have hslash : Starts (fun c => !(c = ' ' || c = '\t')) ('/' :: line) := by simp [Starts]
  exact ⟨dropWhile_eq hpad hslash, takeWhile_eq hpad hslash⟩

/-- The reader drops the comment and nothing else. -/
theorem splitComment_append (h : Comment comment rest) :
    splitComment (comment ++ rest) = (comment, rest) := by
  cases h with
  | none h =>
    rw [List.nil_append, splitComment]
    split
    · rename_i line hline
      refine absurd ?_ (h (rest.takeWhile fun c => c = ' ' || c = '\t') line fun c hc => ?_)
      · rw [← hline, List.takeWhile_append_dropWhile]
      · simpa using List.mem_takeWhile_imp hc
    · rfl
  | @line pad line _ hpad hfeed hend =>
    obtain ⟨hdrop, htake⟩ := dropWhile_pad hpad ('/' :: (line ++ rest))
    rw [List.append_assoc, List.cons_append, List.cons_append, splitComment]
    simp only [hdrop, htake, splitLine_append hfeed hend]

theorem exists_comment (cs : List Char) :
    ∃ comment rest, cs = comment ++ rest ∧ Comment comment rest := by
  by_cases h : ∃ pad line, Pad pad ∧ cs = pad ++ '/' :: '/' :: line
  · obtain ⟨pad, line, hpad, rfl⟩ := h
    obtain ⟨line, rest, rfl, hfeed, hend⟩ := splitLine_spec line
    exact ⟨pad ++ '/' :: '/' :: line, rest, by simp, .line hpad hfeed hend⟩
  · push Not at h
    exact ⟨[], cs, rfl, .none h⟩

/-! ## Literal text -/

/-- One character of literal text before `rest`: its source and the character. -/
inductive Sign (rest : List Char) : List Char → Char → Prop
  | char {c : Char} : c ≠ '@' → Sign rest [c] c
  | doubled : Sign rest ['@', '@'] '@'
  | bare : rest.head? ≠ some '@' → ¬ StartsCall rest → Sign rest ['@'] '@'

/-- The source of literal text before `rest`. -/
inductive Gap (rest : List Char) : List Char → Prop
  | nil : Gap rest []
  | cons {sign : List Char} {c : Char} {gap : List Char} : Sign (gap ++ rest) sign c →
      Gap rest gap → Gap rest (sign ++ gap)

/-- Every doubled marker, from left to right, as one. -/
def collapse : List Char → List Char
  | '@' :: '@' :: cs => '@' :: collapse cs
  | c :: cs => c :: collapse cs
  | [] => []

theorem collapse_append {sign : List Char} (h : Sign (gap ++ rest) sign c) :
    collapse (sign ++ gap) = c :: collapse gap := by
  cases h with
  | char hc =>
    rw [List.singleton_append, collapse]
    rintro _ rfl
    exact absurd rfl hc
  | doubled => rfl
  | bare hnext =>
    rw [List.singleton_append, collapse]
    rintro cs - rfl
    exact hnext rfl

theorem pieces_of_sign {sign : List Char} (h : Sign rest sign c) (place : Place) :
    pieces place (sign ++ rest) = (pieces (place.advance sign) rest).map (.char c :: ·) := by
  cases h with
  | char hc => rw [List.singleton_append, pieces, if_neg hc]; rfl
  | doubled =>
    have hnext : ('@' :: rest).head? = some '@' := rfl
    rw [List.cons_append, List.singleton_append, pieces, if_pos rfl, if_pos hnext]
    rfl
  | bare hnext hcall =>
    rw [List.singleton_append, pieces, if_pos rfl, if_neg hnext]
    split
    · rfl
    · rename_i hhead
      rw [callHead?_eq_none_iff.2 hcall] at hhead
      cases hhead

/-- Literal text is read character by character. -/
theorem pieces_of_gap (h : Gap rest gap) (place : Place) : pieces place (gap ++ rest) =
    (pieces (place.advance gap) rest).map ((collapse gap).map .char ++ ·) := by
  induction h generalizing place with
  | nil =>
    change pieces place rest = (pieces place rest).map id
    cases pieces place rest <;> rfl
  | cons hsign _ ih =>
    rw [List.append_assoc, pieces_of_sign hsign, ih, map_map, collapse_append hsign,
      Place.advance_append]
    rfl

/-! ## Calls -/

/-- The text `before` is followed by the call: every field says what is written there. -/
structure IsCall (before : List Char) (call : Call) : Prop where
  identifier : IsIdentifier call.name.toList
  arguments : parseArguments call.line call.rawArguments.toList = .ok call.arguments
  span : call.span = ⟨String.utf8Len before, String.utf8Len (before ++ call.text.toList)⟩
  line : call.line = 1 + before.count '\n'

/-- The text `before` is followed by a call whose end is not found, or whose arguments are
    not read. -/
inductive Stuck (before : List Char) (e : SyntaxError) : List Char → Prop
  | brackets {name inside : List Char} : IsIdentifier name →
      splitArguments (1 + before.count '\n') inside = .error e →
      Stuck before e ('@' :: (name ++ '(' :: inside))
  | arguments {name raw rest : List Char} : IsIdentifier name →
      splitArguments (1 + before.count '\n') (raw ++ ')' :: rest) = .ok (raw, rest) →
      parseArguments (1 + before.count '\n') raw = .error e →
      Stuck before e ('@' :: (name ++ '(' :: (raw ++ ')' :: rest)))

theorem place_behind (before : List Char) :
    Place.start.advance before = ⟨String.utf8Len before, 1 + before.count '\n'⟩ := by
  rw [Place.advance_eq, Place.start, Nat.zero_add]

/-- Behind the head of a call its arguments are found and read. -/
theorem pieces_of_head (hhead : callHead? cs = some (name, inside)) (place : Place) :
    pieces place ('@' :: cs) = (splitArguments place.line inside).bind fun (raw, rest) =>
      (parseArguments place.line raw).bind fun arguments =>
        let behind := place.advance ('@' :: name ++ '(' :: raw ++ [')'])
        (pieces (behind.advance (splitComment rest).1) (splitComment rest).2).map
          (.call ⟨String.ofList name, arguments, String.ofList raw,
            ⟨place.offset, behind.offset⟩, place.line⟩ :: ·) := by
  have hnext := StartsCall.head?_ne ⟨_, _, callHead?_eq_some_iff.1 hhead⟩
  rw [pieces, if_pos rfl, if_neg hnext]
  split
  · rename_i hnone
    rw [hhead] at hnone
    cases hnone
  rename_i hsome
  rw [hhead] at hsome
  cases hsome
  split
  · rename_i hsplit
    simp only [hsplit, Except.bind]
  · rename_i hsplit
    simp only [hsplit, Except.bind]
    cases parseArguments place.line _ <;> rfl

/-- A call is read whole, with the comment behind it. -/
theorem pieces_of_call (h : IsCall before call) (hcomment : Comment comment rest) :
    pieces (Place.start.advance before) (call.text.toList ++ (comment ++ rest)) =
      (pieces (Place.start.advance (before ++ (call.text.toList ++ comment))) rest).map
        (.call call :: ·) := by
  have htext : call.text.toList ++ (comment ++ rest) = '@' :: (call.name.toList ++
      '(' :: (call.rawArguments.toList ++ ')' :: (comment ++ rest))) := by
    simp [Call.toList_text]
  have hline : (Place.start.advance before).line = call.line := by rw [place_behind, h.line]
  have hsplit := Brackets.splitArguments_of_parseArguments h.arguments call.line (comment ++ rest)
  have hbehind : (Place.start.advance before).advance
      ('@' :: call.name.toList ++ '(' :: call.rawArguments.toList ++ [')']) =
        Place.start.advance (before ++ call.text.toList) := by
    rw [Place.advance_append _ before]
    simp [Call.toList_text]
  rw [htext, pieces_of_head (callHead?_eq_some_iff.2 ⟨h.identifier, rfl⟩), hline, hsplit]
  simp only [Except.bind, h.arguments, hbehind, splitComment_append hcomment]
  rw [← Place.advance_append, List.append_assoc, place_behind, place_behind]
  simp only [String.ofList_toList, ← h.span]

/-- A call that cannot be read ends the reading. -/
theorem pieces_of_stuck (h : Stuck before e cs) :
    pieces (Place.start.advance before) cs = .error e := by
  cases h with
  | brackets hname hsplit =>
    rw [pieces_of_head (callHead?_eq_some_iff.2 ⟨hname, rfl⟩), place_behind, hsplit]
    rfl
  | arguments hname hsplit hread =>
    rw [pieces_of_head (callHead?_eq_some_iff.2 ⟨hname, rfl⟩), place_behind, hsplit]
    simp only [Except.bind, hread]

/-- **Every head of a call** belongs to a call or stops the reader. -/
theorem call_or_stuck (h : StartsCall cs) (before : List Char) :
    (∃ call comment rest, '@' :: cs = call.text.toList ++ (comment ++ rest) ∧
      IsCall before call ∧ Comment comment rest) ∨ ∃ e, Stuck before e ('@' :: cs) := by
  obtain ⟨name, inside, hname, rfl⟩ := h
  cases hsplit : splitArguments (1 + before.count '\n') inside with
  | error e => exact .inr ⟨e, .brackets hname hsplit⟩
  | ok split =>
    obtain ⟨raw, behind⟩ := split
    obtain rfl := (Brackets.splitArguments_eq_ok_iff.1 hsplit).1
    cases hread : parseArguments (1 + before.count '\n') raw with
    | error e => exact .inr ⟨e, .arguments hname hsplit hread⟩
    | ok arguments =>
      obtain ⟨comment, rest, rfl, hcomment⟩ := exists_comment behind
      let call : Call := ⟨String.ofList name, arguments, String.ofList raw,
        ⟨String.utf8Len before, String.utf8Len (before ++
          '@' :: (name ++ '(' :: (raw ++ [')'])))⟩, 1 + before.count '\n'⟩
      refine .inl ⟨call, comment, rest, by simp [call, Call.toList_text], ?_, hcomment⟩
      constructor <;> simp [call, Call.toList_text, hname, hread]

/-! ## Documents -/

/-- What the text behind `before` is read as: literal text and calls in turn, or the error of
    the first call that cannot be read. -/
inductive Laid : List Char → List Char → Except SyntaxError (List Segment) → Prop
  | last {before gap : List Char} : Gap [] gap → Laid before gap (.ok (ofChars (collapse gap)))
  | stuck {before gap cs : List Char} {e : SyntaxError} : Gap cs gap →
      Stuck (before ++ gap) e cs → Laid before (gap ++ cs) (.error e)
  | call {before gap comment rest : List Char} {call : Call}
      {result : Except SyntaxError (List Segment)} :
      Gap (call.text.toList ++ (comment ++ rest)) gap → IsCall (before ++ gap) call →
      Comment comment rest → Laid (before ++ gap ++ (call.text.toList ++ comment)) rest result →
      Laid before (gap ++ (call.text.toList ++ (comment ++ rest)))
        (result.map (ofChars (collapse gap) ++ .call call :: ·))

/-- Literal text ends where a call starts. -/
theorem exists_gap (cs : List Char) : ∃ gap rest, cs = gap ++ rest ∧ Gap rest gap ∧
    (rest = [] ∨ ∃ cs', rest = '@' :: cs' ∧ StartsCall cs') := by
  induction cs using collapse.induct with
  | case1 cs ih =>
    obtain ⟨gap, rest, rfl, hgap, hrest⟩ := ih
    exact ⟨['@', '@'] ++ gap, rest, rfl, .cons .doubled hgap, hrest⟩
  | case2 c cs hne ih =>
    by_cases hmark : c = '@' ∧ StartsCall cs
    · obtain ⟨rfl, hcall⟩ := hmark
      exact ⟨[], _, rfl, .nil, .inr ⟨cs, rfl, hcall⟩⟩
    · obtain ⟨gap, rest, rfl, hgap, hrest⟩ := ih
      have hsign : Sign (gap ++ rest) [c] c := by
        by_cases hc : c = '@'
        · subst hc
          refine .bare (fun hnext => ?_) fun hcall => hmark ⟨rfl, hcall⟩
          obtain ⟨cs', hcs'⟩ := List.head?_eq_some_iff.1 hnext
          exact hne cs' rfl hcs'
        · exact .char hc
      exact ⟨[c] ++ gap, rest, rfl, .cons hsign hgap, hrest⟩
  | case3 => exact ⟨[], [], rfl, .nil, .inl rfl⟩

theorem exists_laid (before cs : List Char) : ∃ result, Laid before cs result := by
  induction hlen : cs.length using Nat.strong_induction_on generalizing before cs with
  | _ length ih =>
    obtain ⟨gap, rest, rfl, hgap, rfl | ⟨cs', rfl, hstarts⟩⟩ := exists_gap cs
    · rw [List.append_nil]
      exact ⟨_, .last hgap⟩
    · obtain ⟨call, comment, rest, hcs, hcall, hcomment⟩ | ⟨e, hstuck⟩ :=
        call_or_stuck hstarts (before ++ gap)
      · rw [hcs] at hgap hlen ⊢
        have hless : rest.length < length := by
          rw [← hlen, Call.toList_text]
          simp only [List.length_append, List.length_cons]
          omega
        obtain ⟨result, hlaid⟩ :=
          ih rest.length hless (before ++ gap ++ (call.text.toList ++ comment)) rest rfl
        exact ⟨_, .call hgap hcall hcomment hlaid⟩
      · exact ⟨_, .stuck hgap hstuck⟩

theorem gather_chars (pending cs : List Char) (ps : List Piece) :
    gather pending (cs.map .char ++ ps) = gather (cs.reverse ++ pending) ps := by
  induction cs generalizing pending with
  | nil => rfl
  | cons c cs ih =>
    rw [List.map_cons, List.cons_append, gather, ih, List.reverse_cons, List.append_assoc]
    rfl

/-- The reader follows the layout. -/
theorem pieces_of_laid {result : Except SyntaxError (List Segment)} (h : Laid before cs result) :
    (pieces (Place.start.advance before) cs).map (gather []) = result := by
  induction h with
  | @last before gap hgap =>
    have hread := pieces_of_gap hgap (Place.start.advance before)
    rw [List.append_nil, pieces] at hread
    rw [hread, Except.map, Except.map, gather_chars, gather, List.append_nil, List.reverse_reverse]
  | stuck hgap hstuck =>
    rw [pieces_of_gap hgap, ← Place.advance_append, pieces_of_stuck hstuck]
    rfl
  | @call before gap comment rest call result hgap hcall hcomment _ ih =>
    rw [pieces_of_gap hgap, ← Place.advance_append, pieces_of_call hcall hcomment, ← ih, map_map,
      map_map, map_map]
    congr 1
    funext ps
    simp only [Function.comp, gather_chars, gather, List.append_nil, List.reverse_reverse]

/-- **The reader returns what the layout says**, the segments or the error. -/
theorem parse_eq_iff (source : String) (result : Except SyntaxError (List Segment)) :
    parse source = result ↔ Laid [] source.toList result := by
  have hread {result} (h : Laid [] source.toList result) : parse source = result :=
    pieces_of_laid h
  constructor
  · rintro rfl
    obtain ⟨result, hlaid⟩ := exists_laid [] source.toList
    rw [hread hlaid]
    exact hlaid
  · exact hread

end Segment

end CourseSite.Directive
