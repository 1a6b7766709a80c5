/-
  What is read does not depend on where it stands.

  * `SyntaxError.below`, `Call.moved`, `Segment.moved`: an error some lines further down, and a
    call with some bytes and lines before it.
  * `Uniform n`: values in texts of length `n` at most are read alike on all lines; only the line
    behind them and the line of an error move along.
  * `parseArguments_add`, `splitArguments_add`: the same for an argument list and for the
    search for its end.
  * `Laid.moved`: a document behind another text has the same layout, moved.
-/
import CourseSite.Proofs.Directive.Parse

namespace CourseSite.Directive

/-- The error some lines further down. -/
def SyntaxError.below (lines : Nat) (e : SyntaxError) : SyntaxError :=
  { e with line := e.line + lines }

/-- The call with some bytes and lines before it. -/
def Call.moved (bytes lines : Nat) (call : Call) : Call :=
  { call with
    span := ⟨call.span.first + bytes, call.span.last + bytes⟩
    line := call.line + lines }

/-- The segment with some bytes and lines before it. -/
def Segment.moved (bytes lines : Nat) : Segment → Segment
  | .literal text => .literal text
  | .call found => .call (found.moved bytes lines)

namespace Grammar

open Attempt (map_eq_ok_iff)
open Literal

variable {α β : Type} {k line : Nat} {cs : List Char} {close : Option Char} {seen : Fields Value}

/-! ## Tokens -/

/-- What was read and is left, some lines further down. -/
def lowered (k : Nat) :
    Except SyntaxError (α × Nat × List Char) → Except SyntaxError (α × Nat × List Char)
  | .ok (a, line, rest) => .ok (a, line + k, rest)
  | .error e => .error (e.below k)

/-- A step after another one is lowered if both are. -/
theorem lowered_bind {x : Except SyntaxError (α × Nat × List Char)}
    {f g : α × Nat × List Char → Except SyntaxError (β × Nat × List Char)}
    (h : ∀ a line rest, x = .ok (a, line, rest) →
      f (a, line + k, rest) = lowered k (g (a, line, rest))) :
    (lowered k x).bind f = lowered k (x.bind g) := by
  cases x with
  | error e => rfl
  | ok read => exact h _ _ _ rfl

theorem lineAfter_add (line k : Nat) (c : Char) :
    lineAfter (line + k) c = lineAfter line c + k := by
  unfold lineAfter
  split <;> omega

theorem skipBlanks_add (line k : Nat) (cs : List Char) :
    skipBlanks (line + k) cs = ((skipBlanks line cs).1 + k, (skipBlanks line cs).2) := by
  induction cs generalizing line with
  | nil => rfl
  | cons c cs ih =>
    rw [skipBlanks, skipBlanks]
    split
    · rw [lineAfter_add, ih]
    · rfl

theorem stringTail_add (quote : Char) (first line k : Nat) (cs : List Char) :
    stringTail quote (first + k) (line + k) cs = lowered k (stringTail quote first line cs) := by
  fun_induction stringTail quote first line cs with
  | case1 => rfl
  | case2 => rfl
  | case3 line c cs e h ih =>
    rw [stringTail, lineAfter_add, ih, h]
    rfl
  | case4 line c cs text line' rest h ih =>
    rw [stringTail, lineAfter_add, ih, h]
    rfl
  | case5 line cs hlast hpair =>
    rw [stringTail, if_pos rfl]
    · rfl
    all_goals assumption
  | case6 line c cs hlast hpair hc e h ih =>
    rw [stringTail, if_neg hc, lineAfter_add, ih, h]
    · rfl
    all_goals assumption
  | case7 line c cs hlast hpair hc text line' rest h ih =>
    rw [stringTail, if_neg hc, lineAfter_add, ih, h]
    · rfl
    all_goals assumption

theorem numeral_add (line k : Nat) (sign whole : List Char) (fraction : Option (List Char))
    (text : String) : numeral (line + k) sign whole fraction text =
      (numeral line sign whole fraction text).mapError (.below k) := by
  unfold numeral
  cases fraction with
  | some digits => rfl
  | none =>
    dsimp only
    cases signedInteger (sign == ['-']) (digitsValue whole) <;> rfl

theorem number_add (line k : Nat) (cs : List Char) :
    number (line + k) cs = (number line cs).mapError (.below k) := by
  unfold number
  dsimp only
  split
  · rfl
  split
  · rfl
  · rw [numeral_add]
    cases numeral line _ _ _ _ <;> rfl

theorem word_add (line k : Nat) (c : Char) (cs : List Char) :
    word (line + k) c cs = (word line c cs).mapError (.below k) := by
  unfold word
  dsimp only
  split
  · rfl
  split <;> rfl

theorem key_add (line k : Nat) (c : Char) (cs : List Char) :
    key (line + k) c cs = lowered k (key line c cs) := by
  unfold key
  split
  · rw [stringTail_add]
    cases stringTail c line line cs <;> rfl
  · split <;> rfl

/-! ## Values -/

theorem length_lt_of_readValue {v : Value} {line' : Nat} {rest : List Char}
    (h : readValue line cs = .ok (v, line', rest)) : rest.length < cs.length := by
  obtain ⟨p, -, hp⟩ := map_eq_ok_iff.1 h
  cases hp
  exact p.shorter

/-- Values in texts of length `n` at most are read alike on all lines. -/
def Uniform (n : ℕ) : Prop := ∀ {line k : Nat} {cs : List Char}, cs.length ≤ n →
  readValue (line + k) cs = lowered k (readValue line cs)

theorem itemsBehind_add {v : Value} (h : ∀ line next, next.length < cs.length →
      readItems close (line + k) next = lowered k (readItems close line next)) :
    itemsBehind close v (line + k) cs = lowered k (itemsBehind close v line cs) := by
  have hlength := skipBlanks_length_le line cs
  rw [itemsBehind, itemsBehind, skipBlanks_add]
  cases hskip : skipBlanks line cs with
  | mk line' next =>
    rw [hskip] at hlength
    cases next with
    | nil => cases close <;> rfl
    | cons c next =>
      dsimp only
      split
      · rw [h line' next hlength]
        cases readItems close line' next <;> rfl
      · split <;> rfl

theorem fieldsBehind_add (h : ∀ line next, next.length < cs.length →
      readFields seen (line + k) next = lowered k (readFields seen line next)) :
    fieldsBehind seen (line + k) cs = lowered k (fieldsBehind seen line cs) := by
  have hlength := skipBlanks_length_le line cs
  rw [fieldsBehind, fieldsBehind, skipBlanks_add]
  cases hskip : skipBlanks line cs with
  | mk line' next =>
    rw [hskip] at hlength
    cases next with
    | nil => rfl
    | cons c next =>
      dsimp only
      split
      · exact h line' next hlength
      · split <;> rfl

theorem Uniform.readItems {n : ℕ} (uniform : Uniform n) (hn : cs.length ≤ n) :
    readItems close (line + k) cs = lowered k (readItems close line cs) := by
  induction hlen : cs.length using Nat.strong_induction_on generalizing cs line with
  | _ length ih =>
    have hlength := skipBlanks_length_le line cs
    rw [readItems_eq, readItems_eq, skipBlanks_add]
    cases hskip : skipBlanks line cs with
    | mk line' text =>
      rw [hskip] at hlength
      cases text with
      | nil => cases close <;> rfl
      | cons c text =>
        dsimp only at hlength ⊢
        split
        · rfl
        rw [uniform (by omega)]
        refine lowered_bind fun v line₁ behind hread => itemsBehind_add fun line₂ next hnext => ?_
        have hless := length_lt_of_readValue hread
        dsimp only at hnext
        exact ih next.length (by omega) (by omega) rfl

theorem Uniform.fieldsBehindKey {n : ℕ} (uniform : Uniform n) {name : String} (hn : cs.length ≤ n)
    (h : ∀ seen line next, next.length < cs.length →
      readFields seen (line + k) next = lowered k (readFields seen line next)) :
    fieldsBehindKey seen name (line + k) cs = lowered k (fieldsBehindKey seen name line cs) := by
  have hlength := skipBlanks_length_le line cs
  rw [Grammar.fieldsBehindKey, Grammar.fieldsBehindKey, skipBlanks_add]
  generalize skipBlanks line cs = skipped at hlength
  obtain ⟨line', colon⟩ := skipped
  dsimp only at hlength ⊢
  split
  · rename_i text hcolon
    cases hcolon
    have hbehind := skipBlanks_length_le line' text
    simp only [List.length_cons] at hlength
    rw [skipBlanks_add]
    dsimp only
    rw [uniform (by omega)]
    refine lowered_bind fun v line₁ behind hread => ?_
    have hless := length_lt_of_readValue hread
    dsimp only
    split
    · rfl
    · exact fieldsBehind_add fun line₂ next hnext => h _ line₂ next (by omega)
  · rename_i hcolon heq
    cases heq
    split
    · rename_i heq
      cases heq
      exact (hcolon _ rfl).elim
    · rename_i heq
      cases heq
      rfl

theorem Uniform.readFields {n : ℕ} (uniform : Uniform n) (hn : cs.length ≤ n) :
    readFields seen (line + k) cs = lowered k (readFields seen line cs) := by
  induction hlen : cs.length using Nat.strong_induction_on generalizing cs line seen with
  | _ length ih =>
    have hlength := skipBlanks_length_le line cs
    rw [readFields_eq, readFields_eq, skipBlanks_add]
    cases hskip : skipBlanks line cs with
    | mk line' text =>
      rw [hskip] at hlength
      cases text with
      | nil => rfl
      | cons c text =>
        dsimp only at hlength ⊢
        rw [List.length_cons] at hlength
        split
        · rfl
        rw [key_add]
        refine lowered_bind fun name line₁ colon hname => ?_
        have hcolon := key_length_le hname
        dsimp only
        refine uniform.fieldsBehindKey (by omega) fun seen line₂ next hnext => ?_
        exact ih next.length (by omega) (by omega) rfl

theorem uniform (n : ℕ) : Uniform n := by
  induction n with
  | zero =>
    intro line k cs hn
    rw [List.eq_nil_of_length_eq_zero (Nat.le_zero.1 hn), readValue_nil, readValue_nil]
    rfl
  | succ n ih =>
    intro line k cs hn
    cases cs with
    | nil =>
      rw [readValue_nil, readValue_nil]
      rfl
    | cons c cs =>
      replace hn : cs.length ≤ n := Nat.le_of_succ_le_succ hn
      rw [readValue_cons, readValue_cons]
      split
      · rw [stringTail_add]
        cases stringTail c line line cs <;> rfl
      split
      · rw [ih.readFields hn]
        cases readFields [] line cs <;> rfl
      split
      · rw [ih.readItems hn]
        refine lowered_bind fun items line₁ behind _ => ?_
        dsimp only
        cases mixed? items <;> rfl
      split
      · rw [number_add]
        cases number line (c :: cs) <;> rfl
      split
      · rw [word_add]
        cases word line c cs <;> rfl
      · rfl

end Grammar

open Grammar

/-- **An argument list is read alike on all lines**, and its errors move with it. -/
theorem parseArguments_add (line k : Nat) (raw : List Char) :
    parseArguments (line + k) raw = (parseArguments line raw).mapError (.below k) := by
  rw [parseArguments_eq, parseArguments_eq, Uniform.readItems (uniform raw.length) le_rfl]
  cases readItems none line raw <;> rfl

namespace Brackets

open Literal (lineAfter)

/-- What the next character belongs to, some lines further down. -/
def Reading.below (k : Nat) : Reading → Reading
  | .code => .code
  | .quoted quote first => .quoted quote (first + k)
  | .escaped quote first => .escaped quote (first + k)

theorem mapError_map {α β ε : Type} (f : ε → ε) (g : α → β) (x : Except ε α) :
    (x.map g).mapError f = (x.mapError f).map g := by
  cases x <;> rfl

theorem splitFrom_add (start line k : Nat) (stack : List Char) (reading : Reading)
    (cs : List Char) :
    splitFrom (start + k) (line + k) stack (reading.below k) cs =
      (splitFrom start line stack reading cs).mapError (.below k) := by
  induction cs generalizing line stack reading with
  | nil => cases reading <;> cases stack <;> rfl
  | cons c cs ih =>
    cases reading with
    | escaped quote first =>
      simp only [Reading.below, splitFrom, lineAfter_add, mapError_map, ← ih]
    | quoted quote first =>
      simp only [Reading.below, splitFrom, lineAfter_add, mapError_map, ← ih]
      split
      · rfl
      · split <;> rfl
    | code =>
      rw [Reading.below, splitFrom_code, splitFrom_code]
      split
      · rw [mapError_map, ← ih]; rfl
      split
      · rw [mapError_map, ← ih]; rfl
      split
      · cases stack with
        | nil => dsimp only; split <;> rfl
        | cons opened stack =>
          dsimp only
          split
          · rw [mapError_map, ← ih]; rfl
          · rfl
      · rw [lineAfter_add, mapError_map, ← ih]; rfl

/-- **The end of an argument list is found alike on all lines.** -/
theorem splitArguments_add (start k : Nat) (cs : List Char) :
    splitArguments (start + k) cs = (splitArguments start cs).mapError (.below k) :=
  splitFrom_add start start k [] .code cs

end Brackets

namespace Segment

variable {front before cs : List Char} {call : Call} {e : SyntaxError}
  {result : Except SyntaxError (List Segment)}

/-! ## Documents -/

theorem text_moved (bytes lines : Nat) (call : Call) : (call.moved bytes lines).text = call.text :=
  rfl

theorem IsCall.moved (h : IsCall before call) (front : List Char) :
    IsCall (front ++ before) (call.moved (String.utf8Len front) (front.count '\n')) where
  identifier := h.identifier
  arguments := by
    have harguments := parseArguments_add call.line (front.count '\n') call.rawArguments.toList
    rw [h.arguments] at harguments
    exact harguments
  span := by
    rw [text_moved]
    simp only [Call.moved, h.span, String.utf8Len_append, Span.mk.injEq]
    omega
  line := by
    simp only [Call.moved, h.line, List.count_append]
    omega

theorem Stuck.moved (h : Stuck before e cs) (front : List Char) :
    Stuck (front ++ before) (e.below (front.count '\n')) cs := by
  have hline : 1 + (front ++ before).count '\n' =
      1 + before.count '\n' + front.count '\n' := by
    rw [List.count_append]
    omega
  cases h with
  | brackets hname hsplit =>
    refine .brackets hname ?_
    rw [hline, Brackets.splitArguments_add, hsplit]
    rfl
  | arguments hname hsplit hread =>
    refine .arguments hname ?_ ?_
    · rw [hline, Brackets.splitArguments_add, hsplit]
      rfl
    · rw [hline, parseArguments_add, hread]
      rfl

/-- What a document is read as behind the text `front`. -/
def movedBehind (front : List Char) (result : Except SyntaxError (List Segment)) :
    Except SyntaxError (List Segment) :=
  (result.map (List.map (Segment.moved (String.utf8Len front) (front.count '\n')))).mapError
    (.below (front.count '\n'))

theorem map_moved_ofChars (bytes lines : Nat) (cs : List Char) :
    (ofChars cs).map (Segment.moved bytes lines) = ofChars cs := by
  cases cs <;> rfl

/-- **A document behind another text has the same layout.** Its calls and its error move by the
    bytes and the lines of that text. -/
theorem Laid.moved (h : Laid before cs result) (front : List Char) :
    Laid (front ++ before) cs (movedBehind front result) := by
  induction h with
  | last hgap =>
    rw [movedBehind, Except.map, Except.mapError, map_moved_ofChars]
    exact .last hgap
  | stuck hgap hstuck =>
    refine .stuck hgap ?_
    rw [List.append_assoc]
    exact hstuck.moved front
  | @call before gap comment rest call result hgap hcall hcomment _ ih =>
    have hmoved := hcall.moved front
    rw [← List.append_assoc] at hmoved
    have hlaid := @Laid.call _ _ _ _ (call.moved (String.utf8Len front) (front.count '\n')) _
      hgap hmoved hcomment (by simpa [text_moved] using ih)
    have hresult : movedBehind front (result.map (ofChars (collapse gap) ++ .call call :: ·)) =
        (movedBehind front result).map (ofChars (collapse gap) ++
          .call (call.moved (String.utf8Len front) (front.count '\n')) :: ·) := by
      cases result with
      | error e => rfl
      | ok segments =>
        simp [movedBehind, Except.map, Except.mapError, map_moved_ofChars, Segment.moved]
    rw [hresult]
    exact hlaid

end Segment

end CourseSite.Directive
