/-
  The scanner for the closing parenthesis of a call, as a machine that reads one character
  after the other.

  * `Mode`, `scan`: the open brackets and whether the text stands in a string.
  * `splitFrom_eq_ok_iff`: the scanner finds the parenthesis behind `raw` just if the
    machine reads `raw` and has no bracket open behind it.
  * `Passes`: a text that leaves the machine as it was, whatever is open before it.
  * `passes_denotes`, `passes_listed`: literals and lists of them pass.
  * `Open`, `isOpen`: a text that ends inside a literal leaves a bracket or a string open.
  * `endsEarly_eq_false`, `splitArguments_of_parseArguments`: so arguments that the scanner
    found do not end early, and arguments that can be read are found.
-/
import CourseSite.Proofs.Directive.Reading
import CourseSite.Directive.Brackets

namespace CourseSite.Directive.Brackets

open Attempt (map_eq_ok_iff bind_eq_error_iff map_eq_error_iff)
open Grammar
open Text (isBlank)
open Literal (isQuote isWordChar lineAfter)

/-! ## The machine -/

/-- What the next character belongs to. -/
inductive Mode where
  | code
  | quoted (quote : Char)
  | escaped (quote : Char)
deriving DecidableEq

def Reading.mode : Reading → Mode
  | .code => .code
  | .quoted quote _ => .quoted quote
  | .escaped quote _ => .escaped quote

/-- The open brackets, the innermost first, and the mode behind a character; none if the
    character closes a bracket that is not open. -/
def next (stack : List Char) : Mode → Char → Option (List Char × Mode)
  | .escaped quote, _ => some (stack, .quoted quote)
  | .quoted quote, c =>
    some (stack, if c = '\\' then .escaped quote else if c = quote then .code else .quoted quote)
  | .code, c =>
    if isQuote c then some (stack, .quoted c)
    else if isOpening c then some (c :: stack, .code)
    else if isClosing c then
      match stack with
      | [] => none
      | opened :: stack => if closes opened c then some (stack, .code) else none
    else some (stack, .code)

/-- The open brackets and the mode behind a text. -/
def scan (stack : List Char) (mode : Mode) : List Char → Option (List Char × Mode)
  | [] => some (stack, mode)
  | c :: cs => (next stack mode c).bind fun (stack, mode) => scan stack mode cs

variable {start line : Nat} {stack : List Char} {mode : Mode} {reading : Reading}
  {cs raw rest : List Char}

theorem scan_cons {c : Char} {stack' : List Char} {mode' : Mode}
    (h : next stack mode c = some (stack', mode')) (cs : List Char) :
    scan stack mode (c :: cs) = scan stack' mode' cs := by
  rw [scan, h]
  rfl

theorem scan_append (stack : List Char) (mode : Mode) (cs rest : List Char) :
    scan stack mode (cs ++ rest) =
      (scan stack mode cs).bind fun (stack, mode) => scan stack mode rest := by
  induction cs generalizing stack mode with
  | nil => rfl
  | cons c cs ih =>
    rw [List.cons_append, scan, scan]
    cases next stack mode c with
    | none => rfl
    | some after => exact ih _ _

theorem splitFrom_code (start line : Nat) (stack : List Char) (c : Char) (cs : List Char) :
    splitFrom start line stack .code (c :: cs) =
      if isQuote c then (splitFrom start line stack (.quoted c line) cs).map (keep c)
      else if isOpening c then (splitFrom start line (c :: stack) .code cs).map (keep c)
      else if isClosing c then
        match stack with
        | [] => if c = ')' then .ok ([], cs) else .error ⟨line, .unexpectedClosing c⟩
        | opened :: stack =>
          if closes opened c then (splitFrom start line stack .code cs).map (keep c)
          else .error ⟨line, .mismatchedClosing c opened⟩
      else (splitFrom start (lineAfter line c) stack .code cs).map (keep c) := rfl

/-- The scanner goes on where the machine does. -/
theorem splitFrom_cons_of_next {c : Char} {stack' : List Char} {mode' : Mode}
    (h : next stack reading.mode c = some (stack', mode')) (start line : Nat) (cs : List Char) :
    ∃ line' reading', reading'.mode = mode' ∧ splitFrom start line stack reading (c :: cs) =
      (splitFrom start line' stack' reading' cs).map (keep c) := by
  cases reading with
  | escaped quote first =>
    cases h
    exact ⟨_, .quoted quote first, rfl, rfl⟩
  | quoted quote first =>
    cases h
    refine ⟨_, _, ?_, rfl⟩
    split
    · rfl
    · split <;> rfl
  | code =>
    simp only [Reading.mode, next] at h
    rw [splitFrom_code]
    split at h
    · rename_i hquote
      cases h
      exact ⟨line, .quoted c line, rfl, by simp [hquote]⟩
    rename_i hquote
    split at h
    · rename_i hopening
      cases h
      exact ⟨line, .code, rfl, by simp [hquote, hopening]⟩
    rename_i hopening
    split at h
    · rename_i hclosing
      split at h
      · cases h
      · split at h <;> cases h
        rename_i hcloses
        exact ⟨line, .code, rfl, by simp [hquote, hopening, hclosing, hcloses]⟩
    · rename_i hclosing
      cases h
      exact ⟨lineAfter line c, .code, rfl, by simp [hquote, hopening, hclosing]⟩

/-- Where the machine stops, the scanner has found the parenthesis, or an error. -/
theorem splitFrom_cons_of_stuck {c : Char} (h : next stack reading.mode c = none)
    (hok : splitFrom start line stack reading (c :: cs) = .ok (raw, rest)) :
    stack = [] ∧ reading = .code ∧ c = ')' ∧ raw = [] ∧ rest = cs := by
  cases reading with
  | escaped | quoted => cases h
  | code =>
    simp only [Reading.mode, next] at h
    split at h
    · cases h
    rename_i hquote
    split at h
    · cases h
    rename_i hopening
    split at h
    · rename_i hclosing
      rw [splitFrom_code] at hok
      simp only [hquote, hopening, hclosing, if_true, if_false, Bool.false_eq_true] at hok
      split at h
      · simp only at hok
        split at hok <;> cases hok
        exact ⟨rfl, rfl, ‹_›, rfl, rfl⟩
      · split at h
        · cases h
        · rename_i hcloses
          simp [hcloses] at hok
    · cases h

/-- **The scanner is the machine.** The arguments end before the first parenthesis that is
    closed with no bracket and no string open. -/
theorem splitFrom_eq_ok_iff : splitFrom start line stack reading cs = .ok (raw, rest) ↔
    cs = raw ++ ')' :: rest ∧ scan stack reading.mode raw = some ([], .code) := by
  constructor
  · intro h
    induction cs generalizing line stack reading raw with
    | nil => cases h
    | cons c cs ih =>
      cases hnext : next stack reading.mode c with
      | none =>
        obtain ⟨rfl, rfl, rfl, rfl, rfl⟩ := splitFrom_cons_of_stuck hnext h
        exact ⟨rfl, rfl⟩
      | some after =>
        obtain ⟨line', reading', hmode, heq⟩ := splitFrom_cons_of_next hnext start line cs
        rw [heq, map_eq_ok_iff] at h
        obtain ⟨⟨raw', rest'⟩, hsplit, hkeep⟩ := h
        cases hkeep
        obtain ⟨rfl, hscan⟩ := ih hsplit
        refine ⟨rfl, ?_⟩
        rw [hmode] at hscan
        rw [scan_cons hnext]
        exact hscan
  · rintro ⟨rfl, hscan⟩
    induction raw generalizing line stack reading with
    | nil =>
      have hnone : reading = .code ∧ stack = [] := by
        cases reading <;> cases hscan
        exact ⟨rfl, rfl⟩
      obtain ⟨rfl, rfl⟩ := hnone
      rfl
    | cons c raw ih =>
      rw [scan, Option.bind_eq_some_iff] at hscan
      obtain ⟨⟨stack', mode'⟩, hnext, hscan⟩ := hscan
      obtain ⟨line', reading', rfl, heq⟩ :=
        splitFrom_cons_of_next hnext start line (raw ++ ')' :: rest)
      rw [List.cons_append, heq, ih hscan]
      rfl

theorem splitArguments_eq_ok_iff : splitArguments start cs = .ok (raw, rest) ↔
    cs = raw ++ ')' :: rest ∧ scan [] .code raw = some ([], .code) :=
  splitFrom_eq_ok_iff

/-! ## Texts that leave the machine as it was -/

/-- The text closes what it opens, and nothing else. -/
def Passes (cs : List Char) : Prop := ∀ stack, scan stack .code cs = some (stack, .code)

theorem passes_nil : Passes [] := fun _ => rfl

theorem Passes.append (h : Passes cs) (h' : Passes rest) : Passes (cs ++ rest) := by
  intro stack
  rw [scan_append, h stack]
  exact h' stack

theorem Passes.scan_append (h : Passes cs) (stack rest : List Char) :
    scan stack .code (cs ++ rest) = scan stack .code rest := by
  rw [Brackets.scan_append, h stack]
  rfl

/-- The character means nothing to the scanner outside strings. -/
def isPlain (c : Char) : Bool := !isQuote c && !isOpening c && !isClosing c

theorem next_of_isPlain {c : Char} (h : isPlain c = true) (stack : List Char) :
    next stack .code c = some (stack, .code) := by
  simp only [isPlain, Bool.and_eq_true, Bool.not_eq_true'] at h
  simp [next, h]

theorem Passes.cons {c : Char} (hc : isPlain c = true) (h : Passes cs) : Passes (c :: cs) := by
  intro stack
  rw [scan_cons (next_of_isPlain hc stack)]
  exact h stack

theorem passes_of_isPlain (h : ∀ c ∈ cs, isPlain c = true) : Passes cs := by
  induction cs with
  | nil => exact passes_nil
  | cons c cs ih =>
    exact .cons (h c List.mem_cons_self) (ih fun c hc => h c (List.mem_cons_of_mem _ hc))

/-- Brackets of one kind around a text that passes. -/
theorem Passes.bracket {opened close : Char} (h : Passes cs) (hquote : isQuote opened = false)
    (hopened : isOpening opened = true) (hcloses : closes opened close = true)
    (hclose : isQuote close = false ∧ isOpening close = false ∧ isClosing close = true) :
    Passes (opened :: (cs ++ [close])) := by
  intro stack
  have hopen : next stack .code opened = some (opened :: stack, .code) := by
    simp [next, hquote, hopened]
  have hclose : next (opened :: stack) .code close = some (stack, .code) := by
    simp [next, hclose, hcloses]
  rw [scan_cons hopen, h.scan_append, scan_cons hclose]
  rfl

/-- What stands between two quotes leaves the string open. -/
theorem scan_quoted {quote : Char} {inside text : List Char} (h : Quoted quote inside text)
    (stack rest : List Char) :
    scan stack (.quoted quote) (inside ++ rest) = scan stack (.quoted quote) rest := by
  induction h with
  | nil => rfl
  | escape _ _ ih | pair _ _ ih => exact ih
  | @char c cs text hc hq _ ih =>
    have hnext : next stack (.quoted quote) c = some (stack, .quoted quote) := by
      rw [next, if_neg hc, if_neg hq]
    rw [List.cons_append, scan_cons hnext]
    exact ih

theorem next_of_isQuote {quote : Char} (h : isQuote quote = true) (stack : List Char) :
    next stack .code quote = some (stack, .quoted quote) := by
  simp [next, h]

theorem passes_string {quote : Char} {inside text : List Char} (hquote : isQuote quote = true)
    (h : Quoted quote inside text) : Passes (quote :: (inside ++ [quote])) := by
  intro stack
  have hne : quote ≠ '\\' := by rintro rfl; exact absurd hquote (by decide)
  have hclose : next stack (.quoted quote) quote = some (stack, .code) := by
    rw [next, if_neg hne, if_pos rfl]
  rw [scan_cons (next_of_isQuote hquote stack), scan_quoted h, scan_cons hclose]
  rfl

/-! ## Literals pass -/

theorem passes_blanks (h : Blanks cs) : Passes cs :=
  passes_of_isPlain fun c hc => Text.forall_isBlank (p := isPlain) (by decide +kernel) (h c hc)

/-- The quotes and the brackets. -/
def specials : List Char := ['\'', '"', '(', '[', '\x7b', ')', ']', '\x7d']

theorem isPlain_of_not_mem {c : Char} (h : c ∉ specials) : isPlain c = true := by
  simp only [specials, List.mem_cons, List.not_mem_nil, or_false, not_or] at h
  simp [isPlain, isQuote, isOpening, isClosing, h]

theorem isPlain_of_class {p : Char → Bool} (hp : specials.all (!p ·) = true) {c : Char}
    (hc : p c = true) : isPlain c = true := by
  refine isPlain_of_not_mem fun hm => ?_
  have := List.all_eq_true.1 hp c hm
  rw [hc] at this
  cases this

theorem passes_digits (h : Digits cs) : Passes cs :=
  passes_of_isPlain fun c hc => isPlain_of_class (p := Char.isDigit) (by decide) (h c hc)

theorem passes_numeral {v : Value} (h : Numeral cs v) : Passes cs := by
  have hsign {sign : List Char} (h : IsSign sign) : Passes sign := by
    rcases h with rfl | rfl | rfl
    · exact passes_nil
    · exact .cons (by decide) passes_nil
    · exact .cons (by decide) passes_nil
  cases h with
  | integer hs hd => exact (hsign hs).append (passes_digits hd)
  | float hs hw hf =>
    exact ((hsign hs).append (passes_digits hw)).append (.cons (by decide) (passes_digits hf))

theorem passes_truth {v : Value} (h : Truth cs v) : Passes cs :=
  passes_of_isPlain fun c hc => isPlain_of_class (p := Char.isAlpha) (by decide) (h.isAlpha c hc)

theorem passes_key {name : String} (h : Key cs name) : Passes cs := by
  cases h with
  | quoted hquote hinside => exact passes_string hquote hinside
  | @word c cs hfirst hword =>
    have hplain {c : Char} (hc : isWordChar c = true) : isPlain c = true :=
      isPlain_of_class (p := isWordChar) (by decide) hc
    refine .cons (hplain ?_) (passes_of_isPlain fun c hc => hplain (hword c hc))
    rcases hfirst with h | rfl
    · simp [isWordChar, h]
    · decide

theorem passes_listed {α : Type} {Entry : List Char → α → Prop} {as : List α}
    (h : Listed Entry cs as)
    (hentry : ∀ entry a, entry.length ≤ cs.length → Entry entry a → Passes entry) : Passes cs := by
  induction h with
  | none hblanks => exact passes_blanks hblanks
  | last hbefore he hbehind =>
    exact ((passes_blanks hbefore).append (hentry _ _ (by simp; omega) he)).append
      (passes_blanks hbehind)
  | more hbefore he hbehind _ ih =>
    exact (((passes_blanks hbefore).append (hentry _ _ (by simp; omega) he)).append
      (passes_blanks hbehind)).append
      (.cons (by decide) (ih fun entry a hle => hentry entry a (by simp; omega)))

/-- Every literal passes. -/
theorem passes_denotes {v : Value} (h : Denotes cs v) : Passes cs := by
  induction hlen : cs.length using Nat.strong_induction_on generalizing cs v with
  | _ length ih =>
    cases h with
    | string hquote hinside => exact passes_string hquote hinside
    | number h => exact passes_numeral h
    | truth h => exact passes_truth h
    | @object inside _ hlisted =>
      simp only [List.length_append, List.length_cons, List.length_nil] at hlen
      refine Passes.bracket (passes_listed hlisted fun entry a hle hfield => ?_)
        (by decide) (by decide) (by decide) (by decide)
      cases hfield with
      | mk hkey hbefore hbehind hdenotes =>
        simp only [List.length_append, List.length_cons] at hle
        exact ((passes_key hkey).append (passes_blanks hbefore)).append
          (.cons (by decide) ((passes_blanks hbehind).append (ih _ (by omega) hdenotes rfl)))
    | @array inside _ hlisted =>
      simp only [List.length_append, List.length_cons, List.length_nil] at hlen
      exact Passes.bracket
        (passes_listed hlisted fun entry a hle hdenotes => ih _ (by omega) hdenotes rfl)
        (by decide) (by decide) (by decide) (by decide)

/-! ## Texts that end inside a literal -/

/-- The causes that the end of the text has. -/
def endsEarly : SyntaxError.Cause → Bool
  | .unterminatedString | .unterminatedList _ | .unterminatedObject | .expectedValue => true
  | _ => false

/-- No bracket and no string is open behind the text. -/
def Closes (stack cs : List Char) : Prop := scan stack .code cs = some ([], .code)

theorem Passes.closes_append_iff (h : Passes cs) :
    Closes stack (cs ++ rest) ↔ Closes stack rest := by
  rw [Closes, h.scan_append, Closes]

theorem closes_nil_iff : Closes stack [] ↔ stack = [] := by simp [Closes, scan]

theorem closes_cons_iff {c : Char} (h : isPlain c = true) :
    Closes stack (c :: cs) ↔ Closes stack cs := by
  rw [Closes, scan_cons (next_of_isPlain h stack), Closes]

theorem closes_bracket_iff {opened : Char} (hquote : isQuote opened = false)
    (hopened : isOpening opened = true) :
    Closes stack (opened :: cs) ↔ Closes (opened :: stack) cs := by
  have hnext : next stack .code opened = some (opened :: stack, .code) := by
    simp [next, hquote, hopened]
  rw [Closes, scan_cons hnext, Closes]

/-- A string that is not closed is open to the end. -/
theorem not_closes_of_stringTail {quote : Char} {first : Nat} {e : SyntaxError}
    (hquote : isQuote quote = true) (h : Literal.stringTail quote first line cs = .error e) :
    ¬ Closes stack (quote :: cs) := by
  rw [Closes, scan_cons (next_of_isQuote hquote stack)]
  fun_induction Literal.stringTail quote first line cs with
  | case1 => simp [scan]
  | case2 => simp [scan, next]
  | case3 line c cs e' hread ih => exact ih (hread.trans h)
  | case4 => cases h
  | case5 => cases h
  | case6 line c cs hlast hcons hne e' hread ih =>
    have hc : c ≠ '\\' := by
      rintro rfl
      cases cs with
      | nil => exact hlast rfl rfl
      | cons _ _ => exact hcons _ _ rfl rfl
    have hnext : next stack (.quoted quote) c = some (stack, .quoted quote) := by
      rw [next, if_neg hc, if_neg hne]
    rw [scan_cons hnext]
    exact ih (hread.trans h)
  | case7 => cases h

theorem not_closes_of_key {c : Char} {e : SyntaxError} (h : Literal.key line c cs = .error e)
    (he : endsEarly e.cause = true) : ¬ Closes stack (c :: cs) := by
  unfold Literal.key at h
  split at h
  · split at h <;> cases h
    exact not_closes_of_stringTail ‹_› ‹_›
  · split at h <;> cases h
    cases he

/-- The end of the text is none of the things that are wrong with a number. -/
theorem endsEarly_of_number {e : SyntaxError} (h : Literal.number line cs = .error e) :
    endsEarly e.cause = false := by
  unfold Literal.number at h
  simp only at h
  split at h
  · cases h; rfl
  split at h
  · cases h; rfl
  split at h <;> cases h
  rename_i hnumeral
  unfold Literal.numeral at hnumeral
  simp only at hnumeral
  split at hnumeral
  · cases hnumeral
  · split at hnumeral <;> cases hnumeral
    rfl

theorem endsEarly_of_word {c : Char} {e : SyntaxError} (h : Literal.word line c cs = .error e) :
    endsEarly e.cause = false := by
  unfold Literal.word at h
  simp only at h
  split at h
  · cases h
  · split at h <;> cases h
    rfl

/-- What stands behind an item if the text ends early. -/
theorem exists_of_itemsBehind_error {close : Option Char} {v : Value} {e : SyntaxError}
    (h : itemsBehind close v line cs = .error e) (he : endsEarly e.cause = true) :
    ∃ after, Blanks after ∧ (cs = after ∧ close ≠ none ∨
      ∃ next line₁, cs = after ++ ',' :: next ∧ readItems close line₁ next = .error e) := by
  obtain ⟨after, line₁, hafter, hcases⟩ := itemsBehind_cases close v line cs
  refine ⟨after, hafter, ?_⟩
  rcases hcases with ⟨rfl, heq⟩ | ⟨next, rfl, heq⟩ | ⟨c, next, -, -, heq⟩ | ⟨c, heq⟩ <;>
    rw [heq] at h
  · cases close <;> cases h
    exact .inl ⟨rfl, nofun⟩
  · exact .inr ⟨next, line₁, rfl, map_eq_error_iff.1 h⟩
  · cases h
  · cases h
    cases he

/-- What stands behind a field if the text ends early. -/
theorem exists_of_fieldsBehind_error {seen : Fields Value} {e : SyntaxError}
    (h : fieldsBehind seen line cs = .error e) (he : endsEarly e.cause = true) :
    ∃ after, Blanks after ∧ (cs = after ∨
      ∃ next line₁, cs = after ++ ',' :: next ∧ readFields seen line₁ next = .error e) := by
  obtain ⟨after, line₁, hafter, hcases⟩ := fieldsBehind_cases seen line cs
  refine ⟨after, hafter, ?_⟩
  rcases hcases with ⟨rfl, -⟩ | ⟨next, rfl, heq⟩ | ⟨next, -, heq⟩ | ⟨c, heq⟩
  · exact .inl rfl
  · exact .inr ⟨next, line₁, rfl, heq ▸ h⟩
  · rw [heq] at h
    cases h
  · rw [heq] at h
    cases h
    cases he

/-- What stands behind a key if the text ends early. -/
theorem exists_of_fieldsBehindKey_error {seen : Fields Value} {name : String} {e : SyntaxError}
    (h : fieldsBehindKey seen name line cs = .error e) (he : endsEarly e.cause = true) :
    ∃ before behind text line₁, cs = before ++ ':' :: (behind ++ text) ∧ Blanks before ∧
      Blanks behind ∧ (readValue line₁ text = .error e ∨
        ∃ v line₂ next seen, readValue line₁ text = .ok (v, line₂, next) ∧
          fieldsBehind seen line₂ next = .error e) := by
  obtain ⟨before, behind, text, line₁, rfl, hbefore, hbehind, heq⟩ | ⟨line₁, heq⟩ :=
    fieldsBehindKey_cases seen name line cs
  · refine ⟨before, behind, text, line₁, rfl, hbefore, hbehind, ?_⟩
    rw [heq, bind_eq_error_iff] at h
    rcases h with hread | ⟨⟨v, line₂, next⟩, hread, h⟩
    · exact .inl hread
    · dsimp only at h
      split at h
      · cases h
        cases he
      · exact .inr ⟨v, line₂, next, _, hread, h⟩
  · rw [heq] at h
    cases h
    cases he

/-- A value of length `n` at most that the text ends in leaves something open. -/
def Open (n : ℕ) : Prop := ∀ {line : Nat} {stack cs : List Char} {e : SyntaxError},
  cs.length ≤ n → Grammar.readValue line cs = .error e → endsEarly e.cause = true →
    (cs = [] → stack ≠ []) → ¬ Closes stack cs

theorem Open.readItems {n : ℕ} (isOpen : Open n) {close : Option Char} {e : SyntaxError}
    (hn : cs.length ≤ n) (h : Grammar.readItems close line cs = .error e)
    (he : endsEarly e.cause = true) (hstack : close ≠ none → stack ≠ []) : ¬ Closes stack cs := by
  induction hlen : cs.length using Nat.strong_induction_on generalizing cs line with
  | _ length ih =>
    rw [readItems_eq] at h
    obtain ⟨before, line₁, text, hskip, rfl, hbefore, -⟩ := skipBlanks_spec line cs
    simp only [hskip] at h
    rw [List.length_append] at hn hlen
    rw [(passes_blanks hbefore).closes_append_iff]
    cases text with
    | nil =>
      cases close with
      | none => cases h
      | some => rw [closes_nil_iff]; exact hstack (Option.some_ne_none _)
    | cons c text =>
      dsimp only at h
      split at h
      · cases h
      rcases bind_eq_error_iff.1 h with hread | ⟨⟨v, line₂, behind⟩, hread, hbehind⟩
      · exact isOpen (by omega) hread he fun h => absurd h (List.cons_ne_nil c text)
      obtain ⟨entry, hentry, hdenotes⟩ := sound _ le_rfl hread
      rw [hentry] at hn hlen ⊢
      rw [(passes_denotes hdenotes).closes_append_iff]
      obtain ⟨after, hafter, ⟨rfl, hclose⟩ | ⟨next, line₃, rfl, hmore⟩⟩ :=
        exists_of_itemsBehind_error hbehind he
      · rw [← List.append_nil behind, (passes_blanks hafter).closes_append_iff, closes_nil_iff]
        exact hstack hclose
      · rw [(passes_blanks hafter).closes_append_iff, closes_cons_iff (by decide)]
        simp only [List.length_append, List.length_cons] at hn hlen
        exact ih next.length (by omega) (by omega) hmore rfl

theorem Open.readFields {n : ℕ} (isOpen : Open n) {seen : Fields Value} {e : SyntaxError}
    (hn : cs.length ≤ n) (h : Grammar.readFields seen line cs = .error e)
    (he : endsEarly e.cause = true) (hstack : stack ≠ []) : ¬ Closes stack cs := by
  induction hlen : cs.length using Nat.strong_induction_on generalizing cs line seen with
  | _ length ih =>
    rw [readFields_eq] at h
    obtain ⟨before, line₁, text, hskip, rfl, hbefore, -⟩ := skipBlanks_spec line cs
    simp only [hskip] at h
    rw [List.length_append] at hn hlen
    rw [(passes_blanks hbefore).closes_append_iff]
    cases text with
    | nil => rw [closes_nil_iff]; exact hstack
    | cons c text =>
      dsimp only at h
      split at h
      · cases h
      rcases bind_eq_error_iff.1 h with hkey | ⟨⟨name, line₂, colon⟩, hname, hbehind⟩
      · exact not_closes_of_key hkey he
      obtain ⟨key, hkeyText, hkey⟩ := key_of_key hname
      obtain ⟨gap, gap', valueText, line₃, rfl, hgap, hgap', hvalue⟩ :=
        exists_of_fieldsBehindKey_error hbehind he
      rw [hkeyText] at hn hlen ⊢
      rw [(passes_key hkey).closes_append_iff, (passes_blanks hgap).closes_append_iff,
        closes_cons_iff (by decide), (passes_blanks hgap').closes_append_iff]
      simp only [List.length_append, List.length_cons] at hn hlen
      rcases hvalue with hread | ⟨v, line₄, next, seen', hread, hfield⟩
      · exact isOpen (by omega) hread he fun _ => hstack
      obtain ⟨entry, rfl, hdenotes⟩ := sound _ le_rfl hread
      rw [(passes_denotes hdenotes).closes_append_iff]
      obtain ⟨after, hafter, rfl | ⟨next', line₅, rfl, hmore⟩⟩ :=
        exists_of_fieldsBehind_error hfield he
      · rw [← List.append_nil next, (passes_blanks hafter).closes_append_iff, closes_nil_iff]
        exact hstack
      · rw [(passes_blanks hafter).closes_append_iff, closes_cons_iff (by decide)]
        simp only [List.length_append, List.length_cons] at hn hlen
        exact ih next'.length (by omega) (by omega) hmore rfl

theorem isOpen (n : ℕ) : Open n := by
  induction n with
  | zero =>
    intro line stack cs e hn h he hstack
    obtain rfl := List.eq_nil_of_length_eq_zero (Nat.le_zero.1 hn)
    rw [closes_nil_iff]
    exact hstack rfl
  | succ n ih =>
    intro line stack cs e hn h he hstack
    cases cs with
    | nil => rw [closes_nil_iff]; exact hstack rfl
    | cons c cs =>
      replace hn : cs.length ≤ n := Nat.le_of_succ_le_succ hn
      rw [readValue_cons] at h
      split at h
      · exact not_closes_of_stringTail ‹_› (map_eq_error_iff.1 h)
      split at h
      · rename_i hc
        subst hc
        rw [closes_bracket_iff (by decide) (by decide)]
        exact ih.readFields hn (map_eq_error_iff.1 h) he nofun
      split at h
      · rename_i hc
        subst hc
        rw [closes_bracket_iff (by decide) (by decide)]
        rcases bind_eq_error_iff.1 h with hread | ⟨⟨items, behind⟩, -, hmixed⟩
        · exact ih.readItems hn hread he nofun
        · dsimp only at hmixed
          split at hmixed <;> cases hmixed
          cases he
      split at h
      · rw [endsEarly_of_number (map_eq_error_iff.1 h)] at he; cases he
      split at h
      · rw [endsEarly_of_word (map_eq_error_iff.1 h)] at he; cases he
      · cases h; cases he

/-- **Arguments that the scanner found do not end early.** -/
theorem endsEarly_eq_false (hsplit : splitArguments start cs = .ok (raw, rest)) {e : SyntaxError}
    (h : parseArguments line raw = .error e) : endsEarly e.cause = false := by
  by_contra he
  have hread : Grammar.readItems none line raw = .error e := by
    rwa [parseArguments_eq, map_eq_error_iff] at h
  exact Open.readItems (isOpen _) le_rfl hread (Bool.eq_true_of_not_eq_false he)
    (fun h => absurd rfl h) (splitArguments_eq_ok_iff.1 hsplit).2

/-- **The scanner finds the end of arguments that can be read.** -/
theorem splitArguments_of_parseArguments {values : List Value}
    (h : parseArguments line raw = .ok values) (start : Nat) (rest : List Char) :
    splitArguments start (raw ++ ')' :: rest) = .ok (raw, rest) := by
  have hlisted := listed_of_parseArguments h
  exact splitArguments_eq_ok_iff.2
    ⟨rfl, passes_listed hlisted (fun _ _ _ hdenotes => passes_denotes hdenotes) []⟩

end CourseSite.Directive.Brackets
