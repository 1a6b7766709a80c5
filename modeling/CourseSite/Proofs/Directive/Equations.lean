/-
  The reader of literals, by equations.

  * `readValue`, `readItems`, `readFields`: what is read and what is left, without the proof
    that it is shorter.
  * `readValue_cons`, `readItems_eq`, `readFields_eq`: their equations; `itemsBehind`,
    `fieldsBehind` and `fieldsBehindKey` are what is read behind an item, a field and a key.
  * `itemsBehind_cases`, `fieldsBehind_cases`, `fieldsBehindKey_cases`: all that can stand
    there, and what each of it gives.
-/
import CourseSite.Proofs.Attempt
import CourseSite.Proofs.Directive.Tokens

namespace CourseSite.Directive.Grammar

open Text (isBlank isLetter)
open Literal

variable {line : Nat} {cs : List Char} {close : Option Char} {seen : Fields Value}

/-! ## Equations -/

/-- What was read, and the line and the text behind it. -/
def result {bound : Nat} {α : Type} (p : Parsed bound α) : α × Nat × List Char :=
  (p.value, p.line, p.rest)

def readValue (line : Nat) (cs : List Char) : Except SyntaxError (Value × Nat × List Char) :=
  (value line cs).map result

def readItems (close : Option Char) (line : Nat) (cs : List Char) :
    Except SyntaxError (List Value × Nat × List Char) :=
  (items close line cs).map result

def readFields (seen : Fields Value) (line : Nat) (cs : List Char) :
    Except SyntaxError (Fields Value × Nat × List Char) :=
  (fields seen line cs).map result

/-- The items behind the value `v`. -/
def itemsBehind (close : Option Char) (v : Value) (line : Nat) (cs : List Char) :
    Except SyntaxError (List Value × Nat × List Char) :=
  match skipBlanks line cs with
  | (line, []) =>
    match close with
    | none => .ok ([v], line, [])
    | some close => .error ⟨line, .unterminatedList close⟩
  | (line, c :: rest) =>
    if c = ',' then (readItems close line rest).map fun (vs, behind) => (v :: vs, behind)
    else if some c = close then .ok ([v], line, rest)
    else .error ⟨line, .expectedComma c⟩

/-- The fields behind the fields `seen`. -/
def fieldsBehind (seen : Fields Value) (line : Nat) (cs : List Char) :
    Except SyntaxError (Fields Value × Nat × List Char) :=
  match skipBlanks line cs with
  | (line, []) => .error ⟨line, .unterminatedObject⟩
  | (line, c :: rest) =>
    if c = ',' then readFields seen line rest
    else if c = '\x7d' then .ok (seen, line, rest)
    else .error ⟨line, .expectedFieldEnd c⟩

/-- The fields from the colon behind the key `name` on. -/
def fieldsBehindKey (seen : Fields Value) (name : String) (line : Nat) (cs : List Char) :
    Except SyntaxError (Fields Value × Nat × List Char) :=
  match skipBlanks line cs with
  | (line, ':' :: rest) =>
    (readValue (skipBlanks line rest).1 (skipBlanks line rest).2).bind fun (v, line, rest) =>
      if seen.contains name then .error ⟨line, .duplicateKey name⟩
      else fieldsBehind (seen ++ [(name, v)]) line rest
  | (line, _) => .error ⟨line, .expectedColon name⟩

theorem readValue_nil : readValue line [] = .error ⟨line, .expectedValue⟩ := by
  rw [readValue, value]; rfl

theorem readValue_cons (c : Char) : readValue line (c :: cs) =
    if isQuote c then
      (stringTail c line line cs).map fun (text, behind) => (.string (String.ofList text), behind)
    else if c = '\x7b' then
      (readFields [] line cs).map fun (fields, behind) => (.object fields, behind)
    else if c = '[' then
      (readItems (some ']') line cs).bind fun (items, behind) =>
        match mixed? items with
        | some (expected, found) => .error ⟨line, .mixedArray expected found⟩
        | none => .ok (.array items, behind)
    else if c = '-' || c = '+' || c = '.' || c.isDigit then
      (number line (c :: cs)).map fun (v, rest) => (v, line, rest)
    else if isLetter c || c = '_' then (word line c cs).map fun (v, rest) => (v, line, rest)
    else .error ⟨line, .unexpectedCharacter c⟩ := by
  rw [readValue, value]
  repeat' split
  all_goals simp_all [Except.map, Except.bind, readFields, readItems, result]

/-- Signs, points and digits start numbers. -/
theorem readValue_number {c : Char} (h : c = '-' ∨ c = '+' ∨ c = '.' ∨ c.isDigit = true) :
    readValue line (c :: cs) = (number line (c :: cs)).map fun (v, rest) => (v, line, rest) := by
  have hdigit {d : Char} (hd : d.isDigit = false) (hs : d ≠ '-' ∧ d ≠ '+' ∧ d ≠ '.') : c ≠ d := by
    rintro rfl
    rcases h with h | h | h | h
    · exact hs.1 h
    · exact hs.2.1 h
    · exact hs.2.2 h
    · rw [h] at hd; cases hd
  have hquote : ¬ isQuote c = true := by
    rw [isQuote_iff, not_or]
    exact ⟨hdigit (by decide) (by decide), hdigit (by decide) (by decide)⟩
  rw [readValue_cons, if_neg hquote, if_neg (hdigit (by decide) (by decide)),
    if_neg (hdigit (by decide) (by decide)), if_pos]
  rcases h with h | h | h | h <;> simp [h]

/-- Letters start words. -/
theorem readValue_word {c : Char} (h : c.isAlpha = true) :
    readValue line (c :: cs) = (word line c cs).map fun (v, rest) => (v, line, rest) := by
  have hne {d : Char} (hd : d.isAlpha = false) : c ≠ d := ne_of_class h hd
  have hdigit : ¬ c.isDigit = true := by
    have := Text.isAlpha_iff.1 h
    rw [Text.isDigit_iff]; omega
  have hquote : ¬ isQuote c = true := by
    rw [isQuote_iff, not_or]
    exact ⟨hne (by decide), hne (by decide)⟩
  rw [readValue_cons, if_neg hquote, if_neg (hne (by decide)), if_neg (hne (by decide)), if_neg,
    if_pos]
  · simp [Text.isLetter_of_isAlpha h]
  · have h₁ := hne (d := '-') (by decide)
    have h₂ := hne (d := '+') (by decide)
    have h₃ := hne (d := '.') (by decide)
    simp [h₁, h₂, h₃, hdigit]

theorem readItems_eq : readItems close line cs =
    match skipBlanks line cs with
    | (line, []) =>
      match close with
      | none => .ok ([], line, [])
      | some close => .error ⟨line, .unterminatedList close⟩
    | (line, c :: rest) =>
      if some c = close then .ok ([], line, rest)
      else (readValue line (c :: rest)).bind fun (v, line, rest) =>
        itemsBehind close v line rest := by
  rw [readItems, items]
  split
  · rename_i line₁ hskip
    simp only [hskip]
    cases close <;> rfl
  · rename_i line₁ c rest hskip
    simp only [hskip]
    split
    · rfl
    rw [readValue]
    cases value line₁ (c :: rest) with
    | error e => rfl
    | ok first =>
      show Except.map result _ = itemsBehind close first.value first.line first.rest
      dsimp only
      rw [itemsBehind]
      split
      · rename_i line₂ hbehind
        simp only [hbehind]
        cases close <;> rfl
      · rename_i line₂ c₂ rest₂ hbehind
        simp only [hbehind]
        split
        · rw [readItems]
          cases items close line₂ rest₂ <;> rfl
        · split <;> rfl

theorem readFields_eq : readFields seen line cs =
    match skipBlanks line cs with
    | (line, []) => .error ⟨line, .unterminatedObject⟩
    | (line, c :: rest) =>
      if c = '\x7d' then .ok (seen, line, rest)
      else (key line c rest).bind fun (name, line, rest) =>
        fieldsBehindKey seen name line rest := by
  rw [readFields, fields]
  split
  · rename_i line₁ hskip
    simp only [hskip]
    rfl
  · rename_i line₁ c rest hskip
    simp only [hskip]
    split
    · rfl
    split
    · rename_i e hkey
      simp only [hkey]; rfl
    · rename_i name line₂ rest₂ hkey
      simp only [hkey]
      show Except.map result _ = fieldsBehindKey seen name line₂ rest₂
      rw [fieldsBehindKey]
      split
      · rename_i line₃ rest₃ hcolon
        simp only [hcolon]
        rw [readValue]
        cases value (skipBlanks line₃ rest₃).1 (skipBlanks line₃ rest₃).2 with
        | error e => rfl
        | ok v =>
          show Except.map result _ = if seen.contains name = true then
            .error ⟨v.line, .duplicateKey name⟩
            else fieldsBehind (seen ++ [(name, v.value)]) v.line v.rest
          dsimp only
          split
          · rfl
          rw [fieldsBehind]
          split
          · rename_i line₅ hbehind
            simp only [hbehind]
            rfl
          · rename_i line₅ c₅ rest₅ hbehind
            simp only [hbehind]
            split
            · rw [readFields]
              cases fields (seen ++ [(name, v.value)]) line₅ rest₅ <;> rfl
            · split <;> rfl
      · rename_i line₃ rest₃ hne hcolon
        simp only [hcolon]
        rfl

/-! ## What stands behind an item and behind a field -/

/-- Behind an item and white space the text ends, a comma follows, or the list is closed; all
    else is an error. -/
theorem itemsBehind_cases (close : Option Char) (v : Value) (line : Nat) (cs : List Char) :
    ∃ after line', Blanks after ∧
      (cs = after ∧ itemsBehind close v line cs =
          close.elim (.ok ([v], line', [])) (fun c => .error ⟨line', .unterminatedList c⟩) ∨
        (∃ next, cs = after ++ ',' :: next ∧ itemsBehind close v line cs =
          (readItems close line' next).map fun (vs, behind) => (v :: vs, behind)) ∨
        (∃ c next, cs = after ++ c :: next ∧ close = some c ∧
          itemsBehind close v line cs = .ok ([v], line', next)) ∨
        ∃ c, itemsBehind close v line cs = .error ⟨line', .expectedComma c⟩) := by
  obtain ⟨after, line', next, hskip, rfl, hafter, -⟩ := skipBlanks_spec line cs
  refine ⟨after, line', hafter, ?_⟩
  rw [itemsBehind, hskip]
  cases next with
  | nil => exact .inl ⟨List.append_nil _, by cases close <;> rfl⟩
  | cons c next =>
    dsimp only
    split
    · rename_i hc
      exact .inr (.inl ⟨next, by rw [hc], rfl⟩)
    · split
      · rename_i hc
        exact .inr (.inr (.inl ⟨c, next, rfl, hc.symm, rfl⟩))
      · exact .inr (.inr (.inr ⟨c, rfl⟩))

/-- Behind a field and white space the text ends, a comma follows, or the object is closed; all
    else is an error. -/
theorem fieldsBehind_cases (seen : Fields Value) (line : Nat) (cs : List Char) :
    ∃ after line', Blanks after ∧
      (cs = after ∧ fieldsBehind seen line cs = .error ⟨line', .unterminatedObject⟩ ∨
        (∃ next, cs = after ++ ',' :: next ∧
          fieldsBehind seen line cs = readFields seen line' next) ∨
        (∃ next, cs = after ++ '\x7d' :: next ∧
          fieldsBehind seen line cs = .ok (seen, line', next)) ∨
        ∃ c, fieldsBehind seen line cs = .error ⟨line', .expectedFieldEnd c⟩) := by
  obtain ⟨after, line', next, hskip, rfl, hafter, -⟩ := skipBlanks_spec line cs
  refine ⟨after, line', hafter, ?_⟩
  rw [fieldsBehind, hskip]
  cases next with
  | nil => exact .inl ⟨List.append_nil _, rfl⟩
  | cons c next =>
    dsimp only
    split
    · rename_i hc
      exact .inr (.inl ⟨next, by rw [hc], rfl⟩)
    · split
      · rename_i hc
        exact .inr (.inr (.inl ⟨next, by rw [hc], rfl⟩))
      · exact .inr (.inr (.inr ⟨c, rfl⟩))

/-- Behind a key a colon and a value follow, with white space around the colon; all else is an
    error. -/
theorem fieldsBehindKey_cases (seen : Fields Value) (name : String) (line : Nat)
    (cs : List Char) :
    (∃ before behind text line', cs = before ++ ':' :: (behind ++ text) ∧ Blanks before ∧
      Blanks behind ∧ fieldsBehindKey seen name line cs =
        (readValue line' text).bind fun (v, line, rest) =>
          if seen.contains name then .error ⟨line, .duplicateKey name⟩
          else fieldsBehind (seen ++ [(name, v)]) line rest) ∨
      ∃ line', fieldsBehindKey seen name line cs = .error ⟨line', .expectedColon name⟩ := by
  obtain ⟨before, line₁, colon, hskip, rfl, hbefore, -⟩ := skipBlanks_spec line cs
  rw [fieldsBehindKey, hskip]
  split
  · rename_i next hcolon
    cases hcolon
    obtain ⟨behind, line₂, text, hskip, rfl, hbehind, -⟩ := skipBlanks_spec line₁ next
    exact .inl ⟨before, behind, text, line₂, rfl, hbefore, hbehind, by rw [hskip]⟩
  · exact .inr ⟨_, rfl⟩

end CourseSite.Directive.Grammar
