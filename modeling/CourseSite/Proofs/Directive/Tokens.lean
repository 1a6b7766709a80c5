/-
  The tokens of argument lists are read as the grammar has them.

  * `Starts`: what the first character behind a token is like.
  * For each token what is read is in the grammar (`quoted_of_stringTail`,
    `numeral_of_number`, `truth_of_word`, `key_of_key`), and what is in the grammar is
    read, whatever follows it (`stringTail_of_quoted` and so on).

  Tokens are read as far as they go, so that white space may never continue one:
  `isWordChar_of_isBlank`.
-/
import Mathlib
import CourseSite.Proofs.Directive.Grammar

namespace CourseSite

namespace Text

/-! ## Characters -/

/-- The code points of some ranges. -/
def codes (ranges : List (Nat × Nat)) : List Nat :=
  ranges.flatMap fun (first, last) => List.range' first (last + 1 - first)

theorem inRanges_iff {ranges : List (Nat × Nat)} {c : Char} :
    inRanges ranges c = true ↔ c.toNat ∈ codes ranges := by
  simp only [inRanges, codes, List.any_eq_true, List.mem_flatMap, List.mem_range'_1,
    Bool.and_eq_true, decide_eq_true_eq]
  constructor
  · rintro ⟨range, hm, hfirst, hlast⟩; exact ⟨range, hm, hfirst, by omega⟩
  · rintro ⟨range, hm, hfirst, hlast⟩; exact ⟨range, hm, hfirst, by omega⟩

/-- What holds of all blanks can be checked for each of them. -/
theorem forall_isBlank {p : Char → Bool}
    (h : (codes blankRanges).all (fun code => p (Char.ofNat code)) = true) {c : Char}
    (hc : isBlank c = true) : p c = true := by
  rw [← Char.ofNat_toNat c]
  exact List.all_eq_true.1 h _ (inRanges_iff.1 hc)

theorem isAlpha_iff {c : Char} : c.isAlpha = true ↔
    (65 ≤ c.toNat ∧ c.toNat ≤ 90) ∨ (97 ≤ c.toNat ∧ c.toNat ≤ 122) := by
  simp only [Char.isAlpha, Char.isUpper, Char.isLower, Bool.or_eq_true, Bool.and_eq_true,
    decide_eq_true_eq, UInt32.le_iff_toNat_le, ge_iff_le]
  exact Iff.rfl

theorem isDigit_iff {c : Char} : c.isDigit = true ↔ 48 ≤ c.toNat ∧ c.toNat ≤ 57 := by
  simp only [Char.isDigit, Bool.and_eq_true, decide_eq_true_eq, UInt32.le_iff_toNat_le, ge_iff_le]
  exact Iff.rfl

theorem isLetter_of_isAlpha {c : Char} (h : c.isAlpha = true) : isLetter c = true := by
  rw [isLetter, if_pos (by have := isAlpha_iff.1 h; omega)]
  exact h

theorem isAlpha_of_toLower {c : Char} (h : c.toLower.isAlpha = true) : c.isAlpha = true := by
  unfold Char.toLower at h
  split at h
  · rename_i hu
    simp only [Char.isAlpha, Char.isUpper, Bool.or_eq_true, decide_eq_true_eq]
    exact Or.inl ⟨hu.1, hu.2⟩
  · exact h

end Text

namespace Directive.Grammar

open Text (isBlank isLetter isLetterOrNumeral isLetter_of_isAlpha isAlpha_of_toLower)
open Literal

theorem isWordChar_of_isBlank {c : Char} (h : isBlank c = true) : isWordChar c = false := by
  simpa using Text.forall_isBlank (p := fun c => !isWordChar c) (by decide +kernel) h

theorem isQuote_iff {c : Char} : isQuote c = true ↔ c = '\'' ∨ c = '"' := by
  rw [isQuote, Bool.or_eq_true, decide_eq_true_eq, decide_eq_true_eq]

theorem ne_of_class {p : Char → Bool} {c d : Char} (hc : p c = true) (hd : p d = false) :
    c ≠ d := by
  rintro rfl
  rw [hc] at hd
  cases hd

/-- The first character, if there is one, has the property. -/
def Starts (p : Char → Bool) (cs : List Char) : Prop := ∀ c ∈ cs.head?, p c = true

theorem Starts.mono {p q : Char → Bool} {cs : List Char} (h : Starts p cs)
    (hpq : ∀ c, p c = true → q c = true) : Starts q cs := fun c hc => hpq c (h c hc)

theorem takeWhile_eq {p : Char → Bool} {cs rest : List Char} (h : ∀ c ∈ cs, p c = true)
    (hrest : Starts (!p ·) rest) : (cs ++ rest).takeWhile p = cs := by
  rw [List.takeWhile_append_of_pos h]
  cases rest with
  | nil => simp
  | cons c rest =>
    have hc : p c = false := by simpa using hrest c rfl
    rw [List.takeWhile_cons_of_neg (by simp [hc]), List.append_nil]

theorem dropWhile_eq {p : Char → Bool} {cs rest : List Char} (h : ∀ c ∈ cs, p c = true)
    (hrest : Starts (!p ·) rest) : (cs ++ rest).dropWhile p = rest := by
  rw [List.dropWhile_append_of_pos h]
  cases rest with
  | nil => rfl
  | cons c rest =>
    have hc : p c = false := by simpa using hrest c rfl
    rw [List.dropWhile_cons_of_neg (by simp [hc])]

/-! ## White space -/

theorem blanks_nil : Blanks [] := List.forall_mem_nil _

theorem blanks_append {cs cs' : List Char} : Blanks (cs ++ cs') ↔ Blanks cs ∧ Blanks cs' :=
  List.forall_mem_append

/-- Behind the white space stands something else. -/
theorem skipBlanks_spec (line : Nat) (cs : List Char) :
    ∃ blanks line' rest, skipBlanks line cs = (line', rest) ∧ cs = blanks ++ rest ∧
      Blanks blanks ∧ Starts (!isBlank ·) rest := by
  induction cs generalizing line with
  | nil => exact ⟨[], line, [], rfl, rfl, nofun, nofun⟩
  | cons c cs ih =>
    by_cases hc : isBlank c = true
    · obtain ⟨blanks, line', rest, hskip, rfl, hblanks, hrest⟩ := ih (lineAfter line c)
      refine ⟨c :: blanks, line', rest, by rw [skipBlanks, if_pos hc, hskip], rfl, ?_, hrest⟩
      intro b hb
      rcases List.mem_cons.1 hb with rfl | hb
      · exact hc
      · exact hblanks b hb
    · refine ⟨[], line, c :: cs, by rw [skipBlanks, if_neg hc], rfl, nofun, ?_⟩
      intro b hb
      cases hb
      simpa using hc

/-- All white space is skipped. -/
theorem skipBlanks_append (line : Nat) {blanks rest : List Char} (hblanks : Blanks blanks)
    (hrest : Starts (!isBlank ·) rest) :
    ∃ line', skipBlanks line (blanks ++ rest) = (line', rest) := by
  induction blanks generalizing line with
  | nil =>
    cases rest with
    | nil => exact ⟨line, rfl⟩
    | cons c rest =>
      have hc : isBlank c = false := by simpa using hrest c rfl
      exact ⟨line, by rw [List.nil_append, skipBlanks, if_neg (by rw [hc]; decide)]⟩
  | cons b blanks ih =>
    obtain ⟨line', hskip⟩ := ih (lineAfter line b) fun c hc => hblanks c (List.mem_cons_of_mem _ hc)
    exact ⟨line', by rw [List.cons_append, skipBlanks, if_pos (hblanks b List.mem_cons_self), hskip]⟩

/-! ## Strings -/

/-- What a backslash and a character stand for. -/
theorem unescape_eq (c : Char) :
    (∃ decoded, (c, decoded) ∈ escapes ∧ unescape c = [decoded]) ∨
      (c ∉ escapes.map (·.1) ∧ unescape c = ['\\', c]) := by
  unfold unescape
  split
  · exact Or.inl ⟨'\n', by decide, rfl⟩
  · exact Or.inl ⟨'\t', by decide, rfl⟩
  · exact Or.inl ⟨'\r', by decide, rfl⟩
  · exact Or.inl ⟨'\\', by decide, rfl⟩
  · exact Or.inl ⟨'\'', by decide, rfl⟩
  · exact Or.inl ⟨'"', by decide, rfl⟩
  · refine Or.inr ⟨?_, rfl⟩
    simp only [escapes, List.map_cons, List.map_nil, List.mem_cons, List.not_mem_nil, or_false]
    tauto

theorem unescape_of_mem {c decoded : Char} (h : (c, decoded) ∈ escapes) :
    unescape c = [decoded] := by
  have hall : ∀ pair ∈ escapes, unescape pair.1 = [pair.2] := by decide
  exact hall _ h

theorem unescape_of_not_mem {c : Char} (h : c ∉ escapes.map (·.1)) : unescape c = ['\\', c] := by
  rcases unescape_eq c with ⟨decoded, hm, -⟩ | ⟨-, hc⟩
  · exact absurd (List.mem_map_of_mem hm) h
  · exact hc

theorem quoted_of_stringTail {quote : Char} {first line line' : Nat} {cs text rest : List Char}
    (h : stringTail quote first line cs = .ok (text, line', rest)) :
    ∃ inside, cs = inside ++ quote :: rest ∧ Quoted quote inside text := by
  fun_induction stringTail quote first line cs generalizing text rest line' with
  | case1 => cases h
  | case2 => cases h
  | case3 => cases h
  | case4 line c cs decoded line₁ rest₁ hread ih =>
    cases h
    obtain ⟨inside, rfl, hinside⟩ := ih hread
    refine ⟨'\\' :: c :: inside, rfl, ?_⟩
    rcases unescape_eq c with ⟨d, hm, hd⟩ | ⟨hm, hd⟩ <;> rw [hd]
    · exact .escape hm hinside
    · exact .pair hm hinside
  | case5 => cases h; exact ⟨[], rfl, .nil⟩
  | case6 => cases h
  | case7 line c cs hne hcons hquote decoded line₁ rest₁ hread ih =>
    cases h
    obtain ⟨inside, rfl, hinside⟩ := ih hread
    refine ⟨c :: inside, rfl, .char ?_ hquote hinside⟩
    rintro rfl
    cases inside with
    | nil => exact hcons _ _ rfl rfl
    | cons _ _ => exact hcons _ _ rfl rfl

theorem stringTail_of_quoted {quote : Char} (hquote : isQuote quote = true)
    {inside text : List Char}
    (h : Quoted quote inside text) (first line : Nat) (rest : List Char) :
    ∃ line', stringTail quote first line (inside ++ quote :: rest) = .ok (text, line', rest) := by
  have hne : quote ≠ '\\' := by rintro rfl; exact absurd hquote (by decide)
  induction h generalizing line with
  | nil =>
    refine ⟨line, ?_⟩
    rw [List.nil_append, stringTail, if_pos rfl]
    · rintro rfl; exact absurd rfl hne
    · rintro _ _ rfl; exact absurd rfl hne
  | @escape c _ cs _ hm _ ih =>
    obtain ⟨line', hread⟩ := ih (lineAfter line c)
    refine ⟨line', ?_⟩
    rw [List.cons_append, List.cons_append, stringTail, hread]
    simp [unescape_of_mem hm]
  | @pair c cs _ hm _ ih =>
    obtain ⟨line', hread⟩ := ih (lineAfter line c)
    refine ⟨line', ?_⟩
    rw [List.cons_append, List.cons_append, stringTail, hread]
    simp [unescape_of_not_mem hm]
  | @char c cs _ hc hq _ ih =>
    obtain ⟨line', hread⟩ := ih (lineAfter line c)
    refine ⟨line', ?_⟩
    rw [List.cons_append, stringTail, if_neg hq, hread]
    · rintro rfl; exact absurd rfl hc
    · rintro _ _ rfl; exact absurd rfl hc

/-! ## Numbers -/

theorem digitsValue_eq (digits : List Char) : digitsValue digits = decimal digits := by
  have hfold (n : ℕ) : digits.foldl (fun n c => 10 * n + (c.toNat - '0'.toNat)) n =
      n * 10 ^ digits.length + decimal digits := by
    induction digits generalizing n with
    | nil => simp [decimal]
    | cons c digits ih =>
      rw [List.foldl_cons, ih, decimal, List.length_cons, Nat.pow_succ]
      ring
  rw [digitsValue, hfold, Nat.zero_mul, Nat.zero_add]

/-- An integer has to fit 64 bits, and is then exact. -/
theorem signedInteger_eq_ok_iff {negative : Bool} {magnitude : ℕ} {n : Int64} :
    signedInteger negative magnitude = .ok n ↔
      n.toInt = if negative = true then -(magnitude : ℤ) else magnitude := by
  have hlow := Int64.le_toInt n
  have hhigh := Int64.toInt_lt n
  have exact {m : ℤ} (hm : -2 ^ 63 ≤ m) (hm' : m < 2 ^ 63) : Int64.ofInt m = n ↔ n.toInt = m := by
    rw [← Int64.toInt_inj, Int64.toInt_ofInt_of_le hm hm', eq_comm]
  unfold signedInteger
  cases negative with
  | true =>
    simp only [if_true]
    split
    · rw [Except.ok.injEq, exact (by omega) (by omega)]
    · simp only [reduceCtorEq, false_iff]; omega
  | false =>
    simp only [Bool.false_eq_true, if_false]
    split
    · rw [Except.ok.injEq, exact (by omega) (by omega)]
    · simp only [reduceCtorEq, false_iff]; omega

theorem digits_takeWhile (cs : List Char) : Digits (cs.takeWhile Char.isDigit) :=
  List.all_eq_true.1 (List.all_takeWhile ..)

theorem splitSign_spec (cs : List Char) :
    cs = (splitSign cs).1 ++ (splitSign cs).2 ∧ IsSign (splitSign cs).1 := by
  unfold splitSign
  split
  · exact ⟨rfl, Or.inr (Or.inl rfl)⟩
  · exact ⟨rfl, Or.inr (Or.inr rfl)⟩
  · exact ⟨rfl, Or.inl rfl⟩

theorem splitSign_append {sign cs : List Char} (hsign : IsSign sign)
    (hcs : Starts (fun c => c.isDigit || c = '.') cs) : splitSign (sign ++ cs) = (sign, cs) := by
  rcases hsign with rfl | rfl | rfl
  · unfold splitSign
    split
    · rename_i heq; rw [List.nil_append] at heq; subst heq; exact absurd (hcs '+' rfl) (by decide)
    · rename_i heq; rw [List.nil_append] at heq; subst heq; exact absurd (hcs '-' rfl) (by decide)
    · rfl
  · rfl
  · rfl

/-- The text of an optional point with digits behind it. -/
def fractionText (fraction : Option (List Char)) : List Char := fraction.elim [] ('.' :: ·)

theorem splitFraction_spec (cs : List Char) :
    cs = fractionText (splitFraction cs).1 ++ (splitFraction cs).2 ∧
      ∀ digits ∈ (splitFraction cs).1, Digits digits := by
  unfold splitFraction
  split
  · refine ⟨by simp [fractionText], ?_⟩
    rintro digits ⟨⟩
    exact digits_takeWhile _
  · exact ⟨rfl, nofun⟩

/-- A character that may follow a value. -/
theorem endsNumber_cases {c : Char} (h : endsNumber c = true) :
    isBlank c = true ∨ c = ',' ∨ c = ']' ∨ c = '\x7d' := by
  simpa [endsNumber, or_assoc] using h

theorem not_isDigit_of_endsNumber {c : Char} (h : endsNumber c = true) :
    (!c.isDigit && c != '.') = true := by
  rcases endsNumber_cases h with hb | rfl | rfl | rfl
  · exact Text.forall_isBlank (p := fun c => !c.isDigit && c != '.') (by decide +kernel) hb
  all_goals decide

theorem splitFraction_append {fraction : Option (List Char)} {rest : List Char}
    (hfraction : ∀ digits ∈ fraction, Digits digits) (hrest : Starts endsNumber rest) :
    splitFraction (fractionText fraction ++ rest) = (fraction, rest) := by
  have hrest := hrest.mono fun _ => not_isDigit_of_endsNumber
  cases fraction with
  | none =>
    unfold splitFraction fractionText
    split
    · rename_i heq
      have := hrest '.' (by simp only [Option.elim_none, List.nil_append] at heq; rw [heq]; rfl)
      exact absurd this (by decide)
    · rfl
  | some digits =>
    have hrest : Starts (!Char.isDigit ·) rest := hrest.mono fun c hc => by
      rw [Bool.and_eq_true] at hc; exact hc.1
    show (some ((digits ++ rest).takeWhile Char.isDigit), (digits ++ rest).dropWhile Char.isDigit) = _
    rw [takeWhile_eq (hfraction _ rfl) hrest, dropWhile_eq (hfraction _ rfl) hrest]

/-- Where a number ends is checked, and its value is that of its parts. -/
theorem exists_parts_of_number {line : Nat} {cs rest : List Char} {v : Value}
    (h : number line cs = .ok (v, rest)) :
    ∃ sign whole fraction text, IsSign sign ∧ Digits whole ∧ (∀ digits ∈ fraction, Digits digits) ∧
      ¬ (whole = [] ∧ fraction.getD [] = []) ∧ Starts endsNumber rest ∧
      cs = sign ++ whole ++ fractionText fraction ++ rest ∧
      numeral line sign whole fraction text = .ok v := by
  obtain ⟨hcs, hsign⟩ := splitSign_spec cs
  obtain ⟨hunsigned, hfraction⟩ := splitFraction_spec ((splitSign cs).2.dropWhile Char.isDigit)
  unfold number at h
  simp only at h
  split at h
  · cases h
  rename_i hne
  split at h
  · cases h
  rename_i hend
  split at h
  · cases h
  rename_i value hvalue
  cases h
  refine ⟨_, _, _, _, hsign, digits_takeWhile _, hfraction, hne, fun c hc => ?_, ?_, hvalue⟩
  · rw [Option.filter_eq_none_iff] at hend
    simpa using hend c hc
  · rw [List.append_assoc, List.append_assoc, ← hunsigned, List.takeWhile_append_dropWhile, ← hcs]

theorem number_append {line : Nat} {sign whole : List Char} {fraction : Option (List Char)}
    {rest : List Char} (hsign : IsSign sign) (hwhole : Digits whole)
    (hfraction : ∀ digits ∈ fraction, Digits digits) (hne : ¬ (whole = [] ∧ fraction.getD [] = []))
    (hrest : Starts endsNumber rest) :
    number line (sign ++ whole ++ fractionText fraction ++ rest) =
      (numeral line sign whole fraction (String.ofList (sign ++ whole ++ fractionText fraction))).map
        (·, rest) := by
  have hbehind : Starts (!Char.isDigit ·) (fractionText fraction ++ rest) := by
    cases fraction with
    | none =>
      exact hrest.mono fun c hc => by
        have := not_isDigit_of_endsNumber hc
        rw [Bool.and_eq_true] at this; exact this.1
    | some digits => rintro c ⟨⟩; rfl
  have hhead : Starts (fun c => c.isDigit || c = '.') (whole ++ (fractionText fraction ++ rest)) := by
    cases whole with
    | cons d whole => rintro c ⟨⟩; simp [hwhole d List.mem_cons_self]
    | nil =>
      cases fraction with
      | none => exact absurd ⟨rfl, rfl⟩ hne
      | some digits => rintro c ⟨⟩; rfl
  have hend : rest.head?.filter (!endsNumber ·) = none := by
    rw [Option.filter_eq_none_iff]
    intro c hc
    simp [hrest c hc]
  unfold number
  simp only
  rw [List.append_assoc, List.append_assoc, splitSign_append hsign hhead,
    takeWhile_eq hwhole hbehind, dropWhile_eq hwhole hbehind,
    splitFraction_append hfraction hrest]
  simp only [if_neg hne, hend]
  rw [fractionText]
  cases numeral line sign whole fraction _ <;> rfl

theorem numeral_of_number {line : Nat} {cs rest : List Char} {v : Value}
    (h : number line cs = .ok (v, rest)) :
    ∃ used, cs = used ++ rest ∧ Numeral used v ∧ Starts endsNumber rest := by
  obtain ⟨sign, whole, fraction, text, hsign, hwhole, hfraction, hne, hrest, rfl, hvalue⟩ :=
    exists_parts_of_number h
  refine ⟨_, rfl, ?_, hrest⟩
  unfold numeral at hvalue
  simp only at hvalue
  cases fraction with
  | some digits =>
    cases hvalue
    refine .float hsign hwhole (hfraction _ rfl) ?_ ?_ ?_
    · intro h; exact hne (List.append_eq_nil_iff.1 h)
    · rw [Double.ofDecimal_negative]; exact Bool.eq_iff_iff.2 (by simp)
    · rw [← digitsValue_eq]; exact Double.isNearest_ofDecimal ..
  | none =>
    simp only at hvalue
    split at hvalue <;> cases hvalue
    rename_i n hn
    rw [fractionText, Option.elim_none, List.append_nil]
    refine .integer hsign hwhole (fun h => hne ⟨h, rfl⟩) ?_
    rw [signedInteger_eq_ok_iff, digitsValue_eq] at hn
    simpa using hn

theorem number_of_numeral {used rest : List Char} {v : Value} (h : Numeral used v)
    (hrest : Starts endsNumber rest) (line : Nat) : number line (used ++ rest) = .ok (v, rest) := by
  cases h with
  | @integer sign digits n hsign hdigits hne hn =>
    have hnumber := @number_append line sign digits none rest hsign hdigits nofun
      (fun h => hne h.1) hrest
    simp only [fractionText, Option.elim_none, List.append_nil] at hnumber
    have hvalue : signedInteger (sign == ['-']) (digitsValue digits) = .ok n := by
      rw [signedInteger_eq_ok_iff, digitsValue_eq]; simpa using hn
    rw [hnumber, numeral]
    simp only [hvalue]
    rfl
  | @float sign whole fraction x hsign hwhole hfraction hne hnegative hnearest =>
    have hnumber := @number_append line sign whole (some fraction) rest hsign hwhole
      (by rintro _ ⟨⟩; exact hfraction) (fun h => hne (List.append_eq_nil_iff.2 h)) hrest
    have hvalue : Double.ofDecimal (sign == ['-']) (digitsValue (whole ++ fraction))
        (-fraction.length) = x := by
      rw [digitsValue_eq]
      refine (Double.isNearest_ofDecimal ..).unique hnearest ?_
      rw [Double.ofDecimal_negative, hnegative]; exact Bool.eq_iff_iff.2 (by simp)
    simp only [fractionText, Option.elim_some] at hnumber
    rw [hnumber, numeral]
    simp only [hvalue]
    rfl

/-! ## Words -/

theorem truth_of_word {line : Nat} {c : Char} {cs rest : List Char} {v : Value}
    (h : word line c cs = .ok (v, rest)) : ∃ used, c :: cs = used ++ rest ∧ Truth used v := by
  unfold word at h
  simp only at h
  refine ⟨c :: cs.takeWhile isWordChar, ?_⟩
  split at h
  · rename_i ht
    cases h
    exact ⟨by rw [List.cons_append, List.takeWhile_append_dropWhile], .ofTrue ht⟩
  split at h
  · rename_i hf
    cases h
    exact ⟨by rw [List.cons_append, List.takeWhile_append_dropWhile], .ofFalse hf⟩
  · cases h

/-- A truth value has only letters. -/
theorem Truth.isAlpha {used : List Char} {v : Value} (h : Truth used v) :
    ∀ c ∈ used, c.isAlpha = true := by
  intro c hc
  refine isAlpha_of_toLower ?_
  cases h with
  | ofTrue h | ofFalse h =>
    have hm := List.mem_map_of_mem (f := Char.toLower) hc
    rw [h] at hm
    revert hm
    generalize c.toLower = l
    simp only [List.mem_cons, List.not_mem_nil, or_false]
    rintro (rfl | rfl | rfl | rfl | rfl) <;> rfl

theorem isWordChar_of_isAlpha {c : Char} (h : c.isAlpha = true) : isWordChar c = true := by
  simp [isWordChar, isLetterOrNumeral, isLetter_of_isAlpha h]

theorem not_isWordChar_of_endsNumber {c : Char} (h : endsNumber c = true) :
    (!isWordChar c) = true := by
  rcases endsNumber_cases h with hb | rfl | rfl | rfl
  · rw [isWordChar_of_isBlank hb]; rfl
  all_goals decide

theorem word_of_truth {c : Char} {cs rest : List Char} {v : Value} (h : Truth (c :: cs) v)
    (hrest : Starts endsNumber rest) (line : Nat) : word line c (cs ++ rest) = .ok (v, rest) := by
  have hword : ∀ c ∈ cs, isWordChar c = true := fun c hc =>
    isWordChar_of_isAlpha (h.isAlpha c (List.mem_cons_of_mem _ hc))
  have hrest := hrest.mono fun _ => not_isWordChar_of_endsNumber
  unfold word
  simp only
  rw [takeWhile_eq hword hrest, dropWhile_eq hword hrest]
  cases h with
  | ofTrue h => rw [h]; rfl
  | ofFalse h => rw [h]; rfl

/-! ## Keys -/

theorem key_of_key {line line' : Nat} {c : Char} {cs rest : List Char} {name : String}
    (h : key line c cs = .ok (name, line', rest)) :
    ∃ used, c :: cs = used ++ rest ∧ Key used name := by
  unfold key at h
  split at h
  · rename_i hquote
    split at h <;> cases h
    rename_i hread
    obtain ⟨inside, rfl, hinside⟩ := quoted_of_stringTail hread
    exact ⟨c :: (inside ++ [c]), by simp, .quoted hquote hinside⟩
  · split at h <;> cases h
    rename_i hfirst
    refine ⟨c :: cs.takeWhile isWordChar, ?_, .word (by simpa using hfirst) ?_⟩
    · rw [List.cons_append, List.takeWhile_append_dropWhile]
    · exact List.all_eq_true.1 (List.all_takeWhile ..)

theorem key_of_grammar {c : Char} {cs rest : List Char} {name : String} (h : Key (c :: cs) name)
    (hrest : Starts (!isWordChar ·) rest) (line : Nat) :
    ∃ line', key line c (cs ++ rest) = .ok (name, line', rest) := by
  cases h with
  | @quoted _ inside text hquote hinside =>
    obtain ⟨line', hread⟩ := stringTail_of_quoted hquote hinside line line rest
    refine ⟨line', ?_⟩
    rw [key, if_pos hquote, List.append_assoc, List.singleton_append, hread]
  | word hfirst hword =>
    refine ⟨line, ?_⟩
    have hquote : ¬ isQuote c = true := by
      intro hq
      rcases isQuote_iff.1 hq with rfl | rfl <;> revert hfirst <;> decide
    rw [key, if_neg hquote, if_pos (by simpa using hfirst), takeWhile_eq hword hrest,
      dropWhile_eq hword hrest]

end Directive.Grammar

end CourseSite
