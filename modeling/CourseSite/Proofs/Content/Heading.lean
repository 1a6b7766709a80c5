/-
  The title that a document gives: the text behind its first `#`, on whatever line that stands.

  * `IsMark`, `IsHeading`: a line that starts with `#` and white space, and one that has text
    behind them.
  * `FirstLine`: the first line of a text with a property; `FirstText`: the first one that is not
    blank, trimmed.
  * `Fits`, `Chosen`: the pattern `^#\s+(.+)$` over lines, and the place where it is found by its
    own preferences: leftmost, and with the most white space.
  * `HeadingText`: the text of the first heading; `TextBehindMark`: the first text behind the first
    mark.
  * `heading?_eq_some_iff`: the title is the text behind the mark; `heading?_eq_some_iff_chosen`: so
    the pattern finds it.
  * `Filled`: no mark without text stands in front of the first heading.  Where this fails, the
    title is taken from another line (`blank_mark_takes_next_line`), and is that of the first
    heading by chance only (`heading?_heading_iff`).
-/
import CourseSite.Proofs.Content.Splitting
import CourseSite.Proofs.Directive.Tokens

namespace CourseSite

/-! ## Trimming -/

namespace Text

open Directive.Grammar (Blanks)

variable {cs blanks : List Char}

theorem trim_ofList (cs : List Char) : trim (String.ofList cs) =
    String.ofList ((cs.dropWhile isBlank).reverse.dropWhile isBlank).reverse := by
  rw [trim, String.toList_ofList]

theorem trim_eq_empty_iff : trim (String.ofList cs) = "" ↔ Blanks cs := by
  rw [trim_ofList, ← String.toList_inj, String.toList_ofList]
  constructor
  · intro h
    have hall : ∀ c ∈ (cs.dropWhile isBlank).reverse, isBlank c = true := by simpa using h
    rw [← List.takeWhile_append_dropWhile (p := isBlank) (l := cs)]
    intro c hc
    rcases List.mem_append.1 hc with hc | hc
    · exact List.mem_takeWhile_imp hc
    · exact hall c (List.mem_reverse.2 hc)
  · intro h
    rw [List.dropWhile_eq_nil_iff.2 h]
    rfl

theorem trim_blanks_append (h : Blanks blanks) (cs : List Char) :
    trim (String.ofList (blanks ++ cs)) = trim (String.ofList cs) := by
  rw [trim_ofList, trim_ofList, List.dropWhile_append_of_pos h]

theorem trim_append_blanks (h : Blanks blanks) (cs : List Char) :
    trim (String.ofList (cs ++ blanks)) = trim (String.ofList cs) := by
  by_cases hcs : Blanks cs
  · rw [trim_eq_empty_iff.2 hcs, trim_eq_empty_iff]
    exact List.forall_mem_append.2 ⟨hcs, h⟩
  · have hne : cs.dropWhile isBlank ≠ [] := fun hnil => hcs (List.dropWhile_eq_nil_iff.1 hnil)
    have hback : ∀ c ∈ blanks.reverse, isBlank c = true := by simpa [Blanks] using h
    rw [trim_ofList, trim_ofList, List.dropWhile_append, if_neg (by simpa using hne),
      List.reverse_append, List.dropWhile_append_of_pos hback]

end Text

namespace Title

open Text (isBlank trim lines IsLine HasLine)
open Directive.Grammar (Blanks blanks_append takeWhile_eq dropWhile_eq Starts)

variable {cs line text before behind : List Char} {front back : List (List Char)}
  {p : List Char → Prop} {title : String}

/-! ## Lines -/

/-- The line is the first one of the text that has the property. -/
structure FirstLine (p : List Char → Prop) (cs before line behind : List Char) : Prop where
  whole : cs = before ++ line ++ behind
  isLine : IsLine before line behind
  holds : p line
  first : ∀ other, HasLine before other → ¬ p other

/-- The first line with a property, among the lines that the text is cut into. -/
theorem firstLine_iff : FirstLine p cs before line behind ↔ ∃ front back,
    lines cs = front ++ line :: back ∧ before = front.flatten ∧ behind = back.flatten ∧ p line ∧
      ∀ other ∈ front, ¬ p other := by
  constructor
  · rintro ⟨rfl, hline, hp, hfirst⟩
    refine ⟨lines before, lines behind, hline.lines_eq, (Text.flatten_lines _).symm,
      (Text.flatten_lines _).symm, hp, fun other hother => hfirst other ?_⟩
    exact Text.mem_lines_iff.1 hother
  · rintro ⟨front, back, hlines, rfl, rfl, hp, hfirst⟩
    obtain ⟨hline, hcut⟩ := Text.isLine_of_lines hlines
    refine ⟨?_, hline, hp, fun other hother => hfirst other ?_⟩
    · rw [← Text.flatten_lines cs, hlines]
      simp
    · rwa [← Text.mem_lines_iff, hcut] at hother

/-- The first line with a property stands in front of all others that have it. -/
theorem eq_or_behind_first {front' back' : List (List Char)} {line' : List Char}
    (h : front ++ line :: back = front' ++ line' :: back') (hfirst : ∀ other ∈ front, ¬ p other)
    (hp : p line') : (front = front' ∧ line = line' ∧ back = back') ∨
      ∃ between, front' = front ++ line :: between ∧ back = between ++ line' :: back' := by
  rcases List.append_eq_append_iff.1 h with ⟨between, rfl, hrest⟩ | ⟨between, rfl, hrest⟩ <;>
    rcases between with _ | ⟨other, between⟩ <;> cases hrest
  · exact .inl ⟨by simp, rfl, rfl⟩
  · exact .inr ⟨between, rfl, rfl⟩
  · exact .inl ⟨by simp, rfl, rfl⟩
  · exact absurd hp (hfirst line' (by simp))

theorem FirstLine.unique {before' line' behind' : List Char} (h : FirstLine p cs before line behind)
    (h' : FirstLine p cs before' line' behind') : line = line' := by
  obtain ⟨front, back, hlines, -, -, hp, hfirst⟩ := firstLine_iff.1 h
  obtain ⟨front', back', hlines', -, -, hp', hfirst'⟩ := firstLine_iff.1 h'
  rcases eq_or_behind_first (hlines.symm.trans hlines') hfirst hp' with
    ⟨-, hline, -⟩ | ⟨between, rfl, -⟩
  · exact hline
  · exact absurd hp (hfirst' line (by simp))

theorem exists_firstLine (h : ∃ line, HasLine cs line ∧ p line) :
    ∃ before line behind, FirstLine p cs before line behind := by
  classical
  obtain ⟨line, hline, hp⟩ := h
  have hsome : ((lines cs).find? p).isSome = true :=
    List.find?_isSome.2 ⟨line, Text.mem_lines_iff.2 hline, by simpa using hp⟩
  obtain ⟨found, hfound⟩ := Option.isSome_iff_exists.1 hsome
  obtain ⟨hholds, front, back, hlines, hfront⟩ := List.find?_eq_some_iff_append.1 hfound
  exact ⟨_, _, _, firstLine_iff.2 ⟨front, back, hlines, rfl, rfl, by simpa using hholds,
    fun other hother => by simpa using hfront other hother⟩⟩

/-- The trimmed text of the first line that is not blank. -/
def FirstText (cs : List Char) (title : String) : Prop :=
  ∃ before line behind, FirstLine (¬ Blanks ·) cs before line behind ∧
    title = trim (String.ofList line)

/-- What is left of the line on which the first word of the text stands. -/
def fromWord (cs : List Char) : List Char := (cs.dropWhile isBlank).takeWhile (· != '\n')

theorem isBlank_feed : isBlank '\n' = true := by decide

theorem blanks_flatten (h : ∀ line ∈ front, Blanks line) : Blanks front.flatten := by
  intro c hc
  obtain ⟨line, hline, hc⟩ := List.mem_flatten.1 hc
  exact h line hline c hc

theorem fromWord_blanks_append (h : Blanks before) (cs : List Char) :
    fromWord (before ++ cs) = fromWord cs := by
  rw [fromWord, List.dropWhile_append_of_pos h, fromWord]

/-- The first word stands on the first line that is not blank. -/
theorem trim_fromWord (h : FirstLine (¬ Blanks ·) cs before line behind) :
    trim (String.ofList (fromWord cs)) = trim (String.ofList line) := by
  obtain ⟨rfl, hline, hfilled, hfirst⟩ := h
  have hbefore : Blanks before := by
    rw [← Text.flatten_lines before]
    refine blanks_flatten fun other hother => not_not.1 (hfirst other ?_)
    exact Text.mem_lines_iff.1 hother
  have hword : line.dropWhile isBlank ≠ [] := fun hnil =>
    hfilled (List.dropWhile_eq_nil_iff.1 hnil)
  have hdrop (rest : List Char) :
      (line ++ rest).dropWhile isBlank = line.dropWhile isBlank ++ rest := by
    rw [List.dropWhile_append, if_neg (by simpa using hword)]
  have hsplit : trim (String.ofList (line.dropWhile isBlank)) = trim (String.ofList line) := by
    conv_rhs => rw [← List.takeWhile_append_dropWhile (p := isBlank) (l := line)]
    rw [Text.trim_blanks_append fun c hc => List.mem_takeWhile_imp hc]
  rw [List.append_assoc, fromWord_blanks_append hbefore, fromWord, hdrop, ← hsplit]
  rcases hline.cases with ⟨text, rfl, hfeed⟩ | ⟨hfeed, rfl⟩
  · have htext : text.dropWhile isBlank ≠ [] := by
      intro hnil
      refine hfilled (blanks_append.2 ⟨List.dropWhile_eq_nil_iff.1 hnil, ?_⟩)
      exact List.forall_mem_singleton.2 isBlank_feed
    have hsingle : ∀ c ∈ text.dropWhile isBlank, (c != '\n') = true := by
      intro c hc
      rw [bne_iff_ne]
      rintro rfl
      exact hfeed ((List.dropWhile_sublist _).subset hc)
    have hfeedTrim : Blanks ['\n'] := List.forall_mem_singleton.2 isBlank_feed
    rw [List.dropWhile_append, if_neg (by simpa using htext), List.append_assoc,
      takeWhile_eq hsingle (by simp [Starts]), Text.trim_append_blanks hfeedTrim]
  · have hsingle : ∀ c ∈ line.dropWhile isBlank, (c != '\n') = true := by
      intro c hc
      rw [bne_iff_ne]
      rintro rfl
      exact hfeed ((List.dropWhile_sublist _).subset hc)
    rw [takeWhile_eq hsingle (by simp [Starts])]

theorem exists_firstText (h : ¬ Blanks cs) : ∃ before line behind,
    FirstLine (¬ Blanks ·) cs before line behind := by
  refine exists_firstLine (by_contra fun hnone => h ?_)
  rw [← Text.flatten_lines cs]
  refine blanks_flatten fun line hline => by_contra fun hfilled => hnone ⟨line, ?_, hfilled⟩
  exact Text.mem_lines_iff.1 hline

theorem trim_fromWord_eq_empty_iff : trim (String.ofList (fromWord cs)) = "" ↔ Blanks cs := by
  constructor
  · refine fun h => by_contra fun hfilled => ?_
    obtain ⟨before, line, behind, hline⟩ := exists_firstText hfilled
    rw [trim_fromWord hline, Text.trim_eq_empty_iff] at h
    exact hline.holds h
  · intro h
    rw [fromWord, List.dropWhile_eq_nil_iff.2 h]
    rfl

/-- **The first text** is what is left of the line of the first word, if there is a word. -/
theorem firstText_iff :
    FirstText cs title ↔ ¬ Blanks cs ∧ title = trim (String.ofList (fromWord cs)) := by
  constructor
  · rintro ⟨before, line, behind, hline, rfl⟩
    refine ⟨fun hblanks => hline.holds fun c hc => hblanks c ?_, (trim_fromWord hline).symm⟩
    rw [hline.whole]
    simp [hc]
  · rintro ⟨hfilled, rfl⟩
    obtain ⟨before, line, behind, hline⟩ := exists_firstText hfilled
    exact ⟨before, line, behind, hline, trim_fromWord hline⟩

/-! ## Marks -/

/-- The line starts with `#` and white space, which may be the end of the line. -/
def IsMark (line : List Char) : Prop := ∃ c text, line = '#' :: c :: text ∧ isBlank c = true

/-- The line is a mark with text behind it. -/
def IsHeading (line : List Char) : Prop := IsMark line ∧ ¬ Blanks line.tail

theorem behindMark_of_isMark (h : IsMark line) (rest : List Char) :
    behindMark (line.tail ++ rest) = some (fromWord (line.tail ++ rest)) := by
  obtain ⟨c, text, rfl, hc⟩ := h
  rw [behindMark, if_pos (by simpa using hc)]
  rfl

theorem firstHeading_feed (h : '\n' ∉ text) (cs : List Char) :
    firstHeading false (text ++ '\n' :: cs) = firstHeading true cs := by
  induction text with
  | nil => simp [firstHeading]
  | cons c text ih =>
    rw [List.mem_cons, not_or] at h
    have hc : c ≠ '\n' := Ne.symm h.1
    simp [firstHeading, hc, ih h.2]

theorem firstHeading_last (h : '\n' ∉ text) : firstHeading false text = none := by
  induction text with
  | nil => rfl
  | cons c text ih =>
    rw [List.mem_cons, not_or] at h
    have hc : c ≠ '\n' := Ne.symm h.1
    simp [firstHeading, hc, ih h.2]

/-- At the start of a line that is no mark nothing is found. -/
theorem firstHeading_cons (cs : List Char) {c : Char} (h : ¬ IsMark (c :: text))
    (hne : text ≠ [] ∨ cs = []) :
    firstHeading true (c :: (text ++ cs)) = firstHeading (c = '\n') (text ++ cs) := by
  have hnone : (if c = '#' then behindMark (text ++ cs) else none) = none := by
    split
    · rename_i hc
      subst hc
      rw [behindMark, if_neg]
      cases text with
      | nil => simp [hne.resolve_left (by simp)]
      | cons d text =>
        intro hd
        exact h ⟨d, text, rfl, by simpa using hd⟩
    · rfl
  simp [firstHeading, hnone]

theorem firstHeading_of_isMark (h : IsMark line) (rest : List Char) :
    firstHeading true (line ++ rest) = some (fromWord (line.tail ++ rest)) := by
  have hbehind := behindMark_of_isMark h rest
  obtain ⟨c, text, rfl, hc⟩ := h
  simp only [List.tail_cons, List.cons_append] at hbehind ⊢
  simp [firstHeading, hbehind]

/-- A line that is no mark is passed over. -/
theorem firstHeading_of_lines (h : lines cs = line :: back) (hmark : ¬ IsMark line) :
    firstHeading true cs = firstHeading true back.flatten := by
  obtain ⟨text, rest, rfl, rfl, hfeed, hback⟩ | ⟨rfl, hne, hfeed, rfl⟩ := Text.first_line h
  · rw [← hback, Text.flatten_lines]
    cases text with
    | nil => simp [firstHeading]
    | cons c text =>
      rw [List.mem_cons, not_or] at hfeed
      have hpass := firstHeading_cons rest hmark (.inl (by simp))
      rw [List.append_eq, List.append_assoc, List.singleton_append] at hpass
      rw [List.cons_append, hpass, decide_eq_false (Ne.symm hfeed.1), firstHeading_feed hfeed.2]
  · cases line with
    | nil => exact absurd rfl hne
    | cons c text =>
      rw [List.mem_cons, not_or] at hfeed
      have hpass := firstHeading_cons [] hmark (.inr rfl)
      rw [List.append_nil] at hpass
      rw [hpass, decide_eq_false (Ne.symm hfeed.1), firstHeading_last hfeed.2]
      rfl

/-- Behind a line the lines are those of the text behind it. -/
theorem lines_behind (front : List (List Char)) (h : lines cs = front ++ line :: back) :
    lines back.flatten = back := by
  obtain ⟨hline, hcut⟩ := Text.isLine_of_lines h
  have hwhole : cs = front.flatten ++ line ++ back.flatten := by
    rw [← Text.flatten_lines cs, h]
    simp
  rw [hwhole, hline.lines_eq, hcut] at h
  exact (List.cons.inj (List.append_cancel_left h)).2

/-- **What is found** is the text behind the first mark, from its first word on. -/
theorem firstHeading_of_firstLine (h : FirstLine IsMark cs before line behind) :
    firstHeading true cs = some (fromWord (line.tail ++ behind)) := by
  obtain ⟨front, back, hlines, -, rfl, hmark, hfirst⟩ := firstLine_iff.1 h
  clear h
  induction front generalizing cs with
  | nil =>
    rw [← Text.flatten_lines cs, hlines]
    exact firstHeading_of_isMark hmark _
  | cons other front ih =>
    rw [List.forall_mem_cons] at hfirst
    rw [firstHeading_of_lines hlines hfirst.1]
    exact ih (lines_behind [] hlines) hfirst.2

theorem firstHeading_eq_none (h : ∀ line ∈ lines cs, ¬ IsMark line) :
    firstHeading true cs = none := by
  generalize hls : lines cs = ls at h
  induction ls generalizing cs with
  | nil =>
    rw [← Text.flatten_lines cs, hls]
    rfl
  | cons line ls ih =>
    rw [List.forall_mem_cons] at h
    rw [firstHeading_of_lines hls h.1]
    exact ih (lines_behind [] hls) h.2

/-! ## The title -/

/-- The first text behind the first mark, be it on the line of the mark or on a later one. -/
def TextBehindMark (cs : List Char) (title : String) : Prop :=
  ∃ before line behind, FirstLine IsMark cs before line behind ∧
    FirstText (line.tail ++ behind) title

/-- **The title** is the first text behind the first mark. -/
theorem heading?_eq_some_iff {body : String} :
    heading? body = some title ↔ TextBehindMark body.toList title := by
  have hfound {before line behind} (h : FirstLine IsMark body.toList before line behind) :
      heading? body = some title ↔ FirstText (line.tail ++ behind) title := by
    rw [heading?, firstHeading_of_firstLine h, firstText_iff, ← trim_fromWord_eq_empty_iff,
      Option.map_some, Option.filter_eq_some_iff, Option.some.injEq, decide_eq_true_iff]
    constructor
    · rintro ⟨rfl, hne⟩
      exact ⟨hne, rfl⟩
    · rintro ⟨hne, rfl⟩
      exact ⟨rfl, hne⟩
  constructor
  · intro h
    by_cases hmark : ∃ line, HasLine body.toList line ∧ IsMark line
    · obtain ⟨before, line, behind, hline⟩ := exists_firstLine hmark
      exact ⟨before, line, behind, hline, (hfound hline).1 h⟩
    · rw [heading?, firstHeading_eq_none fun line hline hp =>
        hmark ⟨line, Text.mem_lines_iff.1 hline, hp⟩] at h
      cases h
  · rintro ⟨before, line, behind, hline, htext⟩
    exact (hfound hline).2 htext

/-! ## The pattern -/

/-- The pattern `^#\s+(.+)$` fits lines of the text: `#` at the start of a line, white space, which
    may reach over the end of the line, and text up to the end of its line. -/
structure Fits (cs before blanks text behind : List Char) : Prop where
  whole : cs = before ++ '#' :: (blanks ++ (text ++ behind))
  starts : before = [] ∨ before.getLast? = some '\n'
  gap : blanks ≠ []
  blanks : Blanks blanks
  filled : text ≠ []
  single : '\n' ∉ text
  ends : behind = [] ∨ behind.head? = some '\n'

/-- Where the pattern is found: it fits nowhere before, and there with no more white space. -/
structure Chosen (cs before blanks text behind : List Char) : Prop where
  fits : Fits cs before blanks text behind
  leftmost : ∀ before' blanks' text' behind', Fits cs before' blanks' text' behind' →
    before.length ≤ before'.length
  greedy : ∀ blanks' text' behind', Fits cs before blanks' text' behind' →
    blanks'.length ≤ blanks.length

/-- The pattern fits at marks only. -/
theorem Fits.exists_mark {blanks : List Char} (h : Fits cs before blanks text behind) :
    ∃ front line back, lines cs = front ++ line :: back ∧ front.flatten = before ∧ IsMark line ∧
      line.tail ++ back.flatten = blanks ++ (text ++ behind) := by
  obtain ⟨rfl, hstarts, hgap, hblanks, -, -, -⟩ := h
  obtain ⟨c, blanks, rfl⟩ := List.exists_cons_of_ne_nil hgap
  have hflatten := Text.flatten_lines ('#' :: (c :: blanks ++ (text ++ behind)))
  cases hlines : lines ('#' :: (c :: blanks ++ (text ++ behind))) with
  | nil =>
    rw [hlines] at hflatten
    cases hflatten
  | cons line back =>
    have hcut := hlines
    rw [← List.nil_append (line :: back)] at hcut
    have hline := (Text.isLine_of_lines hcut).1
    have hwhole : line ++ back.flatten = '#' :: (c :: blanks ++ (text ++ behind)) := by
      rw [← hflatten, hlines, List.flatten_cons]
    refine ⟨lines before, line, back, by rw [Text.lines_append hstarts, hlines],
      Text.flatten_lines before, ?_⟩
    match line, hwhole, hline with
    | [], _, hline => exact absurd rfl hline.nonempty
    | [_], hwhole, hline =>
      -- a line of `#` alone ends neither with a line feed nor with the text
      obtain ⟨rfl, hback⟩ := List.cons.inj hwhole
      rcases hline.ends with hnil | hfeed
      · rw [hnil] at hback
        cases hback
      · cases hfeed
    | _ :: d :: line, hwhole, _ =>
      obtain ⟨rfl, hrest⟩ := List.cons.inj hwhole
      obtain ⟨rfl, -⟩ := List.cons.inj hrest
      exact ⟨⟨d, line, rfl, hblanks d List.mem_cons_self⟩, hrest⟩

/-- What is left behind the line of the first word. -/
def behindWord (cs : List Char) : List Char := (cs.dropWhile isBlank).dropWhile (· != '\n')

theorem takeWhile_append_fromWord (cs : List Char) :
    cs.takeWhile isBlank ++ (fromWord cs ++ behindWord cs) = cs := by
  rw [fromWord, behindWord, List.takeWhile_append_dropWhile, List.takeWhile_append_dropWhile]

/-- The pattern fits at every mark that some text stands behind. -/
theorem fits_of_isMark (h : lines cs = front ++ line :: back) (hmark : IsMark line)
    (hfilled : ¬ Blanks (line.tail ++ back.flatten)) :
    Fits cs front.flatten ((line.tail ++ back.flatten).takeWhile isBlank)
      (fromWord (line.tail ++ back.flatten)) (behindWord (line.tail ++ back.flatten)) := by
  have hwhole : cs = front.flatten ++ (line ++ back.flatten) := by
    rw [← Text.flatten_lines cs, h]
    simp
  have hstarts := (Text.isLine_of_lines h).1.starts
  obtain ⟨c, text, rfl, hc⟩ := hmark
  refine ⟨?_, hstarts, ?_, fun d hd => List.mem_takeWhile_imp hd, fun hnil => ?_,
    fun hfeed => ?_, ?_⟩
  · rw [takeWhile_append_fromWord, hwhole]
    rfl
  · simp [List.takeWhile_cons_of_pos hc]
  · exact hfilled (trim_fromWord_eq_empty_iff.1 (by rw [hnil]; rfl))
  · simpa using List.mem_takeWhile_imp hfeed
  · rw [behindWord]
    generalize (List.tail ('#' :: c :: text) ++ back.flatten).dropWhile isBlank = word
    have hstop := List.head?_dropWhile_not (· != '\n') word
    cases hrest : word.dropWhile (· != '\n') with
    | nil => exact .inl rfl
    | cons d rest => exact .inr (by simpa [hrest] using hstop)

/-- **The title** is what the pattern finds, unless that is blank. -/
theorem heading?_eq_some_iff_chosen {body : String} : heading? body = some title ↔
    ∃ before blanks text behind, Chosen body.toList before blanks text behind ∧
      title = trim (String.ofList text) ∧ title ≠ "" := by
  rw [heading?_eq_some_iff]
  constructor
  · rintro ⟨before, line, behind, hline, htext⟩
    obtain ⟨hfilled, rfl⟩ := firstText_iff.1 htext
    obtain ⟨front, back, hlines, rfl, rfl, hmark, hfirst⟩ := firstLine_iff.1 hline
    have hfits := fits_of_isMark hlines hmark hfilled
    refine ⟨_, _, _, _, ⟨hfits, fun before' _ _ _ hother => ?_,
      fun blanks' text' behind' hother => ?_⟩, rfl,
      fun hempty => hfilled (trim_fromWord_eq_empty_iff.1 hempty)⟩
    · obtain ⟨front', line', back', hlines', rfl, hmark', -⟩ := hother.exists_mark
      rcases eq_or_behind_first (hlines.symm.trans hlines') hfirst hmark' with
        ⟨rfl, -, -⟩ | ⟨between, rfl, -⟩
      · exact le_rfl
      · simp
    · have heq := List.append_cancel_left (hfits.whole.symm.trans hother.whole)
      rw [takeWhile_append_fromWord, List.cons.injEq] at heq
      rw [heq.2, List.takeWhile_append_of_pos hother.blanks]
      simp
  · rintro ⟨before, blanks, text, behind, ⟨hfits, hleftmost, hgreedy⟩, rfl, hne⟩
    obtain ⟨front, line, back, hlines, rfl, hmark, hbehind⟩ := hfits.exists_mark
    have htext : ¬ Blanks text := fun h => hne (Text.trim_eq_empty_iff.2 h)
    have hfilled : ¬ Blanks (line.tail ++ back.flatten) := by
      rw [hbehind, blanks_append, blanks_append]
      exact fun h => htext h.2.1
    have hgreedy := hgreedy _ _ _ (fits_of_isMark hlines hmark hfilled)
    refine ⟨_, line, _, firstLine_iff.2 ⟨front, back, hlines, rfl, rfl, hmark,
      fun other hother hmark' => ?_⟩, firstText_iff.2 ⟨hfilled, ?_⟩⟩
    · obtain ⟨front₁, front₂, rfl⟩ := List.append_of_mem hother
      rw [List.append_assoc, List.cons_append] at hlines
      have hearlier := hleftmost _ _ _ _ (fits_of_isMark hlines hmark' fun h => hfilled ?_)
      · obtain ⟨c, rest, rfl, -⟩ := hmark'
        simp only [List.flatten_append, List.flatten_cons, List.length_append,
          List.length_cons] at hearlier
        omega
      · intro c hc
        refine h c (List.mem_append_right _ ?_)
        rw [List.flatten_append, List.flatten_cons]
        exact List.mem_append_right _
          (List.mem_append.2 ((List.mem_append.1 hc).imp_left List.mem_of_mem_tail))
    · rw [hbehind, List.takeWhile_append_of_pos hfits.blanks, List.length_append] at hgreedy
      have hword : (text ++ behind).takeWhile isBlank = [] :=
        List.length_eq_zero_iff.1 (by omega)
      have hall : ∀ c ∈ text, (c != '\n') = true := by
        intro c hc
        rw [bne_iff_ne]
        rintro rfl
        exact hfits.single hc
      have hends : Starts (fun c => !(c != '\n')) behind := by
        rcases hfits.ends with rfl | hfeed
        · simp [Starts]
        · simp [Starts, hfeed]
      rw [hbehind, fromWord_blanks_append hfits.blanks, fromWord]
      have hdrop : (text ++ behind).dropWhile isBlank = text ++ behind := by
        have hsplit := List.takeWhile_append_dropWhile (p := isBlank) (l := text ++ behind)
        rwa [hword] at hsplit
      rw [hdrop, takeWhile_eq hall hends]

/-! ## Headings with text -/

/-- No mark without text stands in front of the first heading, unless nothing but white space
    follows it. -/
def Filled (cs : List Char) : Prop :=
  ∀ before line behind, cs = before ++ line ++ behind → IsLine before line behind →
    IsMark line → Blanks line.tail →
      (∃ other, HasLine before other ∧ IsHeading other) ∨ Blanks behind

/-- The text of the first heading. -/
def HeadingText (cs : List Char) (title : String) : Prop :=
  ∃ before line behind, FirstLine IsHeading cs before line behind ∧
    title = trim (String.ofList line.tail)

theorem HeadingText.unique {title' : String} (h : HeadingText cs title)
    (h' : HeadingText cs title') : title = title' := by
  obtain ⟨before, line, behind, hline, rfl⟩ := h
  obtain ⟨before', line', behind', hline', rfl⟩ := h'
  rw [hline.unique hline']

/-- It is enough that the first mark has text. -/
theorem filled_of_firstLine (h : FirstLine IsMark cs before line behind)
    (hheading : IsHeading line) : Filled cs := by
  rintro before' other behind' hwhole hother hmark hblank
  obtain ⟨front, back, hlines, -, -, -, hfirst⟩ := firstLine_iff.1 h
  rw [hwhole, hother.lines_eq] at hlines
  -- the mark without text is the first one, or stands behind it
  rcases eq_or_behind_first hlines.symm hfirst hmark with ⟨-, rfl, -⟩ | ⟨between, hfront, -⟩
  · exact absurd hblank hheading.2
  · refine .inl ⟨line, Text.mem_lines_iff.1 ?_, hheading⟩
    rw [hfront]
    simp

/-- A text is found behind the first mark if one stands behind any mark. -/
theorem exists_textBehindMark (hwhole : cs = before ++ line ++ behind)
    (hline : IsLine before line behind) (hmark : IsMark line) (hbehind : ¬ Blanks behind) :
    ∃ title, TextBehindMark cs title := by
  have hlines : lines cs = lines before ++ line :: lines behind := by rw [hwhole, hline.lines_eq]
  have hhas : HasLine cs line := Text.mem_lines_iff.1 (by rw [hlines]; simp)
  obtain ⟨before', first, behind', hfirstLine⟩ := exists_firstLine ⟨line, hhas, hmark⟩
  refine ⟨_, before', first, behind', hfirstLine, firstText_iff.2 ⟨fun hblank => hbehind ?_, rfl⟩⟩
  obtain ⟨front, back, hlines', -, rfl, -, hfirst⟩ := firstLine_iff.1 hfirstLine
  rw [blanks_append] at hblank
  rw [← Text.flatten_lines behind]
  rcases eq_or_behind_first (hlines'.symm.trans hlines) hfirst hmark with
    ⟨-, -, rfl⟩ | ⟨between, -, rfl⟩
  · exact hblank.2
  · rw [List.flatten_append, List.flatten_cons, blanks_append, blanks_append] at hblank
    exact hblank.2.2.2

/-- The text of a heading is the first text behind its mark. -/
theorem firstText_of_isHeading (h : IsHeading line) (hline : IsLine before line behind) :
    FirstText (line.tail ++ behind) (trim (String.ofList line.tail)) := by
  obtain ⟨⟨c, text, rfl, hc⟩, hfilled⟩ := h
  refine ⟨[], c :: text, behind, ⟨rfl, ⟨.inl rfl, by simp, fun hfeed => ?_, ?_⟩, hfilled, ?_⟩, rfl⟩
  · refine hline.single ?_
    rw [List.dropLast_cons_of_ne_nil (by simp)]
    exact List.mem_cons_of_mem _ hfeed
  · simpa [List.getLast?_cons] using hline.ends
  · rintro other ⟨front, back, hnil, hother⟩
    simp only [List.nil_eq, List.append_eq_nil_iff] at hnil
    exact absurd hnil.1.2 hother.nonempty

/-- **Where every mark in front has text, the title is that of the first heading.** -/
theorem heading?_eq_some_iff_of_filled {body : String} (h : Filled body.toList) :
    heading? body = some title ↔ HeadingText body.toList title := by
  rw [heading?_eq_some_iff]
  constructor
  · rintro ⟨before, line, behind, hline, htext⟩
    have hfirst : ∀ other, HasLine before other → ¬ IsHeading other :=
      fun other hother hheading => hline.first other hother hheading.1
    by_cases hblank : Blanks line.tail
    · rcases h before line behind hline.whole hline.isLine hline.holds hblank with
        ⟨other, hother, hheading⟩ | hbehind
      · exact absurd hheading (hfirst other hother)
      · exact absurd (blanks_append.2 ⟨hblank, hbehind⟩) (firstText_iff.1 htext).1
    · have hheading : IsHeading line := ⟨hline.holds, hblank⟩
      refine ⟨before, line, behind, ⟨hline.whole, hline.isLine, hheading, hfirst⟩, ?_⟩
      have hown := firstText_of_isHeading hheading hline.isLine
      rw [(firstText_iff.1 htext).2, (firstText_iff.1 hown).2]
  · rintro ⟨before, line, behind, hline, rfl⟩
    refine ⟨before, line, behind, ?_, firstText_of_isHeading hline.holds hline.isLine⟩
    obtain ⟨front, back, hlines, rfl, rfl, hheading, hfirst⟩ := firstLine_iff.1 hline
    refine firstLine_iff.2 ⟨front, back, hlines, rfl, rfl, hheading.1, fun other hother hmark => ?_⟩
    -- a mark in front would be one without text, and white space alone would follow it
    have hblank : Blanks other.tail := by_contra fun h => hfirst other hother ⟨hmark, h⟩
    obtain ⟨front₁, front₂, rfl⟩ := List.append_of_mem hother
    rw [List.append_assoc, List.cons_append] at hlines
    obtain ⟨hother, hcut⟩ := Text.isLine_of_lines hlines
    have hwhole : body.toList =
        front₁.flatten ++ other ++ (front₂ ++ line :: back).flatten := by
      rw [← Text.flatten_lines body.toList, hlines]
      simp
    rcases h _ _ _ hwhole hother hmark hblank with ⟨earlier, hearlier, hheading'⟩ | hbehind
    · rw [← Text.mem_lines_iff, hcut] at hearlier
      exact hfirst earlier (List.mem_append_left _ hearlier) hheading'
    · refine hheading.2 fun c hc => hbehind c ?_
      rw [List.flatten_append, List.flatten_cons]
      exact List.mem_append_right _ (List.mem_append_left _ (List.mem_of_mem_tail hc))

/-- **The title is that of the first heading** where every mark in front of it has text, and else
    only if the first text behind the mark happens to be the same. -/
theorem heading?_heading_iff {body : String} :
    (∀ title, heading? body = some title ↔ HeadingText body.toList title) ↔
      Filled body.toList ∨
        ∃ title, TextBehindMark body.toList title ∧ HeadingText body.toList title := by
  constructor
  · intro hheading
    by_cases hfilled : Filled body.toList
    · exact .inl hfilled
    · -- a mark without text and with text behind it gives a title
      unfold Filled at hfilled
      push Not at hfilled
      obtain ⟨before, line, behind, hwhole, hline, hmark, -, -, hbehind⟩ := hfilled
      obtain ⟨title, htitle⟩ := exists_textBehindMark hwhole hline hmark hbehind
      exact .inr ⟨title, htitle, (hheading title).1 (heading?_eq_some_iff.2 htitle)⟩
  · rintro (hfilled | ⟨title, htitle, hheading⟩) title'
    · exact heading?_eq_some_iff_of_filled hfilled
    · rw [heading?_eq_some_iff.2 htitle, Option.some.injEq]
      constructor
      · rintro rfl
        exact hheading
      · exact hheading.unique

/-- **The title that a document gives** is what the pattern finds: the first text behind the first
    mark.  It is the text of the first heading if and only if no mark without text stands in front,
    or the text behind that mark happens to be the same. -/
theorem heading_behind_first_mark (body : String) :
    (∀ title, heading? body = some title ↔
      ∃ before blanks text behind, Chosen body.toList before blanks text behind ∧
        title = trim (String.ofList text) ∧ title ≠ "") ∧
    (∀ title, heading? body = some title ↔ TextBehindMark body.toList title) ∧
    ((∀ title, heading? body = some title ↔ HeadingText body.toList title) ↔
      Filled body.toList ∨
        ∃ title, TextBehindMark body.toList title ∧ HeadingText body.toList title) :=
  ⟨fun _ => heading?_eq_some_iff_chosen, fun _ => heading?_eq_some_iff, heading?_heading_iff⟩

/-- A word behind `#` without a blank, and two headings, of which the first has a tab. -/
theorem heading_behind_first_mark_tab :
    Filled "#x\r\n#\tOne \r\n# Two".toList ∧ heading? "#x\r\n#\tOne \r\n# Two" = some "One" := by
  have hlines : lines "#x\r\n#\tOne \r\n# Two".toList =
      ["#x\r\n".toList] ++ "#\tOne \r\n".toList :: ["# Two".toList] := by decide +kernel
  have hheading : IsHeading "#\tOne \r\n".toList := by
    refine ⟨⟨'\t', "One \r\n".toList, by decide +kernel, by decide +kernel⟩, fun h => ?_⟩
    exact absurd (h 'O' (by decide +kernel)) (by decide +kernel)
  have hfirst : ∀ other ∈ ["#x\r\n".toList], ¬ IsMark other := by
    rw [List.forall_mem_singleton]
    rintro ⟨c, text, h, hc⟩
    cases h
    exact absurd hc (by decide +kernel)
  have hmark : FirstLine IsMark "#x\r\n#\tOne \r\n# Two".toList _ _ _ :=
    firstLine_iff.2 ⟨_, _, hlines, rfl, rfl, hheading.1, hfirst⟩
  have hfilled := filled_of_firstLine hmark hheading
  refine ⟨hfilled, ((heading_behind_first_mark _).2.2.2 (.inl hfilled) _).2 ⟨_, _, _,
    firstLine_iff.2 ⟨_, _, hlines, rfl, rfl, hheading, fun other hother h =>
      hfirst other hother h.1⟩, ?_⟩⟩
  decide +kernel

/-- Behind a mark without text the title is taken from another line: one that is no heading, or all
    of the next heading, its mark included. -/
theorem blank_mark_takes_next_line :
    (heading? "#\n\nText" = some "Text" ∧
      ∀ line, HasLine "#\n\nText".toList line → ¬ IsHeading line) ∧
    heading? "#\n# One" = some "# One" ∧
      FirstLine IsHeading "#\n# One".toList ['#', '\n'] "# One".toList [] := by
  have hbare {line : List Char} (hline : line = ['#', '\n'] ∨ line.head? ≠ some '#') :
      ¬ IsHeading line := by
    rintro ⟨⟨c, text, rfl, -⟩, hfilled⟩
    rcases hline with hline | hline
    · cases hline
      exact hfilled (List.forall_mem_singleton.2 isBlank_feed)
    · exact hline rfl
  refine ⟨⟨by decide +kernel, fun line hline => hbare ?_⟩, by decide +kernel, ?_⟩
  · have hlines : lines "#\n\nText".toList = [['#', '\n'], ['\n'], "Text".toList] := by
      decide +kernel
    rw [← Text.mem_lines_iff, hlines] at hline
    simp only [List.mem_cons, List.not_mem_nil, or_false] at hline
    rcases hline with rfl | rfl | rfl
    · exact .inl rfl
    · exact .inr (by decide)
    · exact .inr (by decide)
  · have hlines : lines "#\n# One".toList = [['#', '\n']] ++ "# One".toList :: [] := by
      decide +kernel
    refine firstLine_iff.2 ⟨_, _, hlines, rfl, rfl, ⟨⟨' ', "One".toList, by decide, by decide⟩,
      fun h => ?_⟩, List.forall_mem_singleton.2 (hbare (.inl rfl))⟩
    exact absurd (h 'O' (by decide)) (by decide)

end Title

end CourseSite
