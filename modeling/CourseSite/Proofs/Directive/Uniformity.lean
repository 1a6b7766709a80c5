/-
  How far the arrays of an argument list are uniform.

  * `Written`, `parseArguments_written`: the text of an array is read, or refused on account of its
    elements, by `AllAlike`; `Mixes` is this refusal.
  * `Occurs`: what stands in an argument, in arrays and objects.
  * `uniformity`: the plain values at each depth of an accepted array are of one kind, if no empty
    row hides them, and it is accepted in every order just if it is regular.
  * `empty_row_hides_kinds`: an empty row that stands first lets rows of different kinds pass.
-/
import CourseSite.Proofs.Directive.Regularity

namespace CourseSite.Directive

open Grammar
open Literal (endsNumber mixed?)
open Text (isBlank)

variable {v x : Value} {items : List Value}

/-! ## Texts -/

/-- The text is a literal of the value, but for the shapes of the elements of its arrays. -/
inductive Written : List Char → Value → Prop
  | plain {cs : List Char} {v : Value} : Denotes cs v → v.IsPlain → Written cs v
  | array {cs : List Char} {items : List Value} : Listed Written cs items →
      Written ('[' :: (cs ++ [']'])) (.array items)

section
variable {α : Type} {Entry Entry' : List Char → α → Prop} {cs : List Char} {as : List α}

theorem listed_mono (h : Listed Entry cs as)
    (hentry : ∀ a ∈ as, ∀ entry, Entry entry a → Entry' entry a) : Listed Entry' cs as := by
  induction h with
  | none hblanks => exact .none hblanks
  | last hbefore he hbehind => exact .last hbefore (hentry _ List.mem_cons_self _ he) hbehind
  | more hbefore he hbehind _ ih =>
    rw [List.forall_mem_cons] at hentry
    exact .more hbefore (hentry.1 _ he) hbehind (ih hentry.2)

theorem exists_listed_of_forall (h : ∀ a ∈ as, ∃ entry, Entry entry a) :
    ∃ cs, Listed Entry cs as := by
  induction as with
  | nil => exact ⟨[], .none blanks_nil⟩
  | cons a as ih =>
    rw [List.forall_mem_cons] at h
    obtain ⟨entry, hentry⟩ := h.1
    obtain ⟨cs, hcs⟩ := ih h.2
    exact ⟨_, .more blanks_nil hentry blanks_nil hcs⟩

end

section
variable {line : ℕ} {cs used rest : List Char}

theorem Written.denotes {cs : List Char} {v : Value} (h : Written cs v) (halike : AllAlike v) :
    Denotes cs v := by
  cases h with
  | plain h => exact h
  | array hitems =>
    refine .array (listed_mono hitems fun item hitem entry hentry => ?_) halike.alike
    have := List.sizeOf_lt_of_mem hitem
    exact hentry.denotes (halike.of_mem hitem)
termination_by v

theorem written_of_denotes {cs : List Char} {v : Value} (h : Denotes cs v) :
    Written cs v ∧ AllAlike v := by
  have hplain (hv : v.IsPlain) : Written cs v ∧ AllAlike v := ⟨.plain h hv, .plain hv⟩
  cases h with
  | string | object => exact hplain nofun
  | number hv | truth hv => cases hv <;> exact hplain nofun
  | @array _ items hitems halike =>
    have hitem (item : Value) (hitem : item ∈ items) (entry : List Char)
        (hentry : Denotes entry item) : Written entry item ∧ AllAlike item :=
      have := List.sizeOf_lt_of_mem hitem
      written_of_denotes hentry
    refine ⟨.array (listed_mono hitems fun item h entry he => (hitem item h entry he).1),
      .array (fun item h => ?_) halike⟩
    obtain ⟨entry, hentry⟩ := exists_entry_of_listed hitems item h
    exact (hitem item h entry hentry).2
termination_by v

/-- What can be written can be written in every order. -/
theorem Written.exists_rearranged {cs : List Char} {v w : Value} (h : Written cs v)
    (hmoved : Rearranged v w) : ∃ cs', Written cs' w := by
  cases hmoved with
  | plain => exact ⟨cs, h⟩
  | @array items moved items' hall hperm =>
    cases h with
    | plain _ hv => exact absurd rfl hv
    | array hitems =>
      have hwritten : ∀ item' ∈ items', ∃ entry, Written entry item' := by
        intro item' hitem'
        obtain ⟨item, hitem, hmoved⟩ := exists_mem_of_forall₂ hall.flip (hperm.mem_iff.2 hitem')
        obtain ⟨entry, hentry⟩ := exists_entry_of_listed hitems item hitem
        have := List.sizeOf_lt_of_mem hitem
        exact hentry.exists_rearranged hmoved
      obtain ⟨cs', hcs'⟩ := exists_listed_of_forall hwritten
      exact ⟨_, .array hcs'⟩
termination_by v

theorem Written.exists_cons (h : Written used v) :
    ∃ c cs, used = c :: cs ∧ startsValue c = true := by
  cases h with
  | plain h => exact h.exists_cons
  | array => exact ⟨_, _, rfl, by decide⟩

/-! ## Reading -/

/-- The reading fails on an array with elements of different shapes. -/
def Mixes {α : Type} (reading : Except SyntaxError α) : Prop :=
  ∃ line expected found, reading = .error ⟨line, .mixedArray expected found⟩

theorem Mixes.bind {α β : Type} {reading : Except SyntaxError α} (h : Mixes reading)
    (f : α → Except SyntaxError β) : Mixes (reading.bind f) := by
  obtain ⟨line, expected, found, rfl⟩ := h
  exact ⟨line, expected, found, rfl⟩

theorem Mixes.map {α β : Type} {reading : Except SyntaxError α} (h : Mixes reading)
    (f : α → β) : Mixes (reading.map f) := by
  obtain ⟨line, expected, found, rfl⟩ := h
  exact ⟨line, expected, found, rfl⟩

/-- An item is read whether its arrays are alike or not. -/
theorem readItems_written {close : Option Char} (hclose : close = none ∨ close = some ']')
    {before tail : List Char} (hbefore : Blanks before) (h : Written used v) (line : ℕ) :
    ∃ line', readItems close line (before ++ (used ++ tail)) =
      (readValue line' (used ++ tail)).bind fun (v, line, rest) =>
        itemsBehind close v line rest := by
  obtain ⟨c, cs, rfl, hc⟩ := h.exists_cons
  exact readItems_item hclose hbefore hc (cs ++ tail) line

/-- The items of an array are read up to the first one that is refused. -/
theorem mixes_readItems (hitems : Listed Written cs items)
    (hrefused : ∀ item ∈ items, ∀ entry rest line, Written entry item → ¬ AllAlike item →
      Mixes (readValue line (entry ++ rest)))
    (hmixed : ∃ item ∈ items, ¬ AllAlike item) (line : ℕ) :
    Mixes (readItems (some ']') line (cs ++ ']' :: rest)) := by
  induction hitems generalizing line with
  | none =>
    obtain ⟨item, hitem, -⟩ := hmixed
    exact absurd hitem List.not_mem_nil
  | @last before entry behind item hbefore hentry hbehind =>
    obtain ⟨_, hitem, hmixed⟩ := hmixed
    obtain rfl := List.mem_singleton.1 hitem
    obtain ⟨line', hread⟩ := readItems_written (.inr rfl) hbefore hentry line
    rw [List.append_assoc, List.append_assoc, hread]
    exact (hrefused _ hitem entry _ line' hentry hmixed).bind _
  | @more before entry behind cs item items hbefore hentry hbehind _ ih =>
    have hcomma : Starts endsNumber (',' :: (cs ++ ']' :: rest)) := starts_cons (by decide)
    have htail := starts_endsNumber hbehind hcomma
    obtain ⟨line₁, hread⟩ := readItems_written (.inr rfl) hbefore hentry line
    have hassoc : before ++ entry ++ behind ++ ',' :: cs ++ ']' :: rest =
        before ++ (entry ++ (behind ++ ',' :: (cs ++ ']' :: rest))) := by simp
    rw [hassoc, hread]
    by_cases halike : AllAlike item
    · obtain ⟨line₂, hitem⟩ := complete _ le_rfl (hentry.denotes halike) htail line₁
      obtain ⟨line₃, hbehind⟩ :=
        @itemsBehind_comma (some ']') behind hbehind item line₂ (cs ++ ']' :: rest)
      rw [List.forall_mem_cons] at hrefused
      rw [List.exists_mem_cons_iff] at hmixed
      rw [hitem]
      dsimp only [Except.bind]
      rw [hbehind]
      exact (ih hrefused.2 (hmixed.resolve_left (not_not_intro halike)) line₃).map _
    · exact (hrefused item List.mem_cons_self entry _ line₁ hentry halike).bind _

/-- **An array with elements of different shapes is refused on that account.** -/
theorem Written.mixes {used : List Char} {v : Value} (h : Written used v) (hmixed : ¬ AllAlike v)
    (line : ℕ) (rest : List Char) : Mixes (readValue line (used ++ rest)) := by
  cases h with
  | plain _ hv => exact absurd (.plain hv) hmixed
  | @array cs items hitems =>
    rw [List.cons_append, List.append_assoc, List.singleton_append, readValue_cons,
      if_neg (by decide), if_neg (by decide), if_pos rfl]
    by_cases hall : ∀ item ∈ items, AllAlike item
    · have halike : mixed? items ≠ none := fun h => hmixed (.array hall (mixed?_eq_none_iff.1 h))
      obtain ⟨⟨expected, found⟩, hfound⟩ := Option.ne_none_iff_exists'.1 halike
      have hlisted : Listed Denotes cs items :=
        listed_mono hitems fun item hitem _ hentry => hentry.denotes (hall item hitem)
      obtain ⟨line', hread⟩ :=
        Complete.readItems (complete cs.length) (.inr rfl) nofun le_rfl hlisted line
      rw [Option.toList_some, List.singleton_append] at hread
      rw [hread]
      exact ⟨line, expected, found, by simp only [Except.bind, hfound]⟩
    · push Not at hall
      refine (mixes_readItems hitems (fun item hitem entry rest line h hmixed => ?_) hall
        line).bind _
      have := List.sizeOf_lt_of_mem hitem
      exact h.mixes hmixed line rest
termination_by v

end

/-- **A text is read as the value it is written for, or refused on account of the elements of an
    array.** -/
theorem parseArguments_written {cs : List Char} (h : Written cs v) (line : ℕ) :
    (AllAlike v → parseArguments line cs = .ok [v]) ∧
      (¬ AllAlike v → Mixes (parseArguments line cs)) := by
  constructor
  · intro halike
    have hlisted := Listed.last blanks_nil (h.denotes halike) blanks_nil
    rw [List.nil_append, List.append_nil] at hlisted
    exact parseArguments_of_listed hlisted line
  · intro hmixed
    obtain ⟨line', hread⟩ := @readItems_written v cs none (.inl rfl) [] [] blanks_nil h line
    have hmixes := h.mixes hmixed line' []
    rw [List.nil_append, List.append_nil] at hread
    rw [List.append_nil] at hmixes
    rw [parseArguments_eq, hread]
    exact (hmixes.bind _).map _

/-! ## Accepted arguments -/

/-- The value stands in another one, in arrays and objects at any depth. -/
inductive Occurs (x : Value) : Value → Prop
  | self : Occurs x x
  | item {item : Value} {items : List Value} : item ∈ items → Occurs x item →
      Occurs x (.array items)
  | field {pair : String × Value} {fields : List (String × Value)} : pair ∈ fields →
      Occurs x pair.2 → Occurs x (.object fields)

/-- What stands in a value has a literal, which stands in the literal of the value. -/
theorem Occurs.exists_infix (h : Occurs x v) {cs : List Char} (hv : Denotes cs v) :
    ∃ cs', Denotes cs' x ∧ cs' <:+: cs := by
  induction h generalizing cs with
  | self => exact ⟨cs, hv, List.infix_rfl⟩
  | item hitem _ ih =>
    cases hv with
    | number hv | truth hv => cases hv
    | array hitems =>
      obtain ⟨entry, hentry, hin⟩ := exists_infix_of_listed hitems _ hitem
      obtain ⟨cs', hx, hin'⟩ := ih hentry
      exact ⟨cs', hx, (hin'.trans hin).trans ⟨['['], [']'], by simp⟩⟩
  | field hpair _ ih =>
    cases hv with
    | number hv | truth hv => cases hv
    | object hfields =>
      obtain ⟨entry, hentry, hin⟩ := exists_infix_of_listed hfields _ hpair
      obtain @⟨key, _, before, behind, value, _, _, _, _, hvalue⟩ := hentry
      obtain ⟨cs', hx, hin'⟩ := ih hvalue
      have hentry : value <:+: key ++ before ++ ':' :: (behind ++ value) :=
        ⟨key ++ before ++ ':' :: behind, [], by simp⟩
      exact ⟨cs', hx, ((hin'.trans hentry).trans hin).trans ⟨['\x7b'], ['\x7d'], by simp⟩⟩

theorem Occurs.exists_denotes (h : Occurs x v) {cs : List Char} (hv : Denotes cs v) :
    ∃ cs', Denotes cs' x :=
  (h.exists_infix hv).imp fun _ => And.left

/-- **How far arrays are uniform.**  In what is accepted the plain values at each depth of an array
    are of one kind, as long as its rows that hold any show one by their first elements; an empty
    row that stands first hides them.  The text of an array is read, or refused on account of its
    elements, by `AllAlike`; and it is read in every order of its elements, and of those of its
    rows, just if it is regular: all plain values are of one kind and stand at one depth. -/
theorem uniformity (line : ℕ) (raw : List Char) :
    (∀ values, parseArguments line raw = .ok values → ∀ value ∈ values, ∀ v, Occurs v value →
      LedThroughout v → OneKind v) ∧
    ∀ v, Written raw v →
      (AllAlike v → parseArguments line raw = .ok [v]) ∧
        (¬ AllAlike v → Mixes (parseArguments line raw)) ∧
        ((∀ v' raw', Rearranged v v' → Written raw' v' →
            ∃ values, parseArguments line raw' = .ok values) ↔ ∃ kind d, Regular kind d v) ∧
        ∀ kind d, Regular kind d v → OneKind v := by
  refine ⟨fun values h value hvalue v hoccurs hled => ?_, fun v h => ?_⟩
  · obtain ⟨entry, hentry⟩ := exists_entry_of_listed (listed_of_parseArguments h) value hvalue
    obtain ⟨entry', hentry'⟩ := hoccurs.exists_denotes hentry
    exact (written_of_denotes hentry').2.oneKind hled
  · obtain ⟨hread, hmixes⟩ := parseArguments_written h line
    refine ⟨hread, hmixes, ?_, fun _ _ hregular => hregular.oneKind⟩
    rw [← steady_iff]
    constructor
    · intro hall v' hmoved
      by_contra hmixed
      obtain ⟨raw', h'⟩ := h.exists_rearranged hmoved
      obtain ⟨values, hread⟩ := hall v' raw' hmoved h'
      obtain ⟨_, _, _, herror⟩ := (parseArguments_written h' line).2 hmixed
      rw [hread] at herror
      cases herror
    · intro hsteady v' raw' hmoved h'
      exact ⟨[v'], (parseArguments_written h' line).1 (hsteady v' hmoved)⟩

/-! ## Empty rows -/

namespace Rows

/-- The elements of a row of integers, and of a row of texts. -/
def integers : List Value := [.integer 1]

def texts : List Value := [.string "a"]

/-- Rows with an empty one between them. -/
def led : Value := .array [.array integers, .array [], .array [.integer 2, .integer 3]]

/-- An empty row in front of rows of different kinds, and between them. -/
def emptyFirst : Value := .array [.array [], .array integers, .array texts]

def emptySecond : Value := .array [.array integers, .array [], .array texts]

theorem regular_led : Regular .integer 2 led := by
  have hinteger (n : Int64) : Regular .integer 0 (.integer n) := .plain nofun rfl
  refine .array ?_
  simp only [List.mem_cons, List.not_mem_nil, or_false, forall_eq_or_imp, forall_eq]
  exact ⟨.array (by simp [integers, hinteger]), .array (by simp), .array (by simp [hinteger])⟩

theorem ledThroughout_led : LedThroughout led := by
  have hinteger (n : Int64) : LedThroughout (.integer n) := .of_isPlain nofun
  have hrow (n : Int64) (others : List Value) : IsLed (.array (.integer n :: others)) :=
    ⟨.integer n, 1, .first .self, nofun⟩
  refine .array ?_ ⟨.integer 1, 2, .first (.first .self), nofun⟩
  simp only [List.mem_cons, List.not_mem_nil, or_false, forall_eq_or_imp, forall_eq]
  exact ⟨.array (by simp [integers, hinteger]) (hrow 1 _), .empty,
    .array (by simp [hinteger]) (hrow 2 _)⟩

theorem not_oneKind_emptyFirst : ¬ OneKind emptyFirst := by
  intro h
  have hinteger : Below (.integer 1) 2 emptyFirst :=
    .item (List.mem_cons_of_mem _ List.mem_cons_self) (.item List.mem_cons_self .self)
  have htext : Below (.string "a") 2 emptyFirst :=
    .item (List.mem_cons_of_mem _ (List.mem_cons_of_mem _ List.mem_cons_self))
      (.item List.mem_cons_self .self)
  exact absurd (h 2 _ _ hinteger htext nofun nofun) nofun

end Rows

open Rows in
/-- An empty row between rows of integers. -/
theorem uniformity_led : parseArguments 1 "[[1], [], [2, 3]]".toList = .ok [led] ∧ OneKind led ∧
    ∃ raw, Written raw led ∧ ∀ v' raw', Rearranged led v' → Written raw' v' →
      ∃ values, parseArguments 1 raw' = .ok values := by
  have hread : parseArguments 1 "[[1], [], [2, 3]]".toList = .ok [led] := by cbv
  obtain ⟨raw, hraw⟩ :=
    exists_entry_of_listed (listed_of_parseArguments hread) led List.mem_cons_self
  have hwritten := (written_of_denotes hraw).1
  exact ⟨hread, (uniformity 1 _).1 _ hread led List.mem_cons_self led .self ledThroughout_led, raw,
    hwritten, ((uniformity 1 raw).2 led hwritten).2.2.1.2 ⟨.integer, 2, regular_led⟩⟩

open Rows in
/-- **An empty row in front hides rows of different kinds**, which are refused when it stands
    between them. -/
theorem empty_row_hides_kinds :
    parseArguments 1 "[[], [1], ['a']]".toList = .ok [emptyFirst] ∧ ¬ OneKind emptyFirst ∧
      Rearranged emptyFirst emptySecond ∧
      parseArguments 1 "[[1], [], ['a']]".toList =
        .error ⟨1, .mixedArray (.array (.scalar .integer)) (.array (.scalar .string))⟩ := by
  refine ⟨by cbv, not_oneKind_emptyFirst, ?_, by cbv⟩
  exact .of_perm (.swap _ _ _) (List.forall₂_same.2 fun v _ => .refl v)

end CourseSite.Directive
