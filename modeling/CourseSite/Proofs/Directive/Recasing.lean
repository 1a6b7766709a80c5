/-
  The case of directive names is insignificant.

  * `Recased`: two texts differ in the ASCII case of directive names alone.  So does every text from
    itself (`Recased.refl`), and the second one from the first (`Recased.symm`).
  * `Agree`: two texts are the same up to their first marker; what is literal text and what is a
    comment in front of one of them is so in front of the other one.
  * `Call.folded`, `Segment.folded`: names in lower case; `parse_recased`: but for the case of names
    recased documents are read alike.
  * `expandSegments_folded`: a name is resolved whatever its case.
  * `expand_recased`: recased documents are expanded to the same text.
-/
import CourseSite.Proofs.Directive.Expansion
import CourseSite.Proofs.Directive.Registration

namespace CourseSite

/-! ## Letters -/

theorem Text.lowerFrom_of_ascii (before : List Char) {cs : List Char}
    (h : ∀ c ∈ cs, c.toNat < 0x80) : Text.lowerFrom before cs = cs.map Char.toLower := by
  induction cs generalizing before with
  | nil => rfl
  | cons c cs ih =>
    rw [List.forall_mem_cons] at h
    have hsigma : c ≠ 'Σ' := by
      rintro rfl
      exact absurd h.1 (by decide)
    rw [Text.lowerFrom, if_neg hsigma, Text.lowerChar, if_pos h.1, ih _ h.2]
    rfl

namespace Directive

open Attempt (map_map map_eq_ok_iff)
open Segment (IsIdentifier StartsCall Comment Gap Sign LineEnd Pad startsName isNameChar)

/-- The lower case of a character is another one only if both are letters. -/
theorem toLower_eq_or_isAlpha (c : Char) :
    c.toLower = c ∨ (c.isAlpha = true ∧ c.toLower.isAlpha = true) := by
  by_cases hc : c.isUpper = true
  · have halpha : c.isAlpha = true := by rw [Char.isAlpha, hc, Bool.true_or]
    exact .inr ⟨halpha, by rwa [Char.isAlpha_toLower_eq_isAlpha]⟩
  · exact .inl (Char.toLower_eq_of_not_isUpper hc)

theorem toLower_eq_iff {c d : Char} (hd : d.isAlpha = false) : c.toLower = d ↔ c = d := by
  rcases toLower_eq_or_isAlpha c with h | ⟨hc, hlower⟩
  · rw [h]
  · refine iff_of_false ?_ ?_ <;> rintro rfl
    · rw [hlower] at hd; cases hd
    · rw [hc] at hd; cases hd

theorem isDigit_toLower (c : Char) : c.toLower.isDigit = c.isDigit := by
  have hnot {d : Char} (hd : d.isAlpha = true) : d.isDigit = false := by
    have hcode := Text.isAlpha_iff.1 hd
    rw [← Bool.not_eq_true, Text.isDigit_iff]
    omega
  rcases toLower_eq_or_isAlpha c with h | ⟨hc, hlower⟩
  · rw [h]
  · rw [hnot hc, hnot hlower]

theorem startsName_toLower (c : Char) : startsName c.toLower = startsName c := by
  rw [startsName, startsName, Char.isAlpha_toLower_eq_isAlpha,
    decide_eq_decide.2 (toLower_eq_iff (by decide))]

theorem isNameChar_toLower (c : Char) : isNameChar c.toLower = isNameChar c := by
  rw [isNameChar, isNameChar, Char.isAlphanum, Char.isAlphanum, Char.isAlpha_toLower_eq_isAlpha,
    isDigit_toLower, decide_eq_decide.2 (toLower_eq_iff (by decide))]

/-- The characters of a name are ASCII. -/
theorem isNameChar_lt {c : Char} (h : isNameChar c = true) : c.toNat < 0x80 := by
  simp only [isNameChar, Char.isAlphanum, Bool.or_eq_true, decide_eq_true_eq] at h
  rcases h with (hc | hc) | rfl
  · have hcode := Text.isAlpha_iff.1 hc
    omega
  · have hcode := Text.isDigit_iff.1 hc
    omega
  · decide

theorem utf8Size_of_isAlpha {c : Char} (h : c.isAlpha = true) : c.utf8Size = 1 := by
  have hcode := Text.isAlpha_iff.1 h
  rw [Char.utf8Size_eq_one_iff, UInt32.le_iff_toNat_le]
  change c.toNat ≤ 127
  omega

theorem Place.after_toLower (place : Place) (c : Char) : place.after c.toLower = place.after c := by
  have hsize : c.toLower.utf8Size = c.utf8Size := by
    rcases toLower_eq_or_isAlpha c with h | ⟨hc, hlower⟩
    · rw [h]
    · rw [utf8Size_of_isAlpha hc, utf8Size_of_isAlpha hlower]
  rw [Place.after, Place.after, Literal.lineAfter, Literal.lineAfter, hsize]
  simp only [toLower_eq_iff (d := '\n') (by decide)]

variable {name name' cs cs' front rest rest' raw comment : List Char} {c : Char}
  {place : Place}

/-- The names differ in the case of ASCII letters alone. -/
def SameName (name name' : List Char) : Prop := name.map Char.toLower = name'.map Char.toLower

theorem isIdentifier_map_toLower : IsIdentifier (name.map Char.toLower) ↔ IsIdentifier name := by
  cases name with
  | nil => exact Iff.rfl
  | cons c name => simp [IsIdentifier, startsName_toLower, isNameChar_toLower]

theorem SameName.isIdentifier (h : SameName name name') (hname : IsIdentifier name) :
    IsIdentifier name' := by
  rw [← isIdentifier_map_toLower, ← h, isIdentifier_map_toLower]
  exact hname

theorem Place.advance_map_toLower (place : Place) (cs : List Char) :
    place.advance (cs.map Char.toLower) = place.advance cs := by
  rw [Place.advance, List.foldl_map]
  congr 1
  funext place c
  exact after_toLower place c

theorem SameName.advance (h : SameName name name') (place : Place) :
    place.advance name = place.advance name' := by
  rw [← Place.advance_map_toLower, h, Place.advance_map_toLower]

/-! ## Recased texts -/

/-- The texts differ in the ASCII case of directive names alone.  From left to right, literal text
    is the same, and so are the arguments of a call and the comment behind it; the name may be
    written in another case.  Behind a call without an end the texts are the same. -/
inductive Recased : List Char → List Char → Prop
  | nil : Recased [] []
  | sign {sign cs cs' : List Char} {c : Char} : Sign cs sign c → Recased cs cs' →
      Recased (sign ++ cs) (sign ++ cs')
  | call {name name' raw comment rest rest' : List Char} : IsIdentifier name →
      SameName name name' → Brackets.scan [] .code raw = some ([], .code) → Comment comment rest →
      Recased rest rest' →
      Recased ('@' :: (name ++ '(' :: (raw ++ ')' :: (comment ++ rest))))
        ('@' :: (name' ++ '(' :: (raw ++ ')' :: (comment ++ rest'))))
  | unclosed {name name' inside : List Char} : IsIdentifier name → SameName name name' →
      (∀ raw rest, inside = raw ++ ')' :: rest →
        Brackets.scan [] .code raw ≠ some ([], .code)) →
      Recased ('@' :: (name ++ '(' :: inside)) ('@' :: (name' ++ '(' :: inside))

/-- The texts are the same up to their first marker. -/
inductive Agree : List Char → List Char → Prop
  | nil : Agree [] []
  | mark {cs cs' : List Char} : Agree ('@' :: cs) ('@' :: cs')
  | cons {c : Char} {cs cs' : List Char} : Agree cs cs' → Agree (c :: cs) (c :: cs')

theorem Agree.symm (h : Agree cs cs') : Agree cs' cs := by
  induction h with
  | nil => exact .nil
  | mark => exact .mark
  | cons _ ih => exact .cons ih

theorem Recased.agree (h : Recased cs cs') : Agree cs cs' := by
  induction h with
  | nil => exact .nil
  | sign hsign _ ih =>
    cases hsign with
    | char => exact .cons ih
    | doubled => exact .mark
    | bare => exact .mark
  | call => exact .mark
  | unclosed => exact .mark

/-- What stands in front of the first marker of one text stands in front of the other one. -/
theorem Agree.strip (h : Agree (front ++ rest) cs') (hfront : '@' ∉ front) :
    ∃ rest', cs' = front ++ rest' ∧ Agree rest rest' := by
  induction front generalizing cs' with
  | nil => exact ⟨cs', rfl, h⟩
  | cons c front ih =>
    rw [List.mem_cons, not_or] at hfront
    generalize hcs : c :: front ++ rest = cs at h
    cases h with
    | nil => cases hcs
    | mark => cases hcs; exact absurd rfl hfront.1
    | cons h =>
      cases hcs
      obtain ⟨rest', rfl, hrest⟩ := ih h hfront.2
      exact ⟨rest', rfl, hrest⟩

theorem Agree.startsCall (h : Agree cs cs') (hcs : StartsCall cs) : StartsCall cs' := by
  obtain ⟨name, inside, hname, rfl⟩ := hcs
  have hmark : '@' ∉ name ++ ['('] := by
    simp only [List.mem_append, List.mem_singleton, not_or]
    exact ⟨fun hmem => absurd (hname.isNameChar _ hmem) (by decide), by decide⟩
  rw [List.append_cons] at h
  obtain ⟨inside', rfl, -⟩ := h.strip hmark
  exact ⟨name, inside', hname, by simp⟩

theorem Agree.head? (h : Agree cs cs') : cs'.head? = cs.head? := by
  cases h <;> rfl

/-- Literal text in front of one text is literal text in front of the other one. -/
theorem Agree.sign {sign : List Char} (h : Agree cs cs') (hsign : Sign cs sign c) :
    Sign cs' sign c := by
  cases hsign with
  | char hc => exact .char hc
  | doubled => exact .doubled
  | bare hnext hcall => exact .bare (h.head? ▸ hnext) fun hcall' => hcall (h.symm.startsCall hcall')

/-- And so is a comment. -/
theorem Agree.isComment (h : Agree rest rest') (hcomment : Comment comment rest) :
    Comment comment rest' := by
  cases hcomment with
  | none hnone =>
    refine .none fun pad line hpad heq => ?_
    subst heq
    have hmark : '@' ∉ pad ++ ['/', '/'] := by
      simp only [List.mem_append, List.mem_cons, List.not_mem_nil, or_false, not_or]
      refine ⟨fun hmem => ?_, by decide, by decide⟩
      rcases hpad _ hmem with hc | hc <;> cases hc
    have hstrip := h.symm
    rw [← List.singleton_append (l := line), ← List.cons_append, ← List.append_assoc] at hstrip
    obtain ⟨line', rfl, -⟩ := hstrip.strip hmark
    exact hnone pad line' hpad (by simp)
  | @line pad line _ hpad hfeed hend =>
    refine .line hpad hfeed ?_
    cases hend with
    | text => cases h; exact .text
    | feed hlast =>
      cases h with
      | cons => exact .feed hlast
    | both =>
      cases h with
      | cons h =>
        cases h with
        | cons => exact .both

/-- In the same way the second text differs from the first one. -/
theorem Recased.symm (h : Recased cs cs') : Recased cs' cs := by
  induction h with
  | nil => exact .nil
  | sign hsign h ih => exact .sign (h.agree.sign hsign) ih
  | call hname hsame hscan hcomment h ih =>
    exact .call (hsame.isIdentifier hname) (Eq.symm hsame) hscan (h.agree.isComment hcomment) ih
  | unclosed hname hsame hopen => exact .unclosed (hsame.isIdentifier hname) (Eq.symm hsame) hopen

theorem Recased.gap {gap : List Char} (hgap : Gap cs gap) (h : Recased cs cs') :
    Recased (gap ++ cs) (gap ++ cs') := by
  induction hgap with
  | nil => exact h
  | cons hsign _ ih =>
    rw [List.append_assoc, List.append_assoc]
    exact .sign hsign ih

/-- Every text is made of literal text, calls and perhaps a call without an end. -/
theorem Recased.refl (cs : List Char) : Recased cs cs := by
  induction hlength : cs.length using Nat.strong_induction_on generalizing cs with
  | _ length ih =>
    obtain ⟨gap, rest, rfl, hgap, rfl | ⟨_, rfl, name, inside, hname, rfl⟩⟩ := Segment.exists_gap cs
    · exact .gap hgap .nil
    · refine .gap hgap ?_
      cases hsplit : Brackets.splitArguments 1 inside with
      | error e =>
        refine .unclosed hname rfl fun raw rest hinside hscan => ?_
        rw [Brackets.splitArguments_eq_ok_iff.2 ⟨hinside, hscan⟩] at hsplit
        cases hsplit
      | ok split =>
        obtain ⟨raw, behind⟩ := split
        obtain ⟨rfl, hscan⟩ := Brackets.splitArguments_eq_ok_iff.1 hsplit
        obtain ⟨comment, rest, rfl, hcomment⟩ := Segment.exists_comment behind
        have hless : rest.length < length := by
          rw [← hlength]
          simp only [List.length_append, List.length_cons]
          omega
        exact .call hname rfl hscan hcomment (ih rest.length hless rest rfl)

/-! ## Reading -/

/-- The call with its name in lower case. -/
def Call.folded (call : Call) : Call :=
  { call with name := String.ofList (call.name.toList.map Char.toLower) }

namespace Segment

/-- The piece with the name of a call in lower case. -/
def Piece.folded : Piece → Piece
  | .char c => .char c
  | .call found => .call found.folded

/-- The segment with the name of a call in lower case. -/
def folded : Segment → Segment
  | .literal text => .literal text
  | .call found => .call found.folded

theorem gather_map_folded (pending : List Char) (ps : List Piece) :
    gather pending (ps.map Piece.folded) = (gather pending ps).map folded := by
  have hchars (cs : List Char) : (ofChars cs).map folded = ofChars cs := by cases cs <;> rfl
  induction ps generalizing pending with
  | nil => exact (hchars _).symm
  | cons piece ps ih =>
    cases piece with
    | char c => exact ih _
    | call found =>
      rw [List.map_cons, Piece.folded, gather, gather, List.map_append, hchars, List.map_cons,
        folded, ih]

/-- Behind a name the parenthesis is found that closes the arguments. -/
theorem pieces_of_closed (hname : IsIdentifier name)
    (hscan : Brackets.scan [] .code raw = some ([], .code)) (hcomment : Comment comment rest)
    (place : Place) :
    pieces place ('@' :: (name ++ '(' :: (raw ++ ')' :: (comment ++ rest)))) =
      (parseArguments place.line raw).bind fun arguments =>
        let behind := place.advance ('@' :: name ++ '(' :: raw ++ [')'])
        (pieces (behind.advance comment) rest).map
          (.call ⟨String.ofList name, arguments, String.ofList raw,
            ⟨place.offset, behind.offset⟩, place.line⟩ :: ·) := by
  have hsplit : Brackets.splitArguments place.line (raw ++ ')' :: (comment ++ rest)) =
      .ok (raw, comment ++ rest) :=
    Brackets.splitArguments_eq_ok_iff.2 ⟨rfl, hscan⟩
  rw [pieces_of_head (callHead?_eq_some_iff.2 ⟨hname, rfl⟩), hsplit]
  simp only [Except.bind, splitComment_append hcomment]

/-- **Recased texts are read alike**, but for the case of names. -/
theorem pieces_recased (h : Recased cs cs') (place : Place) :
    (pieces place cs).map (List.map Piece.folded) =
      (pieces place cs').map (List.map Piece.folded) := by
  induction h generalizing place with
  | nil => rfl
  | @sign sign cs cs' c hsign h ih =>
    have hcons : List.map Piece.folded ∘ (Piece.char c :: ·) =
        (Piece.char c :: ·) ∘ List.map Piece.folded := by
      funext ps
      rfl
    rw [pieces_of_sign hsign, pieces_of_sign (h.agree.sign hsign), map_map, map_map, hcons,
      ← map_map, ← map_map, ih]
  | @call name name' raw comment rest rest' hname hsame hscan hcomment h ih =>
    have hbehind : place.advance ('@' :: name ++ '(' :: raw ++ [')']) =
        place.advance ('@' :: name' ++ '(' :: raw ++ [')']) := by
      rw [List.append_assoc, List.append_assoc, Place.advance_append, Place.advance_append place,
        ← List.singleton_append, ← List.singleton_append (l := name'), Place.advance_append place,
        Place.advance_append place, hsame.advance]
    rw [pieces_of_closed hname hscan hcomment,
      pieces_of_closed (hsame.isIdentifier hname) hscan (h.agree.isComment hcomment)]
    cases parseArguments place.line raw with
    | error e => rfl
    | ok arguments =>
      simp only [Except.bind, hbehind]
      generalize place.advance ('@' :: name' ++ '(' :: raw ++ [')']) = behind
      have hcons (name : List Char) : List.map Piece.folded ∘ (Piece.call ⟨String.ofList name,
          arguments, String.ofList raw, ⟨place.offset, behind.offset⟩, place.line⟩ :: ·) =
          (Piece.call ⟨String.ofList (name.map Char.toLower), arguments, String.ofList raw,
            ⟨place.offset, behind.offset⟩, place.line⟩ :: ·) ∘ List.map Piece.folded := by
        funext ps
        simp [Piece.folded, Call.folded]
      rw [map_map, map_map, hcons, hcons, hsame, ← map_map, ← map_map, ih]
  | @unclosed name name' inside hname hsame hopen =>
    rw [pieces_of_head (callHead?_eq_some_iff.2 ⟨hname, rfl⟩),
      pieces_of_head (callHead?_eq_some_iff.2 ⟨hsame.isIdentifier hname, rfl⟩)]
    cases hsplit : Brackets.splitArguments place.line inside with
    | error e => rfl
    | ok split =>
      obtain ⟨hinside, hscan⟩ := Brackets.splitArguments_eq_ok_iff.1 hsplit
      exact absurd hscan (hopen _ _ hinside)

theorem parse_recased {source source' : String} (h : Recased source.toList source'.toList) :
    (parse source).map (List.map folded) = (parse source').map (List.map folded) := by
  have hgather : List.map folded ∘ gather [] = gather [] ∘ List.map Piece.folded := by
    funext ps
    exact (gather_map_folded [] ps).symm
  rw [parse, parse, map_map, map_map, hgather, ← map_map, ← map_map, pieces_recased h]

end Segment

/-! ## Expansion -/

namespace Registry

variable {registry : Registry} {fs : FileSystem} {page : PageInfo} {call : Call} {text : String}

theorem lower_ofList_of_isIdentifier (h : IsIdentifier name) :
    Text.lower (String.ofList name) = String.ofList (name.map Char.toLower) := by
  rw [Text.lower, String.toList_ofList,
    Text.lowerFrom_of_ascii _ fun c hc => isNameChar_lt (h.isNameChar c hc)]

/-- A name is resolved whatever its case. -/
theorem resolve?_folded (h : IsIdentifier call.name.toList) :
    registry.resolve? call.folded.name = registry.resolve? call.name := by
  have hname := lower_ofList_of_isIdentifier h
  have hfolded := lower_ofList_of_isIdentifier (isIdentifier_map_toLower.2 h)
  have htwice : Char.toLower ∘ Char.toLower = Char.toLower :=
    funext Char.toLower_toLower_eq_toLower
  rw [String.ofList_toList] at hname
  rw [List.map_map, htwice, ← hname] at hfolded
  rw [resolve?, resolve?, ← hfolded, hname]
  rfl

theorem invoke_folded (h : IsIdentifier call.name.toList) :
    registry.invoke fs page call.folded = .ok text ↔ registry.invoke fs page call = .ok text := by
  rw [invoke, invoke, resolve?_folded h]
  cases registry.resolve? call.name with
  | none => simp
  | some extension =>
    dsimp only [bindArguments, Call.folded]
    cases bindFrom call.arguments 0 none extension.signatures with
    | error cause => simp
    | ok bound =>
      dsimp only
      cases extension.reply fs { page with line := call.line } bound <;> simp

theorem expandSegments_folded {segments : List Segment}
    (h : ∀ call ∈ Segment.calls segments, IsIdentifier call.name.toList) :
    registry.expandSegments fs page (segments.map Segment.folded) = .ok text ↔
      registry.expandSegments fs page segments = .ok text := by
  induction segments generalizing text with
  | nil => rfl
  | cons segment segments ih =>
    cases segment with
    | literal first =>
      simp only [List.map_cons, Segment.folded, expandSegments, map_eq_ok_iff, ih h]
    | call call =>
      have hcalls : Segment.calls (.call call :: segments) = call :: Segment.calls segments := rfl
      rw [hcalls, List.forall_mem_cons] at h
      simp only [List.map_cons, Segment.folded, expandSegments_call_eq_ok_iff, invoke_folded h.1,
        ih h.2]

theorem isIdentifier_of_parse {source : String} {segments : List Segment}
    (h : Segment.parse source = .ok segments) :
    ∀ call ∈ Segment.calls segments, IsIdentifier call.name.toList := fun call hcall =>
  ((Segment.faithful_of_laid ((Segment.parse_eq_iff _ _).1 h)).stands call hcall).identifier

theorem expand_of_recased {source source' : String} (h : Recased source.toList source'.toList)
    (hok : registry.expand fs page source = .ok text) :
    registry.expand fs page source' = .ok text := by
  obtain ⟨segments, hparse, hsegments⟩ := expand_eq_ok_iff.1 hok
  have hfolded := Segment.parse_recased h
  rw [hparse] at hfolded
  obtain ⟨segments', hparse', hsame⟩ := map_eq_ok_iff.1 hfolded.symm
  refine expand_eq_ok_iff.2 ⟨segments', hparse', ?_⟩
  rw [← expandSegments_folded (isIdentifier_of_parse hparse'), hsame,
    expandSegments_folded (isIdentifier_of_parse hparse)]
  exact hsegments

/-- **Recased documents are expanded to the same text.** -/
theorem expand_recased {source source' : String} (h : Recased source.toList source'.toList) :
    registry.expand fs page source = .ok text ↔ registry.expand fs page source' = .ok text :=
  ⟨expand_of_recased h, expand_of_recased h.symm⟩

/-! ## Histories and documents -/

/-- **The last registration under a name wins**, whatever the case of the name.  Behind every
    history on every copy, a name resolves to the latest registration that is left of it, with every
    name counted once and the spellings in effect in ascending order; what is done to other copies
    changes nothing.  So recased documents are expanded to the same text. -/
theorem latest_registration_wins :
    (∀ operations copy,
      let registry := runAll (fun _ => .empty) operations copy
      let log := logAll (fun _ => []) operations copy
      (∀ name extension, registry.resolve? name = some extension ↔
        Latest log (Text.lower name) extension) ∧
      (∀ name, registry.resolve? name = none ↔
        ∀ e ∈ log, Text.lower e.name ≠ Text.lower name) ∧
      registry.size = (log.map fun e => Text.lower e.name).dedup.length ∧
      registry.names.Pairwise (· < ·) ∧
      ∀ name, name ∈ registry.names ↔ ∃ e, Latest log (Text.lower name) e ∧ e.name = name) ∧
    (∀ copies operations copy, (∀ operation ∈ operations, Operation.copy operation ≠ copy) →
      runAll copies operations copy = copies copy) ∧
    ∀ source source' : String, Recased source.toList source'.toList →
      ∀ (registry : Registry) fs page text,
        registry.expand fs page source = .ok text ↔ registry.expand fs page source' = .ok text := by
  refine ⟨fun operations copy => ?_, fun copies operations copy h => runAll_of_ne copies h,
    fun source source' h registry fs page text => expand_recased h⟩
  have h := reflects_runAll (fun _ => Reflects.empty) operations copy
  exact ⟨fun _ _ => h.resolve?_eq_some_iff, fun _ => h.resolve?_eq_none_iff, h.size_eq,
    h.pairwise_names, fun _ => h.mem_names_iff⟩

/-- A clone of the built-in extensions keeps them when the other copy is reset, and a name in
    another case stands for the same one. -/
theorem latest_registration_wins_title :
    let copies := runAll (fun _ => .empty) [.builtins 0, .clone 0 1]
    runAll copies [.reset 0] 1 = copies 1 ∧
      (copies 1).expand .empty ⟨"Intro", "/intro", none, ⟨"."⟩, 0⟩ "@tITLE()" = .ok "Intro" := by
  intro copies
  have hname : IsIdentifier ['T', 'i', 't', 'l', 'e'] := ⟨rfl, List.all_eq_true.1 rfl⟩
  have hrecased : Recased "@Title()".toList "@tITLE()".toList :=
    @Recased.call ['T', 'i', 't', 'l', 'e'] ['t', 'I', 'T', 'L', 'E'] [] [] [] []
      hname rfl rfl (.none fun pad line _ h => by simp at h) .nil
  have hexpand : (copies 1).expand .empty ⟨"Intro", "/intro", none, ⟨"."⟩, 0⟩ "@Title()" =
      .ok "Intro" := by
    cbv
  exact ⟨latest_registration_wins.2.1 copies [.reset 0] 1 (by simp [Operation.copy]),
    (latest_registration_wins.2.2 _ _ hrecased _ _ _ _).1 hexpand⟩

end Registry

end Directive

end CourseSite
