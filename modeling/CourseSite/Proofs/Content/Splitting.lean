/-
  A front matter is cut off its document at a line, and nothing is lost.

  * `Text.IsLine`, `Text.HasLine`: the lines of a text, said without cutting it;
    `Text.mem_lines_iff`: they are those that it is cut into.
  * `FrontMatter.IsClosingLine`: three hyphens or three points, and the end of the line.
  * `FrontMatter.Divided`: what a document is divided into: all of it is body, or it is an opening
    line, settings without a closing line, a closing line and the body, or nothing closes the
    opening line.
  * `FrontMatter.split_eq_iff`: so it is divided.
  * `split_lossless`: the body that a page takes its title from is the one that is read from its
    document later.
-/
import Mathlib.Data.List.TakeWhile
import CourseSite.Proofs.Content.Structure

namespace CourseSite

/-! ## Lines -/

namespace Text

/-- Between `before` and `behind` stands one line: it starts the text or follows a line feed, and
    it ends with its only line feed, or with the text. -/
structure IsLine (before line behind : List Char) : Prop where
  starts : before = [] ∨ before.getLast? = some '\n'
  nonempty : line ≠ []
  single : '\n' ∉ line.dropLast
  ends : behind = [] ∨ line.getLast? = some '\n'

/-- The text has the line somewhere. -/
def HasLine (cs line : List Char) : Prop :=
  ∃ before behind, cs = before ++ line ++ behind ∧ IsLine before line behind

variable {before line behind text cs : List Char} {front back : List (List Char)}

theorem lines_feed (h : '\n' ∉ text) (cs : List Char) :
    lines (text ++ '\n' :: cs) = (text ++ ['\n']) :: lines cs := by
  induction text with
  | nil => rw [List.nil_append, lines, if_pos rfl, List.nil_append]
  | cons c text ih =>
    rw [List.mem_cons, not_or] at h
    rw [List.cons_append, lines, if_neg (Ne.symm h.1), ih h.2, List.cons_append]

theorem lines_last (h : '\n' ∉ text) (hne : text ≠ []) : lines text = [text] := by
  induction text with
  | nil => exact absurd rfl hne
  | cons c text ih =>
    rw [List.mem_cons, not_or] at h
    rw [lines, if_neg (Ne.symm h.1)]
    cases text with
    | nil => rfl
    | cons d text => rw [ih h.2 (List.cons_ne_nil d text)]

/-- A text that is cut has a first line: one that ends with a line feed, or all of it. -/
theorem first_line (h : lines cs = line :: back) :
    (∃ text rest, line = text ++ ['\n'] ∧ cs = text ++ '\n' :: rest ∧ '\n' ∉ text ∧
      lines rest = back) ∨ (line = cs ∧ cs ≠ [] ∧ '\n' ∉ cs ∧ back = []) := by
  by_cases hfeed : '\n' ∈ cs
  · obtain ⟨text, rest, rfl, htext⟩ := List.eq_append_cons_of_mem hfeed
    rw [lines_feed htext] at h
    cases h
    exact .inl ⟨text, rest, rfl, rfl, htext, rfl⟩
  · have hne : cs ≠ [] := by rintro rfl; cases h
    rw [lines_last hfeed hne] at h
    cases h
    exact .inr ⟨rfl, hne, hfeed, rfl⟩

/-- Behind the end of a line the lines go on. -/
theorem lines_append (h : before = [] ∨ before.getLast? = some '\n') (cs : List Char) :
    lines (before ++ cs) = lines before ++ lines cs := by
  generalize hls : lines before = ls
  induction ls generalizing before with
  | nil =>
    rcases h with rfl | h
    · rfl
    · rw [← flatten_lines before, hls] at h
      cases h
  | cons line ls ih =>
    obtain ⟨text, rest, rfl, rfl, htext, hrest⟩ | ⟨-, hne, hfeed, -⟩ := first_line hls
    · have hends : rest = [] ∨ rest.getLast? = some '\n' := by
        cases rest with
        | nil => exact .inl rfl
        | cons c rest => exact .inr (by simpa [List.getLast?_append] using h)
      rw [List.append_assoc, List.cons_append, lines_feed htext, ih hends hrest, List.cons_append]
    · exact absurd (List.mem_of_getLast? (h.resolve_left hne)) hfeed

/-- A line ends with a line feed, or with the text. -/
theorem IsLine.cases (h : IsLine before line behind) :
    (∃ text, line = text ++ ['\n'] ∧ '\n' ∉ text) ∨ ('\n' ∉ line ∧ behind = []) := by
  obtain ⟨text, c, rfl⟩ := List.eq_nil_or_concat line |>.resolve_left h.nonempty
  have htext : '\n' ∉ text := by simpa using h.single
  by_cases hc : c = '\n'
  · exact .inl ⟨text, by rw [hc, List.concat_eq_append], htext⟩
  · refine .inr ⟨by simp [htext, Ne.symm hc], h.ends.resolve_right ?_⟩
    simpa using hc

/-- A text is cut at each of its lines. -/
theorem IsLine.lines_eq (h : IsLine before line behind) :
    lines (before ++ line ++ behind) = lines before ++ line :: lines behind := by
  rw [List.append_assoc, lines_append h.starts]
  congr 1
  obtain ⟨text, rfl, htext⟩ | ⟨hfeed, rfl⟩ := h.cases
  · rw [List.append_assoc, List.singleton_append, lines_feed htext]
  · rw [List.append_nil, lines_last hfeed h.nonempty]
    rfl

/-- Where a text is cut, there it has a line, and the text before it is cut as before. -/
theorem isLine_of_lines (h : lines cs = front ++ line :: back) :
    IsLine front.flatten line back.flatten ∧ lines front.flatten = front := by
  induction front generalizing cs with
  | nil =>
    refine ⟨?_, rfl⟩
    obtain ⟨text, rest, rfl, -, htext, -⟩ | ⟨rfl, hne, hfeed, rfl⟩ := first_line h
    · exact ⟨.inl rfl, by simp, by simpa using htext, .inr (by simp)⟩
    · exact ⟨.inl rfl, hne, fun hmem => hfeed (List.dropLast_subset _ hmem), .inl rfl⟩
  | cons first front ih =>
    obtain ⟨text, rest, rfl, -, htext, hrest⟩ | ⟨-, -, -, hback⟩ := first_line h
    · obtain ⟨hline, hfront⟩ := ih hrest
      refine ⟨⟨.inr ?_, hline.nonempty, hline.single, hline.ends⟩, ?_⟩
      · rw [List.flatten_cons, List.append_assoc, List.singleton_append]
        rcases hline.starts with hnil | hlast
        · rw [hnil, List.getLast?_concat]
        · rw [List.append_cons, List.getLast?_append, hlast, Option.some_or]
      · rw [List.flatten_cons, List.append_assoc, List.singleton_append, lines_feed htext, hfront]
    · cases front <;> cases hback

/-- **Lines.** The lines that a text is cut into are those that it has. -/
theorem mem_lines_iff : line ∈ lines cs ↔ HasLine cs line := by
  constructor
  · intro h
    obtain ⟨front, back, hlines⟩ := List.append_of_mem h
    refine ⟨front.flatten, back.flatten, ?_, (isLine_of_lines hlines).1⟩
    rw [← flatten_lines cs, hlines, List.flatten_append, List.flatten_cons, List.append_assoc]
  · rintro ⟨before, behind, rfl, hline⟩
    rw [hline.lines_eq]
    exact List.mem_append_right _ List.mem_cons_self

end Text

/-! ## Documents -/

namespace FrontMatter

open Text (IsLine HasLine lines)

/-- The line is three hyphens or three points; behind them nothing but its end stands. -/
def IsClosingLine (line : List Char) : Prop :=
  ∃ ending : List Char, (line = "---".toList ++ ending ∨ line = "...".toList ++ ending) ∧
    ∀ c ∈ ending, c = '\r' ∨ c = '\n'

theorem isClosing_iff {line : List Char} : isClosing line = true ↔ IsClosingLine line := by
  have htext {mark ending : List Char} (hmark : mark.reverse.dropWhile isLineEnd = mark.reverse)
      (hending : ∀ c ∈ ending, c = '\r' ∨ c = '\n') :
      ((mark ++ ending).reverse.dropWhile isLineEnd).reverse = mark := by
    have hends : ∀ c ∈ ending.reverse, isLineEnd c = true := by simpa [isLineEnd] using hending
    rw [List.reverse_append, List.dropWhile_append_of_pos hends, hmark, List.reverse_reverse]
  have hsplit : line = (line.reverse.dropWhile isLineEnd).reverse ++
      (line.reverse.takeWhile isLineEnd).reverse := by
    rw [← List.reverse_append, List.takeWhile_append_dropWhile, List.reverse_reverse]
  have hending : ∀ c ∈ (line.reverse.takeWhile isLineEnd).reverse, c = '\r' ∨ c = '\n' := by
    intro c hc
    simpa [isLineEnd] using List.mem_takeWhile_imp (List.mem_reverse.1 hc)
  simp only [isClosing, Bool.or_eq_true, beq_iff_eq]
  constructor
  · rintro (h | h) <;> rw [h] at hsplit
    · exact ⟨_, .inl hsplit, hending⟩
    · exact ⟨_, .inr hsplit, hending⟩
  · rintro ⟨ending, rfl | rfl, hends⟩
    · exact .inl (htext rfl hends)
    · exact .inr (htext rfl hends)

/-- What a document is divided into. -/
inductive Divided (text : String) : Except Problem (Option String × String) → Prop
  /-- Nothing opens a front matter. -/
  | plain : (∀ rest, ¬ Opens text rest) → Divided text (.ok (none, text))
  /-- The settings reach from the opening line to the first closing line, and the body from there
      on. -/
  | closed {yaml line body : String} :
      Opens text (yaml ++ line ++ body).toList → IsLine yaml.toList line.toList body.toList →
      IsClosingLine line.toList → (∀ other, HasLine yaml.toList other → ¬ IsClosingLine other) →
      Divided text (.ok (some yaml, body))
  /-- No line closes the front matter. -/
  | unclosed {rest : List Char} : Opens text rest →
      (∀ line, HasLine rest line → ¬ IsClosingLine line) → Divided text (.error .unclosed)

theorem splitLines_eq_none_iff {ls : List (List Char)} :
    splitLines ls = none ↔ ∀ line ∈ ls, ¬ IsClosingLine line := by
  induction ls with
  | nil => simp [splitLines]
  | cons line ls ih =>
    rw [List.forall_mem_cons, ← ih, ← isClosing_iff, splitLines]
    cases isClosing line <;> simp

/-- The text is cut at its first closing line. -/
theorem splitLines_lines_iff {rest : List Char} {yaml body : String} :
    splitLines (lines rest) = some (yaml.toList, body.toList) ↔
      ∃ line : String, rest = (yaml ++ line ++ body).toList ∧
        IsLine yaml.toList line.toList body.toList ∧ IsClosingLine line.toList ∧
        ∀ other, HasLine yaml.toList other → ¬ IsClosingLine other := by
  simp only [← Text.mem_lines_iff, ← isClosing_iff, String.toList_append]
  rw [splitLines_eq_some_iff]
  constructor
  · rintro ⟨front, line, back, hlines, hclosing, hfront, hyaml, hbody⟩
    obtain ⟨hline, hcut⟩ := Text.isLine_of_lines hlines
    have hrest : rest = front.flatten ++ line ++ back.flatten := by
      rw [← Text.flatten_lines rest, hlines]
      simp
    simp only [hyaml, hbody]
    refine ⟨String.ofList line, by rw [String.toList_ofList, hrest], by rwa [String.toList_ofList],
      by rwa [String.toList_ofList], fun other hother => ?_⟩
    rw [hcut] at hother
    simp [hfront other hother]
  · rintro ⟨line, rfl, hline, hclosing, hothers⟩
    refine ⟨lines yaml.toList, line.toList, lines body.toList, hline.lines_eq, hclosing,
      fun other hmem => by simpa using hothers other hmem, ?_, ?_⟩
    · rw [Text.flatten_lines]
    · rw [Text.flatten_lines]

theorem split_of_opens {text : String} {rest : List Char} (h : Opens text rest) :
    split text = match splitLines (lines rest) with
      | none => .error .unclosed
      | some (yaml, body) => .ok (some (String.ofList yaml), String.ofList body) := by
  have hbehind := behindOpening?_eq_some_iff.2 h
  cases hlines : splitLines (lines rest) <;> simp only [split, hbehind, hlines]

theorem exists_divided (text : String) : ∃ result, Divided text result := by
  by_cases hopens : ∃ rest, Opens text rest
  · obtain ⟨rest, hopens⟩ := hopens
    cases hlines : splitLines (lines rest) with
    | none =>
      rw [splitLines_eq_none_iff] at hlines
      exact ⟨_, .unclosed hopens fun line hline => hlines line (Text.mem_lines_iff.2 hline)⟩
    | some parts =>
      obtain ⟨yaml, body⟩ := parts
      rw [← String.toList_ofList (l := yaml), ← String.toList_ofList (l := body),
        splitLines_lines_iff] at hlines
      obtain ⟨line, rfl, hline, hclosing, hothers⟩ := hlines
      exact ⟨_, .closed hopens hline hclosing hothers⟩
  · exact ⟨_, .plain fun rest hrest => hopens ⟨rest, hrest⟩⟩

/-- **What a document is divided into.** -/
theorem split_eq_iff {text : String} {result : Except Problem (Option String × String)} :
    split text = result ↔ Divided text result := by
  have hread {result} (h : Divided text result) : split text = result := by
    cases h with
    | plain h =>
      have hnone : behindOpening? text.toList = none := by
        rw [Option.eq_none_iff_forall_ne_some]
        exact fun rest hrest => h rest (behindOpening?_eq_some_iff.1 hrest)
      rw [split, hnone]
    | closed hopens hline hclosing hothers =>
      rw [split_of_opens hopens, splitLines_lines_iff.2 ⟨_, rfl, hline, hclosing, hothers⟩]
      simp only [String.ofList_toList]
    | unclosed hopens h =>
      rw [split_of_opens hopens, splitLines_eq_none_iff.2 fun line hline =>
        h line (Text.mem_lines_iff.1 hline)]
  refine ⟨?_, hread⟩
  rintro rfl
  obtain ⟨result, hresult⟩ := exists_divided text
  rwa [hread hresult]

end FrontMatter

/-! ## Pages -/

namespace ContentTree

variable {reader : Yaml.Reader} {fs : FileSystem} {format : ContentFormat} {path : Path}
  {place : Placement} {page : Page} {branch : Branch}

/-- A page with a document was made of it. -/
theorem documentPage_of_source {source : Path} (h : Stands reader fs format path place branch)
    (hsource : branch.page.source = some source) :
    ∃ isDefault, documentPage reader fs source place isDefault = .ok branch.page := by
  cases h with
  | document hpage =>
    obtain ⟨-, -, -, hpath, -⟩ := documentPage_eq_ok hpage
    rw [Branch.page, hpath] at hsource
    cases hsource
    exact ⟨_, hpage⟩
  | directory _ _ hpage =>
    rw [directoryPage] at hpage
    split at hpage
    · dsimp only at hpage
      split at hpage
      · obtain ⟨-, -, -, hpath, -⟩ := documentPage_eq_ok hpage
        rw [Branch.page, hpath] at hsource
        cases hsource
        exact ⟨_, hpage⟩
      · cases hpage
    · cases hpage
      cases hsource

/-- The text of a document that a page was made of, and what it was divided into. -/
theorem exists_split_of_documentPage {source : Path} {isDefault : Bool}
    (h : documentPage reader fs source place isDefault = .ok page) :
    ∃ text yaml body, fs.readText source = .ok text ∧ FrontMatter.split text = .ok (yaml, body) ∧
      page.title = pageTitle page.metadata body place.slug := by
  unfold documentPage readDocument at h
  cases htext : fs.readText source with
  | error => rw [htext] at h; cases h
  | ok text =>
    rw [htext] at h
    dsimp only at h
    cases hsplit : FrontMatter.split text with
    | error => rw [hsplit] at h; cases h
    | ok parts =>
      obtain ⟨yaml, body⟩ := parts
      refine ⟨text, yaml, body, rfl, hsplit, ?_⟩
      rw [hsplit] at h
      cases yaml with
      | none => cases h; rfl
      | some yaml =>
        dsimp only at h
        cases hparse : FrontMatter.parse reader yaml with
        | error => rw [hparse] at h; cases h
        | ok metadata => rw [hparse] at h; cases h; rfl

/-- **The title and the body of a page come from one body.** -/
theorem exists_body_of_source {root : Path} {tree : ContentTree} {node : Node} {source : Path}
    (h : load reader fs format root = .ok tree) (hnode : tree.node? node.id = some node)
    (hsource : node.page.source = some source) :
    ∃ text yaml body, fs.readText source = .ok text ∧ FrontMatter.split text = .ok (yaml, body) ∧
      node.page.title =
        pageTitle node.page.metadata body (tree.placementOf format node).slug ∧
      ∀ later : FileSystem, later.readText source = fs.readText source →
        readBody later node.page = .ok body := by
  obtain ⟨branch, hholds, hstands⟩ := exists_stands h hnode
  rw [hholds.page_eq] at hsource ⊢
  obtain ⟨isDefault, hpage⟩ := documentPage_of_source hstands hsource
  obtain ⟨text, yaml, body, htext, hsplit, htitle⟩ := exists_split_of_documentPage hpage
  refine ⟨text, yaml, body, htext, hsplit, htitle, fun later hlater => ?_⟩
  rw [readBody, hsource]
  dsimp only
  rw [hlater, htext]
  dsimp only
  rw [FrontMatter.strip, hsplit]

end ContentTree

/-- **A front matter is cut off exactly, and nothing is lost.**  A document is divided into its
    settings and its body as `Divided` says; stripping it leaves the body, or all of a document
    that cannot be divided; and the body that the page of a tree took its title from, when the tree
    was loaded, is the one that is read from its document as long as that is unchanged. -/
theorem split_lossless :
    (∀ text result, FrontMatter.split text = result ↔ FrontMatter.Divided text result) ∧
    (∀ text yaml body, FrontMatter.split text = .ok (yaml, body) →
      FrontMatter.strip text = body) ∧
    (∀ text problem, FrontMatter.split text = .error problem → FrontMatter.strip text = text) ∧
    ∀ reader fs format root tree, ContentTree.load reader fs format root = .ok tree →
      ∀ i node source, tree.node? i = some node → node.page.source = some source →
        ∃ text yaml body, fs.readText source = .ok text ∧
          FrontMatter.split text = .ok (yaml, body) ∧
          node.page.title = ContentTree.pageTitle node.page.metadata body
            (tree.placementOf format node).slug ∧
          ∀ later : FileSystem, later.readText source = fs.readText source →
            ContentTree.readBody later node.page = .ok body := by
  refine ⟨fun _ _ => FrontMatter.split_eq_iff, fun text yaml body h => ?_,
    fun text problem h => ?_, fun reader fs format root tree h i node source hnode hsource => ?_⟩
  · rw [FrontMatter.strip, h]
  · rw [FrontMatter.strip, h]
  · have hid := (ContentTree.numbered_of_load h).id_eq hnode
    subst hid
    exact ContentTree.exists_body_of_source h hnode hsource

/-! ## A document with settings -/

namespace Headed

/-- The document of a course, with settings and a heading. -/
def text : String := "---\r\nweight: 1\r\n...\r\n\n# One"

/-- A course with one document. -/
def files : FileSystem where
  entries :=
    [(["guide"], .directory),
      (["guide", "manifest.yaml"], .file "[one]".toUTF8),
      (["guide", "one.md"], .file text.toUTF8)]
  current := []

/-- The tree of the course. -/
def tree : ContentTree :=
  match ContentTree.load Yaml.reader files {} ⟨"/guide"⟩ with
  | .ok tree => tree
  | .error _ => ⟨[], ⟨""⟩⟩

theorem tree_eq : ContentTree.load Yaml.reader files {} ⟨"/guide"⟩ = .ok tree := by
  have hok : (ContentTree.load Yaml.reader files {} ⟨"/guide"⟩).isOk = true := by decide +kernel
  obtain ⟨loaded, h⟩ := Attempt.exists_eq_ok hok
  rw [tree, h]

end Headed

open Headed in
/-- Settings between lines with different ends, and a blank line before the heading; and an opening
    line that a longer line does not close. -/
theorem split_lossless_headed :
    FrontMatter.split text = .ok (some "weight: 1\r\n", "\n# One") ∧
      FrontMatter.strip text = "\n# One" ∧
      FrontMatter.split "---\nweight: 1\n----" = .error .unclosed ∧
      FrontMatter.strip "---\nweight: 1\n----" = "---\nweight: 1\n----" ∧
      ∃ node, tree.node? 1 = some node ∧ node.page.title = "One" ∧
        ContentTree.readBody files node.page = .ok "\n# One" := by
  have hsplit : FrontMatter.split text = .ok (some "weight: 1\r\n", "\n# One") := by cbv
  have hopen : FrontMatter.split "---\nweight: 1\n----" = .error .unclosed := by cbv
  obtain ⟨-, hstrip, hwhole, hpages⟩ := split_lossless
  have hnode : ((tree.node? 1).map fun node => (node.page.source, node.page.title)) =
      some (some ⟨"/guide/one.md"⟩, "One") := by decide +kernel
  obtain ⟨node, hnode, hpage⟩ := Option.map_eq_some_iff.1 hnode
  obtain ⟨hsource, htitle⟩ := Prod.ext_iff.1 hpage
  obtain ⟨read, yaml, body, hread, hdivided, -, hbody⟩ :=
    hpages Yaml.reader files {} _ tree tree_eq 1 node _ hnode hsource
  have htext : files.readText ⟨"/guide/one.md"⟩ = .ok text := by decide +kernel
  rw [htext] at hread
  cases hread
  rw [hsplit] at hdivided
  cases hdivided
  exact ⟨hsplit, hstrip _ _ _ hsplit, hopen, hwhole _ _ hopen, node, hnode, htitle,
    hbody files rfl⟩

end CourseSite
