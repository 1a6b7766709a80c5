/-
  Which line the error of a page names.

  * `lineAt`: the line that a byte of a text lies on; `lineAt_append`: a head in front of a text
    shifts its lines.
  * `FrontMatter.exists_head`: what is stripped from a document is nothing, or a head with line
    feeds.
  * `Registry.Refuses`: a call of a document raised an error when the document was expanded.
  * `exists_expansion_of_fails`: a page fails with an error of a directive only if its body, as it
    was read, was expanded and came to that error.
  * `line_of_fails`: hence the error names the line of a call in the body, which is its line in
    the document just if the document has no front matter.
-/
import CourseSite.Command.Run
import CourseSite.Languages.Common
import CourseSite.Proofs.Content.Reading
import CourseSite.Proofs.Directive.Expansion
import CourseSite.Proofs.Site.Failure
import CourseSite.Proofs.Site.Fragments

namespace CourseSite

open Directive (Call DirectiveError PageInfo Registry Segment)

/-! ## Lines -/

/-- The line, counted from 1, that a byte of a text lies on. -/
def lineAt (text : String) (offset : Nat) : Nat :=
  1 + (String.Pos.Raw.extract text ⟨0⟩ ⟨offset⟩).toList.count '\n'

theorem lineAt_of_append {text : String} {before rest : List Char}
    (h : text.toList = before ++ rest) :
    lineAt text (String.utf8Len before) = 1 + before.count '\n' := by
  rw [← List.nil_append (before ++ rest)] at h
  have hextract := Segment.extract_of_append h
  rw [List.nil_append] at hextract
  rw [lineAt]
  exact congrArg (1 + ·) (by rw [show (0 : Nat) = String.utf8Len [] from rfl, hextract,
    String.toList_ofList])

/-- A head in front of a text shifts its lines. -/
theorem lineAt_append {head text : String} {offset : Nat}
    (h : String.Pos.Raw.IsValid text ⟨offset⟩) :
    lineAt (head ++ text) (head.utf8ByteSize + offset) =
      lineAt text offset + head.toList.count '\n' := by
  obtain ⟨before, rest, rfl, hoffset⟩ := String.Pos.Raw.isValid_iff_exists_append.1 h
  obtain rfl : offset = String.utf8Len before.toList := by
    simpa [String.Pos.Raw.ext_iff] using hoffset
  have hhead : head.utf8ByteSize + String.utf8Len before.toList =
      String.utf8Len (head.toList ++ before.toList) := by simp
  have hbefore : (before ++ rest).toList = before.toList ++ rest.toList := String.toList_append
  have hall : (head ++ (before ++ rest)).toList =
      (head.toList ++ before.toList) ++ rest.toList := by simp
  rw [hhead, lineAt_of_append hall, lineAt_of_append hbefore, List.count_append]
  omega

namespace FrontMatter

/-- What is stripped from a document is nothing, or a head with line feeds. -/
theorem exists_head (text : String) :
    ∃ head, text = head ++ strip text ∧ (head = "" ∨ '\n' ∈ head.toList) := by
  unfold strip split
  cases hbehind : behindOpening? text.toList with
  | none => exact ⟨"", by simp, .inl rfl⟩
  | some rest =>
    dsimp only
    cases hlines : splitLines (Text.lines rest) with
    | none => exact ⟨"", by simp, .inl rfl⟩
    | some parts =>
      obtain ⟨before, line, behind, hrest, -, -, -, hbody⟩ := splitLines_eq_some_iff.1 hlines
      have hflatten : rest = before.flatten ++ line ++ parts.2 := by
        rw [← Text.flatten_lines rest, hrest, hbody]; simp
      rcases behindOpening?_eq_some_iff.1 hbehind with hopen | hopen
      · refine ⟨"---\n" ++ String.ofList (before.flatten ++ line), ?_, .inr (by simp)⟩
        rw [← String.toList_inj, hopen, hflatten]; simp
      · refine ⟨"---\r\n" ++ String.ofList (before.flatten ++ line), ?_, .inr (by simp)⟩
        rw [← String.toList_inj, hopen, hflatten]; simp

end FrontMatter

/-! ## Calls that raise an error -/

namespace Directive.Registry

/-- The call stands in the document and raises the error. -/
structure Refuses (registry : Registry) (fs : FileSystem) (page : PageInfo) (source : String)
    (call : Call) (error : DirectiveError) : Prop where
  stands : Segment.Stands source call
  raised : registry.invoke fs page call = .error (.error error)

variable {registry : Registry} {fs : FileSystem} {page : PageInfo} {source : String} {call : Call}
  {error : DirectiveError}

/-- An error that a document is expanded to is a problem of its syntax, or a call raises it. -/
theorem exists_refuses_of_expand
    (h : registry.expand fs page source = .error (.error error)) :
    (∃ problem, error = .malformed problem) ∨
      ∃ call, registry.Refuses fs page source call error := by
  rw [expand] at h
  cases hparse : Segment.parse source with
  | error problem =>
    rw [hparse] at h
    cases h
    exact .inl ⟨problem, rfl⟩
  | ok segments =>
    rw [hparse] at h
    obtain ⟨call, hcall, hraised⟩ := exists_call_of_expandSegments h
    have hfaithful := Segment.faithful_of_laid ((Segment.parse_eq_iff _ _).1 hparse)
    exact .inr ⟨call, hfaithful.stands call hcall, hraised⟩

/-- A call raises errors on its own line. -/
theorem line_of_invoke (h : registry.invoke fs page call = .error (.error error)) :
    error.line = call.line := by
  unfold invoke at h
  split at h
  · cases h; rfl
  split at h
  · rename_i hbind
    cases h
    unfold bindArguments at hbind
    split at hbind
    · cases hbind
    · cases hbind; rfl
  · split at h <;> cases h
    rfl

theorem Refuses.line_eq (h : registry.Refuses fs page source call error) :
    error.line = lineAt source call.span.first := by
  rw [line_of_invoke h.raised, h.stands.line]; rfl

end Directive.Registry

/-! ## Pages that fail -/

namespace Build
variable {build : Build} {renderer : Renderer} {fileName separator : String}
  {past : List BuildState} {state : BuildState} {node : Node} {error : DirectiveError}

/-- The page has a document, whose body, as it was read, was expanded and came to the error. -/
structure Unexpanded (build : Build) (states : List BuildState) (node : Node)
    (error : DirectiveError) : Prop where
  document : node.page.isVirtual = false
  expands : ∃ body, ReadAs states node body ∧ ∃ state ∈ states,
    build.site.registry.expand state.workspace.files (Stage.pageInfo build.site node) body =
      .error (.error error)

theorem Unexpanded.mono {states states' : List BuildState} (h : build.Unexpanded states node error)
    (sub : states ⊆ states') : build.Unexpanded states' node error := by
  obtain ⟨hv, body, hread, s, hs, hexpand⟩ := h
  exact ⟨hv, body, hread.mono sub, s, sub hs, hexpand⟩

theorem unexpanded_of_turn (known : build.Gathers renderer fileName separator past state)
    {activity : Activity} (hm : activity ∈ state.workers) {shared : BuildState}
    (turn : Turn build renderer fileName separator state activity
      (.failing node (.directive error)) shared) :
    build.Unexpanded (state :: past) node error := by
  cases turn with
  | work hs =>
    cases hs with
    | unexpanded hexpand =>
      cases known.carries hm with
      | expanding hv hread => exact ⟨hv, _, hread, state, List.mem_cons_self, hexpand⟩
      | waiting hp => rcases hp with hp | hp <;> cases hp
      | rendered hp => exact absurd hp (by decide)

/-- A page fails with an error of a directive only if it came to that in its expansion. -/
theorem exists_expansion_of_fails (regular : build.Regular renderer fileName separator)
    {workspace : Workspace} {cancelled : Bool}
    (history : build.History (build.start workspace cancelled) (state :: past))
    (h : Fails (state :: past) node (.directive error)) :
    build.Unexpanded (state :: past) node error := by
  obtain ⟨s, hs, hm⟩ := h
  obtain ⟨before, hbefore, hsuffix⟩ := history.exists_past hs
  refine Unexpanded.mono ?_ hsuffix.subset
  refine History.turns (P := fun past state => ∀ {node error},
    .failing node (.directive error) ∈ state.workers → build.Unexpanded (state :: past) node error)
    regular ?_ ?_ ?_ hbefore hm
  · intro node error hm
    cases eq_looking_of_mem_start hm
  · intro past s worker activity activity' shared history known ha turn node error hm
    refine Unexpanded.mono ?_ (List.subset_cons_self ..)
    rcases mem_afterTurn hm with hm | rfl
    · exact known hm
    · exact unexpanded_of_turn (gathers_of_history regular history) (List.mem_of_getElem? ha) turn
  · intro past s _ known _ node error hm
    exact (known hm).mono (List.subset_cons_self ..)

/-- **Lines of page errors.**  In every build of a loaded tree, a page that fails with the error
    of a call has a document that was read; behind what was stripped from it, the call stands and
    raised the error.  The error names the line of the call in the body.  In the document, the
    call stands as many lines further down as the head has line feeds, so that the error names its
    line there just if nothing was stripped. -/
theorem line_of_fails {reader : Yaml.Reader} {files : FileSystem} {format : ContentFormat}
    {root : Path} (loaded : ContentTree.load reader files format root = .ok build.site.tree)
    (standard : build.Standard renderer fileName separator) {workspace : Workspace}
    {cancelled : Bool} (history : build.History (build.start workspace cancelled) (state :: past))
    (fails : Fails (state :: past) node (.directive error))
    (wellFormed : ∀ problem, error ≠ .malformed problem) :
    ∃ text head call,
      (∃ path, node.page.source = some path ∧ ∃ s ∈ state :: past,
        s.workspace.files.readText path = .ok text) ∧
      text = head ++ FrontMatter.strip text ∧
      (∃ s ∈ state :: past, build.site.registry.Refuses s.workspace.files
        (Stage.pageInfo build.site node) (FrontMatter.strip text) call error) ∧
      error.line = lineAt (FrontMatter.strip text) call.span.first ∧
      lineAt text (head.utf8ByteSize + call.span.first) = error.line + head.toList.count '\n' ∧
      (error.line = lineAt text (head.utf8ByteSize + call.span.first) ↔
        FrontMatter.strip text = text) := by
  obtain ⟨hvirtual, body, ⟨s, hs, hread⟩, s', hs', hexpand⟩ :=
    exists_expansion_of_fails (regular_of_load loaded standard) history fails
  obtain ⟨path, hpath⟩ : ∃ path, node.page.source = some path :=
    Option.isSome_iff_exists.1 (by simpa [Page.isVirtual] using hvirtual)
  obtain ⟨text, htext, rfl⟩ : ∃ text, s.workspace.files.readText path = .ok text ∧
      FrontMatter.strip text = body := by
    rw [ContentTree.readBody, hpath] at hread
    dsimp only at hread
    split at hread
    · cases hread
    · rename_i text htext
      exact ⟨text, htext, Except.ok.inj hread⟩
  obtain ⟨call, hrefuses⟩ := (Registry.exists_refuses_of_expand hexpand).resolve_left
    fun ⟨problem, hproblem⟩ => wellFormed problem hproblem
  obtain ⟨head, hhead, hfeeds⟩ := FrontMatter.exists_head text
  have hline : lineAt text (head.utf8ByteSize + call.span.first) =
      error.line + head.toList.count '\n' := by
    rw [hrefuses.line_eq, ← lineAt_append hrefuses.stands.first, ← hhead]
  refine ⟨text, head, call, ⟨path, hpath, s, hs, htext⟩, hhead, ⟨s', hs', hrefuses⟩,
    hrefuses.line_eq, hline, ?_⟩
  have hcount : error.line = error.line + head.toList.count '\n' ↔ '\n' ∉ head.toList := by
    rw [← List.count_eq_zero]; omega
  rw [hline, hcount]
  constructor
  · intro hnone
    rw [hfeeds.resolve_right hnone, String.empty_append] at hhead
    exact hhead.symm
  · intro hstrip
    rw [hstrip] at hhead
    have hlength := congrArg String.length hhead
    rw [String.length_append] at hlength
    have hempty : head.toList = [] :=
      List.length_eq_zero_iff.1 (by rw [String.length_toList]; omega)
    rw [hempty]; nofun

end Build

/-! ## A call behind a front matter -/

namespace Sample

/-- The page `one` has a front matter and a call of an unknown directive. -/
def refused : Workspace :=
  { workspace with
    files := files.put ["course", "one.md"] (.file "---\ntitle: A\n---\n\n@Nope()".toUTF8) }

/-- The page `one` has just failed. -/
def refusing : BuildState := build.follow (List.replicate 22 0) (build.start refused false)

/-- The name and the line of the unknown directive that a page has just failed with. -/
def unknown? : Activity → Option (String × Nat)
  | .failing _ (.directive (.unknown name line)) => some (name, line)
  | _ => none

theorem eq_failing_of_unknown? {activity : Activity} {name : String} {line : Nat}
    (h : unknown? activity = some (name, line)) :
    ∃ node, activity = .failing node (.directive (.unknown name line)) := by
  unfold unknown? at h
  split at h
  · cases h; exact ⟨_, rfl⟩
  · cases h

end Sample

open Sample in
/-- The error names the second line of the body, and the call stands further down. -/
theorem line_of_fails_refused :
    ∃ (text head : String) (call : Call), text = head ++ FrontMatter.strip text ∧
      2 = lineAt (FrontMatter.strip text) call.span.first ∧
      lineAt text (head.utf8ByteSize + call.span.first) = 2 + head.toList.count '\n' := by
  obtain ⟨past, history⟩ : ∃ past, build.History (build.start refused false) (refusing :: past) :=
    Build.exists_history_follow .start
  have hfirst : refusing.workers[0]?.bind unknown? = some ("Nope", 2) := by decide +kernel
  obtain ⟨activity, ha, hunknown⟩ := Option.bind_eq_some_iff.1 hfirst
  obtain ⟨node, rfl⟩ := eq_failing_of_unknown? hunknown
  obtain ⟨text, head, call, -, htext, -, hbody, hline, -⟩ := Build.line_of_fails loaded standard
    history ⟨refusing, List.mem_cons_self, List.mem_of_getElem? ha⟩ nofun
  exact ⟨text, head, call, htext, hbody, hline⟩

namespace Refusal

/-- A document with a front matter and a call of an unknown directive. -/
def document : String := "---\ntitle: A\n---\n@Nope()"

/-- A course with the document as its only page. -/
def around : Settings.Surroundings where
  files :=
    { entries :=
        [(["cw.toml"], .file "[build]\nrenderer = \"plain\"\n".toUTF8),
          (["content"], .directory),
          (["content", "manifest.yaml"], .file "[default]".toUTF8),
          (["content", "default.md"], .file document.toUTF8)]
      current := [] }
  environment := []
  processors := 1
  languages := .common

end Refusal

open Refusal in
/-- The call stands on the fourth line of its document, and the build reports it on the first. -/
theorem call_reported_on_another_line :
    (String.Pos.Raw.extract document ⟨17⟩ ⟨24⟩ = "@Nope()" ∧ lineAt document 17 = 4) ∧
      (Command.run around ["build", "-j", "1"]).exitCode = 1 ∧
      (Command.run around ["build", "-j", "1"]).notices.getLast?.map Command.Notice.text =
        some "Error: failed to build /: line 1: unknown directive @Nope" := by
  decide +kernel

end CourseSite
