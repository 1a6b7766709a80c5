/-
  Which pages share a tag in the cache.

  * `contentBytes`: the bytes that a page is told apart by; a tag is a digest of them.
  * `RunsOver`: the title of a page goes on, behind the character that should end it, with the
    start of the text of another page.
  * `pageTag_eq_iff`: two pages have one tag just if they are the same or one runs over into the
    other, which takes a NUL in a title.
  * `title_eq_of_document_eq`: the document of a page tells its title.
  * `Request`, `Rendered`: the pages that were rendered since the caches were empty.
  * `Recorded`: what the caches keep are documents of such pages under their tags; a rendering
    keeps it so (`Recorded.step`), and so does every history (`recorded_of_rendered`).
  * `served_by_tag`: hence a page is served the document of a page with its tag, and its own one
    if no title holds a NUL.
  * `page_served_for_another`: two pages with one tag.
-/
import Mathlib
import CourseSite.Content.FrontMatter
import CourseSite.Languages.Common
import CourseSite.Proofs.Site.Caching
import CourseSite.Proofs.Text.Entities

namespace CourseSite

namespace Renderer

open CacheStore (getText?_setText)

/-! ## Tags -/

section Tags

variable {title title' text text' : String}

/-- The bytes of a title and a text with a zero byte in between. -/
def contentBytes (title text : String) : ByteArray := title.toUTF8 ++ ⟨#[0]⟩ ++ text.toUTF8

theorem toUTF8_pageTag (title text : String) :
    (pageTag title text).toUTF8 = contentBytes title text := by
  rw [pageTag, contentBytes]
  simp only [String.toUTF8_eq_toByteArray, String.toByteArray_append]
  rfl

/-- The other title starts with the title, and goes on behind a NUL with what the text starts with;
    the other text is what is left of the text behind a NUL. -/
def RunsOver (title text title' text' : String) : Prop :=
  ∃ between, title' = title ++ "\x00" ++ between ∧ text = between ++ "\x00" ++ text'

/-- A list may be cut at either of two marks. -/
theorem append_cons_eq_iff {α : Type} {mark : α} {xs xs' ys ys' : List α} :
    xs ++ mark :: ys = xs' ++ mark :: ys' ↔ (xs = xs' ∧ ys = ys') ∨
      (∃ between, xs' = xs ++ mark :: between ∧ ys = between ++ mark :: ys') ∨
      ∃ between, xs = xs' ++ mark :: between ∧ ys' = between ++ mark :: ys := by
  constructor
  · intro h
    rcases List.append_eq_append_iff.1 h with ⟨within, hxs, hys⟩ | ⟨within, hxs, hys⟩
    · cases within with
      | nil =>
        rw [List.append_nil] at hxs
        exact .inl ⟨hxs.symm, (List.cons_eq_cons.1 hys).2⟩
      | cons first within =>
        obtain ⟨rfl, hrest⟩ := List.cons_eq_cons.1 hys
        exact .inr (.inl ⟨within, hxs, hrest⟩)
    · cases within with
      | nil =>
        rw [List.append_nil] at hxs
        exact .inl ⟨hxs, (List.cons_eq_cons.1 hys).2.symm⟩
      | cons first within =>
        obtain ⟨rfl, hrest⟩ := List.cons_eq_cons.1 hys
        exact .inr (.inr ⟨within, hxs, hrest⟩)
  · rintro (⟨rfl, rfl⟩ | ⟨between, rfl, rfl⟩ | ⟨between, rfl, rfl⟩) <;> simp

theorem append_cons_inj {α : Type} {mark : α} {xs xs' ys ys' : List α} (hxs : mark ∉ xs)
    (hxs' : mark ∉ xs') (h : xs ++ mark :: ys = xs' ++ mark :: ys') : xs = xs' ∧ ys = ys' := by
  rcases append_cons_eq_iff.1 h with hsame | ⟨between, rfl, -⟩ | ⟨between, rfl, -⟩
  · exact hsame
  · simp at hxs'
  · simp at hxs

theorem toList_pageTag (title text : String) :
    (pageTag title text).toList = title.toList ++ '\x00' :: text.toList := by
  simp [pageTag]

/-- **Which pages have one tag.** -/
theorem pageTag_eq_iff : pageTag title text = pageTag title' text' ↔
    (title = title' ∧ text = text') ∨ RunsOver title text title' text' ∨
      RunsOver title' text' title text := by
  have hover {title text title' text' : String} : RunsOver title text title' text' ↔
      ∃ between, title'.toList = title.toList ++ '\x00' :: between ∧
        text.toList = between ++ '\x00' :: text'.toList := by
    constructor
    · rintro ⟨between, rfl, rfl⟩
      exact ⟨between.toList, by simp, by simp⟩
    · rintro ⟨between, htitle, htext⟩
      refine ⟨.ofList between, ?_, ?_⟩
      · simp [← String.toList_inj, htitle]
      · simp [← String.toList_inj, htext]
  rw [← String.toList_inj, toList_pageTag, toList_pageTag, append_cons_eq_iff, hover, hover,
    String.toList_inj, String.toList_inj]

/-- A title without a NUL ends where its tag says. -/
theorem pageTag_inj_of_not_mem (htitle : '\x00' ∉ title.toList) (htitle' : '\x00' ∉ title'.toList)
    (h : pageTag title text = pageTag title' text') : title = title' ∧ text = text' := by
  rw [← String.toList_inj, toList_pageTag, toList_pageTag] at h
  obtain ⟨htitles, htexts⟩ := append_cons_inj htitle htitle' h
  exact ⟨String.toList_inj.1 htitles, String.toList_inj.1 htexts⟩

/-- The document of a page tells its title, as no tag starts in it. -/
theorem title_eq_of_document_eq {markdown : Bool → String → String} {extended : Bool}
    (h : document markdown extended title text = document markdown extended title' text') :
    title = title' := by
  obtain ⟨behind, hbehind⟩ : ∃ behind, "</title>\n</head>\n<body>\n".toList = '<' :: behind :=
    ⟨"/title>\n</head>\n<body>\n".toList, by simp⟩
  unfold document at h
  generalize "</title>\n</head>\n<body>\n" = middle at h hbehind
  simp only [← String.toList_inj, String.toList_append, hbehind, List.append_assoc,
    List.append_cancel_left_eq, List.cons_append] at h
  obtain ⟨htitle, -⟩ := append_cons_inj (Html.not_mem_escape List.mem_cons_self _)
    (Html.not_mem_escape List.mem_cons_self _) h
  exact Html.escape_injective (String.toList_inj.1 htitle)

end Tags

/-! ## Requests -/

/-- A page that is to be rendered, on its site. -/
structure Request where
  site : Site
  job : Job

namespace Request

variable (markdown : Bool → String → String)

/-- The title of the page. -/
def title (request : Request) : String := (request.job.tokens.string? "title").getD ""

/-- The tag of the page. -/
def tag (request : Request) : String := pageTag request.title request.job.text

/-- The document of the page itself. -/
def document (extended : Bool) (request : Request) : String :=
  Renderer.document markdown extended request.title request.job.text

/-- What the page is served, and the caches behind it. -/
def render (extended : Bool) (request : Request) (cache : CacheStore) :
    Except Interruption (String × CacheStore) :=
  (html markdown extended).render request.site request.job cache

/-- The pages use the same cache, and go into the same file. -/
def SamePlace (request other : Request) : Prop :=
  request.site.cache = other.site.cache ∧
    request.job.outputPath.text = other.job.outputPath.text

/-- The text is the document of one of the pages, at the same place and with the same tag. -/
def ServedBy (extended : Bool) (requests : List Request) (request : Request) (output : String) :
    Prop :=
  ∃ other ∈ requests, other.SamePlace request ∧ other.tag = request.tag ∧
    output = other.document markdown extended

end Request

/-- The pages that were rendered since the caches were empty, the last one first, and the caches
    behind them. -/
inductive Rendered (markdown : Bool → String → String) (extended : Bool) :
    List Request → CacheStore → Prop
  | start : Rendered markdown extended [] .empty
  | next {past : List Request} {cache cache' : CacheStore} {request : Request} {output : String} :
      Rendered markdown extended past cache →
      request.render markdown extended cache = .ok (output, cache') →
      Rendered markdown extended (request :: past) cache'

/-- What the caches keep for pages are documents of pages that were rendered, at their places and
    under their tags. -/
def Recorded (markdown : Bool → String → String) (extended : Bool) (past : List Request)
    (cache : CacheStore) : Prop :=
  ∀ handle key tag output, tag ≠ "" → cache.getText? handle pagesBucket key tag = some output →
    ∃ request ∈ past, request.site.cache = handle ∧ request.job.outputPath.text = key ∧
      request.tag = tag ∧ request.document markdown extended = output

section Histories

variable {markdown : Bool → String → String} {extended : Bool} {past : List Request}
  {cache cache' : CacheStore} {request other : Request} {output : String}

/-- A page is served what is kept under its tag, or else its own document, which is kept. -/
theorem Request.render_eq (request : Request) (cache : CacheStore) :
    request.render markdown extended cache =
    match cache.getText? request.site.cache pagesBucket request.job.outputPath.text request.tag with
    | some output => .ok (output, cache)
    | none => .ok (request.document markdown extended, cache.setText request.site.cache pagesBucket
        request.job.outputPath.text request.tag (request.document markdown extended)) := rfl

theorem Request.tag_ne_empty (request : Request) : request.tag ≠ "" := pageTag_ne_empty _ _

/-- **One rendering** keeps the record, and serves the document of a page in it. -/
theorem Recorded.step (h : Recorded markdown extended past cache)
    (hrender : request.render markdown extended cache = .ok (output, cache')) :
    Recorded markdown extended (request :: past) cache' ∧
      request.ServedBy markdown extended (request :: past) output := by
  have hmono : Recorded markdown extended (request :: past) cache := by
    intro handle key tag output htag hkept
    obtain ⟨other, hother, hrecorded⟩ := h handle key tag output htag hkept
    exact ⟨other, List.mem_cons_of_mem _ hother, hrecorded⟩
  rw [Request.render_eq] at hrender
  split at hrender
  · rename_i hkept
    cases hrender
    obtain ⟨other, hother, hcache, hpath, htag, rfl⟩ :=
      hmono _ _ _ _ request.tag_ne_empty hkept
    exact ⟨hmono, other, hother, ⟨hcache, hpath⟩, htag, rfl⟩
  · cases hrender
    refine ⟨?_, request, List.mem_cons_self, ⟨rfl, rfl⟩, rfl, rfl⟩
    intro handle key tag output htag hkept
    rw [getText?_setText] at hkept
    split at hkept
    · rename_i hplace
      obtain ⟨-, rfl, -, rfl⟩ := hplace
      split at hkept
      · rename_i hadmits
        cases hkept
        exact ⟨request, List.mem_cons_self, rfl, rfl, hadmits.resolve_left htag, rfl⟩
      · cases hkept
    · exact hmono handle key tag output htag hkept

/-- **Every history** keeps the record. -/
theorem recorded_of_rendered (h : Rendered markdown extended past cache) :
    Recorded markdown extended past cache := by
  induction h with
  | start => intro handle key tag output _ hkept; cases handle <;> cases hkept
  | next _ hrender ih => exact (ih.step hrender).1

/-- What a page is served from a memory cache is kept, for the next page at its place with its
    tag. -/
theorem Request.render_again
    (hrender : request.render markdown extended cache = .ok (output, cache'))
    (hcache : request.site.cache ≠ .null) (hplace : other.SamePlace request)
    (htag : other.tag = request.tag) :
    other.render markdown extended cache' = .ok (output, cache') := by
  have hkept : cache'.getText? request.site.cache pagesBucket request.job.outputPath.text
      request.tag = some output := by
    rw [render_eq] at hrender
    split at hrender
    · rename_i hkept
      cases hrender
      exact hkept
    · cases hrender
      rw [getText?_setText, if_pos ⟨hcache, rfl, rfl, rfl⟩, if_pos (.inr rfl)]
  rw [render_eq, hplace.1, hplace.2, htag, hkept]

/-- **What a page is served.**  However tags are made from the bytes of title and text, as long as it
    tells different bytes apart: two pages have the same one just if they are the same or one
    runs over into the other.  After every history of renderings a page is rendered, and is served
    the document of a page with its tag that was rendered for the same file and cache, or its own
    one; so it is served its own one if no title so far holds a NUL.  What it is served from a memory
    cache, the next page there is served that has its tag; but the documents of pages with
    different titles are different. -/
theorem served_by_tag (markdown : Bool → String → String) (extended : Bool) :
    (∀ title text, (pageTag title text).toUTF8 = contentBytes title text) ∧
    (∀ (Tag : Type) (digest : ByteArray → Tag), Function.Injective digest →
      ∀ title text title' text', digest (contentBytes title text) = digest (contentBytes title' text') ↔
        (title = title' ∧ text = text') ∨ RunsOver title text title' text' ∨
          RunsOver title' text' title text) ∧
    (∀ past cache request, Rendered markdown extended past cache → ∃ output cache',
      request.render markdown extended cache = .ok (output, cache') ∧
        request.ServedBy markdown extended (request :: past) output ∧
        ((∀ other ∈ request :: past, '\x00' ∉ other.title.toList) →
          output = request.document markdown extended) ∧
        ∀ other : Request, request.site.cache ≠ .null → other.SamePlace request →
          other.tag = request.tag →
          other.render markdown extended cache' = .ok (output, cache')) ∧
    ∀ request other : Request,
      request.document markdown extended = other.document markdown extended →
        request.title = other.title := by
  refine ⟨toUTF8_pageTag, fun _ digest hdigest title text title' text' => ?_,
    fun past cache request h => ?_, fun _ _ => title_eq_of_document_eq⟩
  · rw [hdigest.eq_iff, ← toUTF8_pageTag, ← toUTF8_pageTag, ← pageTag_eq_iff]
    exact String.toByteArray_inj
  · obtain ⟨output, cache', hrender⟩ :
        ∃ output cache', request.render markdown extended cache = .ok (output, cache') := by
      rw [Request.render_eq]
      split <;> exact ⟨_, _, rfl⟩
    obtain ⟨-, hserved⟩ := (recorded_of_rendered h).step hrender
    refine ⟨output, cache', hrender, hserved, fun htitles => ?_,
      fun other => Request.render_again hrender⟩
    obtain ⟨other, hother, -, htag, rfl⟩ := hserved
    obtain ⟨htitle, htext⟩ := pageTag_inj_of_not_mem (htitles other hother)
      (htitles request List.mem_cons_self) htag
    rw [Request.document, Request.document, htitle, htext]

/-! ### Two pages of one file -/

/-- A page of the file `part/index.html`, on a site with a memory cache. -/
def partOf (title text : String) : Request where
  site := ⟨⟨[], ⟨"."⟩⟩, .empty, .memory 0, ⟨"out"⟩⟩
  job := .start ⟨⟨[], ⟨"."⟩⟩, .empty, .memory 0, ⟨"out"⟩⟩ ⟨0, ⟨"part", title, none,
    ⟨"part/index.html"⟩, "/part", .empty, false⟩, [], none, 0⟩ false text

theorem title_partOf (title text : String) : (partOf title text).title = title := by
  rw [Request.title, partOf, Job.start, Tokens.string?_ofNode]
  rfl

/-- A new title is a new page, for a cache that holds the old one. -/
theorem served_by_tag_renamed : ∃ output cache output' cache',
    (partOf "One" "Read this.").render Markdown.toHtml true .empty = .ok (output, cache) ∧
      (partOf "Two" "Read this.").render Markdown.toHtml true cache = .ok (output', cache') ∧
      output' = (partOf "Two" "Read this.").document Markdown.toHtml true ∧
      (id (contentBytes "One" "Read this.") = id (contentBytes "Two" "Read this.") ↔
        ("One" = "Two" ∧ "Read this." = "Read this.") ∨
          RunsOver "One" "Read this." "Two" "Read this." ∨
          RunsOver "Two" "Read this." "One" "Read this.") := by
  obtain ⟨-, hdigest, hserved, -⟩ := served_by_tag Markdown.toHtml true
  obtain ⟨output, cache, hrender, -⟩ := hserved [] .empty (partOf "One" "Read this.") .start
  obtain ⟨output', cache', hrender', -, hown, -⟩ :=
    hserved _ cache (partOf "Two" "Read this.") (.next .start hrender)
  refine ⟨output, cache, output', cache', hrender, hrender', hown ?_,
    hdigest _ id Function.injective_id _ _ _ _⟩
  simp only [List.forall_mem_cons, title_partOf]
  simp

/-- A front matter may hold a NUL, so that two pages have one tag: the second one is served the
    document of the first, which is not its own. -/
theorem page_served_for_another :
    FrontMatter.parse Yaml.reader "title: \"Part\\0One\"" =
        .ok [("title", .string "Part\x00One")] ∧
      contentBytes "Part\x00One" "Read this." = contentBytes "Part" "One\x00Read this." ∧
      ∃ output cache,
        (partOf "Part\x00One" "Read this.").render Markdown.toHtml true .empty =
          .ok (output, cache) ∧
        (partOf "Part" "One\x00Read this.").render Markdown.toHtml true cache =
          .ok (output, cache) ∧
        output ≠ (partOf "Part" "One\x00Read this.").document Markdown.toHtml true := by
  have htag : pageTag "Part" "One\x00Read this." = pageTag "Part\x00One" "Read this." := by
    simp [pageTag]
  have hfirst : (partOf "Part\x00One" "Read this.").render Markdown.toHtml true .empty =
      .ok ((partOf "Part\x00One" "Read this.").document Markdown.toHtml true, _) := rfl
  have hmemory : (CacheHandle.memory 0) ≠ .null := by simp
  refine ⟨by decide +kernel, ?_, _, _, hfirst, Request.render_again hfirst hmemory ⟨rfl, rfl⟩ ?_,
    fun heq => ?_⟩
  · rw [← toUTF8_pageTag, ← toUTF8_pageTag, htag]
  · rw [Request.tag, Request.tag, title_partOf, title_partOf]
    exact htag
  · have htitle := title_eq_of_document_eq heq
    rw [title_partOf, title_partOf] at htitle
    simp at htitle

end Histories

end Renderer

end CourseSite
