/-
  From the text of a page to what is written.

  * `Renderer`: a way to render a page.  It may keep what it made in the cache.
  * `Renderer.plain`: the text as it is.
  * `Renderer.html`: the text as Markdown in an HTML document, however Markdown is converted.
-/
import CourseSite.Site.Stage
import CourseSite.Text.Html

namespace CourseSite

/-- How a rendering stops short: by an error with its reason, or by a crash. -/
inductive Renderer.Interruption where
  | error (reason : String)
  | crash

/-- A reason alone stands for an error. -/
instance : Coe String Renderer.Interruption := ⟨.error⟩

/-- A way to render the text of a page. -/
structure Renderer where
  render : Site → Job → CacheStore → Except Renderer.Interruption (String × CacheStore)

namespace Renderer

/-- The text as it is. -/
def plain : Renderer := ⟨fun _ job cache => .ok (job.text, cache)⟩

section
variable (markdown : Bool → String → String)

/-- The HTML document of a Markdown text. -/
def document (extended : Bool) (title text : String) : String :=
  "<!DOCTYPE html>\n<html>\n<head>\n<meta charset=\"utf-8\">\n<title>" ++ Html.escape title ++
    "</title>\n</head>\n<body>\n" ++ markdown extended text ++ "</body>\n</html>\n"

/-- The bucket of rendered pages. -/
def pagesBucket : String := "pages"

/-- The tag under which a rendered page is kept: its title and its text, with a
    character in between that a title does not need. -/
def pageTag (title text : String) : String := title ++ "\x00" ++ text

/-- The text as Markdown, perhaps with tables, task lists and the like.  A page is
    rendered again only if its title or its text has changed. -/
def html (extended : Bool) : Renderer where
  render site job cache :=
    let title := (job.tokens.string? "title").getD ""
    let key := job.outputPath.text
    let tag := pageTag title job.text
    match cache.getText? site.cache pagesBucket key tag with
    | some output => .ok (output, cache)
    | none =>
      let output := document markdown extended title job.text
      .ok (output, cache.setText site.cache pagesBucket key tag output)

end

end Renderer

/-- The text becomes what the renderer makes of it. -/
def Stage.renderText (renderer : Renderer) : Move := fun site job workspace =>
  match renderer.render site job workspace.cache with
  | .error (.error reason) => .fail (.render reason) workspace
  | .error .crash => .crash
  | .ok (text, cache) => .proceed { job with text := text } { workspace with cache := cache }

/-- The text is rendered. -/
def Stage.render (renderer : Renderer) : Stage where
  name := "render"
  moves := [renderText renderer]

end CourseSite
