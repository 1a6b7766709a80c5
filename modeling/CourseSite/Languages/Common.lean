/-
  The common forms of the languages.
-/
import CourseSite.Languages
import CourseSite.Markdown.Html
import CourseSite.Toml.Document
import CourseSite.Yaml.Read

namespace CourseSite

/-- YAML by the core schema, TOML, and Markdown as most programs have it. -/
def Languages.common : Languages := ⟨Yaml.reader, Toml.reader, Markdown.toHtml⟩

end CourseSite
