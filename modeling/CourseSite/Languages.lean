/-
  The languages beside directives: how YAML and TOML are read, and how Markdown becomes HTML.
-/
import CourseSite.Toml.Value
import CourseSite.Yaml.Value

namespace CourseSite

/-- How texts in other languages are read and converted. -/
structure Languages where
  yaml : Yaml.Reader
  toml : Toml.Reader
  /-- The HTML of a Markdown text, perhaps with tables, task lists and the like. -/
  markdown : Bool → String → String

end CourseSite
