/-
  The named values that a page carries through its pipeline.

  * `Tokens`: scalars by key, in ascending order of the keys.
  * `Tokens.ofNode`: what a page starts with: its settings, and on top of them
    its title, address, entry and depth.
-/
import CourseSite.Content.Tree

namespace CourseSite

/-- Scalars by key. -/
abbrev Tokens := Dictionary Scalar

/-- The text of a token that holds a string. -/
def Tokens.string? (tokens : Tokens) (key : String) : Option String :=
  (Dictionary.get? tokens key).bind Scalar.asString?

/-- The tokens that a page starts with. -/
def Tokens.ofNode (tree : ContentTree) (node : Node) : Tokens :=
  [("title", .string node.page.title), ("url", .string node.page.url),
    ("id", .string node.page.name), ("depth", .number (Double.ofInt (tree.depth node)))].foldl
    (fun tokens (key, scalar) => Dictionary.insert key scalar tokens) node.page.metadata

end CourseSite
