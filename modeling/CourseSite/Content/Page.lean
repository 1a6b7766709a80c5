/-
  The pages of a course.

  * `Page`: one page, or a directory that has no page of its own.
  * `Page.isVirtual`, `Page.isAggregate`: directories without a page, and pages whose children
    go into one file.
-/
import CourseSite.Content.Scalar
import CourseSite.Files.Path
import CourseSite.Text.Dictionary

namespace CourseSite

/-- A page. -/
structure Page where
  /-- The entry in the manifest; `default` for the root. -/
  name : String
  title : String
  /-- The document; a directory without a `default` entry has none. -/
  source : Option Path
  /-- The output file, seen from the output directory. -/
  output : Path
  /-- The address, `/` for the root. -/
  url : String
  /-- The scalar settings of the front matter. -/
  metadata : Dictionary Scalar
  /-- The page is the `default` entry of its directory. -/
  isDefault : Bool

namespace Page

/-- There is no document behind the page. -/
def isVirtual (page : Page) : Bool := page.source.isNone

/-- The directory of the document. -/
def sourceDirectory? (page : Page) : Option Path := page.source.bind Path.parent?

/-- The value of a setting. -/
def setting? (page : Page) (key : String) : Option Scalar := Dictionary.get? page.metadata key

/-- The texts of the pages right below this one go into one file. -/
def isAggregate (page : Page) : Bool := (page.setting? "aggregate").any Scalar.isTrue

end Page

end CourseSite
