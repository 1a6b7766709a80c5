/-
  The extensions of every build.

      @Title()                    the title of the page
      @Url()                      the address of the page
      @Link(href)                 a Markdown link
      @Link(href, text)
      @Image(src)                 an image element
      @Image(src, width)
      @Include(path)              the text of a file near the page
      @Quiz(question, answers)    a multiple choice block

  * `builtins`: all of them.
-/
import CourseSite.Directive.Registry
import CourseSite.Text.Html

namespace CourseSite.Directive

namespace Builtin

/-- An argument, or the failure that it cannot be read. -/
def need {α : Type} (argument : Except ArgumentError α) : Except Failure α :=
  argument.mapError .argument

/-- The extension of a name, signatures and a result. -/
def define (name : String) (signatures : List (List Param))
    (result : FileSystem → PageInfo → BoundArguments → Except Failure String) : Extension :=
  ⟨name, signatures.map Signature.mk, fun fs page arguments => .ofExcept (result fs page arguments)⟩

/-- The title of the page. -/
def title : Extension := define "Title" [[]] fun _ page _ => .ok page.title

/-- The address of the page. -/
def url : Extension := define "Url" [[]] fun _ page _ => .ok page.url

/-- A Markdown link; without a text the address is its own text. -/
def link : Extension :=
  define "Link" [[⟨"href", .string⟩], [⟨"href", .string⟩, ⟨"text", .string⟩]]
    fun _ _ arguments => do
      let href ← need (arguments.string 0)
      let text ← if arguments.values.length > 1 then need (arguments.string 1) else .ok href
      return "[" ++ text ++ "](" ++ href ++ ")"

/-- An image element, with a width if one is given, which has to be positive. -/
def image : Extension :=
  define "Image" [[⟨"src", .string⟩], [⟨"src", .string⟩, ⟨"width", .float⟩]]
    fun _ _ arguments => do
      let src ← need (arguments.string 0)
      let start := "<img src=\"" ++ Html.escape src ++ "\""
      if arguments.values.length = 1 then return start ++ ">"
      let width ← need (arguments.float 1)
      if width.isAtMostZero then .error (.width width)
      else return start ++ " width=\"" ++ width.render .plain ++ "\">"

/-- The text of a file at or below the directory of the page. -/
def includeFile : Extension :=
  define "Include" [[⟨"path", .string⟩]] fun fs page arguments => do
    let relative ← need (arguments.string 0)
    match page.resolve? fs relative with
    | none => .error (.notIncluded relative page.baseDirectory)
    | some location =>
      (fs.readText (.ofNames location)).mapError (.unreadable (.ofNames location))

/-! ## Quizzes -/

/-- An answer of a quiz. -/
structure Answer where
  text : String
  correct : Bool

/-- The type of an answer: its text, and whether it is correct. -/
def answerType : ParamType :=
  .record "Answer" [⟨"text", .string, true⟩, ⟨"correct", .bool, false⟩]

/-- An answer read from the members of an object, others than its own ignored; one
    that does not say so is not correct. -/
def answer : Reader Answer where
  expected := "an answer"
  read
    | .object members => do
      let text ← (Fields.get? members "text").bind Reader.string.read
      match Fields.get? members "correct" with
      | none => return ⟨text, false⟩
      | some correct => return ⟨text, ← Reader.bool.read correct⟩
    | _ => none

/-- The list item of an answer in the radio group `group`. -/
def renderAnswer (group : String) (index : Nat) (answer : Answer) : String :=
  "\n<li><label><input type=\"radio\" name=\"" ++ group ++ "\" value=\"" ++ toString index ++
    "\" data-correct=\"" ++ (if answer.correct then "true" else "false") ++ "\"> " ++
    Html.escape answer.text ++ "</label></li>"

/-- The block of a quiz on a line. -/
def renderQuiz (line : Nat) (question : String) (answers : List Answer) : String :=
  "<div class=\"quiz\">\n<p>" ++ Html.escape question ++ "</p>\n<ul>" ++
    String.join (answers.mapIdx (renderAnswer s!"quiz-{line}")) ++ "\n</ul>\n</div>"

/-- A multiple choice block with at least one correct answer. -/
def quiz : Extension :=
  define "Quiz" [[⟨"question", .string⟩, ⟨"answers", .array answerType⟩]]
    fun _ page arguments => do
      let question ← need (arguments.string 0)
      let answers ← need (arguments.read (.list answer) 1)
      if answers.isEmpty then .error .noAnswers
      else if !answers.any (·.correct) then .error .noCorrectAnswer
      else return renderQuiz page.line question answers

end Builtin

/-- The extensions of every build, in the order of their registration. -/
def builtins : List Extension :=
  [Builtin.title, Builtin.url, Builtin.link, Builtin.image, Builtin.includeFile, Builtin.quiz]

end CourseSite.Directive
