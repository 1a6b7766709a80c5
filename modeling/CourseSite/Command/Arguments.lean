/-
  The words of a command line.

  * `Request`: what a command line asks for.
  * `Request.parse`: the request of some words; `UsageError` tells that there is
    none.
-/

namespace CourseSite.Command

/-- What the command `build` is given. -/
structure BuildOptions where
  config : Option String := none
  sourceDirectory : Option String := none
  outputDirectory : Option String := none
  jobs : Option Nat := none
  noCache : Bool := false
  verbose : Bool := false

/-- What a command line asks for. -/
inductive Request where
  | build (options : BuildOptions)
  | extensions
  | version
  | help

/-- Why a command line asks for nothing. -/
inductive UsageError where
  | missingCommand
  | unknownCommand (word : String)
  | unexpectedWord (word : String)
  | missingValue (option : String)
  | invalidValue (option value : String)
  | repeatedOption (option : String)
deriving DecidableEq

/-- The text of an error. -/
def UsageError.message : UsageError → String
  | .missingCommand => "a command is required"
  | .unknownCommand word => "unrecognized command '" ++ word ++ "'"
  | .unexpectedWord word => "unexpected argument '" ++ word ++ "' found"
  | .missingValue option => "a value is required for '" ++ option ++ "'"
  | .invalidValue option value => "invalid value '" ++ value ++ "' for '" ++ option ++ "'"
  | .repeatedOption option => "the argument '" ++ option ++ "' cannot be used multiple times"

/-! ## Options -/

/-- The options of `build`. -/
inductive Choice where
  | config
  | sourceDirectory
  | outputDirectory
  | jobs
  | noCache
  | verbose
  | help
deriving DecidableEq

namespace Choice

/-- The name of an option. -/
def name : Choice → String
  | .config => "--config"
  | .sourceDirectory => "--source-dir"
  | .outputDirectory => "--output-dir"
  | .jobs => "--jobs"
  | .noCache => "--no-cache"
  | .verbose => "--verbose"
  | .help => "--help"

/-- All options. -/
def all : List Choice :=
  [.config, .sourceDirectory, .outputDirectory, .jobs, .noCache, .verbose, .help]

/-- The letter of an option. -/
def letter? : Choice → Option Char
  | .config => some 'c'
  | .sourceDirectory => some 's'
  | .outputDirectory => some 'o'
  | .jobs => some 'j'
  | .noCache => none
  | .verbose => some 'v'
  | .help => some 'h'

/-- The option takes a value. -/
def takesValue : Choice → Bool
  | .noCache | .verbose | .help => false
  | _ => true

end Choice

/-- A number of 64 bits, perhaps with a plus sign. -/
def count? (text : String) : Option Nat :=
  let digits := match text.toList with
    | '+' :: cs => cs
    | cs => cs
  if digits.isEmpty ∨ !digits.all Char.isDigit then none
  else
    let n := digits.foldl (fun n c => 10 * n + (c.toNat - '0'.toNat)) 0
    if n < 0x10000000000000000 then some n else none

/-- The options with one more.  Paths are not empty, and no option comes twice. -/
def BuildOptions.add (options : BuildOptions) (choice : Choice) (value : String) :
    Except UsageError BuildOptions :=
  let path (old : Option String) (set : String → BuildOptions) : Except UsageError BuildOptions :=
    if old.isSome then .error (.repeatedOption choice.name)
    else if value = "" then .error (.missingValue choice.name)
    else .ok (set value)
  let mark (old : Bool) (new : BuildOptions) : Except UsageError BuildOptions :=
    if old then .error (.repeatedOption choice.name) else .ok new
  match choice with
  | .config => path options.config fun value => { options with config := some value }
  | .sourceDirectory =>
    path options.sourceDirectory fun value => { options with sourceDirectory := some value }
  | .outputDirectory =>
    path options.outputDirectory fun value => { options with outputDirectory := some value }
  | .jobs =>
    if options.jobs.isSome then .error (.repeatedOption choice.name)
    else
      match count? value with
      | none => .error (.invalidValue choice.name value)
      | some n => .ok { options with jobs := some n }
  | .noCache => mark options.noCache { options with noCache := true }
  | .verbose => mark options.verbose { options with verbose := true }
  | .help => .ok options

/-! ## Words -/

/-- What becomes of one word and the words behind it. -/
inductive Reading where
  | done (options : BuildOptions) (rest : List String)
  | help

/-- An option with its value, which may be the next word. -/
def withValue (options : BuildOptions) (choice : Choice) (attached : Option String)
    (rest : List String) : Except UsageError Reading :=
  match attached, rest with
  | some value, rest => (options.add choice value).map (.done · rest)
  | none, value :: rest =>
    if value.toList.head? = some '-' ∧ value ≠ "-" then .error (.missingValue choice.name)
    else (options.add choice value).map (.done · rest)
  | none, [] => .error (.missingValue choice.name)

/-- Options by their letters, in one word; the value of one takes the rest of it. -/
def letters (options : BuildOptions) (word : String) (rest : List String) :
    List Char → Except UsageError Reading
  | [] => .ok (.done options rest)
  | c :: cs =>
    match Choice.all.find? fun choice => choice.letter? = some c with
    | none => .error (.unexpectedWord word)
    | some .help => .ok .help
    | some choice =>
      if choice.takesValue then
        let attached := match cs with
          | [] => none
          | '=' :: cs => some (String.ofList cs)
          | cs => some (String.ofList cs)
        withValue options choice attached rest
      else
        match options.add choice "" with
        | .error error => .error error
        | .ok options => letters options word rest cs

/-- An option by its name, perhaps with a value behind an equals sign. -/
def named (options : BuildOptions) (word : String) (rest : List String) :
    Except UsageError Reading :=
  let name := String.ofList (word.toList.takeWhile (· != '='))
  let attached := match word.toList.dropWhile (· != '=') with
    | [] => none
    | _ :: cs => some (String.ofList cs)
  match Choice.all.find? (·.name == name) with
  | none => .error (.unexpectedWord word)
  | some choice =>
    if choice.takesValue then withValue options choice attached rest
    else if attached.isSome then .error (.unexpectedWord word)
    else if choice = .help then .ok .help
    else (options.add choice "").map (.done · rest)

/-- The options of `build` in some words; none if help is asked for. -/
def buildWords : Nat → BuildOptions → List String → Except UsageError (Option BuildOptions)
  | 0, options, _ => .ok (some options)
  | _ + 1, options, [] => .ok (some options)
  | fuel + 1, options, word :: rest =>
    let reading : Except UsageError Reading := match word.toList with
      | ['-', '-'] =>
        match rest with
        | [] => .ok (.done options [])
        | word :: _ => .error (.unexpectedWord word)
      | '-' :: '-' :: _ => named options word rest
      | '-' :: c :: cs => letters options word rest (c :: cs)
      | _ => .error (.unexpectedWord word)
    match reading with
    | .error error => .error error
    | .ok .help => .ok none
    | .ok (.done options rest) => buildWords fuel options rest

/-! ## Requests -/

/-- The word asks by its name or by its first letter; what follows that letter does
    not count. -/
def asks (word name : String) (letter : Char) : Bool :=
  word = name || match word.toList with
    | '-' :: c :: _ => c = letter
    | _ => false

/-- The number of jobs that the environment asks for counts if no option does. -/
def BuildOptions.withJobs (options : BuildOptions) (jobs : Option String) :
    Except UsageError BuildOptions :=
  match options.jobs, jobs with
  | none, some value => options.add .jobs value
  | _, _ => .ok options

/-- The request of a command line; `jobs` is what the environment says about the
    number of jobs. -/
def Request.parse (jobs : Option String) : List String → Except UsageError Request
  | [] => .error .missingCommand
  | "build" :: words =>
    match buildWords (words.length + 1) {} words with
    | .error error => .error error
    | .ok none => .ok .help
    | .ok (some options) => (options.withJobs jobs).map .build
  | "extensions" :: words =>
    match words with
    | [] | ["--"] => .ok .extensions
    | "--" :: word :: _ => .error (.unexpectedWord word)
    | word :: _ =>
      if asks word "--help" 'h' then .ok .help else .error (.unexpectedWord word)
  | "help" :: words =>
    match words with
    | [] | ["build"] | ["extensions"] | ["help"] => .ok .help
    | word :: _ => .error (.unknownCommand word)
  | word :: _ =>
    if asks word "--version" 'V' then .ok .version
    else if asks word "--help" 'h' then .ok .help
    else if word.toList.head? = some '-' then .error (.unexpectedWord word)
    else .error (.unknownCommand word)

end CourseSite.Command
