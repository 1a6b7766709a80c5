/-
  A file system without links as a pure value.

  * `Location`: the names from the root to a file or directory.
  * `FileSystem`: what stands at each location, and the current directory; the
    root is always a directory.
  * `FileSystem.locate`: the location that a path leads to; every name but the
    last has to lead through a directory.
  * `FileSystem.place`: where the last name of a path is to be looked up.
  * `readText`, `write`, `createDirectories`: the operations, with the error of
    the operating system as a `FileError`.
-/
import CourseSite.Files.Path

namespace CourseSite

/-- The names from the root down. -/
abbrev Location := List String

/-- What can stand at a location. -/
inductive Entry where
  | file (data : ByteArray)
  | directory

/-- Why a file operation fails. -/
inductive FileError where
  | notFound
  | alreadyExists
  | notADirectory
  | isADirectory
  | nameTooLong
  | nulByte
  | invalidText
deriving DecidableEq

/-- The text of a file error. -/
def FileError.message : FileError → String
  | .notFound => "No such file or directory (os error 2)"
  | .alreadyExists => "File exists (os error 17)"
  | .notADirectory => "Not a directory (os error 20)"
  | .isADirectory => "Is a directory (os error 21)"
  | .nameTooLong => "File name too long (os error 36)"
  | .nulByte => "file name contained an unexpected NUL byte"
  | .invalidText => "stream did not contain valid UTF-8"

/-- The entries of a file system and the current directory. -/
structure FileSystem where
  entries : List (Location × Entry)
  current : Location

namespace FileSystem

/-- A file system that holds the root alone. -/
def empty : FileSystem := ⟨[], []⟩

/-- What stands at a location. -/
def entry? (fs : FileSystem) (location : Location) : Option Entry :=
  if location = [] then some .directory
  else (fs.entries.find? (·.1 == location)).map (·.2)

/-- The entries with one location set. -/
def putEntry (location : Location) (entry : Entry) :
    List (Location × Entry) → List (Location × Entry)
  | [] => [(location, entry)]
  | (other, old) :: entries =>
    if other = location then (location, entry) :: entries
    else (other, old) :: putEntry location entry entries

/-- The file system with one location set. -/
def put (fs : FileSystem) (location : Location) (entry : Entry) : FileSystem :=
  { fs with entries := putEntry location entry fs.entries }

/-- The file system without a location and all that lies below it. -/
def remove (fs : FileSystem) (location : Location) : FileSystem :=
  { fs with entries := fs.entries.filter fun (other, _) => !location.isPrefixOf other }

/-- The greatest number of names in a location. -/
def height (fs : FileSystem) : Nat :=
  fs.entries.foldl (fun height (location, _) => max height location.length) 0

/-! ## Walking a path -/

/-- The longest name of a file or directory, in bytes. -/
def longestName : Nat := 255

/-- The longest path that can be looked up, in bytes. -/
def longestPath : Nat := 4095

/-- The location that names lead to from `location`; only the last one may be
    absent. -/
def walk (fs : FileSystem) (location : Location) : List String → Except FileError Location
  | [] => .ok location
  | name :: names =>
    match fs.entry? location with
    | none => .error .notFound
    | some (.file _) => .error .notADirectory
    | some .directory =>
      if name = "" ∨ name = "." then walk fs location names
      else if name = ".." then walk fs location.dropLast names
      else if longestName < name.utf8ByteSize then .error .nameTooLong
      else walk fs (location ++ [name]) names

/-- The location that a path starts from. -/
def start (fs : FileSystem) (path : Path) : Location := if path.isAbsolute then [] else fs.current

/-- The location that a path of any length leads to, and the entry there. -/
def follow (fs : FileSystem) (path : Path) : Except FileError (Location × Entry) :=
  if path.text.toList.contains '\x00' then .error .nulByte
  else if path.text = "" then .error .notFound
  else
    match fs.walk (fs.start path) path.names with
    | .error e => .error e
    | .ok location =>
      match fs.entry? location with
      | none => .error .notFound
      | some entry => .ok (location, entry)

/-- Why a text can be no path, whatever the file system holds. -/
def fault? (path : Path) : Option FileError :=
  if path.text.toList.contains '\x00' then some .nulByte
  else if path.text = "" then some .notFound
  else if longestPath < path.text.utf8ByteSize then some .nameTooLong
  else none

/-- The location and the entry that a path leads to. -/
def locate (fs : FileSystem) (path : Path) : Except FileError (Location × Entry) :=
  match fault? path with
  | some e => .error e
  | none => fs.follow path

/-- Where the last name of a path belongs: the directory to look in, the name unless
    it is the root or made of dots, and whether slashes follow it. -/
structure Place where
  directory : Location
  name? : Option String
  slashed : Bool

/-- Where the last name of a path belongs.  The names before it lead to a directory. -/
def place (fs : FileSystem) (path : Path) : Except FileError Place :=
  match fault? path with
  | some e => .error e
  | none =>
    let slashes := path.names.reverse.takeWhile (· = "")
    match path.names.reverse.drop slashes.length with
    | [] => .ok ⟨[], none, true⟩
    | name :: before =>
      match fs.walk (fs.start path) before.reverse with
      | .error e => .error e
      | .ok directory =>
        match fs.entry? directory with
        | none => .error .notFound
        | some (.file _) => .error .notADirectory
        | some .directory =>
          .ok ⟨directory, if name = "." ∨ name = ".." then none else some name, !slashes.isEmpty⟩

/-- The path leads somewhere. -/
def exists? (fs : FileSystem) (path : Path) : Bool := (fs.locate path).isOk

/-- The path leads to a file. -/
def isFile (fs : FileSystem) (path : Path) : Bool :=
  match fs.locate path with
  | .ok (_, .file _) => true
  | _ => false

/-- The path leads to a directory. -/
def isDirectory (fs : FileSystem) (path : Path) : Bool :=
  match fs.locate path with
  | .ok (_, .directory) => true
  | _ => false

/-! ## Reading and writing -/

/-- The bytes of a file. -/
def read (fs : FileSystem) (path : Path) : Except FileError ByteArray :=
  match fs.locate path with
  | .error e => .error e
  | .ok (_, .directory) => .error .isADirectory
  | .ok (_, .file data) => .ok data

/-- The text of a file. -/
def readText (fs : FileSystem) (path : Path) : Except FileError String :=
  match fs.read path with
  | .error e => .error e
  | .ok data =>
    match String.fromUTF8? data with
    | none => .error .invalidText
    | some text => .ok text

/-- The file system after writing a file, whose directory has to exist. -/
def write (fs : FileSystem) (path : Path) (data : ByteArray) : Except FileError FileSystem :=
  match fs.place path with
  | .error e => .error e
  | .ok ⟨_, none, _⟩ | .ok ⟨_, _, true⟩ => .error .isADirectory
  | .ok ⟨directory, some name, false⟩ =>
    if longestName < name.utf8ByteSize then .error .nameTooLong
    else
      match fs.entry? (directory ++ [name]) with
      | some .directory => .error .isADirectory
      | _ => .ok (fs.put (directory ++ [name]) (.file data))

/-- The file system with the directories that names lead through from `location`, and
    why the last one cannot be made.  The names are tried from the last one down to
    one whose directory exists, so that `made` tells whether one was missing: only
    then a file in the way is tried itself. -/
def createAlong (fs : FileSystem) (made : Bool) (location : Location) :
    List String → FileSystem × Option FileError
  | [] => (fs, none)
  | name :: names =>
    if name = "" ∨ name = "." then createAlong fs made location names
    else if name = ".." then createAlong fs made location.dropLast names
    else if longestName < name.utf8ByteSize then (fs, some .nameTooLong)
    else
      match fs.entry? (location ++ [name]) with
      | some .directory => createAlong fs made (location ++ [name]) names
      | some (.file _) =>
        (fs, some (if made || names.all (· = "") then .alreadyExists else .notADirectory))
      | none =>
        createAlong (fs.put (location ++ [name]) .directory) true (location ++ [name]) names

/-- The file system with a directory and all directories above it, as far as they can
    be made. -/
def createDirectories (fs : FileSystem) (path : Path) : FileSystem × Option FileError :=
  if path.text = "" then (fs, none)
  else
    match fault? path with
    | some e => (fs, some e)
    | none => fs.createAlong false (fs.start path) path.names

end FileSystem

end CourseSite
