/-
  The program: what a command line concerns is read from the disk, `Command.run` says
  what comes of it, and the files that it wrote are put on the disk.
-/
import CourseSite.Command.Run
import CourseSite.Languages.Common

namespace CourseSite.Disk

/-- The location of a path, seen from a directory. -/
def location (current : Location) (path : Path) : Location :=
  path.names.foldl
    (fun location name =>
      if name = "" ∨ name = "." then location
      else if name = ".." then location.dropLast
      else location ++ [name])
    (if path.isAbsolute then [] else current)

/-- The file system with what stands at a location, and perhaps all that lies below. -/
partial def look (below : Bool) (files : FileSystem) (location : Location) : IO FileSystem := do
  let path := (← IO.currentDir) / (Path.ofNames location).text
  if ← path.isDir then
    let mut files := files.put location .directory
    if below then
      for entry in ← path.readDir do
        files ← look true files (location ++ [entry.fileName])
    return files
  else if ← path.pathExists then return files.put location (.file (← IO.FS.readBinFile path))
  else return files

/-- The file system with all that lies at a path and with the directories above it. -/
def lookUp (files : FileSystem) (path : Path) : IO FileSystem := do
  let location := location files.current path
  let mut files := files
  for depth in List.range location.length do
    if depth ≠ 0 then files ← look false files (location.take depth)
  look true files location

/-- The variables of the environment, as the system lists them. -/
def environment : IO Settings.Environment := do
  let text ← try IO.FS.readFile "/proc/self/environ" catch _ => pure ""
  return (Text.split (· = '\x00') text.toList).filterMap fun entry =>
    let name := entry.takeWhile (· ≠ '=')
    if name.length < entry.length then
      some (String.ofList name, String.ofList (entry.drop (name.length + 1)))
    else none

/-- What a command line depends on. -/
def surroundings (words : List String) : IO Settings.Surroundings := do
  let current := location [] ⟨(← IO.currentDir).toString⟩
  let mut files ← lookAll ⟨[], current⟩ (Command.settingsFiles current words)
  let environment ← environment
  files ← lookAll files (Command.directories ⟨files, environment, 1, .common⟩ words)
  return ⟨files, environment, 1, .common⟩
where
  /-- The file system with all that lies at some paths. -/
  lookAll (files : FileSystem) (paths : List Path) : IO FileSystem := paths.foldlM lookUp files

/-- Puts on the disk what a file system has that an earlier one did not have. -/
def store (before after : FileSystem) : IO Unit := do
  for (location, entry) in after.entries do
    let path := (← IO.currentDir) / (Path.ofNames location).text
    match entry, before.entry? location with
    | .directory, none => IO.FS.createDirAll path
    | .directory, some _ => pure ()
    | .file data, some (.file old) => if data != old then IO.FS.writeBinFile path data
    | .file data, _ => IO.FS.writeBinFile path data

/-- A time in milliseconds as seconds with two places. -/
def seconds (milliseconds : Nat) : String :=
  let hundredths := (milliseconds + 5) / 10
  let places := toString (hundredths % 100)
  toString (hundredths / 100) ++ "." ++ (if places.length = 1 then "0" ++ places else places)

end CourseSite.Disk

open CourseSite in
/-- Carries out a command line. -/
def main (words : List String) : IO UInt32 := do
  let start ← IO.monoMsNow
  let around ← Disk.surroundings words
  let report := Command.run around words
  Disk.store around.files report.files
  let elapsed := (← IO.monoMsNow) - start
  for notice in report.notices do
    let time := match notice with
      | .built _ => " in " ++ Disk.seconds elapsed ++ "s"
      | _ => ""
    IO.eprintln (notice.text ++ time)
  IO.print report.output
  return UInt32.ofNat report.exitCode
