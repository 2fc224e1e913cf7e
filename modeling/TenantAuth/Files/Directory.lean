import TenantAuth.Text.Utf8

/-!
# Files

The files that a program can read: a working directory with the files below it, and a few absolute
places. Reading follows a path part by part and says why it fails.
-/
namespace TenantAuth

/-- Why a file cannot be read. -/
inductive FileFault where
  | notFound
  | notDirectory
  | isDirectory
  | nameTooLong
  | nulInName
  | notUtf8
  deriving DecidableEq

/-- The words for a fault. -/
def FileFault.message : FileFault → String
  | .notFound => "No such file or directory (os error 2)"
  | .notDirectory => "Not a directory (os error 20)"
  | .isDirectory => "Is a directory (os error 21)"
  | .nameTooLong => "File name too long (os error 36)"
  | .nulInName => "file name contained an unexpected NUL byte"
  | .notUtf8 => "stream did not contain valid UTF-8"

/-- Files by their paths, relative to the working directory or absolute, and the directories there
are besides. -/
structure Directory where
  files : List (String × Bytes)
  directories : List String

namespace Directory

/-- The names in a path; empty ones stand where slashes touch or end it. -/
def names (path : String) : List String := (path.toList.splitOn '/').map String.ofList

/-- The names of a path that say something. -/
def steps (path : String) : List String := (names path).filter fun n => n ≠ "" && n ≠ "."

/-- A path starts at the root. -/
def isAbsolute (path : String) : Bool := path.toList.head? = some '/'

/-- What a place holds. -/
inductive Entry where
  | file (content : Bytes)
  | directory
  | nothing

/-- What stands at a place, given by the names that lead to it. -/
def entry (d : Directory) (absolute : Bool) (place : List String) : Entry :=
  match d.files.find? fun f => isAbsolute f.1 = absolute && steps f.1 = place with
  | some f => .file f.2
  | none =>
    let below := d.files.any fun f =>
      isAbsolute f.1 = absolute && place.isPrefixOf (steps f.1)
    let known := d.directories.any fun p => isAbsolute p = absolute && place.isPrefixOf (steps p)
    if place.isEmpty || below || known then .directory else .nothing

/-- What stands outside the working directory at the end of the given names: nothing that is known
but the directories on the way up. -/
def outside (rest : List String) : Entry :=
  if rest.all fun n => n = "" || n = "." || n = ".." then .directory else .nothing

/-- Follows the names of a path from the place `visited` (in reverse). -/
def walk (d : Directory) (absolute : Bool) : List String → List String → Except FileFault Entry
  | visited, [] => .ok (d.entry absolute visited.reverse)
  | visited, name :: rest =>
    match d.entry absolute visited.reverse with
    | .nothing => .error .notFound
    | .file _ => .error .notDirectory
    | .directory =>
      if name = "" || name = "." then walk d absolute visited rest
      else if name = ".." then
        if visited.isEmpty && !absolute then .ok (outside rest)
        else walk d absolute visited.tail rest
      else if 255 < name.utf8ByteSize then .error .nameTooLong
      else walk d absolute (name :: visited) rest

/-- The content of the file at a path. -/
def read (d : Directory) (path : String) : Except FileFault Bytes := do
  if path.isEmpty then throw .notFound
  if path.toList.contains '\x00' then throw .nulInName
  if 4096 ≤ path.utf8ByteSize then throw .nameTooLong
  match ← d.walk (isAbsolute path) [] (names path) with
  | .file content => return content
  | .directory => throw .isDirectory
  | .nothing => throw .notFound

/-- The content of the file at a path as a text. -/
def readText (d : Directory) (path : String) : Except FileFault String := do
  match Text.ofBytes? (← d.read path) with
  | some s => return s
  | none => throw .notUtf8

end Directory

end TenantAuth
