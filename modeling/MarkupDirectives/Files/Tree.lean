import Std.Data.TreeMap
import MarkupDirectives.Text.Basic

namespace MarkupDirectives

/-!
# Files and directories

A file tree holds files and directories by their locations.  A path is a text
that is followed name by name from a current directory, and each name is looked
up in a directory.
-/

/-- The names that lead from the root to a file or directory. -/
abbrev Location := List Text

namespace Location

/-- The path of a location, which begins at the root. -/
def path (location : Location) : Text := location.flatMap fun name => '/' :: name

/-- The location that a name has in a directory.  A point is the directory
itself, and two points are the one above it. -/
def child (directory : Location) (name : Text) : Location :=
  if name = ['.'] then directory
  else if name = ['.', '.'] then directory.dropLast
  else directory ++ [name]

/-- A directory and all locations passed when names are followed from there. -/
def along (directory : Location) : List Text -> List Location
  | [] => [directory]
  | name :: names => directory :: (directory.child name).along names

/-- A directory and all directories above it, the nearest first. -/
def upwards (directory : Location) : List Location :=
  (List.range (directory.length + 1)).map fun count => directory.take (directory.length - count)

end Location

/-- Why a file could not be read or written. -/
inductive FileError where
  | notFound
  | notDirectory
  | isDirectory
  | nameTooLong
  | notUtf8
  /-- The system refuses, in these words. -/
  | refused (reason : String)
  deriving DecidableEq

def FileError.message : FileError -> String
  | notFound => "No such file or directory (os error 2)"
  | notDirectory => "Not a directory (os error 20)"
  | isDirectory => "Is a directory (os error 21)"
  | nameTooLong => "File name too long (os error 36)"
  | notUtf8 => "stream did not contain valid UTF-8"
  | refused reason => reason

inductive Stored where
  | file (content : ByteArray)
  | directory

/-- What is done with a file or directory.  To make a file is to write its
directory. -/
inductive Access where
  | pass
  | read
  | write
  deriving DecidableEq

/-- Files and directories by their locations, and what the system refuses to do
with them, for want of a permission or for any other reason. -/
structure FileTree where
  stored : Std.TreeMap Location Stored
  refusal? : Access -> Location -> Option String

/-- The names in a text, if a character comes in front of it.  A slash ends one
name in front of the first. -/
def consChar : (c : Char) -> (names : List Text) -> List Text
  | '/', names => [] :: names
  | c, name :: names => (c :: name) :: names
  | c, [] => [[c]]

/-- The names in a path, without empty ones. -/
def pathNames (path : Text) : List Text := (path.foldr consChar [[]]).filter (· ≠ [])

namespace FileTree

/-- The tree without any file, in which nothing is refused. -/
def empty : FileTree := ⟨Std.TreeMap.empty, fun _ _ => none⟩

def lookup? (tree : FileTree) : Location -> Option Stored
  | [] => some .directory
  | location => tree.stored[location]?

/-- The tree with something else at a location. -/
def insert (tree : FileTree) (location : Location) (stored : Stored) : FileTree :=
  { tree with stored := tree.stored.insert location stored }

/-- The tree in which the system refuses something more. -/
def refuse (tree : FileTree) (access : Access) (location : Location) (reason : String) :
    FileTree :=
  { tree with
    refusal? := fun other place =>
      if other = access ∧ place = location then some reason else tree.refusal? other place }

/-- The tree with something at a location and directories above it. -/
def place (tree : FileTree) (location : Location) (stored : Stored) : FileTree :=
  let above := (List.range location.length).map location.take
  (above.foldl (fun tree directory => tree.insert directory .directory) tree).insert location stored

/-- How many bytes a single name may have. -/
def maxNameWidth : Nat := 255

def maxPathWidth : Nat := 4095

/-- The error of an access that the system refuses. -/
def permit (tree : FileTree) (access : Access) (location : Location) : Except FileError Unit :=
  match tree.refusal? access location with
  | some reason => .error (.refused reason)
  | none => .ok ()

/-- Names can be looked up at the location. -/
def pass (tree : FileTree) (location : Location) : Except FileError Unit :=
  match tree.lookup? location with
  | none => .error .notFound
  | some (.file _) => .error .notDirectory
  | some .directory => tree.permit .pass location

/-- The location to which names lead from a directory.  Nothing need be at the
last of them. -/
def follow (tree : FileTree) : List Text -> Location -> Except FileError Location
  | [], place => .ok place
  | name :: names, place => do
      tree.pass place
      if maxNameWidth < name.width then throw .nameTooLong
      tree.follow names (place.child name)

end FileTree

/-- A file tree, and the directory from which paths lead. -/
structure Workspace where
  tree : FileTree
  directory : Location

namespace Workspace

/-- Where a path begins. -/
def origin (workspace : Workspace) (path : Text) : Location :=
  if path.head? = some '/' then [] else workspace.directory

/-- A slash at the end of a path asks for a directory. -/
def asksForDirectory (path : Text) : Bool := path.getLast? == some '/'

/-- The location of a path, and what is there. -/
def resolve (workspace : Workspace) (path : Text) : Except FileError (Location × Stored) := do
  if path = [] then throw .notFound
  if FileTree.maxPathWidth < path.width then throw .nameTooLong
  let location ← workspace.tree.follow (pathNames path) (workspace.origin path)
  match workspace.tree.lookup? location with
  | none => throw .notFound
  | some .directory => return (location, .directory)
  | some (.file content) =>
      if asksForDirectory path then throw .notDirectory
      return (location, .file content)

def contains (workspace : Workspace) (path : Text) : Bool :=
  (workspace.resolve path).toOption.isSome

def readText (workspace : Workspace) (path : Text) : Except FileError Text := do
  let (location, stored) ← workspace.resolve path
  workspace.tree.permit .read location
  match stored with
  | .directory => throw .isDirectory
  | .file content =>
      match content.utf8Decode? with
      | some text => return text.toList
      | none => throw .notUtf8

/-- The location of a file that is to be written, which need not exist yet. -/
def writable (workspace : Workspace) (path : Text) : Except FileError Location := do
  if path = [] then throw .notFound
  if FileTree.maxPathWidth < path.width then throw .nameTooLong
  let names := pathNames path
  let parent ← workspace.tree.follow names.dropLast (workspace.origin path)
  workspace.tree.pass parent
  match names.getLast? with
  | none => throw .isDirectory
  | some name =>
      if asksForDirectory path ∨ name = ['.'] ∨ name = ['.', '.'] then throw .isDirectory
      if FileTree.maxNameWidth < name.width then throw .nameTooLong
      let location := parent ++ [name]
      match workspace.tree.lookup? location with
      | some .directory => throw .isDirectory
      | some (.file _) => workspace.tree.permit .write location
      | none => workspace.tree.permit .write parent
      return location

/-- The tree after a text has been written to a file.  The file is made if it
does not exist, and its former content is lost. -/
def writeText (workspace : Workspace) (path : Text) (text : Text) : Except FileError FileTree := do
  return workspace.tree.insert (← workspace.writable path) (.file (String.ofList text).toUTF8)

end Workspace
end MarkupDirectives
