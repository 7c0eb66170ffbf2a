import MarkupDirectives.Command.Run

namespace MarkupDirectives

/-!
# The program

A command runs on a file tree.  What it may look at is taken from the file system
before it runs, and the file that it has written is put there afterwards.
-/

/-- All paths that a command may look at when it runs in a directory. -/
def Invocation.paths (invocation : Invocation) (directory : Location) : List Text :=
  (match invocation.config with
    | some path => [path]
    | none => Settings.candidates directory) ++
  invocation.file :: invocation.output?.toList

/-- The tree with what the file system holds at a location. -/
def observe (tree : FileTree) (location : Location) : IO FileTree := do
  let path := (← IO.currentDir) / String.ofList location.path
  if ← path.isDir then return tree.insert location .directory
  if ← path.pathExists then
    try return tree.insert location (.file (← IO.FS.readBinFile path))
    catch error =>
      let unread := tree.insert location (.file ByteArray.empty)
      return unread.refuse .read location (toString error)
  return tree

/-- The file system as far as paths lead through it from a directory. -/
def observePaths (directory : Location) (paths : List Text) : IO Workspace := do
  let mut tree := FileTree.empty
  for path in directory.path :: paths do
    let origin := Workspace.origin ⟨tree, directory⟩ path
    for location in origin.along (pathNames path) do
      if location ≠ [] then tree ← observe tree location
  return ⟨tree, directory⟩

/-- Put the file at a path of a workspace into the file system. -/
def keepFile (workspace : Workspace) (path : Text) : IO Unit := do
  if let .ok location := workspace.writable path then
    if let some (.file content) := workspace.tree.lookup? location then
      IO.FS.writeBinFile (String.ofList location.path) content

/-- Carry out the command that arguments describe, in the current directory. -/
def runProgram (arguments : List String) : IO UInt32 := do
  let arguments := arguments.map String.toList
  let environmentMarker := (← IO.getEnv "BLATEX_PREFIX").map String.toList
  let directory := pathNames (← IO.currentDir).toString.toList
  let invocation := (Invocation.ofArguments arguments environmentMarker).toOption
  let paths := (invocation.map (·.paths directory)).getD []
  let workspace ← observePaths directory paths
  let outcome := runArguments arguments environmentMarker workspace
  try
    if outcome.code = 0 then
      if let some path := invocation.bind Invocation.output? then
        keepFile { workspace with tree := outcome.tree } path
  catch error =>
    (← IO.getStderr).putStr s!"Error: {error}\n"
    return 1
  (← IO.getStdout).putStr outcome.stdout
  (← IO.getStderr).putStr outcome.stderr
  return UInt32.ofNat outcome.code

end MarkupDirectives

def main (arguments : List String) : IO UInt32 := MarkupDirectives.runProgram arguments
