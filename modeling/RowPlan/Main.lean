import RowPlan.CommandLine.Run

/-!
# The program

Reads the files that the arguments name, runs the command, and writes what it leaves behind.
-/

namespace RowPlan.CommandLine

/-- The environment variables that settings are read from. -/
def variableNames : List String :=
  ["JPT_LOG_LEVEL", "JPT_PREVIEW_ROWS", "JPT_DISCOVERY_MAX_DEPTH", "JPT_MAX_ROWS", "JPT_EXPORT_DIR"]

/-- The settings variables that are set. -/
def readEnvironment : IO (List (String × String)) :=
  variableNames.filterMapM fun name => do
    return (← IO.getEnv name).map fun value => (name, value)

/-- Note what is at a place, with everything on the way to it. -/
def notePlace (store : Files.Store) (place : Files.Place) : IO Files.Store := do
  let path := "/" ++ "/".intercalate place
  let root ← IO.FS.realPath "/"
  if ← (root / path).isDir then
    return { store with directories := store.directories ++ [place] }
  else if ← (root / path).pathExists then
    match String.fromUTF8? (← IO.FS.readBinFile path) with
    | some content => return { store with files := store.files ++ [(place, content)] }
    | none => throw (IO.userError s!"{path}: {Document.ReadError.notText.message}")
  else return store

/-- Note the files and directories that a path leads through. -/
def notePath (store : Files.Store) (path : String) : IO Files.Store := do
  let place := Files.plainNames (store.absolutePath path)
  let prefixes := (List.range place.length).map fun count => place.take (count + 1)
  prefixes.foldlM notePlace store

/-- The files and directories that the arguments may touch. -/
def readStore (arguments : List String) : IO Files.Store := do
  let store := Files.Store.ofFiles (← IO.currentDir).toString []
  match readInvocation arguments with
  | .ok ⟨_, _, some command⟩ => (touchedPaths store command).foldlM notePath store
  | _ => return store

/-- Write a file, with the directories on the way to it. -/
def writeFile (place : Files.Place) (content : String) : IO Unit := do
  IO.FS.createDirAll ("/" ++ "/".intercalate place.dropLast)
  IO.FS.writeFile ("/" ++ "/".intercalate place) content

end RowPlan.CommandLine

/-- Run the program with the given arguments. -/
def main (arguments : List String) : IO UInt32 := do
  let store ← RowPlan.CommandLine.readStore arguments
  match RowPlan.CommandLine.run store (← RowPlan.CommandLine.readEnvironment) arguments with
  | .error error =>
    IO.eprintln s!"Error: {error.message}"
    return 1
  | .ok outcome =>
    for (place, content) in outcome.store.written store do
      RowPlan.CommandLine.writeFile place content
    IO.print outcome.output
    IO.eprint outcome.errors
    return UInt32.ofNat outcome.status
