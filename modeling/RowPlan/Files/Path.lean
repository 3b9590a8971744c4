import RowPlan.Text.Table

/-!
# Paths

The text of a path names a file by the directories that lead to it. A path that starts with a slash
is absolute; any other one starts at a working directory.
-/

namespace RowPlan.Files

/-- The names between the slashes of a path. -/
def names (path : String) : List String :=
  (Text.splitAtChar '/' path.toList).map String.ofList

/-- Whether a path does not depend on a working directory. -/
def isAbsolute (path : String) : Bool := path.toList.head? == some '/'

/-- A path continued by another one; an absolute one replaces it. -/
def joinPath (directory path : String) : String :=
  if isAbsolute path then path
  else if directory.isEmpty || directory.toList.getLast? == some '/' then directory ++ path
  else directory ++ "/" ++ path

/-- The names of a path without the steps that lead nowhere: a step up takes back the name before
it. -/
def plainNames (path : String) : List String :=
  (names path).foldl
    (fun done name =>
      if name = "" ∨ name = "." then done
      else if name = ".." then done.dropLast
      else done ++ [name])
    []

/-- The slashes that an absolute path starts with: two are kept, any other number counts as one. -/
def rootSlashes (path : String) : String :=
  if (path.toList.takeWhile (· == '/')).length = 2 then "//" else "/"

/-- An absolute path without the steps that lead nowhere. -/
def absolutePath (workingDirectory path : String) : String :=
  let joined := joinPath workingDirectory path
  rootSlashes joined ++ "/".intercalate (plainNames joined)

/-- The directory of an absolute path and the name in it. -/
def splitPath (path : String) : String × String :=
  let plain := plainNames path
  (rootSlashes path ++ "/".intercalate plain.dropLast, plain.getLast?.getD "")

/-- A path without doubled slashes and names that stand for the directory itself; steps up stay. -/
def tidyPath (path : String) : String :=
  let kept := (names path).filter fun name => name != "" && name != "."
  let start := if isAbsolute path then rootSlashes path else ""
  let text := start ++ "/".intercalate kept
  if text.isEmpty then "." else text

end RowPlan.Files
