import RowPlan.Files.Path
import RowPlan.Text.CharacterClass

/-!
# Files

A tree of directories and text files, seen from a working directory. The place of a file is the list
of names that lead to it from the root. A path is followed name by name, and every directory on the
way has to exist.
-/

namespace RowPlan.Files

/-- The names that lead from the root to a file or a directory. -/
abbrev Place := List String

/-- Why a file cannot be used, with the path as it was written. -/
inductive FileError where
  | notFound (path : String)
  | alreadyExists (path : String)
  | notDirectory (path : String)
  | isDirectory (path : String)
  | nameTooLong (path : String)
  | nullByte
deriving DecidableEq

/-- The wording of a file error. -/
def FileError.message : FileError → String
  | .notFound path => "[Errno 2] No such file or directory: " ++ Text.quoted path
  | .alreadyExists path => "[Errno 17] File exists: " ++ Text.quoted path
  | .notDirectory path => "[Errno 20] Not a directory: " ++ Text.quoted path
  | .isDirectory path => "[Errno 21] Is a directory: " ++ Text.quoted path
  | .nameTooLong path => "[Errno 36] File name too long: " ++ Text.quoted path
  | .nullByte => "embedded null byte"

/-- The most bytes a name may have. -/
def nameLimit : Nat := 255

/-- The most bytes a path may have. -/
def pathLimit : Nat := 4095

/-- A tree of text files. -/
structure Store where
  workingDirectory : Place
  directories : List Place
  files : List (Place × String)

namespace Store

/-- The tree of some files in a working directory, given by their paths. -/
def ofFiles (workingDirectory : String) (files : List (String × String)) : Store where
  workingDirectory := plainNames workingDirectory
  directories := []
  files := files.map fun (path, content) =>
    (plainNames (absolutePath workingDirectory path), content)

/-- The absolute form of a path. -/
def absolutePath (store : Store) (path : String) : String :=
  Files.absolutePath ("/" ++ "/".intercalate store.workingDirectory) path

/-- The content of the file at a place. -/
def contentAt? (store : Store) (place : Place) : Option String := store.files.lookup place

/-- Whether a place is a directory: one that was made, or one on the way to a file. -/
def isDirectoryAt (store : Store) (place : Place) : Bool :=
  place.isPrefixOf store.workingDirectory || store.directories.any (place.isPrefixOf ·)
    || store.files.any fun file => place.isPrefixOf file.1 && place != file.1

/-- The place where a path starts. -/
def start (store : Store) (path : String) : Place :=
  if isAbsolute path then [] else store.workingDirectory

/-- Follow names from a directory. All of them but the last have to name directories. -/
def walk (store : Store) (path : String) (place : Place) : List String → Except FileError Place
  | [] => .ok place
  | name :: rest =>
    if name = "" ∨ name = "." then walk store path place rest
    else if name = ".." then walk store path place.dropLast rest
    else if nameLimit < name.utf8ByteSize then .error (.nameTooLong path)
    else
      let next := place ++ [name]
      if rest.isEmpty || store.isDirectoryAt next then walk store path next rest
      else if (store.contentAt? next).isSome then .error (.notDirectory path)
      else .error (.notFound path)

/-- The place that a path names. -/
def locate (store : Store) (path : String) : Except FileError Place :=
  if path.toList.any (· == Char.ofNat 0) then .error .nullByte
  else if path.isEmpty then .error (.notFound path)
  else if pathLimit < path.utf8ByteSize then .error (.nameTooLong path)
  else walk store path (store.start path) (names path)

/-- The content of a file. -/
def read (store : Store) (path : String) : Except FileError String := do
  let place ← store.locate path
  if store.isDirectoryAt place then .error (.isDirectory path)
  else
    match store.contentAt? place with
    | some content => .ok content
    | none => .error (.notFound path)

/-- Give a file a content, and make the file if it is new. -/
def write (store : Store) (path content : String) : Except FileError Store := do
  let place ← store.locate path
  if store.isDirectoryAt place then .error (.isDirectory path)
  else
    .ok { store with
      files := store.files.filter (fun file => file.1 != place) ++ [(place, content)] }

/-- Make the directories that names lead through. `shown` is the path up to them. -/
def makeFrom (store : Store) (shown : String) (place : Place) : List String → Except FileError Store
  | [] => .ok store
  | name :: rest =>
    let reached := if shown.isEmpty then name else joinPath shown name
    if name = "" ∨ name = "." then makeFrom store reached place rest
    else if name = ".." then makeFrom store reached place.dropLast rest
    else if nameLimit < name.utf8ByteSize || pathLimit < reached.utf8ByteSize then
      .error (.nameTooLong reached)
    else
      let next := place ++ [name]
      if store.isDirectoryAt next then makeFrom store reached next rest
      else if (store.contentAt? next).isSome then
        match rest with
        | [] => .error (.alreadyExists reached)
        | below :: _ =>
          let under := joinPath reached below
          if pathLimit < under.utf8ByteSize then .error (.nameTooLong under)
          else .error (.notDirectory under)
      else makeFrom { store with directories := store.directories ++ [next] } reached next rest

/-- Make a directory and those on the way to it, as far as they are missing. -/
def makeDirectories (store : Store) (path : String) : Except FileError Store :=
  if path.isEmpty then .error (.notFound path)
  else
    let shown := if isAbsolute path then rootSlashes path else ""
    makeFrom store shown (store.start path) ((names path).filter (!·.isEmpty))

/-- The files that are new or changed since an earlier state. -/
def written (store earlier : Store) : List (Place × String) :=
  store.files.filter fun file => earlier.contentAt? file.1 != some file.2

/-- The files in the working directory that were not there in an earlier state, by their paths, in
order. -/
def additions (store earlier : Store) : List (String × String) :=
  let inside := store.files.filter fun file =>
    store.workingDirectory.isPrefixOf file.1 && (earlier.contentAt? file.1).isNone
  (inside.map fun file =>
    ("/".intercalate (file.1.drop store.workingDirectory.length), file.2)).mergeSort
    fun first second => decide (first.1 ≤ second.1)

end Store

end RowPlan.Files
