import RowPlan.Files.Store
import RowPlan.Output.Csv
import RowPlan.Text.Folding

/-!
# Exporting tables

A table is written to a file as comma-separated values or as JSON. The file gets the ending of its
format unless its name has it already. A file whose table has a value without text keeps what was
written before it.
-/

namespace RowPlan.Output

/-- The formats of exported files. -/
inductive Format where
  | csv
  | json
deriving DecidableEq

/-- The name of a format. -/
def Format.name : Format → String
  | .csv => "CSV"
  | .json => "JSON"

/-- All formats. -/
def Format.all : List Format := [.csv, .json]

/-- Why a table cannot be exported. -/
inductive ExportError where
  | unsupported (format : String)
  | file (error : Files.FileError)
  | text (error : TextError)
deriving DecidableEq

/-- The wording of an export error. -/
def ExportError.message : ExportError → String
  | .unsupported format => s!"Unsupported export format: {format}"
  | .file error => error.message
  | .text error => error.message

/-- The format with a name, in any case; without a name it is comma-separated values. -/
def Format.ofName (name : Option String) : Except ExportError Format :=
  let given := name.getD ""
  let wanted := Text.upper (if given.isEmpty then Format.csv.name else given)
  match Format.all.find? (·.name == wanted) with
  | some format => .ok format
  | none => .error (.unsupported wanted)

/-- The name of a file for a table that is given no name. -/
def defaultName : String := "output"

/-- The name of an exported file: the given one without blanks around it, with the ending of the
format. -/
def fileName (name : Option String) (format : String) : String :=
  let trimmed := Text.trim (name.getD "")
  let base := if trimmed.isEmpty then defaultName else trimmed
  let ending := "." ++ Text.lower format
  if ending.toList.isSuffixOf (Text.lower base).toList then base else base ++ ending

/-- The content of an exported file. -/
def content (format : Format) (rows : List Row) : Draft :=
  match format with
  | .csv => Csv.draft rows
  | .json => Json.writeIndented 2 0 (.arr (rows.map .obj))

/-- The path of an exported file. -/
def exportPath (format : Format) (name : Option String) (directory : String) : String :=
  Files.joinPath directory (fileName name format.name)

/-- Write a file in a directory that is there, and give its path and the files there are then. -/
def writeFile (format : Format) (rows : List Row) (path : String) (store : Files.Store) :
    Except ExportError String × Files.Store :=
  let draft := content format rows
  match store.write path draft.text with
  | .error error => (.error (.file error), store)
  | .ok written => ((draft.toText.mapError .text).map fun _ => path, written)

/-- Export a table to a directory, which is made if it is missing: the path of the file, and the files
there are then, also if the export fails. -/
def write (rows : List Row) (formatName name : Option String) (directory : String)
    (store : Files.Store) : Except ExportError String × Files.Store :=
  match Format.ofName formatName with
  | .error error => (.error error, store)
  | .ok format =>
    match store.makeDirectories directory with
    | .error error => (.error (.file error), store)
    | .ok prepared => writeFile format rows (exportPath format name directory) prepared

end RowPlan.Output
