import RowPlan.Json.Document
import RowPlan.Output.Export
import RowPlan.Plan.Writer
import RowPlan.Preview.Build

/-!
# Sessions

In a session a user loads a document, looks at its records, has a plan made, previews the table and
exports it. Every action answers with texts to show; only loading changes the document.
-/

namespace RowPlan

/-- The state of a session: the loaded document, null if there is none, and the files around it. -/
structure Session where
  settings : Settings
  exportDirectory : String
  document : Value
  store : Files.Store

namespace Session

/-- What is shown while no document is loaded. -/
def noDocument : String := "No data loaded."

/-- What loading a file shows: the record paths to choose from, the chosen one, a message, and the
number of records. -/
structure Loaded where
  document : Value
  choices : List String
  selected : Option String
  message : String
  count : String

/-- Whether a document is loaded. -/
def isLoaded (document : Value) : Bool :=
  match document with
  | .null => false
  | _ => true

/-- A pointer as it is asked for; none and the empty one stand for the whole document. -/
def pointerOf (recordPath : Option String) : String :=
  match recordPath with
  | none => Pointer.root
  | some path => if path.isEmpty then Pointer.root else path

/-- The text that counts the records at a pointer. -/
def countText (document : Value) (recordPath : Option String) : String :=
  if isLoaded document then
    match Records.extract document (pointerOf recordPath) with
    | .ok records => s!"Documents: {records.rows.length}"
    | .error error => error.message
  else ""

/-- What is shown if no document could be loaded. -/
def notLoaded (message : String) : Loaded := ⟨.null, [], none, message, ""⟩

/-- The document in a file. -/
def readFile (store : Files.Store) (path : String) : Except String Value :=
  match store.read path with
  | .error error => .error error.message
  | .ok content => (Document.ofFile content).mapError Document.ReadError.message

/-- What is shown of a document that was read. -/
def describe (settings : Settings) (document : Value) (goal : String) : Loaded :=
  let discovery := Discovery.run document goal settings.discoveryMaxDepth
  let choices := if discovery.paths.isEmpty then [Pointer.root] else discovery.paths
  let (selected, message) :=
    match discovery.chosen with
    | .ok best =>
      (some best.candidate.path,
        s!"Successfully loaded. Found {discovery.candidates.length} candidate record path(s); "
          ++ s!"using {best.candidate.path}.")
    | .error error => (choices.head?, s!"Loaded, but {error.message}")
  ⟨document, choices, selected, message, countText document selected⟩

/-- Load a file. -/
def load (session : Session) (file : Option String) (goal : String) : Loaded × Session :=
  let loaded :=
    match file with
    | none => notLoaded Document.ReadError.noSource.message
    | some path =>
      match readFile session.store path with
      | .ok document => describe session.settings document goal
      | .error message => notLoaded s!"Error parsing JSON: {message}"
  (loaded, { session with document := loaded.document })

/-- Count the records at another pointer. -/
def count (session : Session) (recordPath : Option String) : String :=
  countText session.document recordPath

/-- Make a plan from a template: its text, and what to say about it. -/
def makePlan (session : Session) (goal : String) (recordPath : Option String) :
    Except TextError (String × String) :=
  let path := pointerOf recordPath
  if isLoaded session.document then
    match Records.extract session.document path with
    | .error error => .ok ("", error.message)
    | .ok records =>
      let found := Template.run goal path (Records.sample records.rows)
      (found.plan.toJson (some 2)).map fun text =>
        (text, s!"Template {found.kind.label}: {found.summary}")
  else .ok ("", noDocument)

/-- What is asked of a preview or an export: a goal, the text of a plan, blank for none, and a pointer
to the records. -/
structure Wish where
  goal : String
  planText : String
  recordPath : Option String

/-- The plan in a text, none if it is blank or null. -/
def readPlan (planText : String) : Except Document.ReadError (Option Value) :=
  (Document.ofText planText).map fun plan => if isLoaded plan then some plan else none

/-- Make the preview that is asked for, or say what is wrong with the text of the plan. -/
def preview (session : Session) (wish : Wish) : Except String Preview :=
  match readPlan wish.planText with
  | .error error => .error s!"Error parsing plan: {error.message}"
  | .ok plan =>
    (Preview.run ⟨session.document, some wish.goal, plan, none, wish.recordPath⟩
      session.settings).mapError fun error => s!"Error parsing plan: {error.message}"

/-- What is shown about a preview. -/
def statusText : Except Preview.Failure Preview.Success → String
  | .error failure => s!"{failure.code}: {failure.message}"
  | .ok success =>
    let summary := s!"{success.rows.length} row(s) from {success.chosen.recordPath} "
      ++ s!"({success.chosen.origin.name} plan)."
    "\n".intercalate (summary :: success.warnings.map fun warning => s!"Warning: {warning}")

/-- The preview that is asked for, if it succeeds; a message otherwise. -/
def obtain (session : Session) (wish : Wish) : Except String Preview.Success :=
  if isLoaded session.document then
    match session.preview wish with
    | .error message => .error message
    | .ok preview => preview.result.mapError fun failure => statusText (.error failure)
  else .error noDocument

/-- Show the first rows and the schema of a table; at least one row. -/
def showTable (session : Session) (wish : Wish) : Except String (List Row × Value × String) :=
  (session.obtain wish).map fun success =>
    (success.rows.take (max 1 session.settings.previewRows).toNat, success.schema,
      statusText (.ok success))

/-- What an export shows: the path of the file, if it was written, and a message. -/
structure Exported where
  path : Option String
  message : String

/-- What an export shows. A format that is not supported, a name that no file can have, and a value that
cannot be written stop it. -/
def shownExport : Except Output.ExportError String → Except Output.ExportError Exported
  | .ok path => .ok ⟨some path, s!"Export successful! Saved to {path}"⟩
  | .error (.unsupported wanted) => .error (.unsupported wanted)
  | .error (.file .nullByte) => .error (.file .nullByte)
  | .error (.file error) => .ok ⟨none, s!"Error during export: {error.message}"⟩
  | .error (.text error) => .error (.text error)

/-- Export a table. The session keeps the files that there are then, also if the export is stopped. -/
def exportTable (session : Session) (wish : Wish) (format name : Option String) :
    Except Output.ExportError Exported × Session :=
  match session.obtain wish with
  | .error message => (.ok ⟨none, message⟩, session)
  | .ok success =>
    let (written, store) :=
      Output.write success.rows format name session.exportDirectory session.store
    (shownExport written, { session with store })

end Session

end RowPlan
