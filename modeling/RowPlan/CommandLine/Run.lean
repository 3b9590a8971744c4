import RowPlan.CommandLine.Command
import RowPlan.Json.Document
import RowPlan.Output.Export
import RowPlan.Plan.Writer
import RowPlan.Preview.Build

/-!
# Running commands

A command reads files and answers with texts for the two output streams, an exit status, and possibly
a written file.
-/

namespace RowPlan.CommandLine

/-- What a run of the program leaves behind. -/
structure Outcome where
  status : Nat
  output : String
  errors : String
  store : Files.Store

/-- Why a run has no outcome: the settings cannot be read before the log is set up, or an object has
to be searched to an empty depth. -/
inductive Abort where
  | setting (error : NumeralError)
  | blankDepth

/-- The wording of what ends a run without an outcome. -/
def Abort.message : Abort → String
  | .setting error => error.message
  | .blankDepth => "the search depth is empty"

/-- What stops a command: something to report, or what ends the run. -/
inductive Halt where
  | reported (message : String)
  | aborted (abort : Abort)

/-- A text as lines of their own. -/
def line (text : String) : String := text ++ "\n"

/-- A run that ends with an error message. -/
def failed (store : Files.Store) (message : String) : Outcome := ⟨1, "", line message, store⟩

/-- A run that ends because of an error in reading or writing. -/
def broken (store : Files.Store) (message : String) : Outcome := failed store s!"Error: {message}"

/-- The document in a file, or what to report. -/
def readDocument (store : Files.Store) (path : String) : Except String Value :=
  match store.read path with
  | .error error => .error error.message
  | .ok content => (Document.ofFile content).mapError Document.ReadError.message

/-- The plan text in a file, or what to report. -/
def readPlanText (store : Files.Store) (path : Option String) : Except String (Option Value) :=
  match path with
  | none => .ok none
  | some path =>
    if path.isEmpty then .ok none
    else
      match store.read (Files.tidyPath path) with
      | .error error => .error error.message
      | .ok content => .ok (some (.str (Document.fileText content)))

/-- The depth of a search. Only objects are searched, so that an empty depth is refused for them
alone. -/
def settleDepth (settings : Settings) (document : Value) : SearchDepth → Except Halt Int
  | .standard => .ok settings.discoveryMaxDepth
  | .levels count => .ok count
  | .blank =>
    match document with
    | .obj _ => .error (.aborted .blankDepth)
    | _ => .ok settings.discoveryMaxDepth

/-- Rank the places where the records may be. -/
def discover (store : Files.Store) (settings : Settings) (input : String) (goal : Option String)
    (depth : SearchDepth) : Except Halt Outcome := do
  let document ← (readDocument store input).mapError .reported
  let maxDepth ← settleDepth settings document depth
  let discovery := Discovery.run document (goal.getD "") maxDepth
  let status := if discovery.chosen.toOption.isSome then 0 else 1
  let text ← (Json.writeWith (some 2) discovery.toValue).mapError (Halt.reported ∘ TextError.message)
  .ok ⟨status, line text, "", store⟩

/-- The pointer to the records: as asked for, or discovered. -/
def settlePath (document : Value) (goal : String) (settings : Settings)
    (recordPath : Option String) : Except DiscoveryError String :=
  let discovered :=
    (Discovery.run document goal settings.discoveryMaxDepth).chosen.map (·.candidate.path)
  match recordPath with
  | none => discovered
  | some path => if path.isEmpty then discovered else .ok path

/-- Make a plan from a template. -/
def makePlan (store : Files.Store) (settings : Settings) (input goal : String)
    (recordPath : Option String) : Except String Outcome := do
  let document ← readDocument store input
  match settlePath document goal settings recordPath with
  | .error error => .ok (broken store error.message)
  | .ok path =>
    match Records.extract document path with
    | .error error => .ok (broken store error.message)
    | .ok records =>
      let found := Template.run goal path (Records.sample records.rows)
      let note := line s!"# template {found.kind.label}: {found.summary}"
      match found.plan.toJson (some 2) with
      | .ok text => .ok ⟨0, line text, note, store⟩
      | .error error => .ok ⟨1, "", note ++ line s!"Error: {error.message}", store⟩

/-- The text of a table for the output stream. -/
def tableText (rows : List Row) (format : String) : Except TextError String :=
  if format = "json" then (Json.writeWith (some 2) (.arr (rows.map .obj))).map line
  else Csv.write rows

/-- Write a table to the output stream. -/
def printTable (store : Files.Store) (success : Preview.Success) (format : String) : Outcome :=
  match tableText success.rows format with
  | .ok text => ⟨0, text, "", store⟩
  | .error error => broken store error.message

/-- Write a table to a file, or to the output stream if no file is given. -/
def writeTable (store : Files.Store) (success : Preview.Success) (format : String)
    (output : Option String) : Outcome :=
  match output with
  | none => printTable store success format
  | some output =>
    if output.isEmpty then printTable store success format
    else
      let (directory, name) := Files.splitPath (store.absolutePath output)
      match Output.write success.rows (some format) (some name) directory store with
      | (.ok path, written) =>
        ⟨0, line (s!"Wrote {success.rows.length} rows to {path} "
          ++ s!"({success.chosen.origin.name} plan)"), "", written⟩
      | (.error error, left) => broken left error.message

/-- Run a plan and write the table; the warnings go first. -/
def transform (store : Files.Store) (settings : Settings) (input goal : String)
    (plan recordPath : Option String) (format : String) (output : Option String) :
    Except String Outcome := do
  let plan ← readPlanText store plan
  let document ← readDocument store input
  let preview ← (Preview.run ⟨document, some goal, plan, none, recordPath⟩ settings).mapError
    StepError.message
  let warned (warnings : List String) : String :=
    String.join (warnings.map fun warning => line s!"Warning: {warning}")
  match preview.result with
  | .error failure =>
    .ok ⟨1, "", warned failure.warnings ++ line s!"Error [{failure.code}]: {failure.message}",
      store⟩
  | .ok success =>
    let outcome := writeTable store success format output
    .ok { outcome with errors := warned success.warnings ++ outcome.errors }

/-- The paths that a command may read or write. -/
def touchedPaths (store : Files.Store) : Command → List String
  | .discover input _ _ => [input]
  | .plan input _ _ => [input]
  | .transform input _ plan _ format output =>
    let written (output : String) : List String :=
      let (directory, name) := Files.splitPath (store.absolutePath output)
      [directory, Files.joinPath directory (Output.fileName (some name) format)]
    [input] ++ (plan.map Files.tidyPath).toList ++ (output.map written).getD []

/-- Run a command in an environment. -/
def runCommand (store : Files.Store) (environment : List (String × String)) (command : Command) :
    Except Abort Outcome :=
  let result := do
    let settings ←
      (Settings.ofEnvironment environment).mapError (Halt.reported ∘ NumeralError.message)
    match command with
    | .discover input goal depth => discover store settings input goal depth
    | .plan input goal recordPath =>
      (makePlan store settings input goal recordPath).mapError .reported
    | .transform input goal plan recordPath format output =>
      (transform store settings input goal plan recordPath format output).mapError .reported
  match result with
  | .ok outcome => .ok outcome
  | .error (.reported message) => .ok (broken store message)
  | .error (.aborted abort) => .error abort

/-- The outcome of arguments that cannot be followed: the help text, or the usage and what is wrong. -/
def stopped (store : Files.Store) : Stop → Outcome
  | .help interface => ⟨0, interface.helpText, "", store⟩
  | .misused interface error =>
    ⟨2, "", interface.usageText ++ line s!"{interface.program}: error: {error.message}", store⟩

/-- Whether a log level has to be taken from the environment. -/
def needsLogLevel (invocation : Invocation) : Bool :=
  ((invocation.logLevel.map (·.isEmpty)).getD true)

/-- Run the program. Setting up the log reads the settings unless a log level is given, and a number
among them that cannot be read stops the program. -/
def run (store : Files.Store) (environment : List (String × String)) (arguments : List String) :
    Except Abort Outcome :=
  match readInvocation arguments with
  | .error stop => .ok (stopped store stop)
  | .ok invocation =>
    if invocation.showVersion then .ok ⟨0, line s!"{programName} {programVersion}", "", store⟩
    else
      match invocation.command with
      | none => .ok ⟨0, programInterface.helpText, "", store⟩
      | some command =>
        match needsLogLevel invocation, Settings.ofEnvironment environment with
        | true, .error error => .error (.setting error)
        | _, _ => runCommand store environment command

end RowPlan.CommandLine
