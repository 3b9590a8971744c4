import RowPlan.CommandLine.Arguments

/-!
# Commands

The program has three commands: one lists where a document may keep its records, one makes a plan for
a goal, and one runs a plan and writes the table.
-/

namespace RowPlan.CommandLine

/-- The name of the program. -/
def programName : String := "json-plan-transformer"

/-- The version of the program. -/
def programVersion : String := "0.1.0"

/-- How deep a search goes: as the settings say, to a given depth, or to an empty one, which is no
depth to compare with. -/
inductive SearchDepth where
  | standard
  | levels (count : Int)
  | blank
deriving DecidableEq

/-- The commands of the program. -/
inductive Command where
  | discover (input : String) (goal : Option String) (depth : SearchDepth)
  | plan (input goal : String) (recordPath : Option String)
  | transform (input goal : String) (plan recordPath : Option String) (format : String)
      (output : Option String)

/-- What the program is asked to do. -/
structure Invocation where
  showVersion : Bool
  logLevel : Option String
  command : Option Command

/-- The commands with what they are for. -/
def commandList : List (String × String) :=
  [("discover", "List candidate record paths."),
    ("plan", "Synthesize a plan from a goal."),
    ("transform", "Run a plan and write the result.")]

/-- What the program accepts. -/
def programInterface : Interface where
  program := programName
  description := "Find the records in a JSON document and turn them into a table."
  switches :=
    [⟨["--version"], none, "Show version and exit."⟩,
      ⟨["--log-level"], some .text, "Log level (default: JPT_LOG_LEVEL or INFO)."⟩]
  operand := .command commandList "Available subcommands"

/-- The operand of every command. -/
def inputOperand : Operand := .single "input" "Path to a JSON document."

/-- The switch for the pointer to the records. -/
def recordPathSwitch : Switch :=
  ⟨["--record-path"], some .text, "Record path; discovered when omitted."⟩

/-- The switch for the goal of a table. -/
def goalSwitch : Switch := ⟨["--goal"], some .text, "What the output table should contain."⟩

/-- What `discover` accepts. -/
def discoverInterface : Interface where
  program := programName ++ " discover"
  description := "Rank the arrays of a document by how likely they hold the records."
  switches :=
    [⟨["--goal"], some .text, "Goal text used to break ties."⟩,
      ⟨["--max-depth"], some .integer,
        "Nesting levels to search (default: JPT_DISCOVERY_MAX_DEPTH or 3)."⟩]
  operand := inputOperand

/-- What `plan` accepts. -/
def planInterface : Interface where
  program := programName ++ " plan"
  description := "Build a transform plan from the goal text using the built-in templates."
  switches := [goalSwitch, recordPathSwitch]
  operand := inputOperand

/-- The names of the output formats. -/
def formatNames : List String := ["csv", "json"]

/-- What `transform` accepts. -/
def transformInterface : Interface where
  program := programName ++ " transform"
  description :=
    "Execute an explicit plan, or one synthesized from the goal, and export the rows."
  switches :=
    [goalSwitch, ⟨["--plan"], some .text, "Path to a plan JSON file."⟩, recordPathSwitch,
      ⟨["--format"], some (.choice formatNames), "Output format. (default: csv)"⟩,
      ⟨["--output"], some .text, "Output file.  If omitted, prints to stdout."⟩]
  operand := inputOperand

/-- The depth in an argument, which was checked to be an integer unless it is empty. -/
def SearchDepth.ofArgument (argument : Option String) : SearchDepth :=
  match argument.map Decimal.integer with
  | none => .standard
  | some (.ok count) => .levels count
  | some (.error _) => .blank

/-- The format in an argument; an empty one is as good as none. -/
def formatOf (argument : Option String) : String :=
  let given := argument.getD ""
  if given.isEmpty then "csv" else given

/-- The command with a name, read from its arguments, and what is left over. -/
def readCommand (name : String) (arguments : List String) :
    Except Stop (Command × List String) := do
  match name with
  | "discover" =>
    let reading ← read discoverInterface arguments
    .ok (.discover (reading.operand.headD "") (reading.value? "--goal")
      (.ofArgument (reading.value? "--max-depth")), reading.leftOver)
  | "plan" =>
    let reading ← read planInterface arguments
    .ok (.plan (reading.operand.headD "") ((reading.value? "--goal").getD "")
      (reading.value? "--record-path"), reading.leftOver)
  | _ =>
    let reading ← read transformInterface arguments
    .ok (.transform (reading.operand.headD "") ((reading.value? "--goal").getD "")
      (reading.value? "--plan") (reading.value? "--record-path")
      (formatOf (reading.value? "--format")) (reading.value? "--output"), reading.leftOver)

/-- Read all arguments of the program. Nothing may be left over. -/
def readInvocation (arguments : List String) : Except Stop Invocation := do
  let reading ← read programInterface arguments
  let (command, left) ←
    match reading.operand with
    | [] => pure (none, [])
    | name :: rest => do
      let (command, left) ← readCommand name rest
      pure (some command, left)
  let leftOver := reading.leftOver ++ left
  if leftOver.isEmpty then
    .ok ⟨reading.has "--version", reading.value? "--log-level", command⟩
  else .error (.misused programInterface (.unrecognized leftOver))

end RowPlan.CommandLine
