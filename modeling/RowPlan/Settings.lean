import RowPlan.Decimal.Numeral
import RowPlan.Shape

/-!
# Settings

Settings come from environment variables, whose numbers are taken as they are, or from given values,
which have to be natural numbers.
-/

namespace RowPlan

/-- The settings of a session or a command. -/
structure Settings where
  logLevel : String
  previewRows : Int
  discoveryMaxDepth : Int
  maxRows : Int
  exportDirectory : Option String

namespace Settings

/-- The settings where nothing is given. -/
def default : Settings where
  logLevel := "INFO"
  previewRows := 3
  discoveryMaxDepth := 3
  maxRows := 0
  exportDirectory := none

instance : Inhabited Settings := ⟨default⟩

/-- An integer from a variable, with a value for when it is not set. -/
def integerVariable (environment : List (String × String)) (name : String) (unset : Int) :
    Except NumeralError Int :=
  match environment.lookup name with
  | some text => Decimal.integer text
  | none => .ok unset

/-- The settings in an environment; the first number that cannot be read is reported. -/
def ofEnvironment (environment : List (String × String)) : Except NumeralError Settings := do
  let previewRows ← integerVariable environment "JPT_PREVIEW_ROWS" default.previewRows
  let discoveryMaxDepth ←
    integerVariable environment "JPT_DISCOVERY_MAX_DEPTH" default.discoveryMaxDepth
  let maxRows ← integerVariable environment "JPT_MAX_ROWS" default.maxRows
  .ok {
    logLevel := (environment.lookup "JPT_LOG_LEVEL").getD default.logLevel
    previewRows, discoveryMaxDepth, maxRows
    exportDirectory := environment.lookup "JPT_EXPORT_DIR" }

/-- A setting that has to be a natural number, if given. -/
def given (name : String) (value : Option Value) (unset : Int) : Shape.Checked Int :=
  match value with
  | some value => (Shape.natural value).under name
  | none => .valid unset

/-- The settings with some values given. -/
def ofValues (previewRows discoveryMaxDepth maxRows : Option Value) : Shape.Checked Settings :=
  (((given "preview_rows" previewRows default.previewRows).map fun previewRows discoveryMaxDepth
      maxRows => ({ default with previewRows, discoveryMaxDepth, maxRows } : Settings)).both
    (given "discovery_max_depth" discoveryMaxDepth default.discoveryMaxDepth)).both
    (given "max_rows" maxRows default.maxRows)

end Settings

end RowPlan
