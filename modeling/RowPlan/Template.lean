import RowPlan.Field.Alias
import RowPlan.Plan.Basic
import RowPlan.Pointer

/-!
# Plans from templates

A goal is turned into a plan by the first of three templates that applies. If the goal asks for
totals, counts, averages or groups, the rows are grouped by a field with texts and a field with
numbers is aggregated; otherwise the fields that the goal mentions are selected, or all fields if it
mentions none. The fields are those of a sample row; a field with an empty name is left out, because
a pointer cannot name it.
-/

namespace RowPlan

/-- All words of a goal, folded, in order. -/
def Goal.tokens (goal : String) : List String :=
  (Text.runsWhere Text.isWordChar goal.toList).map fun word => Text.fold (String.ofList word)

namespace Template

/-- The templates in the order in which they are tried. -/
inductive Kind where
  | grouped
  | mentioned
  | everything
deriving DecidableEq

/-- The label of a template. -/
def Kind.label : Kind → String
  | .grouped => "T5"
  | .mentioned => "T2"
  | .everything => "T1"

/-- A plan made from a template, and why. -/
structure Match where
  kind : Kind
  plan : Plan
  summary : String

/-- Words that ask for groups. -/
def groupWords : List String :=
  ["group", "grouped", "grouping", "agrupar", "agrupado", "agrupados", "agrupe"]

/-- Words that ask for a sum. -/
def sumWords : List String := ["sum", "total", "totals", "soma", "somar"]

/-- Words that ask for a count. -/
def countWords : List String := ["count", "contar", "contagem"]

/-- Words that ask for an average. -/
def averageWords : List String := ["average", "avg", "media"]

/-- Words that add a minimum to what is aggregated anyway. -/
def minimumWords : List String := ["min", "minimum", "minimo"]

/-- Words that add a maximum to what is aggregated anyway. -/
def maximumWords : List String := ["max", "maximum", "maximo"]

/-- Words after which the field to group by is named. -/
def dimensionMarkers : List String := ["by", "per", "por"]

/-- Parts of names of fields that are good to group by. -/
def categoryHints : List String :=
  ["category", "categoria", "type", "tipo", "status", "group", "name", "nome"]

/-- Parts of names of fields that are good to aggregate. -/
def valueHints : List String :=
  ["price", "preco", "amount", "valor", "quantity", "quantidade", "total", "value"]

/-- Common words that name a field only directly, not as a synonym. -/
def plainWords : List String := ["data", "desc"]

/-- The field that a word of the goal names, directly or as a synonym. -/
def fieldFor? (names : List String) (token : String) : Option String :=
  match names.find? fun name => Text.fold name == token with
  | some name => some name
  | none =>
    if plainWords.contains token then none
    else names.find? fun name => ((Field.aliasesFor name).map Text.fold).contains token

/-- The fields that the goal mentions, in its order, each once. -/
def mentioned (names tokens : List String) : List String :=
  (tokens.filterMap (fieldFor? names)).eraseDups

/-- The field named right after a marker. -/
def marked? (names : List String) : List String → Option String
  | marker :: token :: rest =>
    let named := if dimensionMarkers.contains marker then fieldFor? names token else none
    match named with
    | some name => some name
    | none => marked? names (token :: rest)
  | _ => none

/-- Whether a name contains one of some hints. -/
def isHinted (hints : List String) (name : String) : Bool :=
  hints.any fun hint => Text.contains (Text.fold name) hint

/-- Prefer a field that the goal mentions, then one whose name is a hint, then the first one. -/
def prefer? (hints mentioned names : List String) : Option String :=
  match mentioned.find? names.contains with
  | some name => some name
  | none =>
    match names.find? (isHinted hints) with
    | some name => some name
    | none => names.head?

/-- Whether a value is a text. -/
def isText : Value → Bool
  | .str _ => true
  | _ => false

/-- The names of the fields whose value is of some sort. -/
def namesWhere (fields : Row) (isSort : Value → Bool) : List String :=
  (fields.filter fun field => isSort field.2).map (·.1)

/-- The field to group by. -/
def dimension? (fields : Row) (tokens : List String) : Option String :=
  match marked? fields.keys tokens with
  | some name => some name
  | none => prefer? categoryHints (mentioned fields.keys tokens) (namesWhere fields isText)

/-- The field to aggregate. -/
def measure? (fields : Row) (tokens : List String) (dimension : Option String) : Option String :=
  prefer? valueHints (mentioned fields.keys tokens)
    ((namesWhere fields Value.isNumber).filter fun name => some name != dimension)

/-- What a goal asks for. -/
structure Wish where
  group : Bool
  sum : Bool
  count : Bool
  average : Bool
  minimum : Bool
  maximum : Bool
deriving DecidableEq

namespace Wish

/-- The wish that the words of a goal express. -/
def ofTokens (tokens : List String) : Wish where
  group := tokens.any groupWords.contains
  sum := tokens.any sumWords.contains
  count := tokens.any countWords.contains
  average := tokens.any averageWords.contains
  minimum := tokens.any minimumWords.contains
  maximum := tokens.any maximumWords.contains

/-- Whether anything is to be aggregated. -/
def isGrouped (wish : Wish) : Bool := wish.group || wish.sum || wish.count || wish.average

/-- Whether rows are to be counted: on request, or when no other aggregate is wanted. -/
def counts (wish : Wish) : Bool :=
  wish.count || !(wish.sum || wish.average || wish.minimum || wish.maximum)

end Wish

/-- The name of a metric, which must not be that of the field to group by. -/
def metricName (base suffix : String) (dimension : Option String) : String :=
  if dimension = some base then base ++ "_" ++ suffix else base

/-- The metric that counts rows. -/
def countMetric (dimension : Option String) : MetricSpec :=
  ⟨metricName "count" "rows" dimension, "count", none, none⟩

/-- The metrics over a field. -/
def measureMetrics (wish : Wish) (dimension : Option String) (measure : String) :
    List MetricSpec :=
  let metric (wanted : Bool) (base function : String) : List MetricSpec :=
    if wanted then
      [⟨metricName base measure dimension, function, some (Pointer.join [measure]), none⟩]
    else []
  metric (wish.sum || wish.group) "total" "sum" ++ metric wish.average "average" "avg"
    ++ metric wish.minimum "minimum" "min" ++ metric wish.maximum "maximum" "max"

/-- The metrics of a grouped plan; there is always one. -/
def metrics (wish : Wish) (dimension measure : Option String) : List MetricSpec :=
  let found := (if wish.counts then [countMetric dimension] else [])
    ++ (measure.map (measureMetrics wish dimension)).getD []
  if found.isEmpty then [countMetric dimension] else found

/-- The plan with some steps for the records at a pointer. -/
def planOf (recordPath : String) (steps : List Step) : Plan :=
  ⟨planVersion, if recordPath.isEmpty then Pointer.root else recordPath, steps⟩

/-- Select fields under their own names. -/
def selectStep (names : List String) : Step :=
  .select (names.map fun name => ⟨Pointer.join [name], name, none⟩)

/-- Group and aggregate, if the goal asks for it. -/
def grouped? (tokens : List String) (recordPath : String) (fields : Row) : Option Match :=
  let wish := Wish.ofTokens tokens
  if !wish.isGrouped then none
  else
    let dimension := dimension? fields tokens
    let metrics := metrics wish dimension (measure? fields tokens dimension)
    let aggregate := Step.aggregate metrics
    match dimension with
    | some name =>
      some ⟨.grouped, planOf recordPath [.groupBy [Pointer.join [name]], aggregate],
        s!"Group by '{name}' with {metrics.length} metric(s)"⟩
    | none =>
      some ⟨.grouped, planOf recordPath [aggregate],
        s!"Aggregate whole set with {metrics.length} metric(s)"⟩

/-- Select the fields that the goal mentions, if there are any. -/
def mentioned? (tokens : List String) (recordPath : String) (fields : Row) : Option Match :=
  let names := mentioned fields.keys tokens
  if names.isEmpty then none
  else
    some ⟨.mentioned, planOf recordPath [selectStep names],
      s!"Select {names.length} mentioned field(s)"⟩

/-- Select all fields; without any, the plan has no steps. -/
def everything (recordPath : String) (fields : Row) : Match :=
  if fields.isEmpty then
    ⟨.everything, planOf recordPath [], "Sample record has no fields; identity plan"⟩
  else
    ⟨.everything, planOf recordPath [selectStep fields.keys],
      s!"Select all {fields.length} fields"⟩

/-- The fields of a sample row that a pointer can name. -/
def namedFields (sample : Row) : Row := sample.filter fun field => field.1 != ""

/-- Make a plan for a goal from the first template that applies. -/
def run (goal recordPath : String) (sample : Row) : Match :=
  let fields := namedFields sample
  let tokens := Goal.tokens goal
  let found :=
    ((grouped? tokens recordPath fields).orElse fun _ => mentioned? tokens recordPath fields).getD
      (everything recordPath fields)
  if fields.length = sample.length then found
  else { found with summary := found.summary ++ "; skipped a field with an empty name" }

end Template

end RowPlan
