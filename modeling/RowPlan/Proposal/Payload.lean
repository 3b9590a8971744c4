import RowPlan.Json.Reader
import RowPlan.Proposal.Basic

/-!
# Plans in replies

A reply may wrap the JSON of a plan in other text. The whole reply is tried first, then the reply
without the marks of code blocks, then the part from its first opening brace to its last closing
brace. A plan that does not say where its records are can be given a default.
-/

namespace RowPlan.Proposal

/-- The marks that delimit code blocks, in the order in which they are removed. -/
def fenceMarks : List String := ["```json", "```JSON", "```"]

/-- Remove a mark wherever it stands; `skip` characters are still part of one. -/
def removeMark (mark : List Char) (skip : Nat) : List Char → List Char
  | [] => []
  | c :: rest =>
    match skip with
    | left + 1 => removeMark mark left rest
    | 0 =>
      if mark.isPrefixOf (c :: rest) then removeMark mark (mark.length - 1) rest
      else c :: removeMark mark 0 rest

/-- A text without the marks of code blocks and without blanks around it. -/
def stripFences (text : List Char) : List Char :=
  Text.trimWhere Text.isBlank
    (fenceMarks.foldl (fun text mark => removeMark mark.toList 0 text) text)

/-- The part of a text from its first opening brace to its last closing brace. -/
def braceSpan? (text : List Char) : Option (List Char) :=
  let opened := text.dropWhile (· != '\x7b')
  let span := (opened.reverse.dropWhile (· != '\x7d')).reverse
  if span.isEmpty then none else some span

/-- The texts that are tried as JSON, in order. -/
def strategies (text : List Char) : List (List Char) :=
  let stripped := stripFences text
  [text] ++ (if stripped = text then [] else [stripped]) ++ (braceSpan? text).toList

/-- The JSON value in a reply. -/
def payload (reply : Option String) : Except ProposalError Value :=
  let text := reply.getD ""
  if Text.isBlankText text then .error .empty
  else
    let texts := strategies text.toList
    match texts.findSome? fun part => (Json.read (String.ofList part)).toOption with
    | some value => .ok value
    | none => .error (.unreadable texts.length text.length)

/-- Whether a plan says where its records are. -/
def hasRecordPath (plan : Row) : Bool :=
  match plan.find? "source" with
  | some (.obj source) => ((Row.find? source "recordPath").map Value.isGiven).getD false
  | _ => false

/-- Give a plan a pointer to its records if it has none. -/
def withDefaultPath (plan : Value) (path : Option String) : Value :=
  match plan, path with
  | .obj members, some path =>
    if path.isEmpty || hasRecordPath members then plan
    else
      let source :=
        match Row.find? members "source" with
        | some (.obj source) => source
        | _ => []
      .obj (Row.set members "source" (.obj (Row.set source "recordPath" (.str path))))
  | plan, _ => plan

/-- Load a proposed plan, with a default for where its records are. -/
def load (plan : Value) (defaultPath : Option String) : Except ProposalError Plan :=
  (Plan.load (withDefaultPath plan defaultPath)).mapError .ofLoadError

/-- Load the plan in a reply. -/
def loadText (reply : Option String) (defaultPath : Option String) : Except ProposalError Plan := do
  load (← payload reply) defaultPath

/-- Load a proposed plan that is given as a value; a text is taken as a reply. -/
def loadAny (plan : Value) (defaultPath : Option String) : Except ProposalError Plan :=
  match plan with
  | .str text => loadText (some text) defaultPath
  | plan => load plan defaultPath

end RowPlan.Proposal
