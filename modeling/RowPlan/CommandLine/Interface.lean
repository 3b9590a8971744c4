import RowPlan.Decimal.Numeral
import RowPlan.Text.LetterCase

/-!
# Command-line interfaces

What a command accepts: switches, some of which take an argument, and an operand, which is a single
one or the name of a further command followed by its own arguments. The help text is laid out from
the same description.
-/

namespace RowPlan.CommandLine

/-- What the argument of a switch has to be. -/
inductive ArgumentKind where
  | text
  | integer
  | choice (choices : List String)
deriving DecidableEq

/-- A switch: its names, the kind of its argument if it takes one, and what it is for. -/
structure Switch where
  names : List String
  argument : Option ArgumentKind
  help : String
deriving DecidableEq

/-- What follows the switches. -/
inductive Operand where
  | single (name help : String)
  | command (commands : List (String × String)) (help : String)

/-- What a command accepts. -/
structure Interface where
  program : String
  description : String
  switches : List Switch
  operand : Operand

namespace Switch

/-- The switch that asks for the help text. -/
def helpSwitch : Switch := ⟨["-h", "--help"], none, "show this help message and exit"⟩

/-- The last name of a switch, which is its full one. -/
def name (switch : Switch) : String := switch.names.getLast?.getD ""

/-- All names of a switch, for messages. -/
def allNames (switch : Switch) : String := "/".intercalate switch.names

/-- The word that stands for the argument of a switch in the help text. -/
def placeholder (switch : Switch) : ArgumentKind → String
  | .choice choices => "\x7b" ++ ",".intercalate choices ++ "\x7d"
  | _ =>
    let letters := switch.name.toList.dropWhile (· == '-')
    Text.upper (String.ofList (letters.map fun c => if c = '-' then '_' else c))

/-- A name of a switch, followed by its argument. -/
def withArgument (switch : Switch) (name : String) : String :=
  match switch.argument with
  | some kind => name ++ " " ++ switch.placeholder kind
  | none => name

/-- A switch in the usage line. -/
def usage (switch : Switch) : String :=
  "[" ++ switch.withArgument (switch.names.headD "") ++ "]"

/-- A switch in the list of switches. -/
def listing (switch : Switch) : String :=
  ", ".intercalate (switch.names.map switch.withArgument)

end Switch

namespace Operand

/-- The commands between braces. -/
def commandSet (commands : List (String × String)) : String :=
  "\x7b" ++ ",".intercalate (commands.map (·.1)) ++ "\x7d"

/-- The name of an operand in messages. -/
def name : Operand → String
  | single name _ => name
  | command _ _ => "command"

/-- An operand in the usage line. -/
def usage : Operand → String
  | single name _ => name
  | command commands _ => commandSet commands ++ " ..."

end Operand

/-- The columns of a help text. -/
def helpWidth : Nat := 78

/-- The column at which explanations start. -/
def helpColumn : Nat := 24

/-- Words on lines of at most `width` characters; `line` is the line begun, `used` its length. -/
def wrapFrom (width : Nat) (line : List String) (used : Nat) : List String → List (List String)
  | [] => if line.isEmpty then [] else [line]
  | word :: rest =>
    if line.isEmpty then wrapFrom width [word] word.length rest
    else if used + 1 + word.length ≤ width then
      wrapFrom width (line ++ [word]) (used + 1 + word.length) rest
    else line :: wrapFrom width [word] word.length rest

/-- Words on lines of at most `width` characters. -/
def wrap (width : Nat) (words : List String) : List String :=
  (wrapFrom width [] 0 words).map (" ".intercalate ·)

/-- The words of a text. -/
def wordsOf (text : String) : List String :=
  (Text.runsWhere (· != ' ') text.toList).map String.ofList

/-- Blanks up to a column. -/
def blanks (count : Nat) : String := String.ofList (List.replicate count ' ')

/-- An entry of a list in the help text: what is explained, and the explanation beside it, or below
it if there is no room. -/
def entry (indent : Nat) (term explanation : String) : List String :=
  let lines := wrap (helpWidth - helpColumn) (wordsOf explanation)
  let head := blanks indent ++ term
  if head.length + 2 ≤ helpColumn then
    (head ++ blanks (helpColumn - head.length) ++ lines.headD "")
      :: lines.tail.map (blanks helpColumn ++ ·)
  else head :: lines.map (blanks helpColumn ++ ·)

namespace Interface

/-- The switches with the one that asks for help. -/
def allSwitches (interface : Interface) : List Switch := Switch.helpSwitch :: interface.switches

/-- The names of all switches with the switch that each belongs to. -/
def switchNames (interface : Interface) : List (String × Switch) :=
  interface.allSwitches.flatMap fun switch => switch.names.map fun name => (name, switch)

/-- The lines that show how a command is used. -/
def usageLines (interface : Interface) : List String :=
  let lead := "usage: " ++ interface.program ++ " "
  let room := helpWidth - lead.length
  match wrap room (interface.allSwitches.map Switch.usage) with
  | [] => [lead ++ interface.operand.usage]
  | first :: rest =>
    (lead ++ first) :: (rest ++ [interface.operand.usage]).map (blanks lead.length ++ ·)

/-- How a command is used. -/
def usageText (interface : Interface) : String :=
  String.join (interface.usageLines.map (· ++ "\n"))

/-- The list of operands in the help text. -/
def operandLines (interface : Interface) : List String :=
  match interface.operand with
  | .single name help => entry 2 name help
  | .command commands help =>
    entry 2 (Operand.commandSet commands) help
      ++ commands.flatMap fun command => entry 4 command.1 command.2

/-- The help text of a command. -/
def helpText (interface : Interface) : String :=
  let lines := interface.usageLines ++ [""] ++ wrap helpWidth (wordsOf interface.description)
    ++ ["", "positional arguments:"] ++ interface.operandLines ++ ["", "options:"]
    ++ interface.allSwitches.flatMap fun switch => entry 2 switch.listing switch.help
  String.join (lines.map (· ++ "\n"))

end Interface

end RowPlan.CommandLine
