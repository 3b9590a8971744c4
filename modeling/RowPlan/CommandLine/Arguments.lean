import RowPlan.CommandLine.Interface

/-!
# Reading arguments

Arguments are read from left to right. One that begins with a dash is a switch, unless it is a
negative number, holds a blank, or comes after the terminator `--`; a switch may be abbreviated as
long as only one begins that way, and its argument follows it or is attached to it. What nothing
accepts is left over.
-/

namespace RowPlan.CommandLine

/-- What is wrong with arguments. -/
inductive UsageError where
  | ambiguous (argument : String) (names : List String)
  | unwanted (names value : String)
  | noArgument (names : String)
  | notInteger (names value : String)
  | notChoice (names value : String) (choices : List String)
  | missing (operand : String)
  | unrecognized (arguments : List String)
deriving DecidableEq

/-- The wording of a usage error. -/
def UsageError.message : UsageError → String
  | .ambiguous argument names =>
    s!"ambiguous option: {argument} could match " ++ ", ".intercalate names
  | .unwanted names value => s!"argument {names}: ignored explicit argument " ++ Text.quoted value
  | .noArgument names => s!"argument {names}: expected one argument"
  | .notInteger names value => s!"argument {names}: invalid int value: " ++ Text.quoted value
  | .notChoice names value choices =>
    s!"argument {names}: invalid choice: " ++ Text.quoted value
      ++ " (choose from " ++ ", ".intercalate (choices.map Text.quoted) ++ ")"
  | .missing operand => s!"the following arguments are required: {operand}"
  | .unrecognized arguments => "unrecognized arguments: " ++ " ".intercalate arguments

/-- Why reading arguments ends early: the help text is asked for, or something is wrong. -/
inductive Stop where
  | help (interface : Interface)
  | misused (interface : Interface) (error : UsageError)

/-- The argument after which nothing is a switch. -/
def terminator : String := "--"

/-- What an argument is. The text attached to a switch comes after an equals sign, or directly after a
one-letter name. -/
inductive Mark where
  | plain
  | terminator
  | switch (switch : Switch) (name : String) (attached : Option String)
  | unknown

/-- The part of a text before the first equals sign, and the part after it if there is one. -/
def splitEquals (text : String) : String × Option String :=
  let chars := text.toList
  let before := chars.takeWhile (· != '=')
  let after := chars.dropWhile (· != '=')
  (String.ofList before, if after.isEmpty then none else some (String.ofList (after.drop 1)))

/-- Characters without a line break at their end. -/
def withoutLineBreak (chars : List Char) : List Char :=
  if chars.getLast? = some '\n' then chars.dropLast else chars

/-- Whether a text looks like a negative number, which may end its line. -/
def isNegativeNumber (text : String) : Bool :=
  let isDigit (c : Char) : Bool := (Text.decimalDigit? c).isSome
  match withoutLineBreak text.toList with
  | '-' :: rest =>
    let fraction := rest.dropWhile isDigit
    match fraction with
    | [] => !rest.isEmpty
    | '.' :: digits => !digits.isEmpty && digits.all isDigit
    | _ => false
  | _ => false

/-- Whether a name has a single dash. -/
def isShort (name : String) : Bool := (name.toList.drop 1).head? != some '-'

/-- The switches that an argument abbreviates. -/
def abbreviated (interface : Interface) (argument : String) : List Mark :=
  let names := interface.switchNames
  if isShort argument then
    let short := String.ofList (argument.toList.take 2)
    names.filterMap fun (name, switch) =>
      if name = short then
        some (.switch switch name (some (String.ofList (argument.toList.drop 2))))
      else if argument.toList.isPrefixOf name.toList then some (.switch switch name none)
      else none
  else
    let (start, value) := splitEquals argument
    names.filterMap fun (name, switch) =>
      if start.toList.isPrefixOf name.toList then some (.switch switch name value) else none

/-- The name of the switch in a mark. -/
def Mark.name? : Mark → Option String
  | .switch _ name _ => some name
  | _ => none

/-- What an argument that is not yet known to be plain is. -/
def classify (interface : Interface) (argument : String) : Except UsageError Mark :=
  if argument.toList.head? != some '-' then .ok .plain
  else
    match interface.switchNames.lookup argument with
    | some switch => .ok (.switch switch argument none)
    | none =>
      if argument.length = 1 then .ok .plain
      else
        let (start, value) := splitEquals argument
        match value, interface.switchNames.lookup start with
        | some value, some switch => .ok (.switch switch start (some value))
        | _, _ =>
          match abbreviated interface argument with
          | [mark] => .ok mark
          | [] =>
            if isNegativeNumber argument || argument.toList.contains ' ' then .ok .plain
            else .ok .unknown
          | marks => .error (.ambiguous argument (marks.filterMap Mark.name?))

/-- What all arguments are; after the terminator they are plain. -/
def classifyAll (interface : Interface) : List String → Except UsageError (List (String × Mark))
  | [] => .ok []
  | argument :: rest =>
    if argument = terminator then .ok ((argument, .terminator) :: rest.map fun text => (text, .plain))
    else do
      let mark ← classify interface argument
      let marks ← classifyAll interface rest
      .ok ((argument, mark) :: marks)

/-- What was read: the switches with their arguments, the operand with what belongs to it, and what is
left over. -/
structure Reading where
  switches : List (String × String)
  operand : List String
  leftOver : List String

namespace Reading

/-- Nothing was read yet. -/
def empty : Reading := ⟨[], [], []⟩

/-- Note a switch. -/
def give (reading : Reading) (name value : String) : Reading :=
  { reading with switches := reading.switches ++ [(name, value)] }

/-- Note arguments that nothing accepts. -/
def leave (reading : Reading) (arguments : List String) : Reading :=
  { reading with leftOver := reading.leftOver ++ arguments }

/-- The argument of a switch; the last one counts. -/
def value? (reading : Reading) (name : String) : Option String :=
  reading.switches.reverse.lookup name

/-- Whether a switch was given. -/
def has (reading : Reading) (name : String) : Bool := (reading.value? name).isSome

end Reading

/-- Check the argument of a switch. -/
def checkArgument (switch : Switch) (kind : ArgumentKind) (value : String) :
    Except UsageError Unit :=
  match kind with
  | .text => .ok ()
  | .integer =>
    match Decimal.integer value with
    | .ok _ => .ok ()
    | .error _ => .error (.notInteger switch.allNames value)
  | .choice choices =>
    if choices.contains value then .ok ()
    else .error (.notChoice switch.allNames value choices)

/-- Take the letters after a one-letter switch as further one-letter switches. -/
def takeLetters (interface : Interface) (switch : Switch) (taken : List Switch) :
    List Char → Except UsageError (List Switch)
  | [] => .ok taken
  | letter :: rest =>
    match interface.switchNames.lookup (String.ofList ['-', letter]) with
    | none => .error (.unwanted switch.allNames (String.ofList (letter :: rest)))
    | some next => takeLetters interface next (taken ++ [next]) rest

/-- Give switches without arguments; asking for help ends the reading. -/
def giveFlags (interface : Interface) (reading : Reading) : List Switch → Except Stop Reading
  | [] => .ok reading
  | switch :: rest =>
    if switch = Switch.helpSwitch then .error (.help interface)
    else giveFlags interface (reading.give switch.name "") rest

/-- Give a switch that has an attached text. The terminator stands for an empty argument, which is not
checked. -/
def giveAttached (interface : Interface) (reading : Reading) (switch : Switch)
    (name attached : String) : Except Stop Reading := do
  let misused (error : UsageError) : Stop := .misused interface error
  match switch.argument with
  | some kind =>
    if attached = terminator then .ok (reading.give switch.name "")
    else do
      (checkArgument switch kind attached).mapError misused
      .ok (reading.give switch.name attached)
  | none =>
    if isShort name && !attached.isEmpty then do
      let switches ← (takeLetters interface switch [switch] attached.toList).mapError misused
      giveFlags interface reading switches
    else .error (misused (.unwanted switch.allNames attached))

/-- Whether an argument cannot be a switch. -/
def isOperand : Mark → Bool
  | .plain => true
  | .terminator => true
  | _ => false

/-- The operand at the start of some arguments, with what belongs to it, and the rest. A terminator
around a single operand is dropped. -/
def takeOperand? (operand : Operand) (arguments : List (String × Mark)) :
    Option (List String × List (String × Mark)) :=
  let isTerminator (argument : String × Mark) : Bool :=
    match argument.2 with
    | .terminator => true
    | _ => false
  let before := arguments.takeWhile isTerminator
  match arguments.dropWhile isTerminator with
  | [] => none
  | first :: rest =>
    match operand with
    | .command _ _ => some (arguments.map (·.1), [])
    | .single _ _ =>
      let taken := before ++ first :: rest.takeWhile isTerminator
      some ((taken.map (·.1)).erase terminator, rest.dropWhile isTerminator)

/-- Check the operand: a command has to be one of the known ones. -/
def checkOperand (operand : Operand) (taken : List String) : Except UsageError Unit :=
  match operand with
  | .single _ _ => .ok ()
  | .command commands _ =>
    let name := taken.headD ""
    if (commands.map (·.1)).contains name then .ok ()
    else .error (.notChoice operand.name name (commands.map (·.1)))

/-- Read arguments. `pending` says whether the operand is still missing; every step takes at least one
argument, which bounds the number of steps. -/
def readFrom (interface : Interface) (pending : Bool) (reading : Reading) :
    Nat → List (String × Mark) → Except Stop (Reading × Bool)
  | 0, _ => .ok (reading, pending)
  | _ + 1, [] => .ok (reading, pending)
  | steps + 1, (argument, mark) :: rest =>
    let misused (error : UsageError) : Stop := .misused interface error
    match mark with
    | .unknown => readFrom interface pending (reading.leave [argument]) steps rest
    | .switch switch name (some attached) => do
      let given ← giveAttached interface reading switch name attached
      readFrom interface pending given steps rest
    | .switch switch _ none =>
      match switch.argument, rest with
      | none, _ => do
        let given ← giveFlags interface reading [switch]
        readFrom interface pending given steps rest
      | some kind, (value, .plain) :: rest => do
        (checkArgument switch kind value).mapError misused
        readFrom interface pending (reading.give switch.name value) steps rest
      | some _, _ => .error (misused (.noArgument switch.allNames))
    | _ =>
      let arguments := (argument, mark) :: rest
      let found := if pending then takeOperand? interface.operand arguments else none
      match found with
      | some (taken, left) => do
        (checkOperand interface.operand taken).mapError misused
        readFrom interface false { reading with operand := taken } steps left
      | none =>
        let isPlain (argument : String × Mark) : Bool := isOperand argument.2
        readFrom interface pending
          (reading.leave ((arguments.takeWhile isPlain).map (·.1))) steps
          (arguments.dropWhile isPlain)

/-- Read the arguments of a command. A single operand has to be there. -/
def read (interface : Interface) (arguments : List String) : Except Stop Reading := do
  let marks ← (classifyAll interface arguments).mapError (.misused interface)
  let (reading, pending) ← readFrom interface true .empty (marks.length + 1) marks
  match interface.operand with
  | .single name _ =>
    if pending then .error (.misused interface (.missing name)) else .ok reading
  | .command _ _ => .ok reading

end RowPlan.CommandLine
