/-!
Reading command line arguments by a grammar of flags, options with values, operands and commands. Flags and
options may stand anywhere before `--`; the name of a command hands the rest over to it.
-/

namespace Vitae.CommandLine

structure OptionRule where
  name : String
  letter : Option Char := none
  repeatable : Bool := false
  accepts : String → Bool

structure Grammar where
  flags : List String := []
  options : List OptionRule := []
  /-- How many operands there may be. -/
  operands : Nat := 0
  commands : List String := []
  hasVersion : Bool := false

/-- Why arguments name nothing to run. -/
inductive Stop where
  | usage
  | version
  | help
deriving DecidableEq

structure Arguments where
  flags : List String := []
  values : List (String × String) := []
  operands : List String := []
  /-- The command that was named, and the arguments behind its name. -/
  command : Option (String × List String) := none

namespace Arguments

def value? (given : Arguments) (name : String) : Option String :=
  given.values.lookup name

/-- All values of an option in order. -/
def valuesOf (given : Arguments) (name : String) : List String :=
  (given.values.filter (·.1 = name)).map (·.2)

def has (given : Arguments) (flag : String) : Bool :=
  flag ∈ given.flags

/-- A flag is given once. -/
def addFlag (given : Arguments) (flag : String) : Except Stop Arguments :=
  if given.has flag then .error .usage else .ok { given with flags := flag :: given.flags }

def addValue (given : Arguments) (option : OptionRule) (value : String) : Except Stop Arguments :=
  if option.accepts value ∧ (option.repeatable ∨ given.value? option.name = none) then
    .ok { given with values := given.values ++ [(option.name, value)] }
  else .error .usage

/-- An operand is never empty. -/
def addOperand (given : Arguments) (limit : Nat) (operand : String) : Except Stop Arguments :=
  if operand ≠ "" ∧ given.operands.length < limit then
    .ok { given with operands := given.operands ++ [operand] }
  else .error .usage

end Arguments

/-- What the next argument may be. -/
inductive Place where
  | anything
  | valueOf (option : OptionRule)
  | operandsOnly

/-- The arguments after one that begins with two dashes, and what may come next. -/
def Grammar.long (grammar : Grammar) (given : Arguments) (text : List Char) : Except Stop (Arguments × Place) :=
  let name := String.ofList (text.takeWhile (· ≠ '='))
  match grammar.options.find? (·.name = name), (text.dropWhile (· ≠ '=')).tail? with
  | some option, some value => return (← given.addValue option (.ofList value), .anything)
  | some option, none => return (given, .valueOf option)
  | none, some _ => .error .usage
  | none, none =>
    if name ∈ grammar.flags then return (← given.addFlag name, .anything)
    else if name = "version" ∧ grammar.hasVersion then .error .version
    else if name = "help" then .error .help
    else .error .usage

/-- The arguments after one that begins with one dash: a letter and the value attached to it, if any. -/
def Grammar.short (grammar : Grammar) (given : Arguments) (letter : Char) (text : List Char) :
    Except Stop (Arguments × Place) :=
  match grammar.options.find? (·.letter = some letter), text with
  | some option, '=' :: value => return (← given.addValue option (.ofList value), .anything)
  | some option, [] => return (given, .valueOf option)
  | some option, value => return (← given.addValue option (.ofList value), .anything)
  | none, _ =>
    if letter = 'V' ∧ grammar.hasVersion then .error .version
    else if letter = 'h' then .error .help
    else .error .usage

/-- A dash alone is an operand. -/
def Grammar.read (grammar : Grammar) (place : Place) (given : Arguments) : List String → Except Stop Arguments
  | [] =>
    match place with
    | .valueOf _ => .error .usage
    | _ => .ok given
  | argument :: rest =>
    match place, argument.toList with
    | .operandsOnly, _ => do grammar.read .operandsOnly (← given.addOperand grammar.operands argument) rest
    | .anything, ['-', '-'] => grammar.read .operandsOnly given rest
    | .anything, '-' :: '-' :: text => do
      let (next, place) ← grammar.long given text
      grammar.read place next rest
    | .anything, '-' :: letter :: text => do
      let (next, place) ← grammar.short given letter text
      grammar.read place next rest
    | .anything, _ =>
      if argument ∈ grammar.commands then .ok { given with command := some (argument, rest) }
      else do grammar.read .anything (← given.addOperand grammar.operands argument) rest
    | .valueOf _, '-' :: _ :: _ => .error .usage
    | .valueOf option, _ => do grammar.read .anything (← given.addValue option argument) rest

end Vitae.CommandLine
