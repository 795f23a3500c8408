import Vitae.CommandLine.Arguments
import Vitae.Conversion

/-!
The commands of the program and the arguments that name them.
-/

namespace Vitae.CommandLine

def programName : String := "rezume"

def programVersion : String := "0.3.1"

/-- The environment variable that chooses the paper where no option does. -/
def pageSizeVariable : String := "REZUME_PAGE_SIZE"

/-- What shapes the output of every command that converts. -/
structure Shape where
  pageSize : PageSize := .letter
  strict : Bool := false
  fragment : Bool := false
  skippedSections : List String := []

def entryPolicy (strict : Bool) : EntryPolicy :=
  if strict then .drop else .degrade

def Shape.options (shape : Shape) (format : OutputFormat) (layout : JsonLayout) : ConvertOptions where
  transpile := { malformedEntries := entryPolicy shape.strict }
  render := { stylesheet := { pageSize := shape.pageSize }, standalone := !shape.fragment }
  format := format
  jsonLayout := layout
  skippedSections := shape.skippedSections

inductive Command where
  | render (input : String) (output? : Option String) (options : ConvertOptions)
  /-- Every format, each in a file of one directory. -/
  | convertAll (input : String) (directory? : Option String) (shape : Shape)
  | check (input : String) (denyWarnings json strict : Bool)
  | version
  /-- Nothing was asked for. -/
  | hint

/-- Paper has two names, in lower case. -/
def pageSize? (text : String) : Option PageSize :=
  [("letter", .letter), ("a4", .a4)].lookup text

def shapeFlags : List String :=
  ["strict", "fragment"]

def shapeOptions : List OptionRule :=
  [{ name := "page-size", accepts := fun text => (pageSize? text).isSome },
   { name := "skip-section", repeatable := true, accepts := fun _ => true }]

def outputOption : OptionRule where
  name := "output"
  letter := some 'o'
  accepts := fun text => text ≠ ""

def commandNames : List String :=
  ["convert", "html", "markdown", "md", "text", "json", "check", "version", "help"]

def mainGrammar : Grammar where
  flags := shapeFlags
  options := shapeOptions
  operands := 2
  commands := commandNames
  hasVersion := true

def commandGrammar : String → Grammar
  | "json" => { flags := "compact" :: shapeFlags, options := outputOption :: shapeOptions, operands := 1 }
  | "check" => { flags := ["deny-warnings", "json", "strict"], operands := 1 }
  | "version" => {}
  | _ => { flags := shapeFlags, options := outputOption :: shapeOptions, operands := 1 }

/-- The shape that arguments ask for; the paper may come from the environment. -/
def shapeOf (environment : Option String) (given : Arguments) : Except Stop Shape :=
  let flagged (size : PageSize) : Shape :=
    ⟨size, given.has "strict", given.has "fragment", given.valuesOf "skip-section"⟩
  match given.value? "page-size" <|> environment with
  | none => .ok (flagged .letter)
  | some text => ((pageSize? text).map flagged).elim (.error .usage) .ok

def named (environment : Option String) (name : String) (arguments : List String) : Except Stop Command := do
  if name = "help" then .error .help
  let given ← (commandGrammar name).read .anything {} arguments
  if name = "version" then return .version
  let input ← (given.operands.head?.elim (.error .usage) .ok : Except Stop String)
  if name = "check" then
    return .check input (given.has "deny-warnings") (given.has "json") (given.has "strict")
  let shape ← shapeOf environment given
  let output? := given.value? "output"
  let layout := if given.has "compact" then .compact else .indented
  match name with
  | "convert" => return .convertAll input output? shape
  | "html" => return .render input output? (shape.options .html layout)
  | "text" => return .render input output? (shape.options .text layout)
  | "json" => return .render input output? (shape.options .json layout)
  | _ => return .render input output? (shape.options .markdown layout)

/-- The command that arguments name; without a name, operands are rendered as HTML. -/
def command (environment : Option String) (arguments : List String) : Except Stop Command := do
  let given ← mainGrammar.read .anything {} arguments
  match given.command with
  | some (name, rest) =>
    let found ← named environment name rest
    let _ ← shapeOf environment given
    return found
  | none =>
    let shape ← shapeOf environment given
    match given.operands with
    | [] => return .hint
    | input :: later => return .render input later.head? (shape.options .html .indented)

end Vitae.CommandLine
