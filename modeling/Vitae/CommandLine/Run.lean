import Vitae.CommandLine.Command
import Vitae.CommandLine.Path

/-!
What commands do, over a machine that reads and writes files and prints. A run ends with an exit code; a
command that fails says why on standard error.
-/

namespace Vitae.CommandLine

/-- What a command asks of the system. -/
structure Machine (m : Type → Type) where
  readStandardInput : m (List UInt8)
  readFile : (path : String) → m (Except FileFault (List UInt8))
  writeFile : (path content : String) → m (Except FileFault Unit)
  createDirectories : (path : String) → m (Except FileFault Unit)
  print : String → m Unit
  printError : String → m Unit

/-- Why a command failed. -/
inductive RunFault where
  | file (fault : FileFault)
  | warningsDenied (count : Nat)

def RunFault.message : RunFault → String
  | .file fault => fault.message
  | .warningsDenied count => s!"{count} warning(s) reported"

def heading (name : String) (value : Nat) : String :=
  name ++ ": " ++ toString value ++ "\n"

/-- What `check` says about a conversion. -/
def report (input : String) (conversion : Conversion) (stats : TreeStats) : String :=
  "Resume Check\n" ++ .ofList (List.replicate 40 '─') ++ "\n" ++ "File: " ++ input ++ "\n" ++
    heading "Sections" stats.sectionCount ++ heading "Entries" stats.entryCount ++
    s!"Lists: {stats.listCount} ({stats.listItemCount} items)\n" ++ heading "Links" stats.linkCount ++
    heading "Words" stats.wordCount ++ "\n" ++
    if conversion.warnings.isEmpty then "No warnings\n"
    else s!"Warnings ({conversion.warnings.length})\n" ++
      String.join (conversion.warnings.map fun warning => "  - " ++ warning ++ "\n")

/-- The same as JSON, with the members of objects in alphabetical order. -/
def jsonReport (input : String) (conversion : Conversion) (stats : TreeStats) : String :=
  let counts := (TreeStats.fieldNames.zip (stats.counts.map Json.ofNat)).mergeSort fun first second =>
    first.1 ≤ second.1
  (Json.object [("file", .string input), ("stats", .object counts),
    ("warnings", .strings conversion.warnings)]).indented ++ "\n"

/-- The directory that `convert` writes to where none is chosen. -/
def outputDirectory (input : String) : String :=
  if Path.isStandardInput input then "resume_output" else Path.stem input ++ "_output"

def outputName (format : OutputFormat) : String :=
  "resume." ++ format.extension

def fileList : List String → String
  | [] => ""
  | [name] => "  └─ " ++ name ++ "\n"
  | name :: rest => "  ├─ " ++ name ++ "\n" ++ fileList rest

def hintText : String :=
  "Usage: " ++ programName ++ " <FILE> [OUTPUT]\n       " ++ programName ++ " --help for more information\n"

def versionText : String :=
  programName ++ " " ++ programVersion ++ "\n"

section

variable {m : Type → Type} [Monad m] (machine : Machine m)

def readInput (input : String) : ExceptT RunFault m String := do
  let read ← if Path.isStandardInput input then .ok <$> machine.readStandardInput else machine.readFile input
  match read with
  | .error fault => throw (.file fault)
  | .ok bytes =>
    match Text.Utf8.decode bytes with
    | .ok text => return text
    | .error _ => throw (.file .notText)

def attempt (action : m (Except FileFault Unit)) : ExceptT RunFault m Unit := do
  match ← action with
  | .ok () => return
  | .error fault => throw (.file fault)

def printWarnings (warnings : List String) : ExceptT RunFault m Unit :=
  warnings.forM fun warning => machine.printError ("warning: " ++ warning ++ "\n")

def Command.execute : Command → ExceptT RunFault m Unit
  | .render input output? options => do
    let conversion := convert options (← readInput machine input)
    printWarnings machine conversion.warnings
    match output? with
    | some output =>
      attempt (machine.writeFile output conversion.content)
      machine.print ("Saved to " ++ output ++ "\n")
    | none => machine.print (conversion.content ++ "\n")
  | .convertAll input directory? shape => do
    let directory := directory?.getD (outputDirectory input)
    attempt (machine.createDirectories directory)
    let markup ← readInput machine input
    let warnings ← OutputFormat.all.mapM fun format => do
      let conversion := convert (shape.options format .indented) markup
      attempt (machine.writeFile (Path.join directory (outputName format)) conversion.content)
      return conversion.warnings
    printWarnings machine (warnings.getLastD [])
    machine.print ("\nOutput files:\n" ++ fileList (OutputFormat.all.map outputName))
  | .check input denyWarnings json strict => do
    let options : ConvertOptions :=
      { transpile := { malformedEntries := entryPolicy strict }, render := { collectStats := true }, format := .text }
    let conversion := convert options (← readInput machine input)
    let stats := conversion.stats.getD {}
    machine.print (if json then jsonReport input conversion stats else report input conversion stats)
    if denyWarnings ∧ conversion.hasWarnings then throw (.warningsDenied conversion.warnings.length)
  | .version => machine.print (versionText ++ "Resume markup conversion tool\n\nLicense: MIT\n")
  | .hint => machine.print hintText

/-- Runs what the arguments name and answers with the exit code. -/
def run (environment : Option String) (arguments : List String) : m UInt32 := do
  match command environment arguments with
  | .error .usage => return 2
  | .error .version =>
    machine.print versionText
    return 0
  | .error .help =>
    machine.print hintText
    return 0
  | .ok command =>
    match ← command.execute machine with
    | .ok () => return 0
    | .error fault =>
      machine.printError ("Error: " ++ fault.message ++ "\n")
      return 1

end

end Vitae.CommandLine
