import Vitae.CommandLine.Path
import Vitae.CommandLine.Run

/-!
A machine in memory: one directory with the files and directories below it, what standard input holds, and
what has been printed. Nothing outside the directory exists.
-/

namespace Vitae.CommandLine

inductive Entry where
  | file (bytes : List UInt8)
  | directory
deriving DecidableEq

/-- The entries below a directory, each under the components of its path. -/
abbrev Directory := List (List String × Entry)

namespace Directory

/-- A place that a path reaches, step by step; `none` is any place outside the directory. -/
abbrev Position := Option (List String)

def get? (directory : Directory) : Position → Option Entry
  | none | some [] => some .directory
  | some path => directory.lookup path

/-- Adds an entry, and the directories on the way to it. -/
def insert (directory : Directory) (path : List String) (entry : Entry) : Directory :=
  let parents := (List.range path.length).map path.take
  let missing := parents.filter fun parent => parent ≠ [] ∧ (directory.lookup parent).isNone
  (path, entry) :: (directory.filter (·.1 ≠ path) ++ missing.map fun parent => (parent, .directory))

/-- One step of a path from a place that has to be a directory. -/
def step (directory : Directory) (here : Position) (name : String) : Except FileFault Position :=
  match directory.get? here with
  | none => .error .notFound
  | some (.file _) => .error .notDirectory
  | some .directory =>
    if name = "" ∨ name = "." then .ok here
    else if name = ".." then .ok (here.bind fun path => if path = [] then none else some path.dropLast)
    else if 255 < name.utf8ByteSize then .error .nameTooLong
    else match here with
      | none => .error .notFound
      | some path => .ok (some (path ++ [name]))

def walk (directory : Directory) (here : Position) (names : List String) : Except FileFault Position :=
  names.foldlM directory.step here

def start (path : String) : Position :=
  if Path.isAbsolute path then none else some []

def read (directory : Directory) (path : String) : Except FileFault (List UInt8) := do
  match directory.get? (← directory.walk (start path) (path.splitOn "/")) with
  | none => .error .notFound
  | some .directory => .error .isDirectory
  | some (.file bytes) => .ok bytes

/-- A path that ends in a slash can only name a directory. -/
def write (directory : Directory) (path content : String) : Except FileFault Directory := do
  let names := path.splitOn "/"
  if names.getLast? = some "" then
    let _ ← directory.walk (start path) (names.reverse.dropWhile (· = "")).reverse
    .error .isDirectory
  let place ← directory.walk (start path) names
  match directory.get? place, place with
  | some .directory, _ | _, none => .error .isDirectory
  | _, some place => .ok (directory.insert place (.file content.toUTF8.toList))

/-- One step of creating a directory and the directories on the way to it. -/
def createStep (state : Directory × Position) (name : String) : Except FileFault (Directory × Position) := do
  let next ← state.1.step state.2 name
  match state.1.get? next, next with
  | none, some path => .ok (state.1.insert path .directory, next)
  | _, _ => .ok (state.1, next)

def create (directory : Directory) (path : String) : Except FileFault Directory := do
  let (made, place) ← ((path.splitOn "/").reverse.dropWhile (· = "")).reverse.foldlM createStep
    (directory, start path)
  match made.get? place with
  | some (.file _) => .error .exists
  | _ => .ok made

end Directory

structure World where
  directory : Directory
  standardInput : List UInt8
  printed : String := ""
  printedErrors : String := ""

namespace World

def changeDirectory (change : Directory → Except FileFault Directory) :
    StateM World (Except FileFault Unit) := fun world =>
  match change world.directory with
  | .ok directory => (.ok (), { world with directory })
  | .error fault => (.error fault, world)

def machine : Machine (StateM World) where
  readStandardInput := return (← get).standardInput
  readFile path := return (← get).directory.read path
  writeFile path content := changeDirectory (·.write path content)
  createDirectories path := changeDirectory (·.create path)
  print text := modify fun world => { world with printed := world.printed ++ text }
  printError text := modify fun world => { world with printedErrors := world.printedErrors ++ text }

/-- The files that are new or not as they were. -/
def changedFiles (before after : Directory) : List (List String × List UInt8) :=
  after.filterMap fun (path, entry) =>
    match entry with
    | .file bytes => if before.lookup path = some entry then none else some (path, bytes)
    | .directory => none

end World

end Vitae.CommandLine
