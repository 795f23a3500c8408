/-!
Paths as text: components between slashes, where empty components and inner dots say nothing.
-/

namespace Vitae.CommandLine.Path

def isAbsolute (path : String) : Bool :=
  path.startsWith "/"

def components (path : String) : List String :=
  (path.splitOn "/").filter fun name => name ≠ "" ∧ name ≠ "."

/-- Holds for the dash that stands for standard input. -/
def isStandardInput (path : String) : Bool :=
  !isAbsolute path && components path = ["-"] && !path.startsWith "."

/-- The name of the file at the end of a path, without what follows its last dot. -/
def stem (path : String) : String :=
  match (components path).getLast? with
  | none => ""
  | some ".." => ""
  | some name =>
    let characters := name.toList
    let extension := (characters.reverse.takeWhile (· ≠ '.')).length + 1
    if characters.length ≤ extension then name else .ofList (characters.take (characters.length - extension))

def join (directory name : String) : String :=
  if directory.endsWith "/" then directory ++ name else directory ++ "/" ++ name

end Vitae.CommandLine.Path
