import Vitae.CommandLine.Run

/-!
The command line program over the system's files and streams.
-/

namespace Vitae.CommandLine

def faultOf : IO.Error → FileFault
  | .noFileOrDirectory .. => .notFound
  | .alreadyExists .. => .exists
  | .inappropriateType _ code _ => if code = 20 then .notDirectory else .isDirectory
  | .permissionDenied _ code reason => .other s!"{reason} (os error {code})"
  | fault => .other (toString fault)

def guarded {α : Type} (action : IO α) : IO (Except FileFault α) := do
  match ← action.toBaseIO with
  | .ok value => return .ok value
  | .error fault => return .error (faultOf fault)

partial def readAll (stream : IO.FS.Stream) (bytes : ByteArray) : IO ByteArray := do
  let chunk ← stream.read 65536
  if chunk.isEmpty then return bytes else readAll stream (bytes ++ chunk)

def systemMachine : Machine IO where
  readStandardInput := return (← readAll (← IO.getStdin) .empty).toList
  readFile path := guarded do return (← IO.FS.readBinFile path).toList
  writeFile path content := guarded (IO.FS.writeFile path content)
  createDirectories path := guarded (IO.FS.createDirAll path)
  print text := do (← IO.getStdout).putStr text
  printError text := do (← IO.getStderr).putStr text

end Vitae.CommandLine

open Vitae CommandLine in
def main (arguments : List String) : IO UInt32 := do
  run systemMachine (← IO.getEnv pageSizeVariable) arguments
