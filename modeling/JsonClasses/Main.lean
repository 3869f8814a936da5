import JsonClasses.Command.Run

/-! # The program

Runs a script against the real files and standard streams. -/
namespace JsonClasses.Command

def diskError : IO.Error → DiskError
  | .noFileOrDirectory .. => .notFound
  | .alreadyExists .. => .alreadyExists
  | .inappropriateType .. => .isDirectory
  | e => .other (toString e)

/-- The answer of the system, or its refusal. -/
def attempt {α : Type} (action : IO α) : IO (Except DiskError α) := do
  match ← action.toBaseIO with
  | .ok x => return .ok x
  | .error e => return .error (diskError e)

/-- The answer to whether a path can be opened, and whether it can be read as a file. -/
def opens (path : String) : IO Bool := do
  match ← attempt (IO.FS.Handle.mk path .read) with
  | .ok _ => return true
  | .error e => return e != .notFound

def reads (path : String) : IO Bool := do
  return (← attempt (IO.FS.readBinFile path)).isOk

def perform : Script → IO UInt32
  | .done => return 0
  | .fail failure => do
      IO.eprintln failure.report
      return 1
  | .print text next => do
      IO.print text
      perform next
  | .readInput next => do
      perform (next (← (← IO.getStdin).readBinToEnd))
  | .readFile path next => do
      perform (next (← attempt (IO.FS.readBinFile path)))
  | .isFile path next => do
      perform (next (← reads path))
  | .pathExists path next => do
      perform (next (← opens path))
  | .makeDirectories path next => do
      -- nothing is to be made above a bare name
      perform (next (← attempt (if path.isEmpty then pure () else IO.FS.createDirAll path)))
  | .writeFile path content next => do
      perform (next (← attempt (IO.FS.writeBinFile path content)))

/-- What `runLine` says, but done to the real files. -/
def performLine (words : List String) : IO UInt32 := do
  match lineScript words with
  | .error stop => do
      IO.print stop.printed
      IO.eprint stop.complaint
      return stop.exitCode.toUInt32
  | .ok script => perform script

end JsonClasses.Command

def main (arguments : List String) : IO UInt32 := JsonClasses.Command.performLine arguments
