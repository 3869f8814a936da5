import JsonClasses.Disk.Basic

/-! # Scripts

A script is what a command asks of its surroundings, step by step, each step going on with the
answer. It can be run against a disk that is a value. -/
namespace JsonClasses.Command

/-- What went wrong, and why if there is more to say. -/
structure Failure where
  summary : String
  cause : Option String := none
  deriving DecidableEq, Repr

/-- The lines of the cause are indented. -/
def Failure.report (failure : Failure) : String :=
  match failure.cause with
  | none => "Error: " ++ failure.summary
  | some cause =>
      let indented := (Text.separated '\n' cause).map fun line => "    " ++ line
      "Error: " ++ failure.summary ++ "\n\nCaused by:\n" ++ String.intercalate "\n" indented

inductive Script
  | done
  | fail (failure : Failure)
  | print (text : String) (next : Script)
  | readInput (next : ByteArray → Script)
  | readFile (path : String) (next : Except DiskError ByteArray → Script)
  | isFile (path : String) (next : Bool → Script)
  | pathExists (path : String) (next : Bool → Script)
  | makeDirectories (path : String) (next : Except DiskError Unit → Script)
  | writeFile (path : String) (content : ByteArray) (next : Except DiskError Unit → Script)

/-- How a run ended: what it printed, why it failed if it did, and what it left on the disk. -/
structure Outcome where
  printed : String
  failure : Option Failure
  disk : Disk

namespace Script

/-- Runs a script on a disk with the bytes of the standard input, after `printed`. -/
@[simp] def runFrom (input : ByteArray) (printed : String) (disk : Disk) : Script → Outcome
  | done => ⟨printed, none, disk⟩
  | fail failure => ⟨printed, some failure, disk⟩
  | print text next => next.runFrom input (printed ++ text) disk
  | readInput next => (next input).runFrom input printed disk
  | readFile path next => (next (disk.readFile path)).runFrom input printed disk
  | isFile path next => (next (disk.isFile path)).runFrom input printed disk
  | pathExists path next => (next (disk.pathExists path)).runFrom input printed disk
  | makeDirectories path next =>
      match disk.makeDirectories path with
      | .ok disk => (next (.ok ())).runFrom input printed disk
      -- what was made before the failure stays
      | .error (e, disk) => (next (.error e)).runFrom input printed disk
  | writeFile path content next =>
      match disk.writeFile path content with
      | .ok disk => (next (.ok ())).runFrom input printed disk
      | .error e => (next (.error e)).runFrom input printed disk

def run (script : Script) (input : ByteArray) (disk : Disk) : Outcome :=
  script.runFrom input "" disk

end Script
end JsonClasses.Command
