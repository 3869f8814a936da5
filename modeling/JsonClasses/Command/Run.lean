import JsonClasses.Command.Actions

/-! # Whole command lines

From the words of a command line to what it prints and its exit code. -/
namespace JsonClasses.Command

/-- Says how the program is called. -/
def usageText : String :=
  "Usage: jsonpojo [-v] generate -i <input> -c <class> [-p <package>] [-o <directory>]\n" ++
  "         [--style <style>] [--class-case <case>] [--field-case <case>]\n" ++
  "         [--method-case <case>] [--parameter-case <case>] [--config <file>]\n" ++
  "       jsonpojo [-v] check [-c <file>]\n" ++
  "       jsonpojo [-v] init [-p <file>] [-f]\n" ++
  "       jsonpojo --version\n"

/-! ## Without a command -/

/-- What is printed where no command runs. -/
def Stop.printed : Stop → String
  | usage => ""
  | help => usageText
  | version => versionLine

/-- What goes to the standard error where no command runs. -/
def Stop.complaint : Stop → String
  | usage => usageText
  | help | version => ""

def Stop.exitCode : Stop → Nat
  | usage => 2
  | help | version => 0

/-! ## Runs -/

def Outcome.exitCode (outcome : Outcome) : Nat := if outcome.failure.isNone then 0 else 1

/-- What a command line asks for. -/
def lineScript (words : List String) (readers : Readers := {}) : Except Stop Script :=
  match readers.request words with
  | .error stop => .error stop
  | .ok request => .ok (request.script readers)

/-- Runs a command line on a disk with the bytes of the standard input, and gives the exit code.
The standard output is taken to accept all that is printed, so that no run ends there. -/
def runLine (words : List String) (input : ByteArray) (disk : Disk) (readers : Readers := {}) :
    Nat × Outcome :=
  match lineScript words readers with
  | .error stop => (stop.exitCode, ⟨stop.printed, none, disk⟩)
  | .ok script =>
      let outcome := script.run input disk
      (outcome.exitCode, outcome)

end JsonClasses.Command
