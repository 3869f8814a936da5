import JsonClasses.Command.Switch
import JsonClasses.Settings

/-! # Commands on a command line -/
namespace JsonClasses.Command

/-- What to generate a class from, and where to. -/
structure GenerateRequest where
  input : String
  className : String
  package : String
  output : Option String
  style : Option Style
  classCase : Option Spelling
  fieldCase : Option Spelling
  methodCase : Option Spelling
  parameterCase : Option Spelling
  config : Option String
  deriving DecidableEq, Repr

inductive Request
  | generate (request : GenerateRequest)
  | check (config : Option String)
  | init (path : Option String) (force : Bool)
  deriving DecidableEq, Repr

/-! ## Switches -/

def anyText (_ : String) : Bool := true

def verbose : Switch := ⟨"verbose", some 'v', .repeatable⟩

def help : Switch := ⟨"help", some 'h', .stop .help⟩

def topSwitches : List Switch := [verbose, help, ⟨"version", some 'V', .stop .version⟩]

def spellingSwitch (name : String) : Switch :=
  ⟨name, none, .value fun text => (Spelling.read? text).isSome⟩

def generateSwitches : List Switch :=
  [verbose, help,
   ⟨"input", some 'i', .value anyText⟩,
   ⟨"class", some 'c', .value anyText⟩,
   ⟨"package", some 'p', .value anyText⟩,
   ⟨"output", some 'o', .value fun text => !text.isEmpty⟩,
   ⟨"style", none, .value fun text => (Style.read? text).isSome⟩,
   spellingSwitch "class-case", spellingSwitch "field-case", spellingSwitch "method-case",
   spellingSwitch "parameter-case",
   ⟨"config", none, .value anyText⟩]

def checkSwitches : List Switch := [verbose, help, ⟨"config", some 'c', .value anyText⟩]

def initSwitches : List Switch :=
  [verbose, help, ⟨"path", some 'p', .value anyText⟩, ⟨"force", some 'f', .flag⟩]

/-! ## Reading -/

/-- The switches of a command that takes no operands. -/
def readAll (switches : List Switch) (words : List String) : Except Stop Given :=
  match readSwitches switches [] none words with
  | .error stop => .error stop
  | .ok (given, []) => .ok given
  | .ok (_, _ :: _) => .error .usage

def generateRequest (given : Given) : Except Stop Request :=
  match given.lookup "input", given.lookup "class" with
  | some input, some className =>
      let spelling (name : String) := (given.lookup name).bind Spelling.read?
      .ok (.generate {
        input, className
        package := (given.lookup "package").getD ""
        output := given.lookup "output"
        style := (given.lookup "style").bind Style.read?
        classCase := spelling "class-case"
        fieldCase := spelling "field-case"
        methodCase := spelling "method-case"
        parameterCase := spelling "parameter-case"
        config := given.lookup "config" })
  | _, _ => .error .usage

def commandNames : List String := ["generate", "check", "init", "help"]

def readHelp : List String → Stop
  | [] => .help
  | [name] => if commandNames.contains name then .help else .usage
  | _ => .usage

/-- Reads a whole command line, without the name of the program. -/
def read (words : List String) : Except Stop Request :=
  match readSwitches topSwitches [] none words with
  | .error stop => .error stop
  | .ok (_, []) => .error .usage
  | .ok (_, name :: rest) =>
      if name = "generate" then (readAll generateSwitches rest).bind generateRequest
      else if name = "check" then
        (readAll checkSwitches rest).map fun given => .check (given.lookup "config")
      else if name = "init" then
        (readAll initSwitches rest).map fun given =>
          .init (given.lookup "path") (given.lookup "force").isSome
      else if name = "help" then .error (readHelp rest)
      else .error .usage

end JsonClasses.Command
