/-! # Switches on a command line

A switch has a long name and may have a short one of one letter. It stands alone or takes a value:
`--name value`, `--name=value`, `-n value`, `-nvalue`, `-n=value`. Short switches without values can
be run together. -/
namespace JsonClasses.Command

/-- Why a command line ends before a command runs. -/
inductive Stop
  | usage
  | help
  | version
  deriving DecidableEq, Repr

inductive Effect
  /-- Ends the command line at once. -/
  | stop (reason : Stop)
  /-- May be repeated and has no effect on the result. -/
  | repeatable
  | flag
  /-- Takes a value for which the test holds. -/
  | value (accepts : String → Bool)

structure Switch where
  long : String
  short : Option Char
  effect : Effect

/-- The switches given so far, by their long names, latest first. -/
abbrev Given := List (String × String)

/-- Records a switch; only a repeatable one may come twice. -/
def record (given : Given) (switch : Switch) (text : String) : Except Stop Given :=
  match switch.effect with
  | .stop reason => .error reason
  | .repeatable => .ok given
  | .flag => if (given.lookup switch.long).isSome then .error .usage
      else .ok ((switch.long, text) :: given)
  | .value accepts =>
      if (given.lookup switch.long).isSome || !accepts text then .error .usage
      else .ok ((switch.long, text) :: given)

def takesValue (switch : Switch) : Bool :=
  match switch.effect with
  | .value _ => true
  | _ => false

/-- What a word of the command line is. -/
inductive Word
  | long (name : String) (attached : Option String)
  | short (letters : List Char)
  /-- Only operands follow. -/
  | separator
  | operand

def Word.ofString (word : String) : Word :=
  match word.toList with
  | ['-', '-'] => .separator
  | '-' :: '-' :: rest =>
      let name := String.ofList (rest.takeWhile (· != '='))
      match rest.dropWhile (· != '=') with
      | [] => .long name none
      | _ :: value => .long name (some (String.ofList value))
  | '-' :: c :: rest => .short (c :: rest)
  | _ => .operand

/-- Whether a word can be the value of the switch before it. -/
def canBeValue (word : String) : Bool :=
  match Word.ofString word with
  | .operand => true
  | _ => false

/-- Reads short switches that are run together. The answer tells which switch still needs its value
from the next word. -/
def readShort (switches : List Switch) (given : Given) :
    List Char → Except Stop (Given × Option Switch)
  | [] => .ok (given, none)
  | letter :: rest =>
      match switches.find? fun switch => switch.short == some letter with
      | none => .error .usage
      | some switch =>
          if takesValue switch then
            match rest with
            | [] => .ok (given, some switch)
            -- a sign between the letter and its value is no part of it
            | '=' :: value | value =>
                (record given switch (String.ofList value)).map fun given => (given, none)
          else match record given switch "" with
            | .error stop => .error stop
            | .ok given => readShort switches given rest

/-- Reads a long switch, like `readShort`. -/
def readLong (switches : List Switch) (given : Given) (name : String)
    (attached : Option String) : Except Stop (Given × Option Switch) :=
  match switches.find? fun switch => switch.long == name with
  | none => .error .usage
  | some switch =>
      if takesValue switch then
        match attached with
        | none => .ok (given, some switch)
        | some value => (record given switch value).map fun given => (given, none)
      else if attached.isSome then .error .usage
      else (record given switch "").map fun given => (given, none)

/-- Reads switches up to the first operand; `waiting` is a switch whose value comes next. The
answer holds the rest of the command line from the operand on. -/
def readSwitches (switches : List Switch) (given : Given) (waiting : Option Switch) :
    List String → Except Stop (Given × List String)
  | [] => if waiting.isSome then .error .usage else .ok (given, [])
  | word :: rest =>
      match waiting with
      | some switch =>
          if canBeValue word then
            match record given switch word with
            | .error stop => .error stop
            | .ok given => readSwitches switches given none rest
          else .error .usage
      | none =>
          match Word.ofString word with
          | .operand => .ok (given, word :: rest)
          | .separator => if rest.isEmpty then .ok (given, []) else .error .usage
          | .short letters =>
              match readShort switches given letters with
              | .error stop => .error stop
              | .ok (given, waiting) => readSwitches switches given waiting rest
          | .long name attached =>
              match readLong switches given name attached with
              | .error stop => .error stop
              | .ok (given, waiting) => readSwitches switches given waiting rest

end JsonClasses.Command
