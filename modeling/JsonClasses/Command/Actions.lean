import JsonClasses.Command.Line
import JsonClasses.Command.Script
import JsonClasses.Generator
import JsonClasses.Settings.OfToml
import JsonClasses.Text.Quoted

/-! # What the commands do -/
namespace JsonClasses.Command

def usualSettingsFile : String := "jsonpojo.toml"

def versionLine : String := "jsonpojo 0.3.0\n"

/-- The settings file that `init` writes; it says what holds without one. -/
def settingsTemplate : String :=
  "# jsonpojo configuration\n" ++
  "#\n" ++
  "# Command-line flags override every value below.\n" ++
  "\n" ++
  "# Class style: model, bean, builder, gson, jackson\n" ++
  "style = \"model\"\n" ++
  "\n" ++
  "[naming]\n" ++
  "# Cases: upper-camel, lower-camel, lower-snake, upper-snake, kebab\n" ++
  "class_case = \"upper-camel\"\n" ++
  "field_case = \"lower-camel\"\n" ++
  "method_case = \"lower-camel\"\n" ++
  "parameter_case = \"lower-camel\"\n"

/-- How the words of a command line, settings files and samples are read. -/
structure Readers where
  request : List String → Except Stop Request := read
  toml : Settings.Library := .standard
  sample : String → Except Json.SyntaxError Json := Json.read

/-! ## Settings -/

def settingsFailure (error : SettingsError) : Failure := ⟨error.message, none⟩

def decode (content : Except DiskError ByteArray) : Except DiskError String :=
  match content with
  | .error e => .error e
  | .ok bytes =>
      match String.fromUTF8? bytes with
      | some text => .ok text
      | none => .error .notUtf8

/-- Goes on with the settings of a file. -/
def withSettingsFile (library : Settings.Library) (path : String) (next : Settings → Script) :
    Script :=
  .readFile path fun content =>
    match decode content with
    | .error e => .fail ⟨"Failed to read config: " ++ Text.quoted path, some e.message⟩
    | .ok text =>
        match Settings.ofToml text library with
        | .error e => .fail (settingsFailure e)
        | .ok settings => next settings

/-- Goes on with the settings of the given file, of the usual file if it is there, or with the
usual settings. -/
def withSettings (library : Settings.Library) (config : Option String)
    (next : Settings → Script) : Script :=
  match config with
  | some path => withSettingsFile library path next
  | none =>
      .isFile usualSettingsFile fun present =>
        if present then withSettingsFile library usualSettingsFile next else next {}

/-! ## Generate -/

/-- What is given on the command line goes before what the settings say. -/
def GenerateRequest.settings (request : GenerateRequest) (settings : Settings) : Settings where
  style := request.style.getD settings.style
  naming :=
    { className := request.classCase.getD settings.naming.className
      field := request.fieldCase.getD settings.naming.field
      method := request.methodCase.getD settings.naming.method
      parameter := request.parameterCase.getD settings.naming.parameter }

/-- Goes on with the text of the input, which `-` takes from the standard input. -/
def withInput (path : String) (next : String → Script) : Script :=
  if path = "-" then
    .readInput fun bytes =>
      match decode (.ok bytes) with
      | .error e => .fail ⟨"Failed to read JSON from stdin", some e.message⟩
      | .ok text => next text
  else
    .readFile path fun content =>
      match decode content with
      | .error e => .fail ⟨"Failed to read input: " ++ Text.quoted path, some e.message⟩
      | .ok text => next text

/-- Writes a file into a directory that may have to be made. -/
def writeInto (directory : Option String) (path text : String) (next : Script) : Script :=
  let write : Script := .writeFile path text.toUTF8 fun result =>
    match result with
    | .error e => .fail ⟨"Failed to write " ++ Text.quoted path, some e.message⟩
    | .ok () => next
  match directory with
  | none => write
  | some directory =>
      .makeDirectories directory fun result =>
        match result with
        | .error e =>
            .fail ⟨"Failed to create directory: " ++ Text.quoted directory, some e.message⟩
        | .ok () => write

/-- Goes on with the source that is asked for. -/
def withSource (readers : Readers) (request : GenerateRequest) (next : String → Script) : Script :=
  withSettings readers.toml request.config fun settings =>
    withInput request.input fun text =>
      let generator := Generator.ofReader readers.sample (request.settings settings)
      match generator.generate request.package request.className text with
      | .error e =>
          .fail ⟨"Failed to generate " ++ request.className ++ " from " ++ request.input,
            some e.message⟩
      | .ok source => next source

/-- Prints a source, or writes it below the directory that is asked for. -/
def deliver (request : GenerateRequest) (source : String) : Script :=
  match request.output with
  | none => .print source .done
  | some directory =>
      let path := Java.sourcePath directory request.package request.className
      writeInto (Path.parent? path) path source (.print ("Wrote " ++ path ++ "\n") .done)

def generate (readers : Readers) (request : GenerateRequest) : Script :=
  withSource readers request (deliver request)

/-! ## Check and init -/

def settingsLines (settings : Settings) : String :=
  "✓ Style: " ++ settings.style.name ++ "\n" ++
  "✓ Class case: " ++ settings.naming.className.name ++ "\n" ++
  "✓ Field case: " ++ settings.naming.field.name ++ "\n" ++
  "✓ Method case: " ++ settings.naming.method.name ++ "\n" ++
  "✓ Parameter case: " ++ settings.naming.parameter.name ++ "\n"

def check (library : Settings.Library) (config : Option String) : Script :=
  let path := config.getD usualSettingsFile
  .print ("Checking config: " ++ path ++ "\n") <|
    withSettingsFile library path fun settings =>
      .print (settingsLines settings ++ "\nConfig is valid!\n") .done

def init (path : Option String) (force : Bool) : Script :=
  let path := path.getD usualSettingsFile
  .pathExists path fun present =>
    if present && !force then
      .fail ⟨path ++ " already exists (use --force to overwrite)", none⟩
    else
      writeInto ((Path.parent? path).filter fun parent => !parent.isEmpty) path settingsTemplate
        (.print ("Created " ++ path ++ "\n") .done)

def Request.script (request : Request) (readers : Readers := {}) : Script :=
  match request with
  | .generate request => Command.generate readers request
  | .check config => Command.check readers.toml config
  | .init path force => Command.init path force

end JsonClasses.Command
