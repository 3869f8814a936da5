import JsonClasses.Proofs.Command.Files
import JsonClasses.Proofs.Generator.OutputPath
import JsonClasses.Proofs.Settings.Layer

/-!
# Generating under layers of settings

The command line lies over the settings file, and that lies over the usual settings. What is written
or printed is the source that the generator makes with the resulting settings, and the command fails
in this step exactly when the generator fails. With the source in hand, only the disk can refuse.
-/
namespace JsonClasses.Command
open Settings

variable {readers : Readers} {library : Library} {input : ByteArray} {disk : Disk}
  {request : GenerateRequest} {config : Option String} {text : String}

/-! ## Settings -/

def GenerateRequest.layer (request : GenerateRequest) : Layer where
  style := request.style
  className := request.classCase
  field := request.fieldCase
  method := request.methodCase
  parameter := request.parameterCase

theorem settings_eq_overlay (request : GenerateRequest) (layer : Layer) :
    request.settings layer.settings = (request.layer.overlay layer).settings := by
  simp only [GenerateRequest.settings, GenerateRequest.layer, Layer.settings, Layer.overlay,
    Option.getD_or]

/-- The given file, or the usual file if it is there. -/
def settingsFile? (disk : Disk) (config : Option String) : Option String :=
  config.or (if disk.isFile usualSettingsFile then some usualSettingsFile else none)

/-- A settings file, if there is one, can be read and is accepted. -/
def Resolves (library : Library) (disk : Disk) (config : Option String) : Prop :=
  ∀ path ∈ settingsFile? disk config, ∃ text settings,
    decode (disk.readFile path) = .ok text ∧ Settings.ofToml text library = .ok settings

/-- The layer is what the settings file says. -/
def FileSays (library : Library) (disk : Disk) (config : Option String) (layer : Layer) : Prop :=
  match settingsFile? disk config with
  | none => layer = {}
  | some path => ∃ text table, decode (disk.readFile path) = .ok text ∧
      library.read? text = some table ∧ layer.Of library table

theorem exists_layer_of_ofToml {settings : Settings}
    (h : Settings.ofToml text library = .ok settings) :
    ∃ table, ∃ layer : Layer,
      library.read? text = some table ∧ layer.Of library table ∧ layer.settings = settings := by
  unfold Settings.ofToml at h
  cases htable : library.read? text with
  | none =>
    rw [htable] at h
    cases h
  | some table =>
    rw [htable] at h
    rcases Layer.exists_layer h with ⟨layer, hlayer, hsettings⟩
    exact ⟨table, layer, rfl, hlayer, hsettings⟩

theorem answers_withSettingsFile {path : String} {settings : Settings}
    (htext : decode (disk.readFile path) = .ok text)
    (hsettings : Settings.ofToml text library = .ok settings) (input : ByteArray) :
    Answers (withSettingsFile library path) input disk (.ok settings) := by
  intro next printed
  simp only [withSettingsFile, Script.runFrom, htext, hsettings]

theorem exists_layer_of_resolves (h : Resolves library disk config) (input : ByteArray) :
    ∃ layer, FileSays library disk config layer ∧
      Answers (withSettings library config) input disk (.ok layer.settings) := by
  unfold Resolves at h
  unfold FileSays
  cases hfile : settingsFile? disk config with
  | none =>
    -- Neither is a file given nor is the usual one there.
    refine ⟨{}, rfl, fun next printed => ?_⟩
    rw [settingsFile?, Option.or_eq_none_iff] at hfile
    rcases hfile with ⟨rfl, husual⟩
    have habsent : disk.isFile usualSettingsFile = false := by
      by_contra hpresent
      rw [if_pos (by simpa using hpresent)] at husual
      cases husual
    simp only [withSettings, Script.runFrom, habsent]
    rfl
  | some path =>
    rcases h path hfile with ⟨text, settings, htext, hsettings⟩
    rcases exists_layer_of_ofToml hsettings with ⟨table, layer, htable, hlayer, rfl⟩
    refine ⟨layer, ⟨text, table, htext, htable, hlayer⟩, ?_⟩
    have hanswers := answers_withSettingsFile htext hsettings input
    cases config with
    | some given =>
      obtain rfl : given = path := Option.some.inj hfile
      exact hanswers
    | none =>
      rw [settingsFile?, Option.none_or, Option.ite_none_right_eq_some] at hfile
      rcases hfile with ⟨hpresent, hpath⟩
      obtain rfl := Option.some.inj hpath
      intro next printed
      simp only [withSettings, Script.runFrom, hpresent]
      exact hanswers next printed

/-! ## Input -/

theorem decode_toUTF8 (text : String) : decode (.ok text.toUTF8) = .ok text := by
  have hvalid : String.fromUTF8? text.toUTF8 = some text := dif_pos text.isValidUTF8
  simp only [decode, hvalid]

/-- The text of the input, which `-` takes from the standard input. -/
def inputText (input : ByteArray) (disk : Disk) (path : String) : Except DiskError String :=
  decode (if path = "-" then .ok input else disk.readFile path)

theorem answers_withInput {path : String} (h : inputText input disk path = .ok text) :
    Answers (withInput path) input disk (.ok text) := by
  intro next printed
  unfold inputText at h
  unfold withInput
  by_cases hpath : path = "-"
  · rw [if_pos hpath] at h
    simp only [hpath, if_true, Script.runFrom, h]
  · rw [if_neg hpath] at h
    simp only [hpath, if_false, Script.runFrom, h]

/-! ## The steps of the command -/

/-- What a failure of the generator is reported as. -/
def GenerateRequest.summary (request : GenerateRequest) : String :=
  "Failed to generate " ++ request.className ++ " from " ++ request.input

/-- With settings and text in hand, the generator decides how the command goes on. -/
theorem generate_run {settings : Settings}
    (hsettings : Answers (withSettings readers.toml request.config) input disk (.ok settings))
    (htext : Answers (withInput request.input) input disk (.ok text)) :
    (generate readers request).run input disk =
      match (Generator.ofReader readers.sample (request.settings settings)).generate
          request.package request.className text with
      | .error e => ⟨"", some ⟨request.summary, some e.message⟩, disk⟩
      | .ok source => (deliver request source).run input disk := by
  unfold generate withSource Script.run
  rw [hsettings]
  simp only [htext _ _]
  cases (Generator.ofReader readers.sample (request.settings settings)).generate
      request.package request.className text with
  | error e => rfl
  | ok source => rfl

/-! ## Writing -/

/-- How the writing of a source ends: its directory is made, then the file is written, and the first
of the two that the disk refuses ends the run. -/
def written (disk : Disk) (directory path source : String) : Outcome :=
  match disk.makeDirectories directory with
  | .error (e, left) =>
      ⟨"", some ⟨"Failed to create directory: " ++ Text.quoted directory, some e.message⟩, left⟩
  | .ok made =>
      match made.writeFile path source.toUTF8 with
      | .error e => ⟨"", some ⟨"Failed to write " ++ Text.quoted path, some e.message⟩, made⟩
      | .ok after => ⟨"Wrote " ++ path ++ "\n", none, after⟩

/-- What becomes of a source: it is printed, or written below the directory that is asked for, in
the parent of its path. -/
def GenerateRequest.Delivers (request : GenerateRequest) (source : String) (disk : Disk)
    (outcome : Outcome) : Prop :=
  match request.output with
  | none => outcome = ⟨source, none, disk⟩
  | some directory =>
      let path := Java.sourcePath directory request.package request.className
      ∃ parent, Path.parent? path = some parent ∧ outcome = written disk parent path source ∧
        (outcome.failure = none → disk.WroteOnly outcome.disk path source.toUTF8)

section Writing

variable {directory path source : String}

theorem deliver_run_of_output (houtput : request.output = some directory) {parent : String}
    (hpath : Java.sourcePath directory request.package request.className = path)
    (hparent : Path.parent? path = some parent) (source : String) (input : ByteArray)
    (disk : Disk) : (deliver request source).run input disk = written disk parent path source := by
  simp only [deliver, houtput, hpath, hparent, Script.run, runFrom_writeInto_some, written]
  cases disk.makeDirectories parent with
  | error failed => rfl
  | ok made =>
    simp only [runFrom_writeInto_none]
    cases made.writeFile path source.toUTF8 with
    | error e => rfl
    | ok after => simp only [Script.runFrom, String.empty_append]

/-- A source that was written is in its file, and no other file has changed. -/
theorem wroteOnly_of_written (h : (written disk directory path source).failure = none) :
    disk.WroteOnly (written disk directory path source).disk path source.toUTF8 := by
  have hsame := Disk.sameFiles_makeDirectories disk directory
  unfold written at h ⊢
  cases hmake : disk.makeDirectories directory with
  | error failed =>
    rw [hmake] at h
    cases h
  | ok made =>
    rw [hmake] at h hsame
    simp only at h ⊢
    cases hwrite : made.writeFile path source.toUTF8 with
    | error e =>
      rw [hwrite] at h
      cases h
    | ok after => exact (Disk.wroteOnly_of_writeFile hwrite).after_sameFiles hsame

/-- A failure to write names the file or its directory. -/
theorem summary_of_written {failure : Failure}
    (h : (written disk directory path source).failure = some failure) :
    ∃ name, failure.summary = "Failed to write " ++ name ∨
      failure.summary = "Failed to create directory: " ++ name := by
  unfold written at h
  cases hmake : disk.makeDirectories directory with
  | error failed =>
    rw [hmake] at h
    exact ⟨Text.quoted directory, .inr (by rw [← Option.some.inj h])⟩
  | ok made =>
    rw [hmake] at h
    simp only at h
    cases hwrite : made.writeFile path source.toUTF8 with
    | error e =>
      rw [hwrite] at h
      exact ⟨Text.quoted path, .inl (by rw [← Option.some.inj h])⟩
    | ok after =>
      rw [hwrite] at h
      cases h

end Writing

theorem letter_append {front : String} {letter : Char} (h : front.toList[10]? = some letter)
    (behind : String) : (front ++ behind).toList[10]? = some letter := by
  rw [String.toList_append, List.getElem?_append, if_pos (List.getElem?_eq_some_iff.mp h).1, h]

/-- No failure to write reads like one of the generator: their third words begin with different
letters. -/
theorem summary_ne {failure : Failure} {name : String}
    (h : failure.summary = "Failed to write " ++ name ∨
      failure.summary = "Failed to create directory: " ++ name) :
    failure.summary ≠ request.summary := by
  intro heq
  -- Behind `Failed to ` the three summaries go on with three letters.
  have hgenerate : failure.summary.toList[10]? = some 'g' := by
    rw [heq]
    unfold GenerateRequest.summary
    rw [String.append_assoc, String.append_assoc]
    exact letter_append rfl _
  rcases h with h | h
  · have hwrite : failure.summary.toList[10]? = some 'w' := by
      rw [h]
      exact letter_append rfl _
    rw [hgenerate] at hwrite
    cases hwrite
  · have hcreate : failure.summary.toList[10]? = some 'c' := by
      rw [h]
      exact letter_append rfl _
    rw [hgenerate] at hcreate
    cases hcreate

theorem deliver_run (hpackage : Java.isPackage request.package = true)
    (hname : Java.isIdentifier request.className = true) (source : String) (input : ByteArray)
    (disk : Disk) :
    let outcome := (deliver request source).run input disk
    (∀ failure, outcome.failure = some failure → failure.summary ≠ request.summary) ∧
      request.Delivers source disk outcome := by
  intro outcome
  unfold GenerateRequest.Delivers
  cases houtput : request.output with
  | none =>
    have hprinted : outcome = ⟨source, none, disk⟩ := by
      simp only [outcome, deliver, houtput, Script.run, Script.runFrom, String.empty_append]
    rw [hprinted]
    refine ⟨fun failure h => ?_, rfl⟩
    cases h
  | some directory =>
    obtain ⟨parent, hparent⟩ := Java.exists_parent_sourcePath hpackage hname directory
    have hwritten : outcome = written disk parent _ source :=
      deliver_run_of_output houtput rfl hparent source input disk
    rw [hwritten]
    refine ⟨fun failure h => ?_, parent, hparent, rfl, wroteOnly_of_written⟩
    -- A failure to write has a summary of its own.
    obtain ⟨name, hsummary⟩ := summary_of_written h
    exact summary_ne hsummary

/-- Once the settings and the text are there, a run ends as the generator does under the layers: its
failure is reported, and its source is delivered. -/
theorem generate_layered (readers : Readers) (request : GenerateRequest) {input : ByteArray}
    {disk : Disk} {text : String} (hconfig : Resolves readers.toml disk request.config)
    (htext : inputText input disk request.input = .ok text) :
    ∃ layer, FileSays readers.toml disk request.config layer ∧
      let outcome := (generate readers request).run input disk
      match (Generator.ofReader readers.sample (request.layer.overlay layer).settings).generate
          request.package request.className text with
      | .error e => outcome = ⟨"", some ⟨request.summary, some e.message⟩, disk⟩
      | .ok source =>
          (∀ failure, outcome.failure = some failure → failure.summary ≠ request.summary) ∧
            request.Delivers source disk outcome := by
  rcases exists_layer_of_resolves hconfig input with ⟨layer, hlayer, hsettings⟩
  refine ⟨layer, hlayer, ?_⟩
  intro outcome
  have hrun : outcome = _ := generate_run hsettings (answers_withInput htext)
  rw [settings_eq_overlay] at hrun
  cases hmade : (Generator.ofReader readers.sample (request.layer.overlay layer).settings).generate
      request.package request.className text with
  | error e =>
    rw [hmade] at hrun
    exact hrun
  | ok source =>
    rw [hmade] at hrun
    rw [hrun]
    obtain ⟨hpackage, hname⟩ := accepted_of_generate hmade
    exact deliver_run hpackage hname source input disk

/-- The style of the file gives way to that of the command line, its spelling of fields does not. The
source is the same whether it is printed or written. -/
theorem generate_layered_gson_over_bean :
    let words := "style='bean'\n[naming]\nfield_case='kebab'"
    let disk : Disk := ⟨[(["jsonpojo.toml"], .file words.toUTF8)], []⟩
    let request (output : Option String) : GenerateRequest :=
      ⟨"-", "User", "a.b", output, some .gson, none, none, none, none, none⟩
    let input := "\x7b\x7d".toUTF8
    Resolves .standard disk none ∧ inputText input disk "-" = .ok "\x7b\x7d" ∧
      ∃ source, (Generator.ofReader Json.read ⟨.gson, { field := .kebab }⟩).generate "a.b" "User"
          "\x7b\x7d" = .ok source ∧
        (generate {} (request none)).run input disk = ⟨source, none, disk⟩ ∧
        (generate {} (request (some "out"))).run input disk =
          ⟨"Wrote out/a/b/User.java\n", none,
            ⟨[(["jsonpojo.toml"], .file words.toUTF8), (["out"], .directory),
              (["out", "a"], .directory), (["out", "a", "b"], .directory),
              (["out", "a", "b", "User.java"], .file source.toUTF8)], []⟩⟩ := by
  intro words disk request input
  have hfile : settingsFile? disk none = some "jsonpojo.toml" := by rfl
  have hdecoded : decode (disk.readFile "jsonpojo.toml") = .ok words := decode_toUTF8 words
  have hresolves : Resolves .standard disk none := by
    intro path hpath
    obtain rfl := Option.some.inj (hfile.symm.trans hpath)
    exact ⟨words, ⟨.bean, { field := .kebab }⟩, hdecoded, by decide +kernel⟩
  have hinput : inputText input disk "-" = .ok "\x7b\x7d" := decode_toUTF8 "\x7b\x7d"
  have hread : Json.read "\x7b\x7d" = .ok (.object []) := by cbv
  obtain ⟨source, hsource⟩ : ∃ source, (Generator.ofReader Json.read
      ⟨.gson, { field := .kebab }⟩).generate "a.b" "User" "\x7b\x7d" = .ok source := by
    obtain ⟨tree, htree⟩ : ∃ tree, ClassTree.ofSample (.ofSpellings { field := .kebab }) .gson
        "User" (.object []) = .ok tree := ⟨_, rfl⟩
    rw [generate_of_read hread, htree, Except.bind, Java.render, Java.checkPackage,
      show Java.isPackage "a.b" = true by decide +kernel]
    exact ⟨_, rfl⟩
  refine ⟨hresolves, hinput, source, hsource, ?_⟩
  have hsettings : ∀ {layer : Layer}, FileSays .standard disk none layer →
      ∀ output, ((request output).layer.overlay layer).settings = ⟨.gson, { field := .kebab }⟩ := by
    intro layer hsays output
    unfold FileSays at hsays
    rw [hfile] at hsays
    obtain ⟨text, table, htext, htable, hof⟩ := hsays
    obtain rfl := Except.ok.inj (hdecoded.symm.trans htext)
    have hentries : (Library.standard.read? words).map (Layer.ofEntries .standard) =
        some { style := some .bean, field := some .kebab } := by decide +kernel
    rw [htable, Option.map_some] at hentries
    rw [hof.eq_ofEntries, Option.some.inj hentries]
    rfl
  constructor
  · obtain ⟨layer, hsays, hends⟩ := generate_layered {} (request none) hresolves hinput
    rw [hsettings hsays] at hends
    simp only [request, hsource] at hends
    exact hends.2
  · obtain ⟨layer, hsays, hends⟩ := generate_layered {} (request (some "out")) hresolves hinput
    rw [hsettings hsays] at hends
    simp only [request, hsource] at hends
    obtain ⟨_, parent, hparent, hwritten, _⟩ := hends
    obtain rfl : "out/a/b" = parent := Option.some.inj
      ((show Path.parent? (Java.sourcePath "out" "a.b" "User") = some "out/a/b" by
        decide +kernel).symm.trans hparent)
    rw [hwritten]
    rfl

end JsonClasses.Command
