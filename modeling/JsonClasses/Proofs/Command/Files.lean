import JsonClasses.Command.Run
import JsonClasses.Proofs.Disk.Files

/-!
# What a command does to files

Commands first read what they need, which changes nothing, and at most one file is written at the
end. Nothing that follows can fail, so a run that fails has changed no file.
-/
namespace JsonClasses.Command

variable {α : Type} {input : ByteArray} {disk : Disk}

/-! ## What every run keeps -/

/-- What holds before, and still holds when something is put where no directory was, holds after
every run. -/
theorem kept_runFrom {Kept : Disk → Prop}
    (hput : ∀ disk directory name entry, disk.isDirectoryAt directory = true →
      disk.isDirectoryAt (directory ++ [name]) = false → Kept disk →
        Kept (disk.put (directory ++ [name]) entry))
    (script : Script) (input : ByteArray) (printed : String) (hkept : Kept disk) :
    Kept (script.runFrom input printed disk).disk := by
  -- Only the last two commands touch the disk, and they put one entry at a time.
  induction script generalizing printed disk with
  | done => exact hkept
  | fail failure => exact hkept
  | print text next ih => exact ih _ hkept
  | readInput next ih => exact ih _ printed hkept
  | readFile path next ih => exact ih _ printed hkept
  | isFile path next ih => exact ih _ printed hkept
  | pathExists path next ih => exact ih _ printed hkept
  | makeDirectories path next ih =>
    have hmade : Kept (Disk.left (disk.makeDirectories path)) := by
      apply Disk.kept_makeDirectories _ hkept
      intro between directory name hdirectory hnone
      exact hput between directory name .directory hdirectory (Disk.isDirectoryAt_of_none hnone)
    rw [Script.runFrom]
    cases hmake : disk.makeDirectories path with
    | ok made =>
      rw [hmake] at hmade
      exact ih _ printed hmade
    | error failed =>
      rw [hmake] at hmade
      exact ih _ printed hmade
  | writeFile path content next ih =>
    rw [Script.runFrom]
    cases hwrite : disk.writeFile path content with
    | ok after =>
      rcases Disk.exists_put_of_writeFile hwrite with ⟨directory, name, hdirectory, hfree, rfl⟩
      exact ih _ printed (hput disk directory name _ hdirectory hfree hkept)
    | error e => exact ih _ printed hkept

/-- Relative paths start in the same directory all the time. -/
theorem current_runFrom (script : Script) (input : ByteArray) (printed : String) (disk : Disk) :
    (script.runFrom input printed disk).disk.current = disk.current := by
  have hput : ∀ (between : Disk) (directory : Location) (name : String) (entry : Entry),
      between.isDirectoryAt directory = true →
        between.isDirectoryAt (directory ++ [name]) = false → between.current = disk.current →
          (between.put (directory ++ [name]) entry).current = disk.current :=
    fun _ _ _ _ _ _ hcurrent => hcurrent
  exact kept_runFrom hput script input printed rfl

/-! ## Reading

Scripts that only read are written with what follows them as an argument. -/

/-- The script goes on with the answer whatever follows, or fails. Until then it has printed nothing
and left the disk alone. -/
def Answers (query : (α → Script) → Script) (input : ByteArray) (disk : Disk)
    (answer : Except Failure α) : Prop :=
  ∀ next printed, (query next).runFrom input printed disk =
    match answer with
    | .error failure => ⟨printed, some failure, disk⟩
    | .ok x => (next x).runFrom input printed disk

theorem exists_answers_withSettingsFile (library : Settings.Library) (path : String)
    (input : ByteArray) (disk : Disk) :
    ∃ answer, Answers (withSettingsFile library path) input disk answer := by
  unfold Answers withSettingsFile
  simp only [Script.runFrom]
  cases decode (disk.readFile path) with
  | error e => exact ⟨.error _, fun next printed => rfl⟩
  | ok text =>
    simp only
    cases Settings.ofToml text library with
    | error e => exact ⟨.error _, fun next printed => rfl⟩
    | ok settings => exact ⟨.ok settings, fun next printed => rfl⟩

theorem exists_answers_withSettings (library : Settings.Library) (config : Option String)
    (input : ByteArray) (disk : Disk) :
    ∃ answer, Answers (withSettings library config) input disk answer := by
  cases config with
  | some path => exact exists_answers_withSettingsFile library path input disk
  | none =>
    unfold Answers withSettings
    simp only [Script.runFrom]
    cases disk.isFile usualSettingsFile with
    | true => exact exists_answers_withSettingsFile library usualSettingsFile input disk
    | false => exact ⟨.ok {}, fun next printed => rfl⟩

theorem exists_answers_withInput (path : String) (input : ByteArray) (disk : Disk) :
    ∃ answer, Answers (withInput path) input disk answer := by
  unfold Answers withInput
  by_cases hpath : path = "-"
  · simp only [hpath, if_true, Script.runFrom]
    cases decode (.ok input) with
    | error e => exact ⟨.error _, fun next printed => rfl⟩
    | ok text => exact ⟨.ok text, fun next printed => rfl⟩
  · simp only [hpath, if_false, Script.runFrom]
    cases decode (disk.readFile path) with
    | error e => exact ⟨.error _, fun next printed => rfl⟩
    | ok text => exact ⟨.ok text, fun next printed => rfl⟩

theorem exists_answers_withSource (readers : Readers) (request : GenerateRequest)
    (input : ByteArray) (disk : Disk) :
    ∃ answer, Answers (withSource readers request) input disk answer := by
  obtain ⟨settings?, hsettings⟩ :=
    exists_answers_withSettings readers.toml request.config input disk
  obtain ⟨text?, htext⟩ := exists_answers_withInput request.input input disk
  unfold Answers withSource
  cases settings? with
  | error failure => exact ⟨.error failure, fun next printed => hsettings _ printed⟩
  | ok settings =>
    simp only [hsettings _ _]
    cases text? with
    | error failure => exact ⟨.error failure, fun next printed => htext _ printed⟩
    | ok text =>
      simp only [htext _ _]
      cases (Generator.ofReader readers.sample (request.settings settings)).generate
          request.package request.className text with
      | error e => exact ⟨.error _, fun next printed => rfl⟩
      | ok source => exact ⟨.ok source, fun next printed => rfl⟩

/-! ## Writing -/

theorem runFrom_writeInto_none (path text : String) (next : Script) (input : ByteArray)
    (printed : String) (disk : Disk) :
    (writeInto none path text next).runFrom input printed disk =
      match disk.writeFile path text.toUTF8 with
      | .error e => ⟨printed, some ⟨"Failed to write " ++ Text.quoted path, some e.message⟩, disk⟩
      | .ok after => next.runFrom input printed after := by
  simp only [writeInto, Script.runFrom]
  cases disk.writeFile path text.toUTF8 <;> rfl

/-- Directories are made first, and the file is written on what they leave. -/
theorem runFrom_writeInto_some (directory path text : String) (next : Script) (input : ByteArray)
    (printed : String) (disk : Disk) :
    (writeInto (some directory) path text next).runFrom input printed disk =
      match disk.makeDirectories directory with
      | .error failed => ⟨printed, some ⟨"Failed to create directory: " ++ Text.quoted directory,
          some failed.1.message⟩, failed.2⟩
      | .ok made => (writeInto none path text next).runFrom input printed made := by
  simp only [writeInto, Script.runFrom]
  cases disk.makeDirectories directory <;> rfl

/-- Directories that were made may be left behind by a failure, but no file. -/
theorem runFrom_writeInto (directory : Option String) (path text : String) (next : Script)
    (input : ByteArray) (printed : String) (disk : Disk) :
    (∃ failure after, disk.SameFiles after ∧
      (writeInto directory path text next).runFrom input printed disk =
        ⟨printed, some failure, after⟩) ∨
    ∃ after, disk.WroteOnly after path text.toUTF8 ∧
      (writeInto directory path text next).runFrom input printed disk =
        next.runFrom input printed after := by
  -- Writing comes last in both cases, on the disk as it is by then.
  have hwrite : ∀ disk : Disk, (∃ failure, (writeInto none path text next).runFrom input printed
        disk = ⟨printed, some failure, disk⟩) ∨
      ∃ after, disk.WroteOnly after path text.toUTF8 ∧
        (writeInto none path text next).runFrom input printed disk =
          next.runFrom input printed after := by
    intro disk
    rw [runFrom_writeInto_none]
    cases hwritten : disk.writeFile path text.toUTF8 with
    | error e => exact .inl ⟨_, rfl⟩
    | ok after => exact .inr ⟨after, Disk.wroteOnly_of_writeFile hwritten, rfl⟩
  cases directory with
  | none =>
    rcases hwrite disk with ⟨failure, hrun⟩ | hwrote
    · exact .inl ⟨failure, disk, .refl disk, hrun⟩
    · exact .inr hwrote
  | some directory =>
    have hsame := Disk.sameFiles_makeDirectories disk directory
    rw [runFrom_writeInto_some]
    cases hmake : disk.makeDirectories directory with
    | error failed =>
      rw [hmake] at hsame
      exact .inl ⟨_, failed.2, hsame, rfl⟩
    | ok made =>
      rw [hmake] at hsame
      rcases hwrite made with ⟨failure, hrun⟩ | ⟨after, hwrote, hrun⟩
      · exact .inl ⟨failure, made, hsame, hrun⟩
      · exact .inr ⟨after, hwrote.after_sameFiles hsame, hrun⟩

/-! ## Commands -/

/-- What a request may do to the files if it succeeds. A source that is written is what the same
request without a directory prints. -/
def Request.Announces (readers : Readers) (input : ByteArray) (disk after : Disk) : Request → Prop
  | .check _ => after = disk
  | .init path _ => disk.WroteOnly after (path.getD usualSettingsFile) settingsTemplate.toUTF8
  | .generate request =>
      (request.output = none → after = disk) ∧
        ∀ directory, request.output = some directory → ∃ source,
          (Command.generate readers { request with output := none }).run input disk =
              ⟨source, none, disk⟩ ∧
            disk.WroteOnly after (Java.sourcePath directory request.package request.className)
              source.toUTF8

/-- How the run of a request ends: nothing has happened to the files, or what it announces. -/
def Ends (readers : Readers) (request : Request) (input : ByteArray) (disk : Disk)
    (outcome : Outcome) : Prop :=
  match outcome.failure with
  | some _ => disk.SameFiles outcome.disk
  | none => request.Announces readers input disk outcome.disk

theorem check_ends (readers : Readers) (config : Option String) (input : ByteArray) (disk : Disk) :
    Ends readers (.check config) input disk ((check readers.toml config).run input disk) := by
  obtain ⟨answer, hanswer⟩ :=
    exists_answers_withSettingsFile readers.toml (config.getD usualSettingsFile) input disk
  simp only [check, Script.run, Script.runFrom, hanswer _ _]
  cases answer with
  | error failure => exact .refl disk
  | ok settings => exact (rfl : disk = disk)

theorem init_ends (readers : Readers) (path : Option String) (force : Bool) (input : ByteArray)
    (disk : Disk) : Ends readers (.init path force) input disk ((init path force).run input disk) := by
  simp only [init, Script.run, Script.runFrom]
  split
  · exact .refl disk
  · obtain ⟨failure, after, hsame, hrun⟩ | ⟨after, hwrote, hrun⟩ := runFrom_writeInto
      ((Path.parent? (path.getD usualSettingsFile)).filter fun parent => !parent.isEmpty)
      (path.getD usualSettingsFile) settingsTemplate
      (.print ("Created " ++ path.getD usualSettingsFile ++ "\n") .done) input "" disk
    · rw [hrun]
      exact hsame
    · rw [hrun]
      exact hwrote

theorem generate_ends (readers : Readers) (request : GenerateRequest) (input : ByteArray)
    (disk : Disk) :
    Ends readers (.generate request) input disk ((generate readers request).run input disk) := by
  obtain ⟨answer, hanswer⟩ := exists_answers_withSource readers request input disk
  -- The way to the source is the same without a directory.
  have hplain : (generate readers { request with output := none }).run input disk = _ :=
    hanswer (deliver { request with output := none }) ""
  have hrun : (generate readers request).run input disk = _ := hanswer (deliver request) ""
  cases answer with
  | error failure =>
    rw [hrun]
    exact .refl disk
  | ok source =>
    have hdelivered : (generate readers request).run input disk =
        (deliver request source).runFrom input "" disk := hrun
    have hprinted : (generate readers { request with output := none }).run input disk =
        ⟨source, none, disk⟩ := by
      rw [hplain]
      change Outcome.mk ("" ++ source) none disk = _
      rw [String.empty_append]
    unfold deliver at hdelivered
    cases houtput : request.output with
    | none =>
      rw [houtput] at hdelivered
      rw [hdelivered]
      exact ⟨fun _ => rfl, fun directory h => nomatch houtput.symm.trans h⟩
    | some directory =>
      rw [houtput] at hdelivered
      obtain ⟨failure, after, hsame, hwrite⟩ | ⟨after, hwrote, hwrite⟩ := runFrom_writeInto
        (Path.parent? (Java.sourcePath directory request.package request.className))
        (Java.sourcePath directory request.package request.className) source
        (.print ("Wrote " ++ Java.sourcePath directory request.package request.className ++ "\n")
          .done) input "" disk
      · rw [hdelivered, hwrite]
        exact hsame
      · rw [hdelivered, hwrite]
        change Request.Announces readers input disk after (.generate request)
        refine ⟨fun h => (nomatch houtput.symm.trans h), fun other h => ?_⟩
        obtain rfl := Option.some.inj (houtput.symm.trans h)
        exact ⟨source, hprinted, hwrote⟩

theorem request_ends (readers : Readers) (request : Request) (input : ByteArray) (disk : Disk) :
    Ends readers request input disk ((request.script readers).run input disk) := by
  cases request with
  | generate request => exact generate_ends readers request input disk
  | check config => exact check_ends readers config input disk
  | init path force => exact init_ends readers path force input disk

/-- All this holds whatever the readers make of words and texts. -/
theorem runLine_files (readers : Readers) (words : List String) (input : ByteArray) (disk : Disk) :
    let run := runLine words input disk readers
    (run.1 ≠ 0 → disk.SameFiles run.2.disk) ∧
      (run.1 = 0 →
        match readers.request words with
        | .error _ => run.2.disk = disk
        | .ok request => request.Announces readers input disk run.2.disk) := by
  unfold runLine lineScript
  cases readers.request words with
  | error stop => exact ⟨fun _ => .refl disk, fun _ => rfl⟩
  | ok request =>
    have hends := request_ends readers request input disk
    simp only
    -- Nothing but how the run ends matters from here on.
    generalize (request.script readers).run input disk = outcome at hends ⊢
    unfold Ends at hends
    unfold Outcome.exitCode
    cases hfailure : outcome.failure with
    | none =>
      rw [hfailure] at hends
      exact ⟨fun hexit => absurd rfl hexit, fun _ => hends⟩
    | some failure =>
      rw [hfailure] at hends
      exact ⟨fun _ => hends, fun hexit => by cases hexit⟩

end JsonClasses.Command
