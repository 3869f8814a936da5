import JsonClasses.Proofs.Command.Files
import JsonClasses.Proofs.Disk.Making

/-!
# What `init` overwrites

Without `force` nothing is written where the path leads to something. But that is asked before the
directories on the way are made, and through a new directory a path may lead back to a file that was
there. Such files are overwritten, and no others.
-/
namespace JsonClasses.Command

variable {input : ByteArray} {disk : Disk} {path : Option String} {location : Location}
  {content : ByteArray}

/-- Whatever a script does, everything stands in a directory afterwards. -/
theorem wellFormed_runFrom (script : Script) (input : ByteArray) (printed : String)
    (hdisk : disk.WellFormed) : (script.runFrom input printed disk).disk.WellFormed := by
  apply kept_runFrom _ script input printed hdisk
  intro between directory name entry hdirectory hfree hbetween
  exact hbetween.put hdirectory hfree entry

/-! ## The steps of the command -/

theorem disk_init_of_exists (h : disk.pathExists (path.getD usualSettingsFile) = true) :
    ((init path false).run input disk).disk = disk := by
  simp only [init, Script.run, Script.runFrom, h, Bool.not_false, Bool.and_true, if_true]

/-- Where the path leads nowhere, all directories on the way are made. -/
theorem init_run_of_absent (h : disk.pathExists (path.getD usualSettingsFile) = false) :
    (init path false).run input disk =
      (writeInto
        ((Path.parent? (path.getD usualSettingsFile)).filter fun parent => !parent.isEmpty)
        (path.getD usualSettingsFile) settingsTemplate
        (.print ("Created " ++ path.getD usualSettingsFile ++ "\n") .done)).runFrom
          input "" disk := by
  simp only [init, Script.run, Script.runFrom, h, Bool.false_and, Bool.false_eq_true, if_false]

/-! ## No other file is overwritten -/

theorem reveals_of_changed (hfile : disk.file? location = some content)
    (hchanged : ((init path false).run input disk).disk.file? location ≠ some content) :
    disk.Reveals (path.getD usualSettingsFile) location ∧
      content ≠ settingsTemplate.toUTF8 := by
  cases habsent : disk.pathExists (path.getD usualSettingsFile) with
  | true =>
    rw [disk_init_of_exists habsent] at hchanged
    exact absurd hfile hchanged
  | false =>
    have hcurrent := current_runFrom (init path false) input "" disk
    change ((init path false).run input disk).disk.current = disk.current at hcurrent
    rw [init_run_of_absent habsent] at hchanged hcurrent
    rcases runFrom_writeInto _ (path.getD usualSettingsFile) settingsTemplate _ input "" disk with
      ⟨failure, after, hsame, hrun⟩ | ⟨after, ⟨written, hlocate, hwritten, hothers⟩, hrun⟩
    · rw [hrun] at hchanged
      exact absurd ((hsame location).trans hfile) hchanged
    · rw [hrun] at hchanged hcurrent
      change after.file? location ≠ some content at hchanged
      change after.current = disk.current at hcurrent
      -- A write touches one location, so the changed one is where the template went.
      obtain rfl : location = written := by
        by_contra hne
        exact hchanged ((hothers location hne).trans hfile)
      refine ⟨Disk.reveals_of_locate habsent hcurrent hlocate (by rw [hwritten]; rfl) hothers, ?_⟩
      rintro rfl
      exact hchanged hwritten

/-! ## Revealed files are overwritten -/

/-- The directories that are missing on the way are made, and then the file is written. -/
theorem exists_made_way {front : List String} {last path : String} (hdisk : disk.WellFormed)
    (hparts : Path.parts path = front ++ [last]) (hlast : Path.isVoid last = false)
    (hclear : disk.Clear (disk.startOf path) front) (text : String) (next : Script)
    (input : ByteArray) (printed : String) :
    ∃ made, disk.Grown made ∧ made.Leads (made.startOf path) front ∧
      (writeInto ((Path.parent? path).filter fun parent => !parent.isEmpty) path text
          next).runFrom input printed disk =
        (writeInto none path text next).runFrom input printed made := by
  have hroot := Path.concat_ne_of_not_isVoid hlast front
  have hne := Path.ne_empty_of_parts hparts hlast
  have htrimmed : Path.Trimmed (front ++ [last]) :=
    ⟨Path.dropVoidEnd_of_not_isVoid hlast front, hparts ▸ Text.not_mem_of_mem_separated⟩
  have hpath : Path.ofParts (front ++ [last]) = path := hparts ▸ Path.ofParts_parts hne
  have hparent := htrimmed.parent?_eq hroot
  have hstart := htrimmed.isAbsolute_parent hroot
  rw [hpath] at hparent hstart
  rw [hparent]
  by_cases hfront : front = []
  -- The file stands where the path starts.
  · subst hfront
    exact ⟨disk, .refl hdisk, ⟨rfl, hdisk.startOf path⟩, rfl⟩
  · rcases Path.exists_dropVoidEnd front with ⟨voids, hvoids, hvoid⟩
    have hsome : Path.dropVoidEnd front ≠ [] := by
      cases front with
      | nil => exact absurd rfl hfront
      | cons first rest => exact List.cons_ne_nil _ _
    have hnonempty := Path.ofParts_ne_empty hsome htrimmed.parent.no_slash
    have hsame : disk.startOf (Path.ofParts (Path.dropVoidEnd front)) = disk.startOf path := by
      rw [Disk.startOf, hstart, Disk.startOf]
    have hway : disk.Clear (disk.startOf path) (Path.dropVoidEnd front) := by
      rw [hvoids] at hclear
      exact hclear.of_append
    rcases Disk.exists_makeDirectories hdisk htrimmed.parent (hsame ▸ hway) with
      ⟨made, hmade, hgrown, hleads⟩
    have hfull := hleads.append_void hvoid
    rw [← hvoids, hsame, ← hgrown.startOf] at hfull
    refine ⟨made, hgrown, hfull, ?_⟩
    rw [Option.filter_some, if_pos (by simpa using hnonempty), runFrom_writeInto_some, hmade]

/-- What a path reveals is lost. -/
theorem overwrites_of_reveals (hdisk : disk.WellFormed)
    (hreveals : disk.Reveals (path.getD usualSettingsFile) location)
    (hfile : disk.file? location = some content) (input : ByteArray) :
    ((init path false).run input disk).disk.file? location = some settingsTemplate.toUTF8 := by
  rcases Path.exists_parts (path.getD usualSettingsFile) with ⟨front, last, hparts⟩
  have hclear := hreveals.clear
  have hleads := hreveals.leads
  rw [hparts, List.dropLast_concat] at hclear
  rw [hparts, Disk.destination_append] at hleads
  change Disk.stepFrom _ last = location at hleads
  -- A file at the end of the way is not passed before, so the last part is no void one.
  have hlast : Path.isVoid last = false := by
    by_contra hvoid
    rw [Disk.stepFrom, if_pos (by simpa using hvoid)] at hleads
    have hnone := hclear front [] (List.append_nil front).symm
    rw [hleads, hfile] at hnone
    cases hnone
  rcases exists_made_way hdisk hparts hlast hclear settingsTemplate
    (.print ("Created " ++ path.getD usualSettingsFile ++ "\n") .done) input "" with
    ⟨made, hgrown, hway, hrun⟩
  rw [← hgrown.startOf, Disk.stepFrom, hlast, if_neg Bool.false_ne_true] at hleads
  have hnone : made.isDirectoryAt location = false := by
    by_contra hdirectory
    have hlost := Disk.file?_of_isDirectoryAt (by simpa using hdirectory)
    rw [hgrown.files, hfile] at hlost
    cases hlost
  by_cases hup : last = ".."
  -- One step up from a directory there is no file.
  · rw [if_pos hup] at hleads
    have hdirectory := hgrown.wellFormed.up hway.directory
    rw [hleads, hnone] at hdirectory
    cases hdirectory
  · rw [if_neg hup] at hleads
    have hwrite : made.writeFile _ settingsTemplate.toUTF8 = _ :=
      Disk.writeFile_of_leads (Path.ne_empty_of_parts hparts hlast) hparts hlast hup hway
        (hleads ▸ hnone)
    rw [init_run_of_absent hreveals.absent, hrun, runFrom_writeInto_none, hwrite, hleads]
    apply Disk.file?_put_file
    rw [← hleads]
    exact List.concat_ne_nil last _

/-- A run without `force` leaves every file as it was, unless the path reveals one whose content is
not the one that is written. -/
theorem init_keeps_files_iff (hdisk : disk.WellFormed) (path : Option String)
    (input : ByteArray) :
    (∀ location content, disk.file? location = some content →
        ((init path false).run input disk).disk.file? location = some content) ↔
      ∀ location content, disk.Reveals (path.getD usualSettingsFile) location →
        disk.file? location = some content → content = settingsTemplate.toUTF8 := by
  constructor
  · intro hkept location content hreveals hfile
    have hafter := hkept location content hfile
    rw [overwrites_of_reveals hdisk hreveals hfile input] at hafter
    exact (Option.some.inj hafter).symm
  · intro hsame location content hfile
    -- A file that changes is one that the path reveals, and it held something else.
    by_contra hchanged
    rcases reveals_of_changed hfile hchanged with ⟨hreveals, hother⟩
    exact hother (hsame location content hreveals hfile)

theorem init_keeps_files_in_new_directory :
    let disk : Disk := ⟨[(["jsonpojo.toml"], .file "style = \"bean\"\n".toUTF8)], []⟩
    disk.WellFormed ∧ ∀ location content, disk.file? location = some content →
      ((init (some "new/jsonpojo.toml") false).run .empty disk).disk.file? location =
        some content := by
  intro disk
  have hdisk : disk.WellFormed := .singleton "jsonpojo.toml" _
  refine ⟨hdisk, (init_keeps_files_iff hdisk (some "new/jsonpojo.toml") .empty).mpr ?_⟩
  intro location content hreveals hfile
  -- There was nothing below `new`.
  obtain rfl : ["new", "jsonpojo.toml"] = location := hreveals.leads
  cases hfile

/-- The path leads nowhere before `new` is made, and to the settings that were there afterwards. -/
theorem init_overwrites_through_new_directory :
    let disk : Disk := ⟨[(["jsonpojo.toml"], .file "style = \"bean\"\n".toUTF8)], []⟩
    disk.WellFormed ∧ ¬ ∀ location content, disk.file? location = some content →
      ((init (some "new/../jsonpojo.toml") false).run .empty disk).disk.file? location =
        some content := by
  intro disk
  refine ⟨.singleton "jsonpojo.toml" _, fun hkept => ?_⟩
  have hafter : ((init (some "new/../jsonpojo.toml") false).run .empty disk).disk.file?
      ["jsonpojo.toml"] = some settingsTemplate.toUTF8 := rfl
  have hold := hkept ["jsonpojo.toml"] _ rfl
  rw [hafter] at hold
  have hsame : settingsTemplate = "style = \"bean\"\n" :=
    String.toByteArray_inj.mp (Option.some.inj hold)
  exact absurd hsame (by decide +kernel)

/-- Nothing is lost where no part of the path goes up. -/
theorem init_keeps_files_of_no_up (hdisk : disk.WellFormed)
    (hup : ".." ∉ Path.parts (path.getD usualSettingsFile))
    (hfile : disk.file? location = some content) (input : ByteArray) :
    ((init path false).run input disk).disk.file? location = some content := by
  by_contra hchanged
  rcases reveals_of_changed hfile hchanged with ⟨hreveals, _⟩
  exact hup (hreveals.exists_up hdisk hfile)

end JsonClasses.Command
