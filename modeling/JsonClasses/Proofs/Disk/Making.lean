import JsonClasses.Proofs.Disk.Way

/-!
# Making the way to a place

All directories on a way can be made unless a file is in the way, and then the way leads to its end.
A path that led nowhere before may reveal what was there all along.
-/
namespace JsonClasses.Disk

variable {disk made : Disk} {start location : Location} {front parts components : List String}
  {last path : String}

/-- What making directories leaves of a disk. -/
structure Grown (disk made : Disk) : Prop where
  files : disk.SameFiles made
  current : made.current = disk.current
  wellFormed : made.WellFormed

theorem Grown.refl (h : disk.WellFormed) : disk.Grown disk := ⟨.refl disk, rfl, h⟩

theorem Grown.trans {between : Disk} (h : disk.Grown between) (h' : between.Grown made) :
    disk.Grown made :=
  ⟨h.files.trans h'.files, h'.current.trans h.current, h'.wellFormed⟩

theorem Grown.startOf (h : disk.Grown made) (path : String) :
    made.startOf path = disk.startOf path := by
  rw [Disk.startOf, h.current, Disk.startOf]

theorem Clear.grown (hgrown : disk.Grown made) (h : disk.Clear start parts) :
    made.Clear start parts := by
  intro front rest hparts
  rw [hgrown.files]
  exact h front rest hparts

/-! ## One directory -/

theorem place_of_leads (hleads : disk.Leads (disk.startOf path) front)
    (hparts : Path.namedParts path = front ++ [last]) :
    disk.place path = .ok (destination (disk.startOf path) front,
      if last = "." ∨ last = ".." then none else some last) := by
  unfold place
  simp only [hparts, List.dropLast_concat, List.getLast?_concat, hleads.follow, hleads.directory]
  by_cases hname : last = "." ∨ last = ".."
  · rw [if_pos hname]
    rcases hname with rfl | rfl <;> rfl
  · have hkept : (last != "." && last != "..") = true := by simpa using hname
    rw [if_neg hname, Option.filter_some, if_pos hkept]
    rfl

theorem place_of_notFound
    (hmissing : disk.follow (disk.startOf path) front = .error .notFound)
    (hparts : Path.namedParts path = front ++ [last]) : disk.place path = .error .notFound := by
  unfold place
  simp only [hparts, List.dropLast_concat, hmissing]

/-- The directory is made, or is there already. -/
def Provides (disk : Disk) (path : String) (made : Disk) : Prop :=
  disk.makeDirectory path = .ok made ∨
    disk.makeDirectory path = .error .alreadyExists ∧ disk.isDirectory path = true ∧ made = disk

theorem makeEach_of_provides (h : disk.Provides path made) (paths : List String) :
    disk.makeEach (path :: paths) = made.makeEach paths := by
  rw [makeEach]
  rcases h with hmade | ⟨hexists, hdirectory, rfl⟩
  · rw [hmade]
  · rw [hexists]
    exact if_pos ⟨rfl, hdirectory⟩

theorem makeUpwards_of_provides (hne : path ≠ "") {parent : String}
    (hparent : Path.parent? path = some parent) (h : disk.Provides path made)
    (missing paths : List String) :
    disk.makeUpwards missing (path :: paths) = made.makeEach missing := by
  have hgo : ¬ (path.isEmpty = true ∨ (Path.parent? path).isNone = true) := by
    simp [hparent, hne]
  rw [makeUpwards, if_neg hgo]
  rcases h with hmade | ⟨hexists, hdirectory, rfl⟩
  · rw [hmade]
  · rw [hexists]
    exact if_pos ⟨rfl, hdirectory⟩

theorem isDirectory_of_leads (hne : path ≠ "")
    (h : disk.Leads (disk.startOf path) (Path.parts path)) : disk.isDirectory path = true := by
  have hlocate : disk.locate path = _ := (if_neg (by simpa using hne)).trans h.follow
  have hentry := isDirectoryAt_iff.mp h.directory
  simp only [isDirectory, find, hlocate, hentry]

/-- One more directory is no problem where the way to it is there, unless a file is in its place. -/
theorem exists_provides (hwell : disk.WellFormed) (hne : path ≠ "")
    (hparts : Path.parts path = front ++ [last]) (hlast : last ≠ "")
    (hleads : disk.Leads (disk.startOf path) front)
    (hfile : disk.file? (destination (disk.startOf path) (front ++ [last])) = none) :
    ∃ made, disk.Provides path made ∧ disk.Grown made ∧
      made.Leads (disk.startOf path) (front ++ [last]) := by
  have hempty : ¬ path.isEmpty = true := by simpa using hne
  have hplace := place_of_leads hleads (Path.namedParts_of_parts hparts hlast)
  have hagain : disk.CanStep (destination (disk.startOf path) front) last →
      disk.makeDirectory path = .error .alreadyExists → ∃ made, disk.Provides path made ∧
        disk.Grown made ∧ made.Leads (disk.startOf path) (front ++ [last]) := by
    intro hstep hexists
    have hthere := hleads.step hwell hstep hfile
    have hdirectory : disk.isDirectory path = true := isDirectory_of_leads hne (hparts ▸ hthere)
    exact ⟨disk, .inr ⟨hexists, hdirectory, rfl⟩, .refl hwell, hthere⟩
  by_cases hname : last = "." ∨ last = ".."
  · have hexists : disk.makeDirectory path = .error .alreadyExists := by
      rw [makeDirectory, if_neg hempty, hplace, if_pos hname]
    rcases hname with rfl | rfl
    · exact hagain (.inl rfl) hexists
    · exact hagain (.inr (.inl rfl)) hexists
  · rw [if_neg hname] at hplace
    cases hentry : disk.entry? (destination (disk.startOf path) front ++ [last]) with
    | some entry =>
      apply hagain (.inr (.inr (Option.isSome_iff_exists.mpr ⟨entry, hentry⟩)))
      simp only [makeDirectory, if_neg hempty, hplace, hentry, Option.isSome_some, if_true]
    | none =>
      -- The way there stays as it is, and the last step now leads to the new directory.
      have hfree := isDirectoryAt_of_none hentry
      have hgrown : disk.Grown
          (disk.put (destination (disk.startOf path) front ++ [last]) .directory) :=
        ⟨sameFiles_put_directory hentry, rfl, hwell.put hleads.directory hfree .directory⟩
      have hway : (disk.put (destination (disk.startOf path) front ++ [last]) .directory).Leads
          (disk.startOf path) front :=
        ⟨follow_put hfree hleads.follow .directory,
          isDirectoryAt_put hfree hleads.directory .directory⟩
      refine ⟨_, .inl ?_, hgrown, hway.step hgrown.wellFormed (.inr (.inr ?_)) ?_⟩
      · simp only [makeDirectory, if_neg hempty, hplace, hentry, Option.isSome_none,
          Bool.false_eq_true, if_false]
      · rw [entry?_put_self (List.concat_ne_nil last _)]
        rfl
      · rw [hgrown.files]
        exact hfile

/-! ## All directories on the way -/

theorem makeUpwards_of_top (h : components = [] ∨ components = [""]) (disk : Disk)
    (missing : List String) (fuel : Nat) :
    disk.makeUpwards missing (Path.ancestorsFrom fuel (Path.ofParts components)) =
      disk.makeEach missing := by
  cases fuel with
  | zero => rfl
  | succ fuel =>
    have htop : (Path.ofParts components).isEmpty = true ∨
        (Path.parent? (Path.ofParts components)).isNone = true := by
      rcases h with rfl | rfl <;> decide
    rw [Path.ancestorsFrom, makeUpwards, if_pos htop]

theorem makeUpwards_of_notFound (hne : path ≠ "") {parent : String}
    (hparent : Path.parent? path = some parent) (h : disk.makeDirectory path = .error .notFound)
    (missing paths : List String) :
    disk.makeUpwards missing (path :: paths) = disk.makeUpwards (path :: missing) paths := by
  have hgo : ¬ (path.isEmpty = true ∨ (Path.parent? path).isNone = true) := by
    simp [hparent, hne]
  rw [makeUpwards, if_neg hgo, h]

/-- Going up ends at a directory that is there or can be made. From there the missing ones are made
down to the last. -/
theorem exists_makeUpwards (hwell : disk.WellFormed) {target : List String} (fuel : Nat)
    (htrimmed : Path.Trimmed components) (hfuel : components.length ≤ fuel)
    (hstart : disk.startOf (Path.ofParts components) = start) (hclear : disk.Clear start components)
    (missing : List String)
    (hmissing : ∀ made, disk.Grown made → made.Leads start components →
      ∃ after, made.makeEach missing = .ok after ∧ disk.Grown after ∧ after.Leads start target) :
    ∃ after, disk.makeUpwards missing (Path.ancestorsFrom fuel (Path.ofParts components)) =
      .ok after ∧ disk.Grown after ∧ after.Leads start target := by
  have hdirectory : disk.isDirectoryAt start = true := hstart ▸ hwell.startOf _
  have htop : disk.Leads start [] := ⟨rfl, hdirectory⟩
  induction fuel generalizing components missing with
  | zero =>
    obtain rfl : components = [] := List.length_eq_zero_iff.mp (Nat.le_zero.mp hfuel)
    exact hmissing disk (.refl hwell) htop
  | succ fuel ih =>
    by_cases hroot : components = [""]
    · rw [hroot] at hmissing ⊢
      rw [makeUpwards_of_top (.inr rfl)]
      exact hmissing disk (.refl hwell) (htop.append_void (by decide))
    rcases List.eq_nil_or_concat' components with rfl | ⟨front, last, rfl⟩
    · rw [makeUpwards_of_top (.inl rfl)]
      exact hmissing disk (.refl hwell) htop
    have hparts := htrimmed.parts_eq hroot
    have hparent := htrimmed.parent?_eq hroot
    have hne := Path.ofParts_ne_empty (List.concat_ne_nil last front) htrimmed.no_slash
    -- Whatever was made before, the last directory can be made when the way to it is there.
    have hprovides : ∀ between, disk.Grown between → between.Leads start front → ∃ made,
        between.Provides (Path.ofParts (front ++ [last])) made ∧ disk.Grown made ∧
          made.Leads start (front ++ [last]) := by
      intro between hgrown hleads
      have hsame : between.startOf (Path.ofParts (front ++ [last])) = start :=
        (hgrown.startOf _).trans hstart
      subst hsame
      have hfile := (hclear.grown hgrown) (front ++ [last]) [] (List.append_nil _).symm
      rcases exists_provides hgrown.wellFormed hne hparts (htrimmed.last_ne_empty hroot) hleads
        hfile with ⟨made, hprovided, hmade, hthere⟩
      exact ⟨made, hprovided, hgrown.trans hmade, hthere⟩
    rw [Path.ancestorsFrom, hparent]
    rcases leads_or_notFound hwell hdirectory hclear.of_append with hleads | hnothing
    · rcases hprovides disk (.refl hwell) hleads with ⟨made, hprovided, hgrown, hthere⟩
      rw [makeUpwards_of_provides hne hparent hprovided]
      exact hmissing made hgrown hthere
    · have hfailed : disk.makeDirectory (Path.ofParts (front ++ [last])) = .error .notFound := by
        have hplace := place_of_notFound (hstart.symm ▸ hnothing)
          (Path.namedParts_of_parts hparts (htrimmed.last_ne_empty hroot))
        rw [makeDirectory, if_neg (by simpa using hne), hplace]
      rw [makeUpwards_of_notFound hne hparent hfailed]
      rcases Path.exists_dropVoidEnd front with ⟨voids, hfront, hvoids⟩
      apply ih htrimmed.parent
      · have hlength := congrArg List.length hfront
        rw [List.length_append] at hlength hfuel
        rw [List.length_singleton] at hfuel
        omega
      · rw [← hstart, startOf, htrimmed.isAbsolute_parent hroot, startOf]
      · have hbefore := hclear.of_append
        rw [hfront] at hbefore
        exact hbefore.of_append
      · intro made hgrown hleads
        have hway := hleads.append_void hvoids
        rw [← hfront] at hway
        rcases hprovides made hgrown hway with ⟨next, hprovided, hnext, hthere⟩
        rw [makeEach_of_provides hprovided]
        exact hmissing next hnext hthere

/-- If no file is in the way, the way to a place can be made. -/
theorem exists_makeDirectories (hwell : disk.WellFormed) (htrimmed : Path.Trimmed components)
    (hclear : disk.Clear (disk.startOf (Path.ofParts components)) components) :
    ∃ made, disk.makeDirectories (Path.ofParts components) = .ok made ∧ disk.Grown made ∧
      made.Leads (disk.startOf (Path.ofParts components)) components := by
  -- Each component needs one step upwards at most.
  have hfuel : components.length ≤ (Path.parts (Path.ofParts components)).length + 1 := by
    by_cases hroot : components = [""]
    · rw [hroot]
      decide
    · cases components with
      | nil => exact Nat.zero_le _
      | cons first rest =>
        rw [Path.parts_ofParts (List.cons_ne_nil first rest) hroot htrimmed.no_slash]
        exact Nat.le_succ _
  apply exists_makeUpwards hwell _ htrimmed hfuel rfl hclear
  intro made hgrown hleads
  exact ⟨made, rfl, hgrown, hleads⟩

/-! ## Writing at the end of the way -/

theorem writeFile_of_leads {name : String} {content : ByteArray} (hne : path ≠ "")
    (hparts : Path.parts path = front ++ [name]) (hvoid : Path.isVoid name = false)
    (hup : name ≠ "..") (hleads : disk.Leads (disk.startOf path) front)
    (hfree : disk.isDirectoryAt (destination (disk.startOf path) front ++ [name]) = false) :
    disk.writeFile path content =
      .ok (disk.put (destination (disk.startOf path) front ++ [name]) (.file content)) := by
  rw [← Bool.not_eq_true, Path.isVoid_iff, not_or] at hvoid
  have hplace := place_of_leads hleads (Path.namedParts_of_parts hparts hvoid.1)
  rw [if_neg (not_or.mpr ⟨hvoid.2, hup⟩)] at hplace
  have hslash := Path.endsInSlash_eq_false hparts hvoid.1
  simp only [writeFile, if_neg (show ¬ path.isEmpty = true by simpa using hne), hplace, hslash,
    hfree, Bool.false_eq_true, or_self, if_false]

/-! ## What a path reveals -/

/-- The path leads nowhere. With the directories that are missing on the way to it, and no file in
that way, it leads to the location. -/
structure Reveals (disk : Disk) (path : String) (location : Location) : Prop where
  absent : disk.pathExists path = false
  clear : disk.Clear (disk.startOf path) (Path.parts path).dropLast
  leads : destination (disk.startOf path) (Path.parts path) = location

/-- A path that led nowhere before revealed what was written if it leads there afterwards. -/
theorem reveals_of_locate {after : Disk} (habsent : disk.pathExists path = false)
    (hcurrent : after.current = disk.current) (hlocate : after.locate path = .ok location)
    (hwritten : (after.file? location).isSome = true)
    (hothers : ∀ other, other ≠ location → after.file? other = disk.file? other) :
    disk.Reveals path location := by
  have hfollow : after.follow (disk.startOf path) (Path.parts path) = .ok location := by
    unfold locate at hlocate
    split at hlocate
    · cases hlocate
    · rwa [startOf, hcurrent] at hlocate
  refine ⟨habsent, ?_, destination_of_follow hfollow⟩
  intro front rest hfront
  rcases Path.exists_parts path with ⟨before, last, hparts⟩
  rw [hparts, List.dropLast_concat] at hfront
  rw [hparts, hfront, List.append_assoc] at hfollow
  -- The way goes on from here, so this is a directory afterwards.
  have hpassed : after.isDirectoryAt (destination (disk.startOf path) front) = true := by
    cases rest with
    | nil => exact isDirectoryAt_of_follow hfollow
    | cons part rest => exact isDirectoryAt_of_follow hfollow
  have hnone := file?_of_isDirectoryAt hpassed
  rw [← hothers _ _]
  · exact hnone
  · intro heq
    rw [← heq, hnone] at hwritten
    cases hwritten

theorem Reveals.exists_up {content : ByteArray} (hwell : disk.WellFormed)
    (h : disk.Reveals path location) (hfile : disk.file? location = some content) :
    ".." ∈ Path.parts path := by
  by_contra hup
  have hthere : (disk.entry? (destination (disk.startOf path) (Path.parts path))).isSome =
      true := by
    rw [h.leads, isSome_of_file? hfile]
  have hfollow := follow_of_no_up hwell hup (hwell.startOf path) h.clear hthere
  have habsent := h.absent
  by_cases hempty : path = ""
  -- The empty path would lead to where it starts.
  · subst hempty
    have hnone := h.clear [] [] rfl
    rw [show destination (disk.startOf "") [] = location from h.leads, hfile] at hnone
    cases hnone
  · rw [pathExists, locate, if_neg (by simpa using hempty), hfollow] at habsent
    cases habsent

end JsonClasses.Disk
