import JsonClasses.Disk.Basic
import JsonClasses.Proofs.Disk.Path

/-!
# What happens to files

Making directories leaves all files alone, whether it succeeds or not. Writing a file changes the
file that the path leads to afterwards, and no other.
-/
namespace JsonClasses.Disk

variable {disk after : Disk} {location other start : Location} {entry : Entry} {path : String}

/-! ## Entries -/

theorem lookup_putEntry (entries : List (Location × Entry)) (location : Location) (entry : Entry)
    (other : Location) :
    (putEntry entries location entry).lookup other =
      if other = location then some entry else entries.lookup other := by
  induction entries with
  | nil =>
    by_cases h : other = location
    · rw [if_pos h, h, putEntry, List.lookup_cons_self]
    · rw [if_neg h, putEntry, List.lookup_cons, beq_eq_false_iff_ne.mpr h]
  | cons first rest ih =>
    -- The first entry is replaced if it stands at the location, and else it is kept.
    obtain ⟨l, e⟩ := first
    rw [putEntry]
    by_cases hl : l = location
    · subst hl
      by_cases h : other = l
      · rw [if_pos rfl, if_pos h, h, List.lookup_cons_self]
      · have hother : (other == l) = false := beq_eq_false_iff_ne.mpr h
        rw [if_pos rfl, if_neg h, List.lookup_cons, List.lookup_cons, hother]
    · rw [if_neg hl]
      by_cases h : other = l
      · rw [h, List.lookup_cons_self, List.lookup_cons_self, if_neg hl]
      · have hother : (other == l) = false := beq_eq_false_iff_ne.mpr h
        rw [List.lookup_cons, List.lookup_cons, hother]
        exact ih

theorem entry?_put_self (h : location ≠ []) (entry : Entry) :
    Disk.entry? (disk.put location entry) location = some entry := by
  unfold entry?
  rw [if_neg h, put, lookup_putEntry, if_pos rfl]

theorem entry?_put_of_ne (h : other ≠ location) (entry : Entry) :
    Disk.entry? (disk.put location entry) other = disk.entry? other := by
  unfold entry?
  by_cases hroot : other = []
  · rw [if_pos hroot, if_pos hroot]
  · rw [if_neg hroot, if_neg hroot, put, lookup_putEntry, if_neg h]

theorem isDirectoryAt_iff : disk.isDirectoryAt location = true ↔
    disk.entry? location = some .directory := by
  unfold isDirectoryAt
  split <;> simp_all

/-- The content of the file at a location. -/
def file? (disk : Disk) (location : Location) : Option ByteArray :=
  match disk.entry? location with
  | some (.file content) => some content
  | _ => none

theorem file?_put_file (h : location ≠ []) (content : ByteArray) :
    (disk.put location (.file content)).file? location = some content := by
  rw [file?, entry?_put_self h]

theorem file?_put_of_ne (h : other ≠ location) (entry : Entry) :
    (disk.put location entry).file? other = disk.file? other := by
  rw [file?, entry?_put_of_ne h, file?]

/-- Every file is where it was, with the same content, and there is no other. -/
def SameFiles (disk after : Disk) : Prop := ∀ location, after.file? location = disk.file? location

theorem SameFiles.refl (disk : Disk) : disk.SameFiles disk := fun _ => rfl

theorem SameFiles.trans {between : Disk} (h : disk.SameFiles between)
    (h' : between.SameFiles after) : disk.SameFiles after :=
  fun location => (h' location).trans (h location)

/-! ## Following paths -/

theorem follow_append (disk : Disk) (start : Location) (parts more : List String) :
    disk.follow start (parts ++ more) =
      (disk.follow start parts).bind fun location => disk.follow location more := by
  induction parts generalizing start with
  | nil => rfl
  | cons part parts ih =>
    rw [List.cons_append, follow, follow]
    split
    · rfl
    · split
      · exact ih start
      · split
        · exact ih start.dropLast
        · split
          · rfl
          · exact ih (start ++ [part])

/-- A name leads one step down, if there is something. -/
theorem follow_name {part : String} (h : Path.IsName part) (rest : List String) :
    disk.follow start (part :: rest) =
      if disk.isDirectoryAt start then
        match disk.entry? (start ++ [part]) with
        | none => .error .notFound
        | some _ => disk.follow (start ++ [part]) rest
      else .error .notDirectory := by
  have hstay : ¬ (part = "" ∨ part = ".") := not_or.mpr ⟨h.ne_empty, h.ne_here⟩
  rw [follow, if_neg hstay, if_neg h.ne_up]
  cases disk.isDirectoryAt start <;> rfl

theorem eq_of_follow_names {names : List String} (hnames : ∀ name ∈ names, Path.IsName name)
    (h : disk.follow start names = .ok location) : location = start ++ names := by
  induction names generalizing start with
  | nil =>
    rw [follow] at h
    rw [List.append_nil, Except.ok.inj h]
  | cons name names ih =>
    obtain ⟨hname, hnames⟩ := List.forall_mem_cons.mp hnames
    -- A name is followed only into a directory, one component further down.
    rw [follow_name hname] at h
    split at h
    · split at h
      · cases h
      · rw [ih hnames h, List.append_assoc, List.singleton_append]
    · cases h

theorem isDirectoryAt_of_follow_cons {part : String} {rest : List String}
    (h : disk.follow start (part :: rest) = .ok location) : disk.isDirectoryAt start = true := by
  rw [follow] at h
  cases hstart : disk.isDirectoryAt start with
  | true => rfl
  | false =>
    rw [hstart] at h
    cases h

/-- Names that are joined to a path lead down from where the path leads. -/
theorem exists_base_of_follow_joined {names : List String} (hne : names ≠ [])
    (hnames : ∀ name ∈ names, Path.IsName name) {directory : String}
    (h : disk.follow (disk.startOf (names.foldl Path.join directory))
      (Path.parts (names.foldl Path.join directory)) = .ok location) :
    ∃ base, disk.follow (disk.startOf directory) (Path.parts directory) = .ok base ∧
      location = base ++ names := by
  have hstart : disk.startOf (names.foldl Path.join directory) = disk.startOf directory := by
    rw [startOf, Path.isAbsolute_foldl_join hnames, startOf]
  obtain ⟨front, hparts, hdirectory⟩ := Path.exists_parts_foldl_join hne hnames directory
  rw [hstart, hparts, follow_append] at h
  cases hbase : disk.follow (disk.startOf directory) front with
  | error e =>
    rw [hbase] at h
    cases h
  | ok base =>
    rw [hbase] at h
    have hnamed : disk.follow base names = .ok location := h
    refine ⟨base, ?_, eq_of_follow_names hnames hnamed⟩
    obtain hsame | hslash := hdirectory
    · rw [hsame, hbase]
    -- An empty part at the end only asks for a directory, and so does the first name.
    · obtain ⟨name, others, rfl⟩ := List.exists_cons_of_ne_nil hne
      have hthere := isDirectoryAt_of_follow_cons hnamed
      rw [hslash, follow_append, hbase, Except.bind, follow, hthere]
      simp only [Bool.not_true, Bool.false_eq_true, if_false, true_or, if_true, follow]

/-- A way over directories is not changed by what is put in a place that is none. -/
theorem follow_put {parts : List String} (hplace : disk.isDirectoryAt location = false)
    (h : disk.follow start parts = .ok other) (entry : Entry) :
    (disk.put location entry).follow start parts = .ok other := by
  induction parts generalizing start with
  | nil => exact h
  | cons part parts ih =>
    rw [follow] at h ⊢
    cases hstart : disk.isDirectoryAt start with
    | false =>
      rw [hstart] at h
      cases h
    | true =>
      have hne : start ≠ location := by
        rintro rfl
        rw [hplace] at hstart
        cases hstart
      have hsame : (disk.put location entry).isDirectoryAt start = true := by
        rw [isDirectoryAt_iff, entry?_put_of_ne hne]
        exact isDirectoryAt_iff.mp hstart
      rw [hstart] at h
      rw [hsame]
      simp only [Bool.not_true, Bool.false_eq_true, if_false] at h ⊢
      split at h
      · rename_i hstay
        rw [if_pos hstay]
        exact ih h
      · rename_i hstay
        rw [if_neg hstay]
        split at h
        · rename_i hup
          rw [if_pos hup]
          exact ih h
        · rename_i hup
          rw [if_neg hup]
          cases hnext : disk.entry? (start ++ [part]) with
          | none =>
            rw [hnext] at h
            cases h
          | some found =>
            rw [hnext] at h
            -- Whatever is put there, there is still something at the next step.
            obtain ⟨found', hfound'⟩ :
                ∃ found', Disk.entry? (disk.put location entry) (start ++ [part]) = some found' := by
              by_cases heq : start ++ [part] = location
              · rw [heq, entry?_put_self (heq ▸ List.concat_ne_nil part start)]
                exact ⟨entry, rfl⟩
              · rw [entry?_put_of_ne heq]
                exact ⟨found, hnext⟩
            rw [hfound']
            exact ih h

/-! ## Places -/

theorem isDirectoryAt_of_place {directory : Location} {name? : Option String}
    (h : disk.place path = .ok (directory, name?)) : disk.isDirectoryAt directory = true := by
  unfold place at h
  simp only at h
  split at h
  · cases h
  · split at h
    · cases h
    · rename_i found _ hfound
      rw [← (Prod.mk.inj (Except.ok.inj h)).1]
      simpa using hfound

theorem isDirectoryAt_of_none (h : disk.entry? location = none) :
    disk.isDirectoryAt location = false := by
  rw [isDirectoryAt, h]

/-! ## Making directories -/

theorem exists_put_of_makeDirectory (h : disk.makeDirectory path = .ok after) :
    ∃ directory name, disk.isDirectoryAt directory = true ∧
      disk.entry? (directory ++ [name]) = none ∧
      after = disk.put (directory ++ [name]) .directory := by
  unfold makeDirectory at h
  split at h
  · cases h
  · split at h
    · cases h
    · cases h
    · rename_i directory name hplace
      simp only at h
      split at h
      · cases h
      · rename_i hnone
        exact ⟨directory, name, isDirectoryAt_of_place hplace, by simpa using hnone,
          (Except.ok.inj h).symm⟩

/-- The disk that is left behind, after a success or a failure. -/
def left : Except (DiskError × Disk) Disk → Disk
  | .ok disk => disk
  | .error (_, disk) => disk

section Making
variable {Kept : Disk → Prop}
  (hput : ∀ disk directory name, disk.isDirectoryAt directory = true →
    disk.entry? (directory ++ [name]) = none → Kept disk →
      Kept (disk.put (directory ++ [name]) .directory))
include hput

theorem kept_of_makeDirectory (hkept : Kept disk) (h : disk.makeDirectory path = .ok after) :
    Kept after := by
  rcases exists_put_of_makeDirectory h with ⟨directory, name, hdirectory, hnone, rfl⟩
  exact hput disk directory name hdirectory hnone hkept

theorem kept_makeEach (hkept : Kept disk) (paths : List String) :
    Kept (left (disk.makeEach paths)) := by
  induction paths generalizing disk with
  | nil => exact hkept
  | cons path paths ih =>
    rw [makeEach]
    split
    · rename_i made hmade
      exact ih (kept_of_makeDirectory hput hkept hmade)
    · split
      · exact ih hkept
      · exact hkept

theorem kept_makeUpwards (hkept : Kept disk) (missing paths : List String) :
    Kept (left (disk.makeUpwards missing paths)) := by
  induction paths generalizing missing with
  | nil => exact kept_makeEach hput hkept missing
  | cons path paths ih =>
    rw [makeUpwards]
    -- The walk upwards ends where a directory is made or one stands already.
    split
    · exact kept_makeEach hput hkept missing
    · split
      · rename_i made hmade
        exact kept_makeEach hput (kept_of_makeDirectory hput hkept hmade) missing
      · exact ih (path :: missing)
      · split
        · exact kept_makeEach hput hkept missing
        · exact hkept

/-- What holds before, and still holds when a directory is put where nothing was, holds of all that
making directories leaves behind. -/
theorem kept_makeDirectories (hkept : Kept disk) (path : String) :
    Kept (left (disk.makeDirectories path)) :=
  kept_makeUpwards hput hkept [] (Path.ancestors path)

end Making

theorem sameFiles_put_directory (h : disk.entry? location = none) :
    disk.SameFiles (disk.put location .directory) := by
  intro other
  by_cases heq : other = location
  -- There was nothing, and a directory is no file.
  · subst heq
    have hroot : other ≠ [] := by
      rintro rfl
      cases h
    rw [file?, entry?_put_self hroot, file?, h]
  · exact file?_put_of_ne heq .directory

/-- A failure on the way may leave some directories behind, but no file changes. -/
theorem sameFiles_makeDirectories (disk : Disk) (path : String) :
    disk.SameFiles (left (disk.makeDirectories path)) := by
  apply kept_makeDirectories _ (.refl disk)
  intro between directory name _ hnone hsame
  exact hsame.trans (sameFiles_put_directory hnone)

/-! ## Writing files -/

/-- The path leads to a file with this content, and that file is all that may be different. -/
def WroteOnly (disk after : Disk) (path : String) (content : ByteArray) : Prop :=
  ∃ location, after.locate path = .ok location ∧ after.file? location = some content ∧
    ∀ other, other ≠ location → after.file? other = disk.file? other

theorem WroteOnly.after_sameFiles {between : Disk} {content : ByteArray}
    (h : disk.SameFiles between) (h' : between.WroteOnly after path content) :
    disk.WroteOnly after path content := by
  obtain ⟨location, hlocate, hfile, hothers⟩ := h'
  exact ⟨location, hlocate, hfile, fun other hother => (hothers other hother).trans (h other)⟩

theorem namedParts_eq_parts (hne : path ≠ "") (hslash : Path.endsInSlash path = false) :
    Path.namedParts path = Path.parts path := by
  -- Only a slash at the end leaves an empty component there.
  have hlast : (Path.parts path).reverse.head? ≠ some "" := by
    rw [List.head?_reverse]
    apply Text.getLast?_separated_ne_empty hne
    rwa [Path.endsInSlash, beq_eq_false_iff_ne] at hslash
  have hkept : (Path.parts path).reverse.dropWhile (· == "") = (Path.parts path).reverse := by
    cases hparts : (Path.parts path).reverse with
    | nil => rfl
    | cons last front =>
      have hne : (last == "") = false := by
        rw [hparts, List.head?_cons, ne_eq, Option.some.injEq] at hlast
        exact beq_eq_false_iff_ne.mpr hlast
      rw [List.dropWhile_cons, hne, if_neg Bool.false_ne_true]
  rw [Path.namedParts, hkept, List.reverse_reverse]

/-- Where a file can be written: in a directory, under the name that ends the path. -/
theorem exists_parts_of_place {directory : Location} {name : String} (hne : path ≠ "")
    (hslash : Path.endsInSlash path = false) (h : disk.place path = .ok (directory, some name)) :
    ∃ front, Path.parts path = front ++ [name] ∧ Path.IsName name ∧
      disk.follow (disk.startOf path) front = .ok directory ∧
      disk.isDirectoryAt directory = true := by
  unfold place at h
  rw [namedParts_eq_parts hne hslash] at h
  simp only at h
  split at h
  · cases h
  · rename_i found hfollow
    split at h
    · cases h
    · rename_i hdirectory
      obtain ⟨rfl, hname⟩ := Prod.mk.inj (Except.ok.inj h)
      -- The name is the last component, which is neither `.` nor `..`.
      obtain ⟨hlast, hkept⟩ := Option.filter_eq_some_iff.mp hname
      obtain ⟨front, hfront⟩ := List.getLast?_eq_some_iff.mp hlast
      rw [Bool.and_eq_true, bne_iff_ne, bne_iff_ne] at hkept
      have hmem : name ∈ Path.parts path := List.mem_of_getLast? hlast
      have hempty : name ≠ "" := by
        rintro rfl
        rw [Path.endsInSlash, beq_eq_false_iff_ne] at hslash
        exact Text.getLast?_separated_ne_empty hne hslash hlast
      rw [hfront, List.dropLast_concat] at hfollow
      exact ⟨front, hfront, ⟨hempty, hkept.1, hkept.2, Text.not_mem_of_mem_separated name hmem⟩,
        hfollow, by simpa using hdirectory⟩

theorem wroteOnly_of_writeFile {content : ByteArray}
    (h : disk.writeFile path content = .ok after) : disk.WroteOnly after path content := by
  unfold writeFile at h
  split at h
  · cases h
  · rename_i hne
    rw [String.isEmpty_iff] at hne
    split at h
    · cases h
    · cases h
    · rename_i directory name hplace
      simp only at h
      split at h
      · cases h
      · rename_i hfree
        rw [not_or, Bool.not_eq_true, Bool.not_eq_true] at hfree
        obtain ⟨hslash, hfree⟩ := hfree
        obtain rfl := Except.ok.inj h
        obtain ⟨front, hparts, hname, hfollow, hdirectory⟩ :=
          exists_parts_of_place hne hslash hplace
        have hroot : directory ++ [name] ≠ [] := List.concat_ne_nil name directory
        have hapart : directory ≠ directory ++ [name] := by simp
        -- The way to the directory is still there, and the last step now leads to the file.
        have hway := follow_put hfree hfollow (.file content)
        have hthere : (disk.put (directory ++ [name]) (.file content)).isDirectoryAt directory =
            true := by
          rw [isDirectoryAt_iff, entry?_put_of_ne hapart]
          exact isDirectoryAt_iff.mp hdirectory
        refine ⟨directory ++ [name], ?_, file?_put_file hroot content, fun other hother =>
          file?_put_of_ne hother (.file content)⟩
        rw [locate, if_neg (by simpa using hne), hparts, follow_append]
        change ((disk.put (directory ++ [name]) (.file content)).follow (disk.startOf path)
          front).bind _ = _
        rw [hway, Except.bind, follow_name hname, hthere, if_pos rfl, entry?_put_self hroot]
        rfl

theorem exists_put_of_writeFile {content : ByteArray}
    (h : disk.writeFile path content = .ok after) :
    ∃ directory name, disk.isDirectoryAt directory = true ∧
      disk.isDirectoryAt (directory ++ [name]) = false ∧
      after = disk.put (directory ++ [name]) (.file content) := by
  unfold writeFile at h
  split at h
  · cases h
  · split at h
    · cases h
    · cases h
    · rename_i directory name hplace
      simp only at h
      split at h
      · cases h
      · rename_i hfree
        rw [not_or, Bool.not_eq_true, Bool.not_eq_true] at hfree
        exact ⟨directory, name, isDirectoryAt_of_place hplace, hfree.2, (Except.ok.inj h).symm⟩

end JsonClasses.Disk
