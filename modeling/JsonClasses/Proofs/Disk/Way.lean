import JsonClasses.Proofs.Disk.Files
import JsonClasses.Proofs.Disk.Parent

/-!
# Ways to a place

Where a path leads once everything on the way is there can be read off its parts. In a disk where
everything stands in a directory, a way without files on it either leads there or something on it is
missing.
-/
namespace JsonClasses.Disk

variable {disk : Disk} {start location : Location} {front rest parts : List String}
  {part path : String}

/-! ## Destinations -/

def stepFrom (location : Location) (part : String) : Location :=
  if Path.isVoid part then location
  else if part = ".." then location.dropLast
  else location ++ [part]

/-- Where parts lead when everything on the way is there. -/
def destination (start : Location) (parts : List String) : Location := parts.foldl stepFrom start

theorem destination_append (start : Location) (front rest : List String) :
    destination start (front ++ rest) = destination (destination start front) rest :=
  List.foldl_append

theorem destination_of_void {voids : List String} (h : ∀ part ∈ voids, Path.isVoid part = true)
    (start : Location) : destination start voids = start := by
  induction voids with
  | nil => rfl
  | cons part voids ih =>
    rcases List.forall_mem_cons.mp h with ⟨hpart, hvoids⟩
    rw [destination, List.foldl_cons, stepFrom, if_pos hpart]
    exact ih hvoids

/-- A step in a directory leads somewhere; only a name can be missing. -/
def CanStep (disk : Disk) (location : Location) (part : String) : Prop :=
  Path.isVoid part = true ∨ part = ".." ∨ (disk.entry? (location ++ [part])).isSome = true

theorem follow_of_canStep (hstart : disk.isDirectoryAt start = true)
    (hstep : disk.CanStep start part) (rest : List String) :
    disk.follow start (part :: rest) = disk.follow (stepFrom start part) rest := by
  rw [follow, hstart, if_neg Bool.noConfusion, stepFrom]
  by_cases hstay : Path.isVoid part = true
  · rw [if_pos (Path.isVoid_iff.mp hstay), if_pos hstay]
  · rw [if_neg (Path.isVoid_iff.not.mp hstay), if_neg hstay]
    by_cases hup : part = ".."
    · rw [if_pos hup, if_pos hup]
    · rw [if_neg hup, if_neg hup]
      rcases Option.isSome_iff_exists.mp ((hstep.resolve_left hstay).resolve_left hup) with
        ⟨entry, hentry⟩
      rw [hentry]

theorem follow_of_not_canStep (hstart : disk.isDirectoryAt start = true)
    (hstep : ¬ disk.CanStep start part) (rest : List String) :
    disk.follow start (part :: rest) = .error .notFound := by
  unfold CanStep at hstep
  rw [not_or, not_or, Option.not_isSome_iff_eq_none] at hstep
  rcases hstep with ⟨hstay, hup, hnone⟩
  rw [follow, hstart, if_neg Bool.noConfusion, if_neg (Path.isVoid_iff.not.mp hstay), if_neg hup,
    hnone]

theorem destination_of_follow (h : disk.follow start parts = .ok location) :
    destination start parts = location := by
  induction parts generalizing start with
  | nil => exact Except.ok.inj h
  | cons part parts ih =>
    have hstart := isDirectoryAt_of_follow_cons h
    by_cases hstep : disk.CanStep start part
    · rw [follow_of_canStep hstart hstep] at h
      exact ih h
    · rw [follow_of_not_canStep hstart hstep] at h
      cases h

theorem isDirectoryAt_of_follow (h : disk.follow start (front ++ part :: rest) = .ok location) :
    disk.isDirectoryAt (destination start front) = true := by
  rw [follow_append] at h
  cases hfront : disk.follow start front with
  | error e =>
    rw [hfront] at h
    cases h
  | ok passed =>
    rw [hfront] at h
    rw [destination_of_follow hfront]
    exact isDirectoryAt_of_follow_cons h

/-! ## Well-formed disks -/

/-- Everything stands in a directory, and relative paths start in one. -/
structure WellFormed (disk : Disk) : Prop where
  current : disk.isDirectoryAt disk.current = true
  above : ∀ location name, (disk.entry? (location ++ [name])).isSome = true →
    disk.isDirectoryAt location = true

/-- What is put where no directory was leaves all directories in their places. -/
theorem isDirectoryAt_put (hfree : disk.isDirectoryAt location = false) {other : Location}
    (h : disk.isDirectoryAt other = true) (entry : Entry) :
    (disk.put location entry).isDirectoryAt other = true := by
  have hne : other ≠ location := by
    rintro rfl
    rw [hfree] at h
    cases h
  rw [isDirectoryAt_iff, entry?_put_of_ne hne]
  exact isDirectoryAt_iff.mp h

namespace WellFormed

theorem startOf (h : disk.WellFormed) (path : String) :
    disk.isDirectoryAt (disk.startOf path) = true := by
  unfold Disk.startOf
  split
  · rfl
  · exact h.current

theorem up (h : disk.WellFormed) (hlocation : disk.isDirectoryAt location = true) :
    disk.isDirectoryAt location.dropLast = true := by
  rcases List.eq_nil_or_concat' location with rfl | ⟨front, name, rfl⟩
  · exact hlocation
  · rw [List.dropLast_concat]
    apply h.above front name
    rw [isDirectoryAt_iff.mp hlocation]
    rfl

theorem put (h : disk.WellFormed) {directory : Location} {name : String}
    (hdirectory : disk.isDirectoryAt directory = true)
    (hfree : disk.isDirectoryAt (directory ++ [name]) = false) (entry : Entry) :
    (disk.put (directory ++ [name]) entry).WellFormed := by
  constructor
  · exact isDirectoryAt_put hfree h.current entry
  · intro location other hthere
    by_cases heq : location ++ [other] = directory ++ [name]
    · rw [(List.append_inj' heq rfl).1]
      exact isDirectoryAt_put hfree hdirectory entry
    · rw [entry?_put_of_ne heq] at hthere
      exact isDirectoryAt_put hfree (h.above location other hthere) entry

theorem step (h : disk.WellFormed) (hstart : disk.isDirectoryAt start = true)
    (hstep : disk.CanStep start part) (hfile : disk.file? (stepFrom start part) = none) :
    disk.isDirectoryAt (stepFrom start part) = true := by
  unfold stepFrom at hfile ⊢
  by_cases hstay : Path.isVoid part = true
  · rw [if_pos hstay]
    exact hstart
  · rw [if_neg hstay] at hfile ⊢
    by_cases hup : part = ".."
    · rw [if_pos hup]
      exact h.up hstart
    · rw [if_neg hup] at hfile ⊢
      -- Something is there, and it is no file.
      have hthere := (hstep.resolve_left hstay).resolve_left hup
      unfold file? at hfile
      rw [isDirectoryAt_iff]
      cases hentry : disk.entry? (start ++ [part]) with
      | none =>
        rw [hentry] at hthere
        cases hthere
      | some entry =>
        rw [hentry] at hfile
        cases entry with
        | directory => rfl
        | file content => cases hfile

theorem singleton (name : String) (entry : Entry) :
    (⟨[([name], entry)], []⟩ : Disk).WellFormed := by
  constructor
  · rfl
  · intro location other hthere
    cases location with
    | nil => rfl
    | cons first rest =>
      -- Only the root holds anything.
      unfold entry? at hthere
      rw [if_neg (List.concat_ne_nil other _), List.lookup_cons,
        beq_eq_false_iff_ne.mpr (by simp)] at hthere
      cases hthere

end WellFormed

theorem file?_of_isDirectoryAt (h : disk.isDirectoryAt location = true) :
    disk.file? location = none := by
  rw [file?, isDirectoryAt_iff.mp h]

theorem isSome_of_file? {content : ByteArray} (h : disk.file? location = some content) :
    (disk.entry? location).isSome = true := by
  unfold file? at h
  split at h
  · rename_i hentry
    rw [hentry]
    rfl
  · cases h

/-! ## Ways -/

/-- No place on the way is a file, the last one included. -/
def Clear (disk : Disk) (start : Location) (parts : List String) : Prop :=
  ∀ front rest, parts = front ++ rest → disk.file? (destination start front) = none

theorem Clear.of_append (h : disk.Clear start (front ++ rest)) : disk.Clear start front := by
  intro first others hfront
  apply h first (others ++ rest)
  rw [hfront, List.append_assoc]

theorem Clear.tail (h : disk.Clear start (part :: rest)) :
    disk.Clear (stepFrom start part) rest := by
  intro first others hrest
  apply h (part :: first) others
  rw [hrest, List.cons_append]

/-- The parts lead to a directory. -/
structure Leads (disk : Disk) (start : Location) (parts : List String) : Prop where
  follow : disk.follow start parts = .ok (destination start parts)
  directory : disk.isDirectoryAt (destination start parts) = true

theorem Leads.follow_append (h : disk.Leads start front) (rest : List String) :
    disk.follow start (front ++ rest) = disk.follow (destination start front) rest := by
  rw [Disk.follow_append, h.follow]
  rfl

theorem Leads.step (hwell : disk.WellFormed) (h : disk.Leads start front)
    (hstep : disk.CanStep (destination start front) part)
    (hfile : disk.file? (destination start (front ++ [part])) = none) :
    disk.Leads start (front ++ [part]) := by
  rw [destination_append] at hfile
  constructor
  · rw [h.follow_append, follow_of_canStep h.directory hstep, destination_append]
    rfl
  · rw [destination_append]
    exact hwell.step h.directory hstep hfile

theorem Leads.append_void {voids : List String} (h : disk.Leads start front)
    (hvoids : ∀ part ∈ voids, Path.isVoid part = true) : disk.Leads start (front ++ voids) := by
  have hfollow : disk.follow (destination start front) voids = .ok (destination start front) := by
    induction voids with
    | nil => rfl
    | cons part voids ih =>
      rcases List.forall_mem_cons.mp hvoids with ⟨hpart, hvoids⟩
      rw [follow_of_canStep h.directory (.inl hpart), stepFrom, if_pos hpart]
      exact ih hvoids
  constructor
  · rw [h.follow_append, hfollow, destination_append, destination_of_void hvoids]
  · rw [destination_append, destination_of_void hvoids]
    exact h.directory

/-- Where no file is in the way, something can only be missing. -/
theorem leads_or_notFound (hwell : disk.WellFormed) (hstart : disk.isDirectoryAt start = true)
    (hclear : disk.Clear start parts) :
    disk.Leads start parts ∨ disk.follow start parts = .error .notFound := by
  induction parts generalizing start with
  | nil => exact .inl ⟨rfl, hstart⟩
  | cons part parts ih =>
    by_cases hstep : disk.CanStep start part
    · have hnext := hwell.step hstart hstep (hclear [part] parts rfl)
      rw [follow_of_canStep hstart hstep]
      rcases ih hnext hclear.tail with hleads | hmissing
      · exact .inl ⟨(follow_of_canStep hstart hstep parts).trans hleads.follow, hleads.directory⟩
      · exact .inr hmissing
    · exact .inr (follow_of_not_canStep hstart hstep parts)

/-! ## Ways that only go down -/

theorem prefix_destination (hup : ".." ∉ parts) (start : Location) :
    start <+: destination start parts := by
  induction parts generalizing start with
  | nil => exact List.prefix_rfl
  | cons part parts ih =>
    rw [List.mem_cons, not_or] at hup
    have hrest := ih hup.2 (stepFrom start part)
    apply List.IsPrefix.trans _ hrest
    unfold stepFrom
    split
    · exact List.prefix_rfl
    · rw [if_neg (Ne.symm hup.1)]
      exact List.prefix_append start [part]

theorem WellFormed.of_prefix (h : disk.WellFormed) {above : Location} (hbelow : above <+: location)
    (hthere : (disk.entry? location).isSome = true) : (disk.entry? above).isSome = true := by
  rcases hbelow with ⟨names, rfl⟩
  induction names using List.reverseRecOn with
  | nil => rwa [List.append_nil] at hthere
  | append_singleton names name ih =>
    rw [← List.append_assoc] at hthere
    apply ih
    rw [isDirectoryAt_iff.mp (h.above _ name hthere)]
    rfl

/-- Downwards, everything is there that stands on the way to something. -/
theorem follow_of_no_up (hwell : disk.WellFormed) (hup : ".." ∉ parts)
    (hstart : disk.isDirectoryAt start = true) (hclear : disk.Clear start parts.dropLast)
    (hthere : (disk.entry? (destination start parts)).isSome = true) :
    disk.follow start parts = .ok (destination start parts) := by
  -- Without steps up every directory on the way is a prefix of the destination.
  induction parts generalizing start with
  | nil => rfl
  | cons part parts ih =>
    rw [List.mem_cons, not_or] at hup
    have hstep : disk.CanStep start part := by
      by_cases hvoid : Path.isVoid part = true
      · exact .inl hvoid
      · have hnext : stepFrom start part = start ++ [part] := by
          rw [stepFrom, if_neg hvoid, if_neg (Ne.symm hup.1)]
        refine .inr (.inr ?_)
        rw [← hnext]
        exact hwell.of_prefix (prefix_destination hup.2 _) hthere
    rw [follow_of_canStep hstart hstep]
    cases parts with
    | nil => rfl
    | cons next parts =>
      rw [List.dropLast_cons_cons] at hclear
      exact ih hup.2 (hwell.step hstart hstep (hclear [part] _ rfl)) hclear.tail hthere

end JsonClasses.Disk
