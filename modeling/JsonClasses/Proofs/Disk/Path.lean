import JsonClasses.Disk.Path
import JsonClasses.Proofs.Text.Separated

/-!
# Paths that are put together

Names that are joined to a path one after the other stand behind it with slashes between them, and
can be read off the result.
-/
namespace JsonClasses.Path

/-- A part that leads one step down and nowhere else. -/
structure IsName (part : String) : Prop where
  ne_empty : part ≠ ""
  ne_here : part ≠ "."
  ne_up : part ≠ ".."
  no_slash : '/' ∉ part.toList

theorem IsName.toList_ne_nil {part : String} (h : IsName part) : part.toList ≠ [] :=
  fun hnil => h.ne_empty (String.toList_eq_nil_iff.mp hnil)

theorem IsName.isAbsolute_eq_false {part : String} (h : IsName part) : isAbsolute part = false := by
  rw [isAbsolute, beq_eq_false_iff_ne]
  intro hhead
  exact h.no_slash (List.mem_of_mem_head? hhead)

theorem IsName.endsInSlash_eq_false {part : String} (h : IsName part) :
    endsInSlash part = false := by
  rw [endsInSlash, beq_eq_false_iff_ne]
  intro hlast
  exact h.no_slash (List.mem_of_getLast? hlast)

/-! ## Joining -/

/-- What stands in front of a relative path that is joined to this one. -/
def stem (path : String) : String :=
  if path = "" ∨ endsInSlash path = true then path else path ++ "/"

theorem join_of_relative {right : String} (h : isAbsolute right = false) (left : String) :
    join left right = stem left ++ right := by
  have hhead : right.toList.head? ≠ some '/' := by
    rwa [isAbsolute, beq_eq_false_iff_ne] at h
  unfold join
  -- What the left path ends in decides whether a slash is put between the two.
  split
  · contradiction
  · rename_i hlast _
    have hempty : left = "" := by
      rwa [List.getLast?_eq_none_iff, String.toList_eq_nil_iff] at hlast
    rw [stem, if_pos (.inl hempty), hempty, String.empty_append]
  · rename_i hlast _
    have hslash : endsInSlash left = true := beq_iff_eq.mpr hlast
    rw [stem, if_pos (.inr hslash)]
  · rename_i c hother hlast _
    have hne : left ≠ "" := by
      rintro rfl
      cases hlast
    have hslash : endsInSlash left ≠ true := by
      rw [endsInSlash, hlast]
      exact fun hslash => hother (Option.some.inj (beq_iff_eq.mp hslash))
    rw [stem, if_neg (not_or.mpr ⟨hne, hslash⟩)]

theorem stem_stem (path : String) : stem (stem path) = stem path := by
  by_cases h : path = "" ∨ endsInSlash path = true
  · have hstem : stem path = path := if_pos h
    rw [hstem, hstem]
  · have hstem : stem path = path ++ "/" := if_neg h
    have hslash : endsInSlash (path ++ "/") = true := by
      rw [endsInSlash, String.toList_append, show "/".toList = ['/'] from rfl,
        List.getLast?_concat, beq_self_eq_true]
    rw [hstem, stem, if_pos (.inr hslash)]

theorem stem_append_name {name : String} (h : IsName name) (front : String) :
    stem (front ++ name) = front ++ name ++ "/" := by
  have hne : front ++ name ≠ "" := by
    intro hempty
    exact h.ne_empty (String.append_eq_empty_iff.mp hempty).2
  have hslash : endsInSlash (front ++ name) = false := by
    have hname := h.endsInSlash_eq_false
    rw [endsInSlash, List.getLast?_eq_some_getLast h.toList_ne_nil] at hname
    rw [endsInSlash, String.toList_append, List.getLast?_append,
      List.getLast?_eq_some_getLast h.toList_ne_nil, Option.some_or]
    exact hname
  rw [stem, if_neg (by simp [hne, hslash])]

/-- Each name stands behind a slash, unless nothing stands before it. -/
theorem foldl_join {names : List String} (hne : names ≠ []) (hnames : ∀ name ∈ names, IsName name)
    (directory : String) :
    names.foldl join directory = stem directory ++ String.intercalate "/" names := by
  induction names generalizing directory with
  | nil => exact absurd rfl hne
  | cons name names ih =>
    obtain ⟨hname, hnames⟩ := List.forall_mem_cons.mp hnames
    have hfirst : join directory name = stem directory ++ name :=
      join_of_relative hname.isAbsolute_eq_false directory
    rw [List.foldl_cons, hfirst]
    -- Behind the last name there is no slash.
    cases names with
    | nil => rw [List.foldl_nil, String.intercalate_singleton]
    | cons next names =>
      rw [ih (List.cons_ne_nil next names) hnames, stem_append_name hname,
        String.intercalate_cons_cons]
      simp only [String.append_assoc]

/-- The joined names are the last parts of the path. The parts before them are those of the path
that they were joined to, up to an empty one that a slash at its end leaves. -/
theorem exists_parts_foldl_join {names : List String} (hne : names ≠ [])
    (hnames : ∀ name ∈ names, IsName name) (directory : String) :
    ∃ front, parts (names.foldl join directory) = front ++ names ∧
      (parts directory = front ∨ parts directory = front ++ [""]) := by
  have hcut : parts (String.intercalate "/" names) = names :=
    Text.separated_intercalate hne fun name hname => (hnames name hname).no_slash
  have hsplit : ∀ front behind : String, parts (front ++ "/" ++ behind) =
      parts front ++ parts behind := Text.separated_append_separator '/'
  rw [foldl_join hne hnames]
  -- The directory is empty, ends in a slash, or gets one.
  by_cases hempty : directory = ""
  · refine ⟨[], ?_, .inr ?_⟩
    · rw [stem, if_pos (.inl hempty), hempty, String.empty_append, hcut, List.nil_append]
    · rw [hempty]
      rfl
  · by_cases hslash : endsInSlash directory = true
    · obtain ⟨front, hfront⟩ := List.getLast?_eq_some_iff.mp (beq_iff_eq.mp hslash)
      have hdirectory : directory = String.ofList front ++ "/" := by
        rw [← String.toList_inj, hfront, String.toList_append, String.toList_ofList]
        rfl
      refine ⟨parts (String.ofList front), ?_, .inr ?_⟩
      · rw [stem, if_pos (.inr hslash), hdirectory, hsplit, hcut]
      · have hend := hsplit (String.ofList front) ""
        rw [String.append_empty, ← hdirectory] at hend
        exact hend
    · refine ⟨parts directory, ?_, .inl rfl⟩
      rw [stem, if_neg (not_or.mpr ⟨hempty, hslash⟩), hsplit, hcut]

theorem isAbsolute_foldl_join {names : List String} (hnames : ∀ name ∈ names, IsName name)
    (directory : String) : isAbsolute (names.foldl join directory) = isAbsolute directory := by
  induction names generalizing directory with
  | nil => rfl
  | cons name names ih =>
    obtain ⟨hname, hnames⟩ := List.forall_mem_cons.mp hnames
    rw [List.foldl_cons, ih hnames, join_of_relative hname.isAbsolute_eq_false]
    -- An empty directory leaves the name alone, which is relative.
    by_cases hempty : directory = ""
    · rw [stem, if_pos (.inl hempty), hempty, String.empty_append, hname.isAbsolute_eq_false]
      rfl
    · obtain ⟨c, cs, hdirectory⟩ := List.exists_cons_of_ne_nil
        (fun hnil => hempty (String.toList_eq_nil_iff.mp hnil) : directory.toList ≠ [])
      have hstem : (stem directory).toList.head? = some c := by
        rw [stem]
        split
        · rw [hdirectory, List.head?_cons]
        · rw [String.toList_append, hdirectory, List.cons_append, List.head?_cons]
      rw [isAbsolute, isAbsolute, String.toList_append, List.head?_append, hstem, hdirectory,
        Option.some_or, List.head?_cons]

/-- Two paths below one directory are the same only if the same names were joined. -/
theorem foldl_join_injective {names names' : List String} (hne : names ≠ []) (hne' : names' ≠ [])
    (hnames : ∀ name ∈ names, IsName name) (hnames' : ∀ name ∈ names', IsName name)
    {directory : String} (h : names.foldl join directory = names'.foldl join directory) :
    names = names' := by
  rw [foldl_join hne hnames, foldl_join hne' hnames'] at h
  have hbehind : String.intercalate "/" names = String.intercalate "/" names' :=
    String.append_right_inj _ |>.mp h
  have hcut := congrArg (Text.separated '/') hbehind
  change Text.separated '/' (String.intercalate (String.singleton '/') names) =
    Text.separated '/' (String.intercalate (String.singleton '/') names') at hcut
  rwa [Text.separated_intercalate hne fun name hname => (hnames name hname).no_slash,
    Text.separated_intercalate hne' fun name hname => (hnames' name hname).no_slash] at hcut

end JsonClasses.Path
