import JsonClasses.Text.Separated
import Mathlib.Data.List.Basic

/-!
# Parts and their separators

Cutting a text at a separator and putting the separator back are inverse to each other, as long as
no part holds the separator. So a text tells the parts that it was put together from.
-/
namespace JsonClasses.Text

variable {separator : Char} {cs rest : List Char}

theorem partsBetween_ne_nil (separator : Char) (cs : List Char) :
    partsBetween separator cs ≠ [] := by
  cases cs with
  | nil => exact List.cons_ne_nil _ _
  | cons c cs =>
    rw [partsBetween]
    split
    · exact List.cons_ne_nil _ _
    · split <;> exact List.cons_ne_nil _ _

/-- A character that separates nothing belongs to the first part. -/
theorem partsBetween_cons_of_ne {c : Char} {part : List Char} {parts : List (List Char)}
    (hc : c ≠ separator) (h : partsBetween separator cs = part :: parts) :
    partsBetween separator (c :: cs) = (c :: part) :: parts := by
  rw [partsBetween, if_neg hc, h]

theorem not_mem_of_mem_partsBetween :
    ∀ part ∈ partsBetween separator cs, separator ∉ part := by
  induction cs with
  | nil =>
    intro part hpart
    rw [partsBetween, List.mem_singleton] at hpart
    rw [hpart]
    exact List.not_mem_nil
  | cons c cs ih =>
    -- A separator starts a new part, and any other character goes to the first one.
    by_cases hc : c = separator
    · rw [partsBetween, if_pos hc, List.forall_mem_cons]
      exact ⟨List.not_mem_nil, ih⟩
    · obtain ⟨part, parts, hparts⟩ := List.exists_cons_of_ne_nil (partsBetween_ne_nil separator cs)
      have hfirst : separator ∉ part := ih part (hparts ▸ List.mem_cons_self)
      have hothers : ∀ other ∈ parts, separator ∉ other := fun other hother =>
        ih other (hparts ▸ List.mem_cons_of_mem part hother)
      rw [partsBetween_cons_of_ne hc hparts, List.forall_mem_cons, List.mem_cons, not_or]
      exact ⟨⟨Ne.symm hc, hfirst⟩, hothers⟩

theorem partsBetween_of_not_mem (h : separator ∉ cs) : partsBetween separator cs = [cs] := by
  induction cs with
  | nil => rfl
  | cons c cs ih =>
    rw [List.mem_cons, not_or] at h
    exact partsBetween_cons_of_ne (Ne.symm h.1) (ih h.2)

/-- What stands on the two sides of a separator is cut up independently. -/
theorem partsBetween_append_separator (separator : Char) (cs rest : List Char) :
    partsBetween separator (cs ++ separator :: rest) =
      partsBetween separator cs ++ partsBetween separator rest := by
  induction cs with
  | nil => simp only [List.nil_append, partsBetween, if_true, List.singleton_append]
  | cons c cs ih =>
    rw [List.cons_append]
    by_cases hc : c = separator
    · simp only [partsBetween, if_pos hc, ih, List.cons_append]
    · obtain ⟨part, parts, hparts⟩ := List.exists_cons_of_ne_nil (partsBetween_ne_nil separator cs)
      rw [hparts, List.cons_append] at ih
      rw [partsBetween_cons_of_ne hc ih, partsBetween_cons_of_ne hc hparts, List.cons_append]

/-- A character at the end belongs to the last part, unless it is the separator. -/
theorem exists_partsBetween_concat {c : Char} (hc : c ≠ separator) (cs : List Char) :
    ∃ parts part, partsBetween separator (cs ++ [c]) = parts ++ [part ++ [c]] := by
  induction cs with
  | nil => exact ⟨[], [], partsBetween_cons_of_ne hc rfl⟩
  | cons d cs ih =>
    obtain ⟨parts, part, hparts⟩ := ih
    by_cases hd : d = separator
    · refine ⟨[] :: parts, part, ?_⟩
      rw [List.cons_append, partsBetween, if_pos hd, hparts, List.cons_append]
    · cases parts with
      | nil => exact ⟨[], d :: part, partsBetween_cons_of_ne hd hparts⟩
      | cons first parts =>
        exact ⟨(d :: first) :: parts, part, partsBetween_cons_of_ne hd hparts⟩

theorem intercalate_partsBetween (separator : Char) (cs : List Char) :
    [separator].intercalate (partsBetween separator cs) = cs := by
  induction cs with
  | nil => rfl
  | cons c cs ih =>
    obtain ⟨part, parts, hparts⟩ := List.exists_cons_of_ne_nil (partsBetween_ne_nil separator cs)
    by_cases hc : c = separator
    · rw [partsBetween, if_pos hc, hparts, List.intercalate_cons_cons, ← hparts, ih, hc]
      rfl
    · rw [partsBetween_cons_of_ne hc hparts]
      rw [hparts] at ih
      -- A separator stands behind the first part only if there is another one.
      cases parts with
      | nil =>
        rw [List.intercalate_singleton] at ih ⊢
        rw [ih]
      | cons next parts =>
        rw [List.intercalate_cons_cons] at ih ⊢
        rw [List.cons_append, List.cons_append, ih]

theorem partsBetween_intercalate {parts : List (List Char)} (hne : parts ≠ [])
    (h : ∀ part ∈ parts, separator ∉ part) :
    partsBetween separator ([separator].intercalate parts) = parts := by
  induction parts with
  | nil => exact absurd rfl hne
  | cons part parts ih =>
    obtain ⟨hpart, hparts⟩ := List.forall_mem_cons.mp h
    cases parts with
    | nil => rw [List.intercalate_singleton, partsBetween_of_not_mem hpart]
    | cons next parts =>
      rw [List.intercalate_cons_cons, List.append_assoc, List.singleton_append,
        partsBetween_append_separator, partsBetween_of_not_mem hpart,
        ih (List.cons_ne_nil next parts) hparts, List.singleton_append]

/-! ## Runs -/

section Runs

variable {α : Type} {belongs : α → Bool} {run run' behind behind' : List α}

/-- A run of elements ends at the first one that does not belong to it. -/
theorem takeWhile_run (hrun : ∀ x ∈ run, belongs x = true)
    (hend : ∀ x ∈ behind.head?, belongs x = false) : (run ++ behind).takeWhile belongs = run := by
  rw [List.takeWhile_append_of_pos hrun]
  cases behind with
  | nil => rw [List.takeWhile_nil, List.append_nil]
  | cons x behind =>
    rw [List.takeWhile_cons_of_neg (by simp [hend x rfl]), List.append_nil]

theorem dropWhile_run (hrun : ∀ x ∈ run, belongs x = true)
    (hend : ∀ x ∈ behind.head?, belongs x = false) :
    (run ++ behind).dropWhile belongs = behind := by
  have hwhole := List.takeWhile_append_dropWhile (p := belongs) (l := run ++ behind)
  rw [takeWhile_run hrun hend] at hwhole
  exact List.append_cancel_left hwhole

/-- Two texts that start with runs are equal only if the runs are. -/
theorem append_inj_of_run (hrun : ∀ x ∈ run, belongs x = true)
    (hrun' : ∀ x ∈ run', belongs x = true) (hend : ∀ x ∈ behind.head?, belongs x = false)
    (hend' : ∀ x ∈ behind'.head?, belongs x = false)
    (h : run ++ behind = run' ++ behind') : run = run' ∧ behind = behind' := by
  have hsame : run = run' := by rw [← takeWhile_run hrun hend, h, takeWhile_run hrun' hend']
  rw [hsame] at h
  exact ⟨hsame, List.append_cancel_left h⟩

end Runs

/-! ## Texts -/

variable {s t : String}

theorem not_mem_of_mem_separated : ∀ part ∈ separated separator s, separator ∉ part.toList := by
  intro part hpart
  obtain ⟨characters, hcharacters, rfl⟩ := List.mem_map.mp hpart
  rw [String.toList_ofList]
  exact not_mem_of_mem_partsBetween characters hcharacters

theorem separated_append_separator (separator : Char) (s t : String) :
    separated separator (s ++ String.singleton separator ++ t) =
      separated separator s ++ separated separator t := by
  rw [separated, String.toList_append, String.toList_append, String.toList_singleton,
    List.append_assoc, List.singleton_append, partsBetween_append_separator, List.map_append]
  rfl

theorem intercalate_separated (separator : Char) (s : String) :
    String.intercalate (String.singleton separator) (separated separator s) = s := by
  have hparts : (separated separator s).map String.toList = partsBetween separator s.toList := by
    rw [separated, List.map_map]
    exact List.map_id'' (fun _ => String.toList_ofList) _
  rw [← String.toList_inj, String.toList_intercalate, String.toList_singleton, hparts,
    intercalate_partsBetween]

theorem separated_intercalate {parts : List String} (hne : parts ≠ [])
    (h : ∀ part ∈ parts, separator ∉ part.toList) :
    separated separator (String.intercalate (String.singleton separator) parts) = parts := by
  have hcharacters : ∀ part ∈ parts.map String.toList, separator ∉ part :=
    List.forall_mem_map.mpr h
  have hcut := partsBetween_intercalate (by simpa using hne) hcharacters
  rw [separated, String.toList_intercalate, String.toList_singleton, hcut, List.map_map]
  exact List.map_id'' (fun _ => String.ofList_toList) _

/-- Only a separator at the end leaves an empty part there. -/
theorem getLast?_separated_ne_empty (hne : s ≠ "")
    (h : s.toList.getLast? ≠ some separator) : (separated separator s).getLast? ≠ some "" := by
  obtain ⟨front, last, hs⟩ := List.eq_nil_or_concat' s.toList |>.resolve_left
    (fun hnil => hne (String.toList_eq_nil_iff.mp hnil))
  rw [hs, List.getLast?_concat, ne_eq, Option.some.injEq] at h
  obtain ⟨parts, part, hparts⟩ := exists_partsBetween_concat h front
  rw [separated, hs, hparts, List.map_append, List.map_singleton, List.getLast?_concat]
  intro hempty
  have hnil := String.ofList_eq_empty_iff.mp (Option.some.inj hempty)
  exact absurd hnil (List.append_ne_nil_of_right_ne_nil part (List.cons_ne_nil last []))

end JsonClasses.Text
