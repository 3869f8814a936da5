import JsonClasses.Proofs.Disk.Path
import Mathlib.Data.List.DropRight

/-!
# Parents of paths

The parent of a path is the text of the parts before the last one. Parts that name nothing are
dropped from its end, so its own parts can be read off it again, and so can those of its parent.
-/
namespace JsonClasses.Path

variable {path part last : String} {components front : List String}

/-- A part that leads nowhere. -/
def isVoid (part : String) : Bool := part == "" || part == "."

theorem isVoid_iff : isVoid part = true ↔ part = "" ∨ part = "." := by
  rw [isVoid, Bool.or_eq_true, beq_iff_eq, beq_iff_eq]

/-- The parts of a path that was cut behind one of them. -/
structure Trimmed (components : List String) : Prop where
  fixed : dropVoidEnd components = components
  no_slash : ∀ part ∈ components, '/' ∉ part.toList

/-! ## Void ends -/

theorem dropVoidEnd_cons (first : String) (rest : List String) :
    dropVoidEnd (first :: rest) = first :: rest.rdropWhile isVoid := rfl

theorem head?_dropVoidEnd (components : List String) :
    (dropVoidEnd components).head? = components.head? := by
  cases components <;> rfl

theorem exists_dropVoidEnd (components : List String) :
    ∃ voids, components = dropVoidEnd components ++ voids ∧ ∀ part ∈ voids, isVoid part = true := by
  cases components with
  | nil => exact ⟨[], rfl, List.forall_mem_nil _⟩
  | cons first rest =>
    refine ⟨rest.rtakeWhile isVoid, ?_, fun part hpart => List.mem_rtakeWhile_imp hpart⟩
    rw [dropVoidEnd_cons, List.cons_append, List.rdropWhile_append_rtakeWhile]

theorem dropVoidEnd_of_not_isVoid (h : isVoid last = false) (front : List String) :
    dropVoidEnd (front ++ [last]) = front ++ [last] := by
  cases front with
  | nil => rfl
  | cons first rest =>
    rw [List.cons_append, dropVoidEnd_cons, List.rdropWhile_concat, h, if_neg Bool.false_ne_true]

theorem not_isVoid_of_dropVoidEnd (hne : front ≠ [])
    (h : dropVoidEnd (front ++ [last]) = front ++ [last]) : isVoid last = false := by
  cases front with
  | nil => exact absurd rfl hne
  | cons first rest =>
    rw [List.cons_append, dropVoidEnd_cons, List.cons.injEq, List.rdropWhile_eq_self_iff] at h
    have hlast := h.2 (List.concat_ne_nil last rest)
    rw [List.getLast_concat, Bool.not_eq_true] at hlast
    exact hlast

theorem trimmed_dropVoidEnd (h : ∀ part ∈ components, '/' ∉ part.toList) :
    Trimmed (dropVoidEnd components) := by
  constructor
  · cases components with
    | nil => rfl
    | cons first rest => rw [dropVoidEnd_cons, dropVoidEnd_cons, List.rdropWhile_idempotent]
  · intro part hpart
    rcases exists_dropVoidEnd components with ⟨voids, hvoids, _⟩
    apply h part
    rw [hvoids]
    exact List.mem_append_left voids hpart

/-! ## Texts -/

theorem ofParts_of_ne (h : components ≠ [""]) :
    ofParts components = String.intercalate "/" components := by
  unfold ofParts
  split
  · exact absurd rfl h
  · rfl

theorem parts_ofParts (hne : components ≠ []) (hroot : components ≠ [""])
    (h : ∀ part ∈ components, '/' ∉ part.toList) : parts (ofParts components) = components := by
  rw [ofParts_of_ne hroot]
  exact Text.separated_intercalate hne h

theorem ofParts_ne_empty (hne : components ≠ []) (h : ∀ part ∈ components, '/' ∉ part.toList) :
    ofParts components ≠ "" := by
  intro hempty
  by_cases hroot : components = [""]
  · rw [hroot] at hempty
    exact absurd hempty (by decide)
  · have hparts := parts_ofParts hne hroot h
    rw [hempty] at hparts
    exact hroot hparts.symm

theorem ofParts_parts (h : path ≠ "") : ofParts (parts path) = path := by
  have hroot : parts path ≠ [""] := by
    intro hparts
    apply h
    rw [← Text.intercalate_separated '/' path, show Text.separated '/' path = [""] from hparts]
    rfl
  rw [ofParts_of_ne hroot]
  exact Text.intercalate_separated '/' path

theorem exists_parts (path : String) : ∃ front last, parts path = front ++ [last] := by
  rcases List.eq_nil_or_concat' (parts path) with hnil | hparts
  · exact absurd (List.map_eq_nil_iff.mp hnil) (Text.partsBetween_ne_nil '/' path.toList)
  · exact hparts

theorem concat_ne_of_not_isVoid (h : isVoid last = false) (front : List String) :
    front ++ [last] ≠ [""] := by
  intro hroot
  have hsame : [last] = [""] := (List.append_inj' (hroot.trans (List.nil_append _).symm) rfl).2
  rw [(List.cons.inj hsame).1] at h
  cases h

theorem ne_empty_of_parts (h : parts path = front ++ [last]) (hlast : isVoid last = false) :
    path ≠ "" := by
  rintro rfl
  exact concat_ne_of_not_isVoid hlast front h.symm

theorem namedParts_of_parts (h : parts path = front ++ [last]) (hlast : last ≠ "") :
    namedParts path = front ++ [last] := by
  have hkept : (last == "") = false := beq_eq_false_iff_ne.mpr hlast
  change (parts path).rdropWhile (· == "") = _
  rw [h, List.rdropWhile_concat, hkept, if_neg Bool.false_ne_true]

theorem endsInSlash_eq_false (h : parts path = front ++ [last]) (hlast : last ≠ "") :
    endsInSlash path = false := by
  rw [endsInSlash, beq_eq_false_iff_ne]
  intro hslash
  rcases List.getLast?_eq_some_iff.mp hslash with ⟨before, hbefore⟩
  have hpath : path = String.ofList before ++ String.singleton '/' ++ "" := by
    rw [← String.toList_inj, hbefore, String.append_empty, String.toList_append,
      String.toList_ofList, String.toList_singleton]
  -- Behind the last slash stands an empty part.
  have hcut := Text.separated_append_separator '/' (String.ofList before) ""
  rw [← hpath, show Text.separated '/' path = front ++ [last] from h] at hcut
  exact hlast (List.cons.inj (List.append_inj' hcut rfl).2).1

theorem isAbsolute_ofParts (h : ∀ part ∈ components, '/' ∉ part.toList) :
    isAbsolute (ofParts components) = (components.head? == some "") := by
  cases components with
  | nil => rfl
  | cons first rest =>
    by_cases hroot : first :: rest = [""]
    · rw [hroot]
      rfl
    rw [ofParts_of_ne hroot, isAbsolute, List.head?_cons]
    by_cases hfirst : first = ""
    -- The first slash stands behind an empty part.
    · subst hfirst
      cases rest with
      | nil => exact absurd rfl hroot
      | cons second rest =>
        rw [String.intercalate_cons_cons, String.empty_append, String.toList_append]
        rfl
    · rcases List.exists_cons_of_ne_nil
        (fun hnil => hfirst (String.toList_eq_nil_iff.mp hnil) : first.toList ≠ []) with
        ⟨c, cs, hc⟩
      have hhead : (String.intercalate "/" (first :: rest)).toList.head? = some c := by
        cases rest with
        | nil => rw [String.intercalate_singleton, hc, List.head?_cons]
        | cons second rest =>
          rw [String.intercalate_cons_cons, String.toList_append, String.toList_append, hc,
            List.cons_append, List.cons_append, List.head?_cons]
      have hslash : c ≠ '/' := by
        rintro rfl
        exact h first List.mem_cons_self (hc ▸ List.mem_cons_self)
      rw [hhead, beq_eq_false_iff_ne.mpr (Option.some_inj.not.mpr hslash),
        beq_eq_false_iff_ne.mpr (Option.some_inj.not.mpr hfirst)]

/-! ## Parents -/

theorem parent?_eq (h : dropVoidEnd (parts path) = front ++ [last])
    (hroot : front ++ [last] ≠ [""]) : parent? path = some (ofParts (dropVoidEnd front)) := by
  unfold parent?
  rw [h]
  split
  · rename_i heq
    exact absurd heq hroot
  · rw [List.dropLast_concat]

namespace Trimmed

theorem last_ne_empty (h : Trimmed (front ++ [last])) (hroot : front ++ [last] ≠ [""]) :
    last ≠ "" := by
  rintro rfl
  by_cases hfront : front = []
  · rw [hfront] at hroot
    exact hroot rfl
  · exact absurd (not_isVoid_of_dropVoidEnd hfront h.fixed) (by decide)

theorem parent (h : Trimmed (front ++ [last])) : Trimmed (dropVoidEnd front) :=
  trimmed_dropVoidEnd fun part hpart => h.no_slash part (List.mem_append_left [last] hpart)

theorem parts_eq (h : Trimmed (front ++ [last])) (hroot : front ++ [last] ≠ [""]) :
    parts (ofParts (front ++ [last])) = front ++ [last] :=
  parts_ofParts (List.concat_ne_nil last front) hroot h.no_slash

theorem parent?_eq (h : Trimmed (front ++ [last])) (hroot : front ++ [last] ≠ [""]) :
    parent? (ofParts (front ++ [last])) = some (ofParts (dropVoidEnd front)) := by
  apply Path.parent?_eq _ hroot
  rw [h.parts_eq hroot, h.fixed]

/-- A parent starts where the path starts. -/
theorem isAbsolute_parent (h : Trimmed (front ++ [last])) (hroot : front ++ [last] ≠ [""]) :
    isAbsolute (ofParts (dropVoidEnd front)) = isAbsolute (ofParts (front ++ [last])) := by
  rw [isAbsolute_ofParts h.parent.no_slash, isAbsolute_ofParts h.no_slash, head?_dropVoidEnd]
  cases front with
  | nil =>
    have hlast : (some last == some "") = false :=
      beq_eq_false_iff_ne.mpr (Option.some_inj.not.mpr (h.last_ne_empty hroot))
    rw [List.nil_append, List.head?_cons, hlast]
    rfl
  | cons first rest => rfl

end Trimmed
end JsonClasses.Path
