import JsonClasses.Proofs.Java.Angles

/-!
# Imports of a source file

The imports are collected from the tree before any class is written. They are those that the written
classes use: the annotation types by the annotations that stand in the file, and lists by the types
that stand there.
-/
namespace JsonClasses.Java
open Item

/-! ## Lines of a file -/

def isImportLine (line : String) : Bool := "import ".toList.isPrefixOf line.toList

/-- The lines of a source file that import something. -/
def importLines (source : String) : List String :=
  (Text.separated '\n' source).filter isImportLine

theorem isImportLine_eq_false {line : String} (h : line.toList.head? ≠ some 'i') :
    isImportLine line = false := by
  have himport : "import ".toList = 'i' :: "mport ".toList := by decide
  rw [isImportLine, himport]
  cases hline : line.toList with
  | nil => rfl
  | cons c cs =>
    rw [hline, List.head?_cons, ne_eq, Option.some.injEq] at h
    rw [List.isPrefixOf, beq_eq_false_iff_ne.mpr (Ne.symm h), Bool.false_and]

theorem isImportLine_import (name : String) : isImportLine ("import " ++ name ++ ";") = true := by
  rw [isImportLine, List.isPrefixOf_iff_prefix, String.append_assoc, String.toList_append]
  exact List.prefix_append _ _

/-! ## Import lines -/

/-- The declaration of a class starts with a modifier or with `class`. -/
theorem head?_classHeader (modifiers : List Modifier) (name rest : String) :
    (modified modifiers ("class " ++ name) ++ rest).toList.head? ≠ some 'i' := by
  have hchars : ∀ s : String, s.toList.head?.any (· != 'i') = true →
      ∀ t : String, (s ++ t).toList.head? ≠ some 'i' := by
    intro s hs t
    cases hhead : s.toList.head? with
    | none =>
      rw [hhead] at hs
      cases hs
    | some c =>
      rw [hhead, Option.any_some, bne_iff_ne] at hs
      rw [String.toList_append, List.head?_append, hhead, Option.some_or, ne_eq, Option.some.injEq]
      exact hs
  -- Modifiers and `class` begin with other letters than `import`.
  cases modifiers with
  | nil =>
    rw [modified, List.map_nil, List.nil_append, String.intercalate_singleton, String.append_assoc]
    exact hchars "class " (by decide) _
  | cons m modifiers =>
    rw [modified, List.map_cons, List.cons_append, Spelling.intercalate_cons, String.append_assoc]
    exact hchars m.keyword (by cases m <;> decide) _

theorem not_importLine_of_classItem (c : ClassTree) :
    ∀ line ∈ (classItem c).lines, isImportLine (line.getD "") = false := by
  rw [classItem_eq, lines, List.forall_mem_cons, List.forall_mem_append, List.forall_mem_map,
    List.forall_mem_singleton]
  refine ⟨isImportLine_eq_false (head?_classHeader _ _ _), fun line _ => ?_, by decide⟩
  -- Whatever a member is, its line starts with a blank or is blank.
  apply isImportLine_eq_false
  cases line with
  | none => decide
  | some text =>
    rw [indented, Option.map_some, Option.getD_some, String.toList_append]
    exact (by decide : some ' ' ≠ some 'i')

theorem filter_preambleItems (package : String) (imported : List String) :
    ((linesOf (preambleItems package imported)).map fun line => line.getD "").filter
        isImportLine = imported.map fun name => "import " ++ name ++ ";" := by
  have hpackage : isImportLine ("package " ++ package ++ ";") = false := by
    apply isImportLine_eq_false
    rw [String.append_assoc, String.toList_append]
    exact (by decide : some 'p' ≠ some 'i')
  have hblank : isImportLine "" = false := by decide
  have himports : (linesOf ((imported.map fun name => "import " ++ name ++ ";").map .line)).map
      (fun line => line.getD "") = imported.map fun name => "import " ++ name ++ ";" := by
    rw [linesOf_eq_flatMap, List.flatMap_map]
    simp [lines, ← List.map_eq_flatMap]
  have hall : (imported.map fun name => "import " ++ name ++ ";").filter isImportLine =
      imported.map fun name => "import " ++ name ++ ";" :=
    List.filter_eq_self.mpr (List.forall_mem_map.mpr fun name _ => isImportLine_import name)
  have hfirst : ((linesOf (if package.isEmpty then []
      else [.line ("package " ++ package ++ ";"), .gap])).map fun line => line.getD "").filter
        isImportLine = [] := by
    split
    · rfl
    · simp [linesOf, lines, hpackage, hblank]
  -- Of the preamble the imports are left, without the package and the blank lines.
  rw [preambleItems, linesOf_append, List.map_append, List.filter_append, hfirst, List.nil_append]
  split
  · rename_i hempty
    rw [List.isEmpty_iff.mp hempty]
    rfl
  · rw [linesOf_append, List.map_append, himports, List.filter_append, hall]
    simp [linesOf, lines, hblank]

theorem importLines_of_fileItems {package : String} {tree : ClassTree}
    (hpackage : isPackage package = true) (hlegal : ∀ c ∈ tree.subtrees, c.Legal) :
    importLines (Page.blank.putItems (fileItems package tree)).text =
      (imports tree).map fun name => "import " ++ name ++ ";" := by
  -- No line of a class starts like an import.
  have hclass : ((linesOf [classItem tree]).map fun line => line.getD "").filter isImportLine =
      [] := by
    rw [linesOf, linesOf, List.append_nil, List.filter_eq_nil_iff, List.forall_mem_map]
    intro line hline
    simp [not_importLine_of_classItem tree line hline]
  have hend : [""].filter isImportLine = [] := by decide
  rw [importLines, Page.text_blank_putItems,
    separated_join_textAt (isWhole_linesOf (clean_fileItems hpackage hlegal)), fileItems,
    linesOf_append, List.map_append, List.filter_append, List.filter_append, filter_preambleItems,
    hclass, hend, List.append_nil, List.append_nil]

/-! ## What is imported -/

/-- The line of each type that can be imported. -/
theorem importLine_needs (tree : ClassTree) (line : String) :
    line ∈ (imports tree).map (fun name => "import " ++ name ++ ";") ↔
      line = "import java.util.List;" ∧ tree.mentionsList = true ∨
      line = "import com.google.gson.annotations.SerializedName;" ∧
        tree.subtrees.any usesSerializedName = true ∨
      line = "import com.fasterxml.jackson.annotation.JsonCreator;" ∧
        tree.subtrees.any usesJsonCreator = true ∨
      line = "import com.fasterxml.jackson.annotation.JsonProperty;" ∧
        tree.subtrees.any usesJsonProperty = true := by
  simp only [imports, importNeeds, List.mem_map, List.mem_filter, List.mem_cons, List.not_mem_nil,
    or_false]
  constructor
  · rintro ⟨name, ⟨need, ⟨rfl | rfl | rfl | rfl, hneed⟩, rfl⟩, rfl⟩
    · exact .inr (.inr (.inl ⟨rfl, hneed⟩))
    · exact .inr (.inr (.inr ⟨rfl, hneed⟩))
    · exact .inr (.inl ⟨rfl, hneed⟩)
    · exact .inl ⟨rfl, hneed⟩
  · rintro (⟨rfl, hneed⟩ | ⟨rfl, hneed⟩ | ⟨rfl, hneed⟩ | ⟨rfl, hneed⟩)
    · exact ⟨_, ⟨_, ⟨.inr (.inr (.inr rfl)), hneed⟩, rfl⟩, rfl⟩
    · exact ⟨_, ⟨_, ⟨.inr (.inr (.inl rfl)), hneed⟩, rfl⟩, rfl⟩
    · exact ⟨_, ⟨_, ⟨.inl rfl, hneed⟩, rfl⟩, rfl⟩
    · exact ⟨_, ⟨_, ⟨.inr (.inl rfl), hneed⟩, rfl⟩, rfl⟩

theorem importLines_sorted (tree : ClassTree) :
    ((imports tree).map fun name => "import " ++ name ++ ";").Pairwise (· < ·) := by
  have hall : (["com.fasterxml.jackson.annotation.JsonCreator",
      "com.fasterxml.jackson.annotation.JsonProperty", "com.google.gson.annotations.SerializedName",
      "java.util.List"].map fun name => "import " ++ name ++ ";").Pairwise (· < ·) := by decide
  -- The needs are listed in order, and those that a tree does not have are left out.
  refine hall.sublist (List.Sublist.map _ ?_)
  exact List.Sublist.map Prod.fst List.filter_sublist

/-- An annotation stands in the file just if some class needs its import. -/
theorem any_iff_mem_annotations {tree : ClassTree} {name : String} {uses : ClassTree → Bool}
    (h : ∀ c, uses c = true ↔ name ∈ annotationsOf c) :
    tree.subtrees.any uses = true ↔ name ∈ tree.subtrees.flatMap annotationsOf := by
  simp only [List.any_eq_true, List.mem_flatMap, h]

theorem usesSerializedName_iff (c : ClassTree) :
    usesSerializedName c = true ↔ "SerializedName" ∈ annotationsOf c := by
  unfold usesSerializedName annotationsOf
  cases c.style <;> simp [Style.annotations?]

theorem usesJsonCreator_iff (c : ClassTree) :
    usesJsonCreator c = true ↔ "JsonCreator" ∈ annotationsOf c := by
  unfold usesJsonCreator annotationsOf
  cases c.style <;> simp [Style.annotations?]

theorem usesJsonProperty_iff (c : ClassTree) :
    usesJsonProperty c = true ↔ "JsonProperty" ∈ annotationsOf c := by
  unfold usesJsonProperty usesJsonCreator annotationsOf
  cases c.style <;> simp [Style.annotations?]

/-- The import lines of a source file are sorted. They import the list if `List<` stands in the code,
as it does just where some property is rendered as a list, each annotation type if such an annotation
stands there, and nothing else. -/
theorem render_imports {package : String} {tree : ClassTree} (hpackage : isPackage package = true)
    (hlegal : ∀ c ∈ tree.subtrees, c.Legal) :
    ∃ source code, render package tree = .ok source ∧ code? source = some code ∧
      (importLines source).Pairwise (· < ·) ∧
      ("List<".toList <:+: code ↔ ∃ c ∈ tree.subtrees, ∃ p ∈ c.properties,
        "List<".toList <:+: (plainType p.type).toList) ∧
      ∀ line, line ∈ importLines source ↔
        line = "import java.util.List;" ∧ "List<".toList <:+: code ∨
        line = "import com.google.gson.annotations.SerializedName;" ∧
          "SerializedName" ∈ annotationNames code ∨
        line = "import com.fasterxml.jackson.annotation.JsonCreator;" ∧
          "JsonCreator" ∈ annotationNames code ∨
        line = "import com.fasterxml.jackson.annotation.JsonProperty;" ∧
          "JsonProperty" ∈ annotationNames code := by
  obtain ⟨code, hcode, hannotations⟩ :=
    Option.map_eq_some_iff.mp (annotations_of_fileItems hpackage hlegal)
  have hlist := list_infix_code_iff hpackage hlegal hcode
  refine ⟨_, code, (render_eq_ok_iff hlegal).mpr ⟨hpackage, rfl⟩, hcode, ?_,
    hlist.trans (mentionsList_iff hlegal), fun line => ?_⟩
  · rw [importLines_of_fileItems hpackage hlegal]
    exact importLines_sorted tree
  · rw [importLines_of_fileItems hpackage hlegal, importLine_needs, hlist, hannotations,
      any_iff_mem_annotations usesSerializedName_iff, any_iff_mem_annotations usesJsonCreator_iff,
      any_iff_mem_annotations usesJsonProperty_iff]

/-- A list in a nested class of another style. -/
theorem render_imports_nested_list :
    ∃ source code, render "com.example" ⟨"Root", [.publicAccess], .gson, [],
        [⟨"Row", [.static], .jackson,
          [⟨"@tags", .list (.scalar .string), "tags", "tags", some "getTags", none, none⟩], []⟩]⟩ =
      .ok source ∧ code? source = some code ∧ "List<".toList <:+: code ∧
      "import java.util.List;" ∈ importLines source := by
  have hpackage : isPackage "com.example" = true := by decide +kernel
  let row : ClassTree := ⟨"Row", [.static], .jackson,
    [⟨"@tags", .list (.scalar .string), "tags", "tags", some "getTags", none, none⟩], []⟩
  have hrow : row.Legal := by
    have htags : isIdentifier "tags" = true ∧ isIdentifier "getTags" = true := by decide +kernel
    refine ⟨by decide +kernel, List.forall_mem_singleton.mpr ⟨?_, htags.1, htags.1, ?_, ?_, ?_⟩⟩
    · rintro name ⟨⟩
    · rintro name ⟨⟩
      exact htags.2
    · rintro name ⟨⟩
    · rintro name ⟨⟩
  have hlegal : ∀ c ∈ (⟨"Root", [.publicAccess], .gson, [], [row]⟩ : ClassTree).subtrees,
      c.Legal := by
    have hroot : isIdentifier "Root" = true := by decide +kernel
    exact List.forall_mem_cons.mpr
      ⟨⟨hroot, List.forall_mem_nil _⟩, List.forall_mem_singleton.mpr hrow⟩
  obtain ⟨source, code, hrender, hcode, _, hlist, hlines⟩ := render_imports hpackage hlegal
  have hwritten : "List<".toList <:+: code := by
    refine hlist.mpr ⟨row, List.mem_cons_of_mem _ List.mem_cons_self, _, List.mem_cons_self, ?_⟩
    exact (contains_iff_isList (by rintro name ⟨⟩)).mpr rfl
  exact ⟨source, code, hrender, hcode, hwritten, (hlines _).mpr (.inl ⟨rfl, hwritten⟩)⟩

end JsonClasses.Java
