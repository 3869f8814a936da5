import JsonClasses.Proofs.Java.Annotation

/-!
# Lists in a source file

The type of a list is the only code with an angle. So a file without a property that is a list has
no angle outside of its literals, and any other has the type of that property, in its field.
-/
namespace JsonClasses.Java
open Item

/-! ## Types -/

/-- Only a list is spelled with `List<`. -/
theorem contains_iff_isList {type : ValueType}
    (h : ∀ name ∈ type.className?, isIdentifier name = true) :
    "List<".toList <:+: (plainType type).toList ↔ type.isList = true := by
  have hangle : '<' ∈ "List<".toList := by decide
  -- Only a list has an angle in its name.
  cases type with
  | scalar kind =>
    refine iff_of_false (fun hcontains => ?_) (by simp [ValueType.isList])
    exact isSpelling_plainType.scalar_no_angle kind (hcontains.subset hangle)
  | named name =>
    refine iff_of_false (fun hcontains => ?_) (by simp [ValueType.isList])
    exact not_mem_of_isIdentifier (h name rfl) (by decide) (hcontains.subset hangle)
  | list element =>
    refine iff_of_true ?_ rfl
    rw [plainType, String.append_assoc, String.toList_append]
    exact (List.prefix_append _ _).isInfix

theorem mentionsList_iff {tree : ClassTree} (hlegal : ∀ c ∈ tree.subtrees, c.Legal) :
    tree.mentionsList = true ↔ ∃ c ∈ tree.subtrees, ∃ p ∈ c.properties,
      "List<".toList <:+: (plainType p.type).toList := by
  simp only [ClassTree.mentionsList, List.any_eq_true]
  refine exists_congr fun c => and_congr_right fun hc => exists_congr fun p =>
    and_congr_right fun hp => ?_
  exact (contains_iff_isList ((hlegal c hc).properties p hp).reference).symm

/-! ## No angle without a list -/

namespace Query

/-- A query for angles, which annotations and literals do not answer. -/
def angles : Query Empty where
  loud := '<' :: marks
  signs_loud := List.subset_cons_of_subset _ signs_subset_marks
  apart := by decide
  Answers pieces _ := '<' ∉ pieces.map Piece.char
  named _ := []
  quoted _ := []
  nil := List.not_mem_nil
  append h h' := by
    rw [List.map_append, List.mem_append, not_or]
    exact ⟨h, h'⟩
  silence h hmem := h (List.mem_singleton.mp hmem ▸ List.mem_cons_self)
  sign := by
    intro name stop hname _ hstop
    rw [char_code, List.cons_append, List.mem_cons, List.mem_append, List.mem_singleton, not_or,
      not_or]
    exact ⟨by decide, fun hmem => absurd (hname _ hmem) (by decide),
      fun heq => hstop (heq ▸ List.mem_cons_self)⟩
  literal _ := by
    have hquote : '<' ∉ ['"'] := by decide
    exact hquote

end Query

/-! ## The fields of lists -/

namespace Query

/-- A query for lines that stand in the code as they are. -/
def codeLines : Query (List Char) where
  loud := marks
  signs_loud := signs_subset_marks
  apart := marks_apart
  Answers pieces held := ∀ line ∈ held, line <:+: pieces.map Piece.char
  named _ := []
  quoted _ := []
  nil := List.forall_mem_nil _
  append h h' := by
    rw [List.map_append, List.forall_mem_append]
    exact ⟨fun line hline => (h line hline).trans (List.prefix_append _ _).isInfix,
      fun line hline => (h' line hline).trans (List.suffix_append _ _).isInfix⟩
  silence _ := List.forall_mem_nil _
  sign _ _ _ := List.forall_mem_nil _
  literal _ := List.forall_mem_nil _

/-- A line without annotations and literals stands in the code. -/
theorem finds_codeLine {text : String} (h : Only codeLines.silent text) :
    codeLines.Finds (text ++ "\n") [text.toList] := by
  have hline : Only codeLines.silent (text ++ "\n") :=
    only_append.mpr ⟨h, codeLines.only (by decide)⟩
  refine ⟨_, .code fun c hc => codeLines.code (hline c hc), List.forall_mem_singleton.mpr ?_⟩
  rw [char_code, String.toList_append]
  exact (List.prefix_append _ _).isInfix

theorem FindsEach.exists_held {text : String} {texts : List String} {held : List (List Char)}
    (h : codeLines.FindsEach texts held) (hmem : text ∈ texts)
    (htext : Only codeLines.silent text) :
    ∃ held', text.toList ∈ held' ∧ codeLines.FindsEach texts held' := by
  induction h with
  | nil => cases hmem
  | cons first rest ih =>
    obtain rfl | hmem := List.mem_cons.mp hmem
    · exact ⟨_, List.mem_cons_self, .cons (finds_codeLine htext) rest⟩
    · obtain ⟨held', hheld, hrest⟩ := ih hmem
      exact ⟨_, List.mem_append_right _ hheld, .cons first hrest⟩

end Query

variable {package : String} {tree c : ClassTree} {p : Property}

theorem fieldLine_mem_texts (hc : c ∈ tree.subtrees) (hp : p ∈ c.properties) :
    fieldLine c.style p ∈ (classItem tree).texts := by
  induction tree using ClassTree.induction with
  | step tree ih =>
    rw [texts_classItem]
    simp only [List.mem_cons, List.mem_append, List.mem_flatMap]
    rw [ClassTree.subtrees_eq, ClassTree.subtreesOf_eq_flatMap, List.mem_cons] at hc
    obtain rfl | hc := hc
    · have hline : fieldLine c.style p ∈ fieldLines c.style p := by
        unfold fieldLines
        split <;> simp
      exact .inr (.inl (.inl (.inl (.inl ⟨p, hp, hline⟩))))
    · obtain ⟨inner, hinner, hc⟩ := List.mem_flatMap.mp hc
      exact .inr (.inl (.inr ⟨inner, hinner, ih inner hinner hc⟩))

/-- The line of a field stands in the code of the file. -/
theorem fieldLine_infix_code (hpackage : isPackage package = true)
    (hlegal : ∀ d ∈ tree.subtrees, d.Legal) (hc : c ∈ tree.subtrees) (hp : p ∈ c.properties)
    {code : List Char}
    (hcode : code? (Page.blank.putItems (fileItems package tree)).text = some code) :
    (fieldLine c.style p).toList <:+: code := by
  have hlists : ∀ d ∈ tree.subtrees, Query.codeLines.Lists d :=
    fun _ _ _ _ _ => angles_not_mem_marks
  have hwritten : Written Query.codeLines.silent p :=
    ⟨((hlegal c hc).properties p hp).names.imp fun _ => Query.codeLines.only_of_isIdentifier,
      hlists c hc p hp⟩
  have hmem : fieldLine c.style p ∈ textsOf (fileItems package tree) := by
    rw [fileItems, textsOf_append, textsOf_eq_flatMap [classItem tree], List.flatMap_singleton]
    exact List.mem_append_right _ (fieldLine_mem_texts hc hp)
  obtain ⟨held, hheld, hfinds⟩ :=
    (Query.codeLines.findsEach_fileItems hpackage hlegal hlists).exists_held hmem
      (only_fieldLine Query.codeLines.framed hwritten)
  obtain ⟨pieces, hread, hanswers⟩ := hfinds.exists_pieces
  rw [code?, hread] at hcode
  exact Option.some.inj hcode ▸ hanswers _ hheld

theorem suffix_modified (modifiers : List Modifier) (declared : String) :
    declared.toList <:+ (modified modifiers declared).toList := by
  unfold modified
  by_cases hnone : modifiers = []
  · simp [hnone]
  · rw [String.intercalate_append_of_ne_nil (List.map_eq_nil_iff.not.mpr hnone)
      (List.cons_ne_nil _ _), String.intercalate_singleton, String.toList_append]
    exact List.suffix_append _ _

theorem plainType_infix_fieldLine (style : Style) (p : Property) :
    (plainType p.type).toList <:+: (fieldLine style p).toList := by
  rw [fieldLine, String.append_assoc, String.append_assoc, String.toList_append]
  exact (suffix_modified _ _).isInfix.trans (List.prefix_append _ _).isInfix

/-! ## Files -/

/-- The code of a file has a list just if some property is one. -/
theorem list_infix_code_iff (hpackage : isPackage package = true)
    (hlegal : ∀ d ∈ tree.subtrees, d.Legal) {code : List Char}
    (hcode : code? (Page.blank.putItems (fileItems package tree)).text = some code) :
    "List<".toList <:+: code ↔ tree.mentionsList = true := by
  rw [ClassTree.mentionsList, List.any_eq_true]
  simp only [List.any_eq_true]
  constructor
  · intro hlist
    by_contra hnone
    have hlists : ∀ d ∈ tree.subtrees, Query.angles.Lists d :=
      fun d hd p hp hlist => absurd ⟨d, hd, p, hp, hlist⟩ hnone
    obtain ⟨pieces, hread, hquiet⟩ :=
      (Query.angles.findsEach_fileItems hpackage hlegal hlists).exists_pieces
    rw [code?, hread] at hcode
    obtain rfl := Option.some.inj hcode
    exact hquiet (hlist.subset (by decide))
  · rintro ⟨c, hc, p, hp, hlist⟩
    have htype := (contains_iff_isList ((hlegal c hc).properties p hp).reference).mpr hlist
    exact (htype.trans (plainType_infix_fieldLine c.style p)).trans
      (fieldLine_infix_code hpackage hlegal hc hp hcode)

end JsonClasses.Java
