import JsonClasses.Proofs.Java.Query

/-!
# Annotations and literals of a source file

An annotation is a name behind an `@` outside of string literals. Names hold no `@`, so the
annotations of a file are those that its classes write. Only annotations write keys, so the literals
of a file are the keys of its annotated classes, in the order of the classes.
-/
namespace JsonClasses.Java

/-! ## Code -/

/-- The character itself, and a quote for a literal. -/
def Piece.char : Piece → Char
  | code c => c
  | literal _ => '"'

/-- A source file with only a quote for each literal. -/
def code? (source : String) : Option (List Char) :=
  (read? source).map fun pieces => pieces.map Piece.char

theorem char_code (cs : List Char) : (cs.map Piece.code).map Piece.char = cs := by
  rw [List.map_map]
  exact List.map_id'' (fun _ => rfl) cs

/-! ## Annotations -/

/-- The names behind the signs `@`. -/
def annotationNames : List Char → List String
  | [] => []
  | c :: cs =>
      if c = '@' then String.ofList (cs.takeWhile continuesIdentifier) :: annotationNames cs
      else annotationNames cs

theorem annotationNames_append_of_quiet {cs : List Char} (h : '@' ∉ cs) (rest : List Char) :
    annotationNames (cs ++ rest) = annotationNames rest := by
  induction cs with
  | nil => rfl
  | cons c cs ih =>
    rw [List.mem_cons, not_or] at h
    rw [List.cons_append, annotationNames, if_neg (Ne.symm h.1), ih h.2]

/-- A name ends where no identifier goes on. -/
theorem annotationNames_sign {name : List Char} {stop : Char}
    (hname : ∀ c ∈ name, continuesIdentifier c = true) (hstop : continuesIdentifier stop = false)
    (rest : List Char) :
    annotationNames ('@' :: (name ++ stop :: rest)) =
      String.ofList name :: annotationNames (stop :: rest) := by
  have hquiet : '@' ∉ name := fun hmem => absurd (hname _ hmem) (by decide)
  have htake : (name ++ stop :: rest).takeWhile continuesIdentifier = name := by
    rw [List.takeWhile_append_of_pos hname, List.takeWhile_cons, hstop]
    simp
  rw [annotationNames, if_pos rfl, htake, annotationNames_append_of_quiet hquiet]

/-- The names of the annotations. -/
def Scan.annotations : Scan String where
  find pieces := annotationNames (pieces.map Piece.char)
  named name := [name]
  quoted _ := []
  find_nil := rfl
  find_code := by
    intro c hc rest
    have hquiet : '@' ∉ [c] := fun hmem =>
      hc (List.mem_singleton.mp hmem ▸ List.mem_cons_self)
    exact annotationNames_append_of_quiet hquiet (rest.map Piece.char)
  find_sign := by
    intro name stop hname hstop hmarks rest
    have hquiet : '@' ∉ [stop] := fun hmem =>
      hmarks (List.mem_singleton.mp hmem ▸ List.mem_cons_self)
    rw [List.map_append, char_code, List.append_assoc, List.cons_append, List.singleton_append,
      annotationNames_sign hname hstop]
    exact congrArg (_ :: ·) (annotationNames_append_of_quiet hquiet (rest.map Piece.char))
  find_literal text rest := by
    have hquiet : '@' ∉ ['"'] := by decide
    exact annotationNames_append_of_quiet hquiet (rest.map Piece.char)

/-- The annotations of a class without those of the classes nested in it. -/
def annotationsOf (c : ClassTree) : List String :=
  match c.style.annotations? with
  | none => []
  | some .gson => c.properties.map fun _ => "SerializedName"
  | some .jackson => "JsonCreator" :: c.properties.map fun _ => "JsonProperty"

theorem inClass_annotations (c : ClassTree) :
    Scan.annotations.query.inClass c = annotationsOf c := by
  have hcreator : Scan.annotations.query.named "JsonCreator" = ["JsonCreator"] := rfl
  have hannotated : ∀ name, Scan.annotations.query.annotated name = fun _ => [name] :=
    fun _ => rfl
  unfold Query.inClass Query.inFields Query.inConstructor annotationsOf
  cases c.style <;> simp [Style.annotations?, hcreator, hannotated, List.map_eq_flatMap]

/-- The annotations of a file are those of its classes. -/
theorem annotations_of_fileItems {package : String} {tree : ClassTree}
    (hpackage : isPackage package = true) (hlegal : ∀ c ∈ tree.subtrees, c.Legal) :
    (code? (Page.blank.putItems (fileItems package tree)).text).map annotationNames =
      some (tree.subtrees.flatMap annotationsOf) := by
  rw [code?, Option.map_map, ← funext inClass_annotations]
  exact Scan.annotations.read_fileItems hpackage hlegal

/-! ## Literals -/

/-- The texts of the literals. -/
def Scan.literals : Scan String where
  find pieces := pieces.filterMap Piece.literal?
  named _ := []
  quoted text := [text]
  find_nil := rfl
  find_code _ _ := rfl
  find_sign := by
    intro name stop _ _ _ rest
    have hcode : (('@' :: name ++ [stop]).map Piece.code).filterMap Piece.literal? = [] := by
      rw [List.filterMap_map, List.filterMap_eq_nil_iff]
      exact fun _ _ => rfl
    rw [List.filterMap_append, hcode]
  find_literal _ _ := rfl

/-- The keys that annotations of the class name. -/
def annotatedKeys (c : ClassTree) : List String :=
  if c.style.annotations?.isSome then c.keys else []

theorem inClass_literals (c : ClassTree) : Scan.literals.query.inClass c = annotatedKeys c := by
  have hcreator : Scan.literals.query.named "JsonCreator" = [] := rfl
  have hannotated : ∀ name, Scan.literals.query.annotated name = fun p => [p.key] := fun _ => rfl
  unfold Query.inClass Query.inFields Query.inConstructor annotatedKeys ClassTree.keys
  cases c.style <;> simp [Style.annotations?, hcreator, hannotated, List.map_eq_flatMap]

/-- The literals of a source are the keys that its annotations name. -/
theorem literals?_of_render {package source : String} {tree : ClassTree}
    (hlegal : ∀ c ∈ tree.subtrees, c.Legal) (h : render package tree = .ok source) :
    literals? source = some (tree.subtrees.flatMap annotatedKeys) := by
  obtain ⟨hpackage, rfl⟩ := (render_eq_ok_iff hlegal).mp h
  exact funext inClass_literals ▸ Scan.literals.read_fileItems hpackage hlegal

end JsonClasses.Java
