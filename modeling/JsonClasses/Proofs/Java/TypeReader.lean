import JsonClasses.Proofs.Java.Token

/-!
# Types are read back

A type is read by descent: a name, or `List` with one more type between angles. The names of the
scalars are a parameter of the reader, and between angles these are the boxed ones. So the reader
accepts exactly the spellings, the plain or the boxed ones. Main statement: each of the two
spellings gives the type back, and no primitive type stands between angles.
-/
namespace JsonClasses

def Scalar.all : List Scalar := [boolean, integer, decimal, string, object]

namespace Java

/-- The types that every source refers to by simple names. -/
def commonNames : List String := ["Boolean", "Double", "List", "Long", "Object", "String"]

theorem free_model_iff {name : String} :
    Free .model name ↔ isIdentifier name = true ∧ name ∉ commonNames := by
  have hnames : Style.model.occupiedNames = commonNames := rfl
  rw [Free, Style.occupies, hnames, List.contains_eq_mem, decide_eq_false_iff_not]

/-- No style leaves more names to classes than the one that needs no types of its own. -/
theorem Refers.model {style : Style} {type : ValueType} (h : Refers style type) :
    Refers .model type := by
  have hnames : ∀ name ∈ Style.model.occupiedNames, name ∈ style.occupiedNames := by
    cases style <;> decide
  intro name hname
  obtain ⟨hidentifier, hfree⟩ := h name hname
  rw [Style.occupies, List.contains_eq_mem, decide_eq_false_iff_not] at hfree
  refine ⟨hidentifier, ?_⟩
  rw [Style.occupies, List.contains_eq_mem, decide_eq_false_iff_not]
  exact fun hmem => hfree (hnames name hmem)

/-! ## Reading -/

/-- The type that a name alone stands for. -/
def nameType? (scalarName : Scalar → String) (name : String) : Option ValueType :=
  match Scalar.all.find? fun kind => scalarName kind == name with
  | some kind => some (.scalar kind)
  | none => if isIdentifier name && !commonNames.contains name then some (.named name) else none

/-- A list of this type, once its closing angle is read, too. -/
def closeList? : ValueType × List Char → Option (ValueType × List Char)
  | (_, []) => none
  | (element, c :: rest) => if c = '>' then some (.list element, rest) else none

/-- The type at the start of a text, and what stands behind it. -/
def typeAt? (scalarName : Scalar → String) (cs : List Char) : Option (ValueType × List Char) :=
  let name := String.ofList (cs.takeWhile continuesIdentifier)
  match _h : cs.dropWhile continuesIdentifier with
  | [] => (nameType? scalarName name).map (·, [])
  | c :: rest =>
      if c = '<' then
        if name = "List" then (typeAt? boxedScalar rest).bind closeList? else none
      else (nameType? scalarName name).map (·, c :: rest)
termination_by cs.length
decreasing_by
  have hlength := (List.dropWhile_sublist continuesIdentifier (l := cs)).length_le
  rw [_h, List.length_cons] at hlength
  omega

/-- The type that a text spells from its first character to its last. -/
def readType? (scalarName : Scalar → String) (spelling : String) : Option ValueType :=
  match typeAt? scalarName spelling.toList with
  | some (type, []) => some type
  | _ => none

/-- No name goes on with an angle. -/
theorem forall_head?_angle {angle : Char} (h : angle = '<' ∨ angle = '>') (rest : List Char) :
    ∀ c ∈ (angle :: rest).head?, continuesIdentifier c = false := by
  intro c hc
  obtain rfl := Option.some.inj hc
  rcases h with rfl | rfl <;> decide

/-- A name ends here, and no angle opens. -/
def EndsName (rest : List Char) : Prop :=
  ∀ c ∈ rest.head?, continuesIdentifier c = false ∧ c ≠ '<'

theorem endsName_nil : EndsName [] := fun _ hc => nomatch hc

theorem endsName_angle (rest : List Char) : EndsName ('>' :: rest) := by
  intro c hc
  obtain rfl := Option.some.inj hc
  decide

theorem typeAt?_name {scalarName : Scalar → String} {name : String} {rest : List Char}
    (hname : ∀ c ∈ name.toList, continuesIdentifier c = true) (hrest : EndsName rest) :
    typeAt? scalarName (name.toList ++ rest) = (nameType? scalarName name).map (·, rest) := by
  have hend : ∀ c ∈ rest.head?, continuesIdentifier c = false := fun c hc => (hrest c hc).1
  rw [typeAt?, Text.takeWhile_run hname hend, Text.dropWhile_run hname hend, String.ofList_toList]
  cases rest with
  | nil => rfl
  | cons c rest => exact if_neg (hrest c rfl).2

theorem typeAt?_list (scalarName : Scalar → String) (inside : List Char) :
    typeAt? scalarName ("List<".toList ++ inside) =
      (typeAt? boxedScalar inside).bind closeList? := by
  have hlist : ∀ c ∈ "List".toList, continuesIdentifier c = true :=
    List.all_eq_true.mp (by decide)
  have hangle := forall_head?_angle (.inl rfl) inside
  have hopen : "List<".toList ++ inside = "List".toList ++ '<' :: inside := rfl
  rw [typeAt?, hopen, Text.takeWhile_run hlist hangle, Text.dropWhile_run hlist hangle,
    String.ofList_toList]
  exact (if_pos rfl).trans (if_pos rfl)

namespace IsSpelling

variable {spell : ValueType → String} {type : ValueType} {name : String} {cs rest : List Char}

/-- A name alone stands for the type that is not a list and is spelled like this. -/
theorem nameType?_eq_some_iff (h : IsSpelling spell) :
    nameType? (fun kind => spell (.scalar kind)) name = some type ↔
      name = spell type ∧ Refers .model type ∧ type.isList = false := by
  unfold nameType?
  constructor
  · intro hread
    -- The name is that of a scalar, or else it is an identifier of its own.
    split at hread
    · rename_i kind hfound
      obtain rfl := Option.some.inj hread
      have hname : spell (.scalar kind) = name := by simpa using List.find?_some hfound
      exact ⟨hname.symm, fun _ hclass => (nomatch hclass), rfl⟩
    · obtain ⟨hfree, heq⟩ := Option.ite_none_right_eq_some.mp hread
      obtain rfl := Option.some.inj heq
      refine ⟨(h.named name).symm, ?_, rfl⟩
      rintro _ ⟨⟩
      exact free_model_iff.mpr (by simpa using hfree)
  · rintro ⟨rfl, hrefers, hlist⟩
    cases type with
    | scalar kind =>
      have hsame : ∀ other, (spell (.scalar other) == spell (.scalar kind)) = (other == kind) := by
        intro other
        rw [Bool.eq_iff_iff, beq_iff_eq, beq_iff_eq]
        exact ⟨h.scalar_injective other kind, fun heq => heq ▸ rfl⟩
      have hfound : Scalar.all.find? (· == kind) = some kind := by cases kind <;> rfl
      simp only [hsame, hfound]
    | named name =>
      have hfree := hrefers name rfl
      -- The name of a class is none of the scalars, since no style takes those.
      have hnone : Scalar.all.find? (fun kind => spell (.scalar kind) == spell (.named name)) =
          none := by
        rw [List.find?_eq_none]
        intro kind _ heq
        exact h.ne_named hfree kind (by simpa using heq)
      obtain ⟨hidentifier, hnew⟩ := free_model_iff.mp hfree
      rw [hnone, h.named, hidentifier]
      simp [hnew]
    | list element => cases hlist

theorem continues_of_not_list (h : IsSpelling spell) (htype : Refers .model type)
    (hlist : type.isList = false) : ∀ c ∈ (spell type).toList, continuesIdentifier c = true := by
  cases type with
  | scalar kind => exact h.scalar_continues kind
  | named name =>
    rw [h.named]
    exact continuesIdentifier_of_mem (htype name rfl).1
  | list element => cases hlist

theorem typeAt?_spelling_of_not_list (h : IsSpelling spell) (htype : Refers .model type)
    (hlist : type.isList = false) (hrest : EndsName rest) :
    typeAt? (fun kind => spell (.scalar kind)) ((spell type).toList ++ rest) =
      some (type, rest) := by
  rw [typeAt?_name (h.continues_of_not_list htype hlist) hrest,
    h.nameType?_eq_some_iff.mpr ⟨rfl, htype, hlist⟩, Option.map_some]

/-- A type is read back from its spelling, and the reader stops behind it. -/
theorem typeAt?_spelling (h : IsSpelling spell) (htype : Refers .model type)
    (hrest : EndsName rest) :
    typeAt? (fun kind => spell (.scalar kind)) ((spell type).toList ++ rest) =
      some (type, rest) := by
  -- Between angles every spelling goes on as the boxed one, so the spelling varies along the type.
  induction type generalizing spell rest with
  | scalar kind => exact h.typeAt?_spelling_of_not_list htype rfl hrest
  | named name => exact h.typeAt?_spelling_of_not_list htype rfl hrest
  | list element ih =>
    have hinside := ih isSpelling_boxedType htype (endsName_angle rest)
    rw [h.list, String.toList_append, String.toList_append, List.append_assoc, List.append_assoc,
      typeAt?_list]
    exact congrArg (·.bind closeList?) hinside

theorem eq_of_nameType?_map (h : IsSpelling spell)
    (hread : (nameType? (fun kind => spell (.scalar kind)) name).map (·, cs) = some (type, rest)) :
    name.toList ++ cs = (spell type).toList ++ rest ∧ Refers .model type := by
  obtain ⟨read, hname, heq⟩ := Option.map_eq_some_iff.mp hread
  obtain ⟨rfl, rfl⟩ := Prod.mk.inj heq
  obtain ⟨rfl, hrefers, _⟩ := h.nameType?_eq_some_iff.mp hname
  exact ⟨rfl, hrefers⟩

/-- Only a spelling is read as a type. -/
theorem spelling_of_typeAt? (h : IsSpelling spell)
    (hread : typeAt? (fun kind => spell (.scalar kind)) cs = some (type, rest)) :
    cs = (spell type).toList ++ rest ∧ Refers .model type := by
  -- The names of the scalars change on the way into a list, so they must not be fixed beforehand.
  generalize hscalar : (fun kind => spell (.scalar kind)) = scalarName at hread
  fun_induction typeAt? scalarName cs generalizing spell type rest with
  | case1 scalarName cs name =>
    rename_i hbehind
    subst hscalar
    have hcs : name.toList ++ [] = cs := by
      rw [String.toList_ofList, ← hbehind, List.takeWhile_append_dropWhile]
    exact hcs ▸ h.eq_of_nameType?_map hread
  | case2 scalarName cs name inside hname hbehind =>
    rename_i ih
    obtain ⟨⟨element, behind⟩, hinside, hclose⟩ := Option.bind_eq_some_iff.mp hread
    obtain ⟨rfl, hrefers⟩ := ih isSpelling_boxedType rfl hinside
    obtain ⟨rfl, rfl⟩ : type = .list element ∧ behind = '>' :: rest := by
      cases behind with
      | nil => cases hclose
      | cons c behind =>
        obtain ⟨rfl, heq⟩ := Option.ite_none_right_eq_some.mp hclose
        obtain ⟨rfl, rfl⟩ := Prod.mk.inj (Option.some.inj heq)
        exact ⟨rfl, rfl⟩
    have hcs : cs = name.toList ++ '<' :: ((boxedType element).toList ++ '>' :: rest) := by
      rw [String.toList_ofList, ← hbehind, List.takeWhile_append_dropWhile]
    refine ⟨?_, hrefers⟩
    rw [hcs, hname, h.list, String.toList_append, String.toList_append, List.append_assoc,
      List.append_assoc]
    rfl
  | case3 => cases hread
  | case4 scalarName cs name c behind hbehind =>
    subst hscalar
    have hcs : name.toList ++ c :: behind = cs := by
      rw [String.toList_ofList, ← hbehind, List.takeWhile_append_dropWhile]
    exact hcs ▸ h.eq_of_nameType?_map hread

/-- The reader accepts exactly the spellings. -/
theorem readType?_eq_some_iff (h : IsSpelling spell) {text : String} :
    readType? (fun kind => spell (.scalar kind)) text = some type ↔
      text = spell type ∧ Refers .model type := by
  -- A text is a type when the reader at its front leaves nothing.
  have hwhole : readType? (fun kind => spell (.scalar kind)) text = some type ↔
      typeAt? (fun kind => spell (.scalar kind)) text.toList = some (type, []) := by
    unfold readType?
    split
    · rename_i read hread
      rw [hread]
      simp
    · rename_i hnone
      exact iff_of_false (by simp) fun hread => hnone _ hread
  rw [hwhole]
  constructor
  · intro hread
    obtain ⟨htext, hrefers⟩ := h.spelling_of_typeAt? hread
    rw [List.append_nil] at htext
    exact ⟨String.toList_inj.mp htext, hrefers⟩
  · rintro ⟨rfl, hrefers⟩
    have hread := h.typeAt?_spelling hrefers endsName_nil
    rwa [List.append_nil] at hread

theorem injective (h : IsSpelling spell) {type' : ValueType} (htype : Refers .model type)
    (htype' : Refers .model type') (heq : spell type = spell type') : type = type' := by
  have hread := h.readType?_eq_some_iff.mpr ⟨rfl, htype⟩
  have hread' := h.readType?_eq_some_iff.mpr ⟨heq, htype'⟩
  exact Option.some.inj (hread.symm.trans hread')

end IsSpelling

theorem plainType_injective {style : Style} {type type' : ValueType} (h : Refers style type)
    (h' : Refers style type') (heq : plainType type = plainType type') : type = type' :=
  isSpelling_plainType.injective h.model h'.model heq

/-! ## Type arguments -/

/-- Whether this name stands between an opening angle and a closing one. -/
def IsArgument (name spelling : String) : Prop :=
  ("<" ++ name ++ ">").toList <:+: spelling.toList

section Arguments

variable {name : String} {type element : ValueType}

theorem not_isArgument_of_continues {spelling : String}
    (h : ∀ c ∈ spelling.toList, continuesIdentifier c = true) : ¬ IsArgument name spelling := by
  intro hargument
  have hmem : '<' ∈ ("<" ++ name ++ ">").toList := by simp
  exact absurd (h '<' (hargument.subset hmem)) (by decide)

/-- Only a list is spelled with angles, and it ends with one. -/
theorem boxedType_cases (htype : Refers .model type) :
    (∀ c ∈ (boxedType type).toList, continuesIdentifier c = true) ∨
      ∃ inside, (boxedType type).toList = "List<".toList ++ (inside ++ ['>']) := by
  cases type with
  | scalar kind => exact .inl (isSpelling_boxedType.continues_of_not_list htype rfl)
  | named name => exact .inl (isSpelling_boxedType.continues_of_not_list htype rfl)
  | list element =>
    refine .inr ⟨(boxedType element).toList, ?_⟩
    rw [boxedType, String.toList_append, String.toList_append, List.append_assoc]
    rfl

/-- A name that fills the angles from the first one is the whole element. -/
theorem eq_boxedType_of_filled (htype : Refers .model element)
    (hname : ∀ c ∈ name.toList, continuesIdentifier c = true)
    (h : name.toList ++ ['>'] <+: (boxedType element).toList ++ ['>']) :
    name = boxedType element := by
  obtain ⟨behind, h⟩ := h
  rw [List.append_assoc, List.singleton_append] at h
  obtain hplain | ⟨inside, hlist⟩ := boxedType_cases htype
  · obtain ⟨hsame, _⟩ := Text.append_inj_of_run hname hplain
      (forall_head?_angle (.inr rfl) _) (forall_head?_angle (.inr rfl) _) h
    exact String.toList_inj.mp hsame
  · -- The name would be `List`, which has an opening angle behind it.
    have hlistName : ∀ c ∈ "List".toList, continuesIdentifier c = true :=
      List.all_eq_true.mp (by decide)
    have hangles : (boxedType element).toList ++ ['>'] =
        "List".toList ++ '<' :: (inside ++ (['>'] ++ ['>'])) := by
      rw [hlist, List.append_assoc, List.append_assoc]
      rfl
    rw [hangles] at h
    obtain ⟨_, hbehind⟩ := Text.append_inj_of_run hname hlistName
      (forall_head?_angle (.inr rfl) _) (forall_head?_angle (.inl rfl) _) h
    exact absurd (List.cons.inj hbehind).1 (by decide)

theorem not_suffix_boxedType (htype : Refers .model type)
    (hname : ∀ c ∈ name.toList, continuesIdentifier c = true) :
    ¬ '<' :: name.toList <:+ (boxedType type).toList := by
  rintro ⟨front, h⟩
  obtain hplain | ⟨inside, hlist⟩ := boxedType_cases htype
  · exact absurd (hplain '<' (h ▸ List.mem_append_right _ List.mem_cons_self)) (by decide)
  · have hlast : ('<' :: name.toList).getLast? = some '>' := by
      have hends := congrArg List.getLast? (h.trans hlist)
      rwa [List.getLast?_append_of_ne_nil _ (List.cons_ne_nil _ _), ← List.append_assoc,
        List.getLast?_concat] at hends
    obtain heq | hmem := List.mem_cons.mp (List.mem_of_getLast? hlast)
    · exact absurd heq (by decide)
    · exact absurd (hname '>' hmem) (by decide)

theorem isArgument_list_iff (htype : Refers .model element)
    (hname : ∀ c ∈ name.toList, continuesIdentifier c = true) :
    IsArgument name (boxedType (.list element)) ↔
      name = boxedType element ∨ IsArgument name (boxedType element) := by
  have htext : ("<" ++ name ++ ">").toList = '<' :: (name.toList ++ ['>']) := by
    rw [String.toList_append, String.toList_append]
    rfl
  have hlist : (boxedType (.list element)).toList =
      'L' :: 'i' :: 's' :: 't' :: '<' :: ((boxedType element).toList ++ ['>']) := by
    rw [boxedType, String.toList_append, String.toList_append]
    rfl
  -- The argument stands right behind the first angle, or it stands further inside.
  have hopen : name.toList ++ ['>'] <+: (boxedType element).toList ++ ['>'] ↔
      name = boxedType element :=
    ⟨eq_boxedType_of_filled htype hname, fun h => h ▸ List.prefix_rfl⟩
  have hclose : '<' :: (name.toList ++ ['>']) <:+: (boxedType element).toList ++ ['>'] ↔
      '<' :: (name.toList ++ ['>']) <:+: (boxedType element).toList := by
    rw [List.infix_concat_iff, ← List.cons_append, List.suffix_append_self_iff]
    exact or_iff_right (not_suffix_boxedType htype hname)
  rw [IsArgument, IsArgument, htext, hlist]
  simp [List.infix_cons_iff, List.cons_prefix_cons, hopen, hclose]

/-- The only name between two angles is the one of the innermost type, boxed. -/
theorem isArgument_boxedType_iff (htype : Refers .model type)
    (hname : ∀ c ∈ name.toList, continuesIdentifier c = true) :
    IsArgument name (boxedType type) ↔
      type.isList = true ∧ name = boxedType type.innermost := by
  have hboxed := isSpelling_boxedType
  induction type with
  | scalar kind =>
    exact iff_of_false (not_isArgument_of_continues (hboxed.continues_of_not_list htype rfl))
      fun h => nomatch h.1
  | named other =>
    exact iff_of_false (not_isArgument_of_continues (hboxed.continues_of_not_list htype rfl))
      fun h => nomatch h.1
  | list element ih =>
    have hinside : IsArgument name (boxedType element) ↔
        element.isList = true ∧ name = boxedType element.innermost := ih htype
    have helement : Refers .model element := htype
    rw [isArgument_list_iff helement hname, hinside]
    cases element with
    | scalar kind => simp [ValueType.isList, ValueType.innermost]
    | named other => simp [ValueType.isList, ValueType.innermost]
    -- A primitive has no angle, so it is not the whole argument, only one inside it.
    | list inner =>
      have hne : name ≠ boxedType (.list inner) := by
        rintro rfl
        have hmem := hboxed.mem_list inner
        exact absurd (hname '<' hmem) (by decide)
      simp [ValueType.isList, ValueType.innermost, hne]

theorem refers_innermost (htype : Refers .model type) : Refers .model type.innermost := by
  induction type with
  | scalar kind => exact htype
  | named name => exact htype
  | list element ih => exact ih htype

theorem isArgument_plainType_iff (htype : Refers .model type) :
    IsArgument name (plainType type) ↔ IsArgument name (boxedType type) := by
  have hplain := isSpelling_plainType
  have hboxed := isSpelling_boxedType
  cases type with
  | scalar kind =>
    exact iff_of_false (not_isArgument_of_continues (hplain.continues_of_not_list htype rfl))
      (not_isArgument_of_continues (hboxed.continues_of_not_list htype rfl))
  | named name => rfl
  | list element => rfl

/-- The primitive types that a scalar can have. -/
def primitiveNames : List String := ["boolean", "long", "double"]

theorem boxedType_not_primitive (htype : Refers .model type) :
    boxedType type ∉ primitiveNames := by
  cases type with
  | scalar kind => cases kind <;> decide
  | named name =>
    have hkeywords : ∀ primitive ∈ primitiveNames, isIdentifier primitive = false := by decide
    intro hmem
    have hidentifier : isIdentifier name = true := (htype name rfl).1
    rw [hkeywords name hmem] at hidentifier
    cases hidentifier
  | list element =>
    have hangles : ∀ primitive ∈ primitiveNames, '<' ∉ primitive.toList := by decide
    exact fun hmem => hangles _ hmem (isSpelling_boxedType.mem_list element)

end Arguments

/-- A declared type and a type argument can both be read back, whatever lists are around the
innermost type. No primitive type stands between two angles. -/
theorem readType?_spellings {type : ValueType}
    (h : ∀ name ∈ type.className?, isIdentifier name = true ∧ name ∉ commonNames) :
    (∀ text, readType? plainScalar text = some type ↔ text = plainType type) ∧
      (∀ text, readType? boxedScalar text = some type ↔ text = boxedType type) ∧
      ∀ primitive ∈ primitiveNames,
        ¬ IsArgument primitive (plainType type) ∧ ¬ IsArgument primitive (boxedType type) := by
  have htype : Refers .model type := fun name hname => free_model_iff.mpr (h name hname)
  have hwords : ∀ primitive ∈ primitiveNames,
      ∀ c ∈ primitive.toList, continuesIdentifier c = true := by
    have hall : ∀ primitive ∈ primitiveNames,
        primitive.toList.all continuesIdentifier = true := by decide
    exact fun primitive hprimitive => List.all_eq_true.mp (hall primitive hprimitive)
  refine ⟨fun text => ?_, fun text => ?_, fun primitive hprimitive => ?_⟩
  · exact isSpelling_plainType.readType?_eq_some_iff.trans (and_iff_left htype)
  · exact isSpelling_boxedType.readType?_eq_some_iff.trans (and_iff_left htype)
  · have hnot : ¬ IsArgument primitive (boxedType type) := by
      rw [isArgument_boxedType_iff htype (hwords primitive hprimitive)]
      rintro ⟨_, rfl⟩
      exact boxedType_not_primitive (refers_innermost htype) hprimitive
    exact ⟨fun hargument => hnot ((isArgument_plainType_iff htype).mp hargument), hnot⟩

/-- A class may be called `Integer`, since no scalar is boxed to that name. -/
theorem readType?_spellings_integer_class :
    readType? plainScalar "List<List<Integer>>" = some (.list (.list (.named "Integer"))) ∧
      readType? boxedScalar "List<List<Integer>>" = some (.list (.list (.named "Integer"))) ∧
      ¬ IsArgument "long" "List<List<Integer>>" := by
  have hclass : ∀ name ∈ (ValueType.list (.list (.named "Integer"))).className?,
      isIdentifier name = true ∧ name ∉ commonNames := by
    rintro _ ⟨⟩
    decide +kernel
  obtain ⟨hplain, hboxed, hprimitive⟩ := readType?_spellings hclass
  exact ⟨(hplain _).mpr rfl, (hboxed _).mpr rfl, (hprimitive "long" (by decide)).1⟩

end Java
end JsonClasses
