import JsonClasses.Proofs.Java.Frame
import JsonClasses.Proofs.Java.Item
import JsonClasses.Proofs.Java.Token

/-!
# Declarations in a source file

A source file is a page of items: a class is a block with its members, each in a group of its own,
and a method is a block with its signature as the header.
-/
namespace JsonClasses.Java
open Item

/-! ## Methods -/

structure Method where
  returns : String
  name : String
  /-- The types of the parameters and their names. -/
  parameters : List (String × String)
  body : List String
  deriving DecidableEq

namespace Method

def header (m : Method) : String :=
  "public " ++ m.returns ++ " " ++ m.name ++ "(" ++
    String.intercalate ", " (m.parameters.map fun (type, name) => type ++ " " ++ name) ++ ")"

def item (m : Method) : Item := .block m.header (m.body.map .line)

def ofGetter (p : Property) (name : String) : Method :=
  ⟨plainType p.type, name, [], ["return " ++ p.field ++ ";"]⟩

def ofSetter (p : Property) (name : String) : Method :=
  ⟨"void", name, [(plainType p.type, p.parameter)], [assignment p]⟩

/-- The method that sets the property in a builder. -/
def ofBuilderMethod (p : Property) (name : String) : Method :=
  ⟨Style.builderName, name, [(plainType p.type, p.parameter)], [assignment p, "return this;"]⟩

/-- The method that ends the building of a class. -/
def build (className : String) : Method :=
  ⟨className, "build", [], ["return new " ++ className ++ "(this);"]⟩

end Method

/-- The getter and the setter of a property. -/
def accessorMethods (p : Property) : List Method :=
  p.getter.toList.map (Method.ofGetter p) ++ p.setter.toList.map (Method.ofSetter p)

/-- The method of a property in a builder. -/
def buildingMethods (p : Property) : List Method :=
  p.builderMethod.toList.map (Method.ofBuilderMethod p)

def builderMethods (name : String) (properties : List Property) : List Method :=
  properties.flatMap buildingMethods ++ [.build name]

/-! ## Classes -/

/-- Each method is a group. -/
def methodGroups (methods : List Method) : List (List Item) := methods.map fun m => [m.item]

/-- The fields are one group, which is left out if there are none. -/
def fieldGroups (properties : List Property) (lines : List String) : List (List Item) :=
  if properties.isEmpty then [] else [lines.map .line]

/-- How a constructor for all properties declares one of them. -/
def constructorParameter (style : Style) (p : Property) : String :=
  if style.annotations? = some .jackson then annotatedParameter p else parameter p

def constructorSignature (style : Style) (name : String) (properties : List Property) : String :=
  match style.construction with
  | .empty => constructorHeader name []
  | .allProperties => constructorHeader name (properties.map (constructorParameter style))
  | .fromBuilder => "private " ++ name ++ "(" ++ Style.builderName ++ " builder)"

def constructorBody (style : Style) (properties : List Property) : List String :=
  match style.construction with
  | .empty => []
  | .allProperties => properties.map assignment
  | .fromBuilder => properties.map builderAssignment

def creatorLines (style : Style) : List String :=
  if style.annotations? = some .jackson then ["@JsonCreator"] else []

def constructorGroup (style : Style) (name : String) (properties : List Property) : List Item :=
  (creatorLines style).map .line ++
    [.block (constructorSignature style name properties)
      ((constructorBody style properties).map .line)]

def builderFieldLines (properties : List Property) : List String :=
  properties.map fun p => "private " ++ plainType p.type ++ " " ++ p.field ++ ";"

def builderItem (name : String) (properties : List Property) : Item :=
  .block ("public static final class " ++ Style.builderName)
    (spaced (fieldGroups properties (builderFieldLines properties) ++
      methodGroups (builderMethods name properties)))

/-- The members before the nested classes. -/
def memberGroups (style : Style) (name : String) (properties : List Property) :
    List (List Item) :=
  fieldGroups properties (properties.flatMap (fieldLines style)) ++
    [constructorGroup style name properties] ++
    methodGroups (properties.flatMap accessorMethods)

def builderGroups (style : Style) (name : String) (properties : List Property) :
    List (List Item) :=
  if style.hasBuilder then [[builderItem name properties]] else []

mutual

def classItem : ClassTree → Item
  | ⟨name, modifiers, style, properties, nested⟩ =>
      .block (modified modifiers ("class " ++ name))
        (spaced (memberGroups style name properties ++ (classItems nested).map ([·]) ++
          builderGroups style name properties))

def classItems : List ClassTree → List Item
  | [] => []
  | tree :: rest => classItem tree :: classItems rest

end

theorem classItems_eq_map (trees : List ClassTree) : classItems trees = trees.map classItem := by
  induction trees with
  | nil => rw [classItems, List.map_nil]
  | cons tree rest ih => rw [classItems, ih, List.map_cons]

/-- The groups in the block of a class. -/
def classGroups (c : ClassTree) : List (List Item) :=
  memberGroups c.style c.name c.properties ++ (c.nested.map classItem).map ([·]) ++
    builderGroups c.style c.name c.properties

theorem classItem_eq (c : ClassTree) : classItem c =
    .block (modified c.modifiers ("class " ++ c.name)) (spaced (classGroups c)) := by
  obtain ⟨name, modifiers, style, properties, nested⟩ := c
  rw [classItem, classItems_eq_map, classGroups]

/-! ### Items of all groups -/

/-- What ignores blank lines goes through the groups one by one. -/
theorem flatMap_spaced {α : Type} {f : Item → List α} (hgap : f .gap = [])
    (groups : List (List Item)) : (spaced groups).flatMap f = groups.flatten.flatMap f := by
  -- All groups but the first have a gap in front, which adds nothing.
  have hothers : ∀ groups : List (List Item),
      (groups.flatMap (.gap :: ·)).flatMap f = groups.flatten.flatMap f := by
    intro groups
    induction groups with
    | nil => rfl
    | cons group groups ih =>
      rw [List.flatMap_cons, List.flatten_cons, List.flatMap_append, List.flatMap_append, ih,
        List.flatMap_cons, hgap, List.nil_append]
  cases groups with
  | nil => rfl
  | cons group groups =>
    rw [spaced, List.flatten_cons, List.flatMap_append, List.flatMap_append, hothers]

theorem flatten_fieldGroups (properties : List Property) (lines : Property → List String) :
    (fieldGroups properties (properties.flatMap lines)).flatten =
      (properties.flatMap lines).map .line := by
  unfold fieldGroups
  split
  · rename_i hempty
    rw [List.isEmpty_iff.mp hempty]
    rfl
  · rw [List.flatten_cons, List.flatten_nil, List.append_nil]

theorem flatten_methodGroups (methods : List Method) :
    (methodGroups methods).flatten = methods.map Method.item := by
  rw [methodGroups, ← List.flatMap_def, List.map_eq_flatMap]

theorem flatten_classGroups (c : ClassTree) : (classGroups c).flatten =
    (c.properties.flatMap (fieldLines c.style)).map .line ++
      constructorGroup c.style c.name c.properties ++
      (c.properties.flatMap accessorMethods).map Method.item ++ c.nested.map classItem ++
      if c.style.hasBuilder then [builderItem c.name c.properties] else [] := by
  have hbuilder : (builderGroups c.style c.name c.properties).flatten =
      if c.style.hasBuilder then [builderItem c.name c.properties] else [] := by
    unfold builderGroups
    split <;> rfl
  have hnested : ((c.nested.map classItem).map ([·])).flatten = c.nested.map classItem := by
    rw [← List.flatMap_def]
    exact List.flatMap_singleton' _
  unfold classGroups memberGroups
  simp only [List.flatten_append, flatten_fieldGroups, flatten_methodGroups, hbuilder, hnested,
    List.flatten_cons, List.flatten_nil, List.append_nil]

/-! ## Files -/

def preambleItems (package : String) (imported : List String) : List Item :=
  (if package.isEmpty then [] else [.line ("package " ++ package ++ ";"), .gap]) ++
    if imported.isEmpty then []
    else (imported.map fun name => "import " ++ name ++ ";").map .line ++ [.gap]

def fileItems (package : String) (tree : ClassTree) : List Item :=
  preambleItems package (imports tree) ++ [classItem tree]

/-! ## Headers -/

theorem header_ofGetter (p : Property) (name : String) : (Method.ofGetter p name).header =
    "public " ++ plainType p.type ++ " " ++ name ++ "()" := by
  simp only [Method.header, Method.ofGetter, List.map_nil, String.intercalate_nil,
    String.append_empty, String.append_assoc]
  rfl

theorem header_ofSetter (p : Property) (name : String) : (Method.ofSetter p name).header =
    "public void " ++ name ++ "(" ++ parameter p ++ ")" := by
  simp only [Method.header, Method.ofSetter, List.map_singleton, String.intercalate_singleton,
    parameter]
  rfl

theorem header_ofBuilderMethod (p : Property) (name : String) :
    (Method.ofBuilderMethod p name).header =
      "public " ++ Style.builderName ++ " " ++ name ++ "(" ++ parameter p ++ ")" := by
  simp only [Method.header, Method.ofBuilderMethod, List.map_singleton,
    String.intercalate_singleton, parameter]

theorem header_build (className : String) :
    (Method.build className).header = "public " ++ className ++ " build()" := by
  simp only [Method.header, Method.build, List.map_nil, String.intercalate_nil,
    String.append_empty, String.append_assoc]
  rfl

/-! ## Characters of methods -/

/-- All characters of the header and of the lines in the body are such. -/
def Method.Only (allowed : Char → Prop) (m : Method) : Prop :=
  Java.Only allowed m.header ∧ ∀ line ∈ m.body, Java.Only allowed line

section Only

variable {allowed : Char → Prop} {name : String} {properties : List Property} {p : Property}

theorem only_accessors (hframe : Framed allowed) (h : Written allowed p) :
    ∀ m ∈ accessorMethods p, m.Only allowed := by
  unfold accessorMethods
  rw [List.forall_mem_append, List.forall_mem_map, List.forall_mem_map]
  constructor
  · intro name hname
    have hgetter := h.getter name (Option.mem_toList.mp hname)
    refine ⟨?_, List.forall_mem_singleton.mpr ?_⟩
    · rw [header_ofGetter]
      simp +decide only [only_append, only_plainType hframe h, hgetter, hframe.only]
    · simp +decide only [only_append, h.field, hframe.only]
  · intro name hname
    have hsetter := h.setter name (Option.mem_toList.mp hname)
    refine ⟨?_, List.forall_mem_singleton.mpr (only_assignment hframe h)⟩
    rw [header_ofSetter]
    simp +decide only [only_append, only_parameter hframe h, hsetter, hframe.only]

theorem only_builderMethods (hframe : Framed allowed) (hname : Only allowed name)
    (hnames : ∀ p ∈ properties, Written allowed p) :
    ∀ m ∈ builderMethods name properties, m.Only allowed := by
  unfold builderMethods
  rw [List.forall_mem_append, List.forall_mem_singleton]
  -- The methods that set a property, and the one that builds.
  constructor
  · intro m hm
    obtain ⟨p, hp, hm⟩ := List.mem_flatMap.mp hm
    obtain ⟨method, hmethod, rfl⟩ := List.mem_map.mp hm
    have h := hnames p hp
    have hmethod := h.builderMethod method (Option.mem_toList.mp hmethod)
    refine ⟨?_, List.forall_mem_cons.mpr ⟨only_assignment hframe h, ?_⟩⟩
    · rw [header_ofBuilderMethod]
      simp +decide only [only_append, only_parameter hframe h, hmethod, hframe.only]
    · exact List.forall_mem_singleton.mpr (hframe.only (by decide))
  · refine ⟨?_, List.forall_mem_singleton.mpr ?_⟩
    · rw [header_build]
      simp +decide only [only_append, hname, hframe.only]
    · simp +decide only [only_append, hname, hframe.only]

end Only

/-! ## Clean items -/

section Clean

variable {style : Style} {name : String} {properties : List Property} {p : Property}

/-- A line break is in no frame. -/
theorem framed_unbroken : Framed (· ∉ ['\n']) := framed_of_all (by decide)

theorem unbroken_iff_only {s : String} : Unbroken s ↔ Only (· ∉ ['\n']) s := by
  simp only [Unbroken, Only, List.mem_singleton]
  constructor
  · rintro h c hc rfl
    exact h hc
  · exact fun h hmem => h _ hmem rfl

theorem unbroken_of_isIdentifier (h : isIdentifier name = true) : Unbroken name :=
  unbroken_iff_only.mpr (only_of_isIdentifier (by decide) h)

theorem names_unbroken {tree : ClassTree} (h : ∀ c ∈ tree.subtrees, c.Legal) :
    ∀ c ∈ tree.subtrees, c.Names Unbroken :=
  fun c hc => (h c hc).names.imp fun _ => unbroken_of_isIdentifier

theorem written_of_unbroken (h : p.Names Unbroken) : Written (· ∉ ['\n']) p :=
  ⟨h.imp fun _ => unbroken_iff_only.mp, fun _ => by decide⟩

theorem unbroken_modified {modifiers : List Modifier} {declared : String} (h : Unbroken declared) :
    Unbroken (modified modifiers declared) :=
  unbroken_iff_only.mpr (only_modified framed_unbroken (unbroken_iff_only.mp h))

theorem unbroken_plainType (h : p.Names Unbroken) : Unbroken (plainType p.type) :=
  unbroken_iff_only.mpr (only_plainType framed_unbroken (written_of_unbroken h))

theorem unbroken_parameter (h : p.Names Unbroken) : Unbroken (parameter p) :=
  unbroken_iff_only.mpr (only_parameter framed_unbroken (written_of_unbroken h))

theorem unbroken_annotatedParameter (h : p.Names Unbroken) : Unbroken (annotatedParameter p) := by
  have hkey : Unbroken (literalOf p.key) := not_mem_literalOf p.key
  have hopening : Unbroken ("@JsonProperty(" ++ literalOf p.key) :=
    unbroken_append.mpr ⟨by decide, hkey⟩
  have hannotated := unbroken_append.mpr ⟨hopening, (by decide : Unbroken ") ")⟩
  exact unbroken_append.mpr ⟨hannotated, unbroken_parameter h⟩

theorem unbroken_constructorHeader (hname : Unbroken name) {parameters : List String}
    (h : ∀ s ∈ parameters, Unbroken s) : Unbroken (constructorHeader name parameters) :=
  unbroken_iff_only.mpr (only_constructorHeader framed_unbroken (unbroken_iff_only.mp hname)
    fun s hs => unbroken_iff_only.mp (h s hs))

theorem isLine_semicolon : IsLine ";" := ⟨by decide, by decide, by decide⟩

theorem isLine_of_semicolon {s : String} (h : Unbroken s) (hend : s.toList.getLast? = some ';') :
    IsLine s where
  ne_empty := by
    rintro rfl
    cases hend
  unbroken := h
  no_brace := by
    rw [hend]
    decide

theorem getLast?_semicolon (front : String) : (front ++ ";").toList.getLast? = some ';' := by
  rw [String.toList_append, List.getLast?_append]
  rfl

theorem isLine_assignment (h : p.Names Unbroken) : IsLine (assignment p) :=
  isLine_of_semicolon (unbroken_iff_only.mpr (only_assignment framed_unbroken (written_of_unbroken h)))
    (getLast?_semicolon _)

theorem isLine_builderAssignment (h : p.Names Unbroken) : IsLine (builderAssignment p) :=
  isLine_of_semicolon
    (unbroken_iff_only.mpr (only_builderAssignment framed_unbroken (written_of_unbroken h)))
    (getLast?_semicolon _)

theorem isLine_fieldLine (h : p.Names Unbroken) : IsLine (fieldLine style p) :=
  isLine_of_semicolon (unbroken_iff_only.mpr (only_fieldLine framed_unbroken (written_of_unbroken h)))
    (getLast?_semicolon _)

theorem isLine_fieldLines (h : p.Names Unbroken) : ∀ line ∈ fieldLines style p, IsLine line := by
  unfold fieldLines
  split
  · rw [List.forall_mem_cons, List.forall_mem_singleton]
    have hkey : Unbroken (literalOf p.key) := not_mem_literalOf p.key
    exact ⟨.behind (unbroken_append.mpr ⟨by decide, hkey⟩) ⟨by decide, by decide, by decide⟩,
      isLine_fieldLine h⟩
  · exact List.forall_mem_singleton.mpr (isLine_fieldLine h)

/-! ### Groups -/

theorem isSolid_block {header : String} {texts : List String} (hheader : Unbroken header)
    (htexts : ∀ text ∈ texts, IsLine text) : IsSolid (.block header (texts.map .line)) := by
  refine .block hheader ?_
  rw [List.forall_mem_map]
  exact fun text htext => .line (htexts text htext)

theorem isGroup_singleton {item : Item} (h : item.IsSolid) : IsGroup [item] :=
  ⟨List.cons_ne_nil item [], List.forall_mem_singleton.mpr h⟩

theorem isGroup_lines {texts : List String} (hne : texts ≠ [])
    (h : ∀ text ∈ texts, IsLine text) : IsGroup (texts.map .line) :=
  ⟨by simpa using hne, List.forall_mem_map.mpr h⟩

theorem isGroup_fieldGroups {lines : Property → List String} (hne : ∀ p, lines p ≠ [])
    (h : ∀ p ∈ properties, ∀ line ∈ lines p, IsLine line) :
    ∀ group ∈ fieldGroups properties (properties.flatMap lines), IsGroup group := by
  unfold fieldGroups
  split
  · exact List.forall_mem_nil _
  · rename_i hempty
    rw [List.forall_mem_singleton]
    refine isGroup_lines ?_ fun text htext => ?_
    -- There is a property, and its lines are not empty.
    · obtain ⟨first, others, rfl⟩ := List.exists_cons_of_ne_nil
        (fun hnil => hempty (List.isEmpty_iff.mpr hnil) : properties ≠ [])
      rw [List.flatMap_cons]
      exact List.append_ne_nil_of_left_ne_nil (hne first) _
    · obtain ⟨p, hp, htext⟩ := List.mem_flatMap.mp htext
      exact h p hp text htext

/-- Every line in the body of a method is a statement. -/
theorem isSolid_method {m : Method} (h : m.Only (· ∉ ['\n']))
    (hbody : ∀ line ∈ m.body, line.toList.getLast? = some ';') : m.item.IsSolid :=
  isSolid_block (unbroken_iff_only.mpr h.1) fun line hline =>
    isLine_of_semicolon (unbroken_iff_only.mpr (h.2 line hline)) (hbody line hline)

theorem isGroup_methodGroups {methods : List Method} (h : ∀ m ∈ methods, m.item.IsSolid) :
    ∀ group ∈ methodGroups methods, IsGroup group :=
  List.forall_mem_map.mpr fun m hm => isGroup_singleton (h m hm)

theorem isSolid_accessors (h : p.Names Unbroken) : ∀ m ∈ accessorMethods p, m.item.IsSolid := by
  intro m hm
  refine isSolid_method (only_accessors framed_unbroken (written_of_unbroken h) m hm) ?_
  obtain hm | hm := List.mem_append.mp hm
  all_goals
    obtain ⟨name, -, rfl⟩ := List.mem_map.mp hm
    exact List.forall_mem_singleton.mpr (getLast?_semicolon _)

theorem isSolid_builderMethods (hname : Unbroken name)
    (hnames : ∀ p ∈ properties, p.Names Unbroken) :
    ∀ m ∈ builderMethods name properties, m.item.IsSolid := by
  intro m hm
  refine isSolid_method (only_builderMethods framed_unbroken (unbroken_iff_only.mp hname)
    (fun p hp => written_of_unbroken (hnames p hp)) m hm) ?_
  obtain hm | hm := List.mem_append.mp hm
  · obtain ⟨p, -, hm⟩ := List.mem_flatMap.mp hm
    obtain ⟨method, -, rfl⟩ := List.mem_map.mp hm
    exact List.forall_mem_cons.mpr
      ⟨getLast?_semicolon _, List.forall_mem_singleton.mpr (by decide)⟩
  · obtain rfl := List.mem_singleton.mp hm
    refine List.forall_mem_singleton.mpr ?_
    rw [String.toList_append, List.getLast?_append]
    rfl

theorem isGroup_builder (hname : Unbroken name) (hnames : ∀ p ∈ properties, p.Names Unbroken) :
    ∀ group ∈ fieldGroups properties (builderFieldLines properties) ++
      methodGroups (builderMethods name properties), IsGroup group := by
  rw [List.forall_mem_append]
  refine ⟨?_, isGroup_methodGroups (isSolid_builderMethods hname hnames)⟩
  rw [builderFieldLines, List.map_eq_flatMap]
  refine isGroup_fieldGroups (fun _ => List.cons_ne_nil _ _) fun p hp => ?_
  refine List.forall_mem_singleton.mpr (.behind ?_ isLine_semicolon)
  simp +decide only [unbroken_append, unbroken_plainType (hnames p hp),
    (hnames p hp).field]

theorem isSolid_builderItem (hname : Unbroken name)
    (hnames : ∀ p ∈ properties, p.Names Unbroken) : (builderItem name properties).IsSolid := by
  refine .block (by decide) fun item hitem => ?_
  exact clean_of_mem_spaced (isGroup_builder hname hnames) item hitem

theorem unbroken_constructorParameter (h : p.Names Unbroken) :
    Unbroken (constructorParameter style p) := by
  unfold constructorParameter
  split
  · exact unbroken_annotatedParameter h
  · exact unbroken_parameter h

theorem unbroken_constructorSignature (style : Style) (hname : Unbroken name)
    (hnames : ∀ p ∈ properties, p.Names Unbroken) :
    Unbroken (constructorSignature style name properties) := by
  unfold constructorSignature
  split
  · exact unbroken_constructorHeader hname (List.forall_mem_nil Unbroken)
  · exact unbroken_constructorHeader hname
      (List.forall_mem_map.mpr fun p hp => unbroken_constructorParameter (hnames p hp))
  · simp +decide only [unbroken_append, hname]

theorem isLine_constructorBody (style : Style) (hnames : ∀ p ∈ properties, p.Names Unbroken) :
    ∀ line ∈ constructorBody style properties, IsLine line := by
  unfold constructorBody
  split
  · exact List.forall_mem_nil IsLine
  · exact List.forall_mem_map.mpr fun p hp => isLine_assignment (hnames p hp)
  · exact List.forall_mem_map.mpr fun p hp => isLine_builderAssignment (hnames p hp)

theorem isGroup_constructorGroup (style : Style) (hname : Unbroken name)
    (hnames : ∀ p ∈ properties, p.Names Unbroken) :
    IsGroup (constructorGroup style name properties) := by
  have hcreator : ∀ line ∈ creatorLines style, IsLine line := by
    unfold creatorLines
    split
    · exact List.forall_mem_singleton.mpr ⟨by decide, by decide, by decide⟩
    · exact List.forall_mem_nil IsLine
  refine ⟨List.concat_ne_nil _ _, ?_⟩
  unfold constructorGroup
  rw [List.forall_mem_append, List.forall_mem_map, List.forall_mem_singleton]
  exact ⟨hcreator, isSolid_block (unbroken_constructorSignature style hname hnames)
    (isLine_constructorBody style hnames)⟩

theorem isGroup_memberGroups {c : ClassTree} (h : c.Names Unbroken) :
    ∀ group ∈ memberGroups c.style c.name c.properties, IsGroup group := by
  unfold memberGroups
  rw [List.forall_mem_append, List.forall_mem_append, List.forall_mem_singleton]
  refine ⟨⟨?_, isGroup_constructorGroup c.style h.name h.properties⟩, ?_⟩
  · refine isGroup_fieldGroups (fun p => ?_) fun p hp => isLine_fieldLines (h.properties p hp)
    unfold fieldLines
    split <;> exact List.cons_ne_nil _ _
  · refine isGroup_methodGroups fun m hm => ?_
    obtain ⟨p, hp, hm⟩ := List.mem_flatMap.mp hm
    exact isSolid_accessors (h.properties p hp) m hm

theorem isGroup_builderGroups {c : ClassTree} (h : c.Names Unbroken) :
    ∀ group ∈ builderGroups c.style c.name c.properties, IsGroup group := by
  unfold builderGroups
  split
  · exact List.forall_mem_singleton.mpr
      (isGroup_singleton (isSolid_builderItem h.name h.properties))
  · exact List.forall_mem_nil _

theorem unbroken_classHeader {c : ClassTree} (h : c.Names Unbroken) :
    Unbroken (modified c.modifiers ("class " ++ c.name)) :=
  unbroken_modified (unbroken_append.mpr ⟨by decide, h.name⟩)

/-- The item of a class is clean if no name in it has a line break. -/
theorem isSolid_classItem {c : ClassTree} (hnames : ∀ d ∈ c.subtrees, d.Names Unbroken) :
    (classItem c).IsSolid ∧ ∀ group ∈ classGroups c, IsGroup group := by
  induction c using ClassTree.induction with
  | step c ih =>
    rw [ClassTree.subtrees_eq, ClassTree.subtreesOf_eq_flatMap, List.forall_mem_cons] at hnames
    obtain ⟨hc, hinside⟩ := hnames
    have hgroups : ∀ group ∈ classGroups c, IsGroup group := by
      unfold classGroups
      rw [List.forall_mem_append, List.forall_mem_append, List.forall_mem_map, List.forall_mem_map]
      refine ⟨⟨isGroup_memberGroups hc, fun inner hinner => ?_⟩, isGroup_builderGroups hc⟩
      exact isGroup_singleton (ih inner hinner fun d hd =>
        hinside d (List.mem_flatMap.mpr ⟨inner, hinner, hd⟩)).1
    refine ⟨?_, hgroups⟩
    rw [classItem_eq]
    exact .block (unbroken_classHeader hc) (clean_of_mem_spaced hgroups)

end Clean

end JsonClasses.Java
