import JsonClasses.Proofs.Java.Declaration

/-!
# The layout of a source file

What is put on a page for a member is its group of items, and for a class its block. So a source
file is the text of its items.
-/
namespace JsonClasses.Java
open Item

/-! ## Members on a page -/

section Members

variable {depth : Nat}

theorem putGroup_item (page : Page depth) (item : Item) :
    page.putGroup [item] = page.gap.putItem item := by
  rw [Page.putGroup, Page.putItems, Page.putItems]

theorem putGroup_method (page : Page depth) (m : Method) :
    page.putGroup [m.item] = page.gap.putBlock m.header m.body := by
  rw [putGroup_item, Method.item, Page.putItem_block]

/-- Fields are put in a class and in its builder in the same way. -/
theorem putFields_eq (properties : List Property) (lines : List String) (page : Page depth) :
    (if properties.isEmpty then page else page.gap.putLines lines) =
      (fieldGroups properties lines).foldl Page.putGroup page := by
  unfold fieldGroups
  split
  · rw [List.foldl_nil]
  · rw [List.foldl_cons, List.foldl_nil, Page.putGroup, Page.putItems_lines]

theorem addFields_eq (style : Style) (properties : List Property) (page : Page depth) :
    addFields style properties page =
      (fieldGroups properties (properties.flatMap (fieldLines style))).foldl Page.putGroup page :=
  putFields_eq properties (properties.flatMap (fieldLines style)) page

/-- Methods that are put property by property. -/
theorem foldl_methods {add : Page depth → Property → Page depth} {methods : Property → List Method}
    (h : ∀ page p, add page p = (methodGroups (methods p)).foldl Page.putGroup page)
    (properties : List Property) (page : Page depth) :
    properties.foldl add page =
      (methodGroups (properties.flatMap methods)).foldl Page.putGroup page := by
  have hadd : add = fun page p => (methodGroups (methods p)).foldl Page.putGroup page :=
    funext fun page => funext fun p => h page p
  rw [hadd, methodGroups, List.map_flatMap, List.foldl_flatMap]
  rfl

theorem addConstructor_eq (style : Style) (name : String) (properties : List Property)
    (page : Page depth) :
    addConstructor style name properties page =
      page.putGroup (constructorGroup style name properties) := by
  unfold constructorGroup
  rw [Page.putGroup, Page.putItems_append, Page.putItems_lines, Page.putItems, Page.putItem_block,
    Page.putItems]
  cases style <;> rfl

theorem addAccessors_eq (properties : List Property) (page : Page depth) :
    addAccessors properties page =
      (methodGroups (properties.flatMap accessorMethods)).foldl Page.putGroup page := by
  have hgetter : ∀ (page : Page depth) (p : Property), addGetter page p =
      (methodGroups (p.getter.toList.map (Method.ofGetter p))).foldl Page.putGroup page := by
    intro page p
    unfold addGetter
    cases p.getter with
    | none => rfl
    | some getter => exact (header_ofGetter p getter ▸ putGroup_method page _).symm
  have hsetter : ∀ (page : Page depth) (p : Property), addSetter page p =
      (methodGroups (p.setter.toList.map (Method.ofSetter p))).foldl Page.putGroup page := by
    intro page p
    unfold addSetter
    cases p.setter with
    | none => rfl
    | some setter => exact (header_ofSetter p setter ▸ putGroup_method page _).symm
  -- Each property puts its getter and then its setter.
  refine foldl_methods (fun page p => ?_) properties page
  rw [hsetter, hgetter, ← List.foldl_append, accessorMethods, methodGroups, methodGroups,
    methodGroups, List.map_append]

/-- A builder is a block with its groups one after the other. -/
theorem addBuilder_eq_foldl (name : String) (properties : List Property) (page : Page depth) :
    addBuilder name properties page =
      ((fieldGroups properties (builderFieldLines properties) ++
        methodGroups (builderMethods name properties)).foldl Page.putGroup
          (page.gap.openBlock ("public static final class " ++ Style.builderName))).closeBlock := by
  have hfields (page : Page (depth + 1)) : addBuilderFields properties page =
      (fieldGroups properties (builderFieldLines properties)).foldl Page.putGroup page :=
    putFields_eq properties (builderFieldLines properties) page
  have hmethod : ∀ (page : Page (depth + 1)) (p : Property), addBuilderMethod page p =
      (methodGroups (buildingMethods p)).foldl Page.putGroup page := by
    intro page p
    unfold addBuilderMethod buildingMethods
    cases p.builderMethod with
    | none => rfl
    | some method => exact (header_ofBuilderMethod p method ▸ putGroup_method page _).symm
  have hbuild : ∀ page : Page (depth + 1), page.gap.putBlock ("public " ++ name ++ " build()")
      ["return new " ++ name ++ "(this);"] = page.putGroup [(Method.build name).item] := by
    intro page
    rw [← header_build, putGroup_method]
    rfl
  rw [List.foldl_append, builderMethods, methodGroups, List.map_append, List.foldl_append]
  simp only [addBuilder]
  rw [hfields, foldl_methods hmethod, hbuild]
  rfl

theorem addBuilder_eq {name : String} {properties : List Property} (hname : Unbroken name)
    (hnames : ∀ p ∈ properties, p.Names Unbroken) (page : Page depth) :
    addBuilder name properties page = page.putGroup [builderItem name properties] := by
  rw [addBuilder_eq_foldl, putGroup_item, builderItem, Page.putItem,
    ← Page.foldl_putGroup_of_opened (isGroup_builder hname hnames) (Page.isOpened_openBlock _ _)]

theorem addNested_eq (page : Page depth) (trees : List ClassTree) :
    addNested page trees = trees.foldl (fun page tree => addClass page.gap tree) page := by
  induction trees generalizing page with
  | nil => rw [addNested, List.foldl_nil]
  | cons tree rest ih => rw [addNested, ih, List.foldl_cons]

theorem addClass_eq (page : Page depth) (c : ClassTree) :
    addClass page c =
      (let members := addAccessors c.properties (addConstructor c.style c.name c.properties
        (addFields c.style c.properties
          (page.openBlock (modified c.modifiers ("class " ++ c.name)))))
      let nested := c.nested.foldl (fun page inner => addClass page.gap inner) members
      if c.style.hasBuilder then addBuilder c.name c.properties nested else nested).closeBlock := by
  obtain ⟨name, modifiers, style, properties, nested⟩ := c
  rw [addClass, addNested_eq]

/-- A class is a block with its groups one after the other, the classes nested in it and its
builder. -/
theorem addClass_eq_foldl (page : Page depth) (c : ClassTree) :
    addClass page c =
      (let members := (memberGroups c.style c.name c.properties).foldl Page.putGroup
        (page.openBlock (modified c.modifiers ("class " ++ c.name)))
      let nested := c.nested.foldl (fun page inner => addClass page.gap inner) members
      if c.style.hasBuilder then addBuilder c.name c.properties nested else nested).closeBlock := by
  rw [addClass_eq]
  simp only [addAccessors_eq, addConstructor_eq, addFields_eq, memberGroups, List.foldl_append,
    List.foldl_cons, List.foldl_nil]

/-- A class is put on a page as an item. -/
theorem addClass_eq_putItem {c : ClassTree} (hnames : ∀ d ∈ c.subtrees, d.Names Unbroken)
    (page : Page depth) : addClass page c = page.putItem (classItem c) := by
  -- A nested class stands on a deeper page, so the depth is not fixed.
  induction c using ClassTree.induction generalizing depth with
  | step c ih =>
    have hgroups := (isSolid_classItem hnames).2
    rw [ClassTree.subtrees_eq, ClassTree.subtreesOf_eq_flatMap, List.forall_mem_cons] at hnames
    obtain ⟨hc, hinside⟩ := hnames
    have hnested : ∀ page : Page (depth + 1),
        c.nested.foldl (fun page inner => addClass page.gap inner) page =
          ((c.nested.map classItem).map ([·])).foldl Page.putGroup page := by
      intro page
      rw [List.map_map, List.foldl_map]
      refine List.foldl_ext _ _ page fun page inner hinner => ?_
      rw [ih inner hinner fun d hd => hinside d (List.mem_flatMap.mpr ⟨inner, hinner, hd⟩),
        Function.comp_apply, putGroup_item]
    have hbuilder : ∀ page : Page (depth + 1),
        (if c.style.hasBuilder then addBuilder c.name c.properties page else page) =
          (builderGroups c.style c.name c.properties).foldl Page.putGroup page := by
      intro page
      unfold builderGroups
      split
      · rw [addBuilder_eq hc.name hc.properties, List.foldl_cons, List.foldl_nil]
      · rw [List.foldl_nil]
    rw [addClass_eq_foldl, classItem_eq, Page.putItem,
      ← Page.foldl_putGroup_of_opened hgroups (Page.isOpened_openBlock _ _)]
    simp only [hnested, hbuilder, classGroups, List.foldl_append]

end Members

/-! ## Whole files -/

theorem unbroken_of_isPackage {package : String} (h : isPackage package = true) :
    Unbroken package :=
  unbroken_iff_only.mpr <| only_of_isPackage framed_unbroken
    (fun _ hs => unbroken_iff_only.mp (unbroken_of_isIdentifier hs)) h

/-- The full name of an imported type is written like a package. -/
theorem isPackage_of_mem_imports (tree : ClassTree) :
    ∀ name ∈ imports tree, isPackage name = true := by
  have hneeds : ∀ need ∈ importNeeds tree, isPackage need.1 = true := by
    simp only [importNeeds, List.forall_mem_cons]
    refine ⟨?_, ?_, ?_, ?_, List.forall_mem_nil _⟩
    all_goals decide
  intro name hname
  obtain ⟨need, hneed, rfl⟩ := List.mem_map.mp hname
  exact hneeds need (List.mem_of_mem_filter hneed)

theorem clean_preambleItems {package : String} (h : isPackage package = true)
    {imported : List String} (himported : ∀ name ∈ imported, Unbroken name) :
    ∀ item ∈ preambleItems package imported, item.Clean := by
  unfold preambleItems
  rw [List.forall_mem_append]
  constructor
  · split
    · exact List.forall_mem_nil _
    · rw [List.forall_mem_cons, List.forall_mem_singleton]
      refine ⟨.line (.behind ?_ isLine_semicolon), .gap⟩
      exact unbroken_append.mpr ⟨by decide, unbroken_of_isPackage h⟩
  · split
    · exact List.forall_mem_nil _
    · rw [List.forall_mem_append, List.forall_mem_map, List.forall_mem_map,
        List.forall_mem_singleton]
      refine ⟨fun name hname => .line (.behind ?_ isLine_semicolon), .gap⟩
      exact unbroken_append.mpr ⟨by decide, himported name hname⟩

theorem preamble_eq (package : String) (imported : List String) :
    preamble package imported = Page.blank.putItems (preambleItems package imported) := by
  unfold preamble preambleItems
  cases package.isEmpty <;> cases imported.isEmpty <;>
    simp only [if_true, Bool.false_eq_true, if_false, List.nil_append, List.append_nil,
      Page.putItems_append, Page.putItems_lines, Page.putItems, Page.putItem]

/-- A source file is the text of its items, and the items are clean. -/
theorem render_eq_ok_iff {package source : String} {tree : ClassTree}
    (hlegal : ∀ c ∈ tree.subtrees, c.Legal) :
    render package tree = .ok source ↔
      isPackage package = true ∧ source = (Page.blank.putItems (fileItems package tree)).text := by
  have hpage : addClass (preamble package (imports tree)) tree =
      Page.blank.putItems (fileItems package tree) := by
    rw [addClass_eq_putItem (names_unbroken hlegal), preamble_eq, fileItems, Page.putItems_append,
      Page.putItems, Page.putItems]
  unfold render checkPackage
  cases isPackage package with
  | false => simp
  | true => simp [hpage, eq_comm]

theorem clean_fileItems {package : String} {tree : ClassTree} (hpackage : isPackage package = true)
    (hlegal : ∀ c ∈ tree.subtrees, c.Legal) :
    ∀ item ∈ fileItems package tree, item.Clean := by
  rw [fileItems, List.forall_mem_append, List.forall_mem_singleton]
  have himported : ∀ name ∈ imports tree, Unbroken name := fun name hname =>
    unbroken_of_isPackage (isPackage_of_mem_imports tree name hname)
  exact ⟨clean_preambleItems hpackage himported,
    (isSolid_classItem (names_unbroken hlegal)).1.clean⟩

end JsonClasses.Java
