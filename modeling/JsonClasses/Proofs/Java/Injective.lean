import JsonClasses.Proofs.ClassTree.Mirror
import JsonClasses.Proofs.ClassTree.Named
import JsonClasses.Proofs.Java.Layout
import JsonClasses.Proofs.Java.Signature

/-!
# A source file tells its class tree

The items of a file can be read back: from the lines and headers in the block of a class one after
the other come its name, its fields, its parameters and its methods. Only keys that no annotation
names are not written.
-/
namespace JsonClasses

/-! ## What is shown -/

/-- The property without its key, unless annotations name it. -/
def Property.shown (style : Style) (p : Property) : Property :=
  if style.annotations?.isSome then p else { p with key := "" }

namespace ClassTree

mutual

/-- The class tree without the keys that no annotation names. -/
def shown : ClassTree → ClassTree
  | ⟨name, modifiers, style, properties, nested⟩ =>
      ⟨name, modifiers, style, properties.map (Property.shown style), shownOf nested⟩

def shownOf : List ClassTree → List ClassTree
  | [] => []
  | tree :: rest => shown tree :: shownOf rest

end

theorem shownOf_eq_map (trees : List ClassTree) : shownOf trees = trees.map shown := by
  induction trees with
  | nil => rw [shownOf, List.map_nil]
  | cons tree rest ih => rw [shownOf, ih, List.map_cons]

theorem shown_eq (c : ClassTree) : c.shown =
    ⟨c.name, c.modifiers, c.style, c.properties.map (Property.shown c.style),
      c.nested.map shown⟩ := by
  obtain ⟨name, modifiers, style, properties, nested⟩ := c
  rw [shown, shownOf_eq_map]

end ClassTree

namespace Java
open Item

/-! ## Lists -/

section Lists

variable {α β γ : Type} {l l' : List α}

theorem map_eq_of_map_eq {f : α → β} {g : α → γ}
    (h : ∀ a ∈ l, ∀ b ∈ l', f a = f b → g a = g b) (heq : l.map f = l'.map f) :
    l.map g = l'.map g := by
  induction l generalizing l' with
  | nil => rw [List.map_nil, List.map_eq_nil_iff.mp heq.symm, List.map_nil]
  | cons a l ih =>
    cases l' with
    | nil => cases heq
    | cons b l' =>
      obtain ⟨hfirst, hrest⟩ := List.cons.inj heq
      have htail := ih (fun x hx y hy => h x (.tail a hx) y (.tail b hy)) hrest
      rw [List.map_cons, List.map_cons, htail, h a (.head l) b (.head l') hfirst]

theorem map_prod_eq {f : α → β} {g : α → γ} (hf : l.map f = l'.map f) (hg : l.map g = l'.map g) :
    l.map (fun a => (f a, g a)) = l'.map fun a => (f a, g a) := by
  rw [← List.zip_map', ← List.zip_map', hf, hg]

/-- Chunks of one length, put together, can be taken apart. -/
theorem map_eq_of_flatMap_eq {f : α → List β} {n : Nat} (h : ∀ a ∈ l, (f a).length = n + 1)
    (h' : ∀ a ∈ l', (f a).length = n + 1) (heq : l.flatMap f = l'.flatMap f) :
    l.map f = l'.map f := by
  have hne : ∀ a, (f a).length = n + 1 → f a ≠ [] := by
    rintro a hlength hnil
    rw [hnil] at hlength
    cases hlength
  -- Parts of one length are cut off at the same place.
  induction l generalizing l' with
  | nil =>
    cases l' with
    | nil => rfl
    | cons b l' =>
      rw [List.flatMap_nil, List.flatMap_cons] at heq
      exact absurd (List.append_eq_nil_iff.mp heq.symm).1 (hne b (h' b (.head l')))
  | cons a l ih =>
    cases l' with
    | nil =>
      rw [List.flatMap_nil, List.flatMap_cons] at heq
      exact absurd (List.append_eq_nil_iff.mp heq).1 (hne a (h a (.head l)))
    | cons b l' =>
      obtain ⟨ha, hl⟩ := List.forall_mem_cons.mp h
      obtain ⟨hb, hl'⟩ := List.forall_mem_cons.mp h'
      rw [List.flatMap_cons, List.flatMap_cons] at heq
      obtain ⟨hfirst, hrest⟩ := List.append_inj heq (ha.trans hb.symm)
      rw [List.map_cons, List.map_cons, hfirst, ih hl hl' hrest]

end Lists

namespace Described

variable {style : Style} {p p' : Property}

/-- What is written for a property tells all of it but a key that is not named. -/
theorem shown_inj (h : Described style p) (h' : Described style p')
    (hfields : fieldLines style p = fieldLines style p')
    (haccessors : (accessorMethods p).map Method.item = (accessorMethods p').map Method.item)
    (hconstructor : style.construction = .allProperties →
      constructorParameter style p = constructorParameter style p')
    (hbuilder : style.hasBuilder = true →
      (buildingMethods p).map Method.item = (buildingMethods p').map Method.item) :
    p.shown style = p'.shown style := by
  obtain ⟨htype, hfield, hgson⟩ := h.fieldLines_inj h' hfields
  obtain ⟨hgetter, hsetter, hset⟩ := h.accessors_inj h' haccessors
  have hwhole : style.construction = .allProperties → p.parameter = p'.parameter ∧
      (style.annotations? = some .jackson → p.key = p'.key) := by
    intro hall
    obtain ⟨hparameter, hkey, _⟩ := h.constructorParameter_inj h' stops_empty stops_empty
      (congrArg (· ++ "") (hconstructor hall))
    exact ⟨hparameter, hkey⟩
  -- The parameter is written with the constructor, the setter or the builder method.
  have hparameter : p.parameter = p'.parameter := by
    cases style with
    | model | gson | jackson => exact (hwhole rfl).1
    | bean => exact hset rfl
    | builder => exact (h.builderMethods_inj h' rfl (hbuilder rfl)).2
  have hbuilderMethod : p.builderMethod = p'.builderMethod := by
    cases hbuilds : style.hasBuilder with
    | true => exact (h.builderMethods_inj h' hbuilds (hbuilder hbuilds)).1
    | false =>
      have hnone := h.builderMethod
      have hnone' := h'.builderMethod
      rw [hbuilds, Option.isSome_eq_false_iff, Option.isNone_iff_eq_none] at hnone hnone'
      exact hnone.trans hnone'.symm
  unfold Property.shown
  split
  · rename_i hannotated
    have hkey : p.key = p'.key := by
      cases style with
      | gson => exact hgson rfl
      | jackson => exact (hwhole rfl).2 rfl
      | model | bean | builder => cases hannotated
    cases p
    cases p'
    simp_all only
  · rw [htype, hfield, hparameter, hgetter, hsetter, hbuilderMethod]

end Described

/-! ## Properties -/

section Properties

variable {style : Style} {name : String} {properties properties' : List Property}

theorem constructorParameters_inj (h : ∀ p ∈ properties, Described style p)
    (h' : ∀ p ∈ properties', Described style p)
    (hlength : properties.length = properties'.length)
    (heq : constructorHeader name (properties.map (constructorParameter style)) =
      constructorHeader name (properties'.map (constructorParameter style))) :
    properties.map (constructorParameter style) =
      properties'.map (constructorParameter style) := by
  have hlengths : (properties.map (constructorParameter style)).length =
      (properties'.map (constructorParameter style)).length := by
    rw [List.length_map, List.length_map, hlength]
  refine constructorHeader_inj ?_ hlengths heq
  rw [List.forall_mem_map]
  intro p hp
  rw [List.forall_mem_map]
  intro p' hp' rest rest' hrest hrest' htexts
  obtain ⟨_, _, rfl⟩ := (h p hp).constructorParameter_inj (h' p' hp') hrest hrest' htexts
  exact ⟨(String.append_left_inj _).mp htexts, rfl⟩

theorem length_eq_of_fieldLines
    (h : properties.flatMap (fieldLines style) = properties'.flatMap (fieldLines style)) :
    properties.length = properties'.length := by
  have hlines : properties.map (fieldLines style) = properties'.map (fieldLines style) :=
    map_eq_of_flatMap_eq (fun p _ => Described.length_fieldLines style p)
      (fun p _ => Described.length_fieldLines style p) h
  simpa only [List.length_map] using congrArg List.length hlines

/-- What a class writes for its properties tells all of them but the keys that are not named. -/
theorem shown_eq_of_written (h : ∀ p ∈ properties, Described style p)
    (h' : ∀ p ∈ properties', Described style p)
    (hfields : properties.flatMap (fieldLines style) = properties'.flatMap (fieldLines style))
    (haccessors : (properties.flatMap accessorMethods).map Method.item =
      (properties'.flatMap accessorMethods).map Method.item)
    (hconstructor : constructorSignature style name properties =
      constructorSignature style name properties')
    (hbuilder : style.hasBuilder = true → (properties.flatMap buildingMethods).map Method.item =
      (properties'.flatMap buildingMethods).map Method.item) :
    properties.map (Property.shown style) = properties'.map (Property.shown style) := by
  have hlines : properties.map (fieldLines style) = properties'.map (fieldLines style) :=
    map_eq_of_flatMap_eq (fun p _ => Described.length_fieldLines style p)
      (fun p _ => Described.length_fieldLines style p) hfields
  have hlength := length_eq_of_fieldLines hfields
  have hmethods : properties.map (fun p => (accessorMethods p).map Method.item) =
      properties'.map fun p => (accessorMethods p).map Method.item := by
    rw [List.map_flatMap, List.map_flatMap] at haccessors
    exact map_eq_of_flatMap_eq (fun p hp => (h p hp).length_accessors)
      (fun p hp => (h' p hp).length_accessors) haccessors
  have hparameters : properties.map (fun p => if style.construction = .allProperties
        then constructorParameter style p else "") =
      properties'.map fun p => if style.construction = .allProperties
        then constructorParameter style p else "" := by
    by_cases hall : style.construction = .allProperties
    · simp only [if_pos hall]
      simp only [constructorSignature, hall] at hconstructor
      exact constructorParameters_inj h h' hlength hconstructor
    · simp only [if_neg hall, List.map_const', hlength]
  have hbuilding : properties.map (fun p => if style.hasBuilder = true
        then (buildingMethods p).map Method.item else []) =
      properties'.map fun p => if style.hasBuilder = true
        then (buildingMethods p).map Method.item else [] := by
    by_cases hbuilds : style.hasBuilder = true
    · simp only [if_pos hbuilds]
      have hitems := hbuilder hbuilds
      rw [List.map_flatMap, List.map_flatMap] at hitems
      exact map_eq_of_flatMap_eq (fun p hp => (h p hp).length_builderMethod hbuilds)
        (fun p hp => (h' p hp).length_builderMethod hbuilds) hitems
    · simp only [if_neg hbuilds, List.map_const', hlength]
  -- The four lists go in step, so they tell the properties one by one.
  refine map_eq_of_map_eq (fun p hp p' hp' hsame => ?_)
    (map_prod_eq hlines (map_prod_eq hmethods (map_prod_eq hparameters hbuilding)))
  simp only [Prod.mk.injEq] at hsame
  obtain ⟨hline, hmethod, hparameter, hbuild⟩ := hsame
  refine (h p hp).shown_inj (h' p' hp') hline hmethod (fun hall => ?_) fun hbuilds => ?_
  · rwa [if_pos hall, if_pos hall] at hparameter
  · rwa [if_pos hbuilds, if_pos hbuilds] at hbuild

end Properties

/-! ## Classes -/

def line? : Item → Option String
  | .line text => some text
  | .gap | .block _ _ => none

theorem filterMap_spaced {α : Type} {f : Item → Option α} (hgap : f .gap = none)
    (groups : List (List Item)) :
    (spaced groups).filterMap f = groups.flatten.filterMap f := by
  rw [List.filterMap_eq_flatMap_toList, List.filterMap_eq_flatMap_toList, flatMap_spaced]
  rw [hgap, Option.toList_none]

/-- A block with its header and body. -/
def block? : Item → Option Item
  | .block header body => some (.block header body)
  | .gap | .line _ => none

section Items

theorem filterMap_line?_of_blocks {items : List Item} (h : ∀ item ∈ items, line? item = none) :
    items.filterMap line? = [] := List.filterMap_eq_nil_iff.mpr h

theorem filterMap_block?_of_blocks {items : List Item} (h : ∀ item ∈ items, block? item = some item) :
    items.filterMap block? = items := by
  rw [List.filterMap_congr h, List.filterMap_some]

theorem filterMap_line?_lines (texts : List String) :
    (texts.map Item.line).filterMap line? = texts := by
  rw [List.filterMap_map]
  exact List.filterMap_some

theorem filterMap_block?_lines (texts : List String) :
    (texts.map Item.line).filterMap block? = [] := by
  rw [List.filterMap_eq_nil_iff, List.forall_mem_map]
  exact fun _ _ => rfl

theorem line?_classItem (c : ClassTree) : line? (classItem c) = none := by
  rw [classItem_eq]
  rfl

theorem block?_classItem (c : ClassTree) : block? (classItem c) = some (classItem c) := by
  rw [classItem_eq]
  rfl

end Items

/-- The lines among the members of a class. -/
theorem lines_classGroups (c : ClassTree) : (spaced (classGroups c)).filterMap line? =
    c.properties.flatMap (fieldLines c.style) ++ creatorLines c.style := by
  -- Everything but the fields and the lines in front of the constructor is a block.
  have hmethods : ((c.properties.flatMap accessorMethods).map Method.item).filterMap line? = [] :=
    filterMap_line?_of_blocks (List.forall_mem_map.mpr fun _ _ => rfl)
  have hnested : (c.nested.map classItem).filterMap line? = [] :=
    filterMap_line?_of_blocks (List.forall_mem_map.mpr fun inner _ => line?_classItem inner)
  have hbuilder : (if c.style.hasBuilder then [builderItem c.name c.properties] else []).filterMap
      line? = [] := by
    split <;> rfl
  have hconstructor : ∀ header body, [Item.block header body].filterMap line? = [] :=
    fun header body => rfl
  rw [filterMap_spaced rfl, flatten_classGroups]
  simp only [List.filterMap_append, constructorGroup, filterMap_line?_lines, hconstructor, hmethods,
    hnested, hbuilder, List.append_nil]

/-- The blocks among the members of a class. -/
theorem blocks_classGroups (c : ClassTree) : (spaced (classGroups c)).filterMap block? =
    .block (constructorSignature c.style c.name c.properties)
        ((constructorBody c.style c.properties).map .line) ::
      ((c.properties.flatMap accessorMethods).map Method.item ++ (c.nested.map classItem ++
        if c.style.hasBuilder then [builderItem c.name c.properties] else [])) := by
  -- Fields are lines, and so is what stands in front of the constructor.
  have hmethods := filterMap_block?_of_blocks
    (List.forall_mem_map.mpr fun _ _ => rfl :
      ∀ item ∈ (c.properties.flatMap accessorMethods).map Method.item, block? item = some item)
  have hnested := filterMap_block?_of_blocks
    (List.forall_mem_map.mpr fun inner _ => block?_classItem inner :
      ∀ item ∈ c.nested.map classItem, block? item = some item)
  have hbuilder : (if c.style.hasBuilder then [builderItem c.name c.properties] else []).filterMap
      block? = if c.style.hasBuilder then [builderItem c.name c.properties] else [] := by
    split <;> rfl
  have hconstructor : ∀ header body, [Item.block header body].filterMap block? =
      [.block header body] := fun header body => rfl
  rw [filterMap_spaced rfl, flatten_classGroups]
  simp only [List.filterMap_append, constructorGroup, filterMap_block?_lines, hconstructor,
    hmethods, hnested, hbuilder]
  simp only [List.nil_append, List.append_assoc, List.cons_append]

theorem blocks_builder (name : String) (properties : List Property) :
    (spaced (fieldGroups properties (builderFieldLines properties) ++
      methodGroups (builderMethods name properties))).filterMap block? =
      (properties.flatMap buildingMethods).map Method.item ++ [(Method.build name).item] := by
  have hmethods := filterMap_block?_of_blocks
    (List.forall_mem_map.mpr fun _ _ => rfl :
      ∀ item ∈ (builderMethods name properties).map Method.item, block? item = some item)
  rw [filterMap_spaced rfl, List.flatten_append, flatten_methodGroups, List.filterMap_append,
    builderFieldLines, List.map_eq_flatMap, flatten_fieldGroups, filterMap_block?_lines, hmethods,
    List.nil_append, builderMethods, List.map_append, List.map_singleton]

/-- The class of a tree from a sample. -/
def DescribedClass (style : Style) (c : ClassTree) : Prop :=
  c.style = style ∧ ∀ p ∈ c.properties, Described style p

theorem length_flatMap_accessors {style : Style} {properties : List Property}
    (h : ∀ p ∈ properties, Described style p) :
    ((properties.flatMap accessorMethods).map Method.item).length =
      properties.length * ((if style.hasSetters then 1 else 0) + 1) := by
  induction properties with
  | nil => rw [List.flatMap_nil, List.map_nil, List.length_nil, List.length_nil, Nat.zero_mul]
  | cons p properties ih =>
    obtain ⟨hp, hproperties⟩ := List.forall_mem_cons.mp h
    rw [List.flatMap_cons, List.map_append, List.length_append, hp.length_accessors,
      ih hproperties, List.length_cons, Nat.succ_mul, Nat.add_comm]

/-- The item of a class tells all that is shown of it. -/
theorem shown_eq_of_classItem {style : Style} {c c' : ClassTree}
    (h : ∀ d ∈ c.subtrees, DescribedClass style d) (h' : ∀ d ∈ c'.subtrees, DescribedClass style d)
    (heq : classItem c = classItem c') : c.shown = c'.shown := by
  induction c using ClassTree.induction generalizing c' with
  | step c ih =>
    rw [ClassTree.subtrees_eq, ClassTree.subtreesOf_eq_flatMap, List.forall_mem_cons] at h h'
    obtain ⟨⟨hstyle, hdescribed⟩, hinside⟩ := h
    obtain ⟨⟨hstyle', hdescribed'⟩, hinside'⟩ := h'
    rw [classItem_eq, classItem_eq] at heq
    obtain ⟨hheader, hbody⟩ := Item.block.inj heq
    obtain ⟨hmodifiers, hname⟩ := class_inj hheader
    have hlines := congrArg (List.filterMap line?) hbody
    have hblocks := congrArg (List.filterMap block?) hbody
    rw [lines_classGroups, lines_classGroups, hstyle, hstyle'] at hlines
    rw [blocks_classGroups, blocks_classGroups, hstyle, hstyle', hname] at hblocks
    have hfields := List.append_cancel_right hlines
    have hlength := length_eq_of_fieldLines hfields
    -- Behind the constructor come the methods, as many as there are in the other class.
    obtain ⟨hconstructor, hbehind⟩ := List.cons.inj hblocks
    have hsame := (length_flatMap_accessors hdescribed).trans
      ((congrArg (· * _) hlength).trans (length_flatMap_accessors hdescribed').symm)
    obtain ⟨hmethods, hrest⟩ := List.append_inj hbehind hsame
    obtain ⟨hnested, hbuilders⟩ := List.append_inj' hrest (by split <;> rfl)
    have hbuilding : style.hasBuilder = true →
        (c.properties.flatMap buildingMethods).map Method.item =
          (c'.properties.flatMap buildingMethods).map Method.item := by
      intro hbuilds
      rw [if_pos hbuilds, if_pos hbuilds] at hbuilders
      have hinner := (Item.block.inj (List.cons.inj hbuilders).1).2
      have hblocks := congrArg (List.filterMap block?) hinner
      rw [blocks_builder, blocks_builder] at hblocks
      exact (List.append_inj' hblocks rfl).1
    have hproperties := shown_eq_of_written hdescribed hdescribed' hfields hmethods
      (Item.block.inj hconstructor).1 hbuilding
    have hshown : c.nested.map ClassTree.shown = c'.nested.map ClassTree.shown := by
      refine map_eq_of_map_eq (fun inner hinner inner' hinner' heq => ?_) hnested
      exact ih inner hinner
        (fun d hd => hinside d (List.mem_flatMap.mpr ⟨inner, hinner, hd⟩))
        (fun d hd => hinside' d (List.mem_flatMap.mpr ⟨inner', hinner', hd⟩)) heq
    rw [ClassTree.shown_eq, ClassTree.shown_eq, hname, hmodifiers, hstyle, hstyle', hproperties,
      hshown]

/-! ## Files -/

theorem package_inj {package package' : String} {imported imported' : List String}
    (h : preambleItems package imported = preambleItems package' imported') :
    package = package' := by
  -- An import is not taken for the package line, which would stand before it.
  have hline : ∀ package name : String, "package " ++ package ++ ";" ≠ "import " ++ name ++ ";" := by
    intro package name heq
    have hlist := congrArg String.toList heq
    simp only [String.append_assoc, String.toList_append] at hlist
    have hhead : 'p' = 'i' := (List.cons.inj hlist).1
    exact absurd hhead (by decide)
  have hapart : ∀ {package : String} {behind : List Item} {names : List String},
      .line ("package " ++ package ++ ";") :: behind ≠
        if names.isEmpty then []
        else (names.map fun name => "import " ++ name ++ ";").map .line ++ [Item.gap] := by
    intro package behind names heq
    cases names with
    | nil => cases heq
    | cons name names => exact hline package name (Item.line.inj (List.cons.inj heq).1)
  unfold preambleItems at h
  cases hpackage : package.isEmpty <;> cases hpackage' : package'.isEmpty <;>
    rw [hpackage, hpackage'] at h
  · have hline := Item.line.inj (List.cons.inj h).1
    exact (String.append_right_inj _).mp ((String.append_left_inj _).mp hline)
  · exact absurd h hapart
  · exact absurd h.symm hapart
  · rw [String.isEmpty_iff.mp hpackage, String.isEmpty_iff.mp hpackage']

/-! ## What is not shown -/

section Shown

variable {style : Style} {p : Property}

/-- What does not look at the key does not tell whether it is shown. -/
theorem shown_congr {α : Type} {f : Property → α} (h : ∀ key, f { p with key := key } = f p) :
    f (p.shown style) = f p := by
  unfold Property.shown
  split
  · rfl
  · exact h ""

theorem fieldLines_shown : fieldLines style (p.shown style) = fieldLines style p := by
  unfold Property.shown
  split
  · rfl
  · rename_i hannotated
    unfold fieldLines
    have hgson : style.annotations? ≠ some .gson := fun hgson => hannotated (hgson ▸ rfl)
    rw [if_neg hgson, if_neg hgson]
    rfl

theorem constructorParameter_shown :
    constructorParameter style (p.shown style) = constructorParameter style p := by
  unfold Property.shown
  split
  · rfl
  · rename_i hannotated
    unfold constructorParameter
    have hjackson : style.annotations? ≠ some .jackson := fun hjackson => hannotated (hjackson ▸ rfl)
    rw [if_neg hjackson, if_neg hjackson]
    rfl

theorem memberGroups_shown (style : Style) (name : String) (properties : List Property) :
    memberGroups style name (properties.map (Property.shown style)) =
      memberGroups style name properties := by
  have hassignment : ∀ p, assignment (p.shown style) = assignment p :=
    fun p => shown_congr fun _ => rfl
  have hbuilder : ∀ p, builderAssignment (p.shown style) = builderAssignment p :=
    fun p => shown_congr fun _ => rfl
  have haccessors : ∀ p, accessorMethods (p.shown style) = accessorMethods p :=
    fun p => shown_congr fun _ => rfl
  unfold memberGroups fieldGroups constructorGroup constructorSignature constructorBody
  simp only [List.isEmpty_map, List.flatMap_map, List.map_map, Function.comp_def, fieldLines_shown,
    constructorParameter_shown, hassignment, hbuilder, haccessors]

theorem builderGroups_shown (style : Style) (name : String) (properties : List Property) :
    builderGroups style name (properties.map (Property.shown style)) =
      builderGroups style name properties := by
  have htype : ∀ p : Property, plainType (p.shown style).type = plainType p.type :=
    fun p => shown_congr (f := fun p => plainType p.type) fun _ => rfl
  have hfield : ∀ p : Property, (p.shown style).field = p.field :=
    fun p => shown_congr (f := (·.field)) fun _ => rfl
  have hmethods : ∀ p, buildingMethods (p.shown style) = buildingMethods p :=
    fun p => shown_congr fun _ => rfl
  unfold builderGroups builderItem builderFieldLines builderMethods fieldGroups
  simp only [List.isEmpty_map, List.flatMap_map, List.map_map, Function.comp_def, htype, hfield,
    hmethods]

theorem classItem_shown (c : ClassTree) : classItem c.shown = classItem c := by
  induction c using ClassTree.induction with
  | step c ih =>
    have hnested : (c.nested.map ClassTree.shown).map classItem = c.nested.map classItem := by
      rw [List.map_map]
      exact List.map_congr_left ih
    rw [classItem_eq, classItem_eq, ClassTree.shown_eq, classGroups, classGroups, hnested,
      memberGroups_shown, builderGroups_shown]

theorem subtrees_shown (c : ClassTree) : c.shown.subtrees = c.subtrees.map ClassTree.shown := by
  induction c using ClassTree.induction with
  | step c ih =>
    have hnested : (c.nested.map ClassTree.shown).flatMap ClassTree.subtrees =
        c.nested.flatMap fun inner => inner.subtrees.map ClassTree.shown := by
      rw [List.flatMap_map]
      exact List.flatMap_congr ih
    rw [ClassTree.subtrees_eq c, ClassTree.subtreesOf_eq_flatMap, List.map_cons, List.map_flatMap,
      ← hnested, ClassTree.shown_eq, ClassTree.subtrees_eq, ClassTree.subtreesOf_eq_flatMap]

theorem imports_shown (tree : ClassTree) : imports tree.shown = imports tree := by
  have hstyle : ∀ c : ClassTree, c.shown.style = c.style := fun c => by rw [ClassTree.shown_eq]
  have hproperties : ∀ c : ClassTree,
      c.shown.properties = c.properties.map (Property.shown c.style) :=
    fun c => by rw [ClassTree.shown_eq]
  have hlist : ∀ (style : Style) p, (Property.shown style p).type.isList = p.type.isList :=
    fun style p => shown_congr (f := fun p => p.type.isList) fun _ => rfl
  unfold imports importNeeds ClassTree.mentionsList usesJsonProperty usesJsonCreator
    usesSerializedName
  simp only [subtrees_shown, List.any_map, Function.comp_def, hstyle, hproperties,
    List.isEmpty_map, hlist]

theorem fileItems_shown (package : String) (tree : ClassTree) :
    fileItems package tree.shown = fileItems package tree := by
  rw [fileItems, fileItems, imports_shown, classItem_shown]

end Shown
end Java

namespace ClassTree
open Java

variable {spellings spellings' : Spellings} {style : Style} {name name' : String}
  {sample sample' : Json} {tree tree' : ClassTree}

theorem ofSample_described (h : ofSample (.ofSpellings spellings) style name sample = .ok tree) :
    ∀ c ∈ tree.subtrees, DescribedClass style c := by
  intro c hc
  obtain ⟨scope, hscoped⟩ := (ofSample_scoped h).2.exists_scope_of_subtree c hc
  obtain ⟨entries, hmirrors⟩ := (mirrors_of_ofSample h).exists_entries_of_subtree c hc
  have hlegal := ofSample_legal (Namers.ofSpellings_legal spellings) h c hc
  refine ⟨hscoped.same, fun p hp => ?_⟩
  -- A type refers to a class that is nested here, and that name was free.
  have hrefers : Refers style p.type := by
    intro reference href
    have hmem : reference ∈ c.nested.map (·.name) :=
      hmirrors.references ▸ List.mem_filterMap.mpr ⟨p, hp, href⟩
    obtain ⟨inner, hinner, rfl⟩ := List.mem_map.mp hmem
    exact ⟨(hlegal.properties p hp).reference _ href, (hscoped.fresh hinner).2⟩
  obtain ⟨raw, _, hwords⟩ := (ofSample_named h c hc).words p hp
  refine ⟨hlegal.properties p hp, hrefers, ?_, ?_, ?_⟩
  · rw [hwords]
    rfl
  · rw [hwords, Property.ofWords]
    cases style.hasSetters <;> rfl
  · rw [hwords, Property.ofWords]
    cases style.hasBuilder <;> rfl

/-- Where annotations name the keys, everything is shown. -/
theorem shown_of_annotated (hstyle : ∀ c ∈ tree.subtrees, c.style = style)
    (hannotated : style.annotations?.isSome = true) : tree.shown = tree := by
  induction tree using ClassTree.induction with
  | step c ih =>
    rw [subtrees_eq, subtreesOf_eq_flatMap, List.forall_mem_cons] at hstyle
    obtain ⟨hself, hinside⟩ := hstyle
    have hproperties : c.properties.map (Property.shown c.style) = c.properties := by
      refine List.map_id'' (fun p => ?_) c.properties
      rw [Property.shown, hself, if_pos hannotated]
    have hnested : c.nested.map shown = c.nested := by
      refine List.map_congr_left (fun inner hinner => ?_) |>.trans (List.map_id c.nested)
      exact ih inner hinner fun d hd => hinside d (List.mem_flatMap.mpr ⟨inner, hinner, hd⟩)
    rw [shown_eq, hproperties, hnested]
    cases c
    rfl

/-- The source depends on nothing that is not shown. -/
theorem render_eq_of_shown {package : String} (hlegal : ∀ c ∈ tree.subtrees, c.Legal)
    (hlegal' : ∀ c ∈ tree'.subtrees, c.Legal) (hpackage : isPackage package = true)
    (h : tree.shown = tree'.shown) : Java.render package tree = Java.render package tree' := by
  have hitems : fileItems package tree = fileItems package tree' := by
    rw [← fileItems_shown package tree, h, fileItems_shown]
  have hrender := (render_eq_ok_iff hlegal).mpr ⟨hpackage, rfl⟩
  have hrender' := (render_eq_ok_iff hlegal').mpr ⟨hpackage, rfl⟩
  rw [hrender, hrender', hitems]

/-- The source tells the package, the classes with all their names in order, and the keys if they
are annotated. -/
theorem shown_eq_of_render {package package' source : String}
    (h : ofSample (.ofSpellings spellings) style name sample = .ok tree)
    (h' : ofSample (.ofSpellings spellings') style name' sample' = .ok tree')
    (hrender : Java.render package tree = .ok source)
    (hrender' : Java.render package' tree' = .ok source) :
    package = package' ∧ tree.shown = tree'.shown ∧
      (style.annotations?.isSome = true → tree = tree') := by
  have hlegal := ofSample_legal (Namers.ofSpellings_legal spellings) h
  have hlegal' := ofSample_legal (Namers.ofSpellings_legal spellings') h'
  have hdescribed := ofSample_described h
  have hdescribed' := ofSample_described h'
  obtain ⟨hpackage, hsource⟩ := (render_eq_ok_iff hlegal).mp hrender
  obtain ⟨hpackage', hsource'⟩ := (render_eq_ok_iff hlegal').mp hrender'
  have hitems : fileItems package tree = fileItems package' tree' :=
    Page.eq_of_text_putItems (clean_fileItems hpackage hlegal) (clean_fileItems hpackage' hlegal')
      (hsource.symm.trans hsource')
  -- The class is the last item, so the preambles agree as well.
  obtain ⟨hpreamble, hclass⟩ := List.append_inj' hitems rfl
  have hshown := shown_eq_of_classItem hdescribed hdescribed' (List.cons.inj hclass).1
  refine ⟨package_inj hpreamble, hshown, fun hannotated => ?_⟩
  rw [← shown_of_annotated (fun c hc => (hdescribed c hc).1) hannotated, hshown,
    shown_of_annotated (fun c hc => (hdescribed' c hc).1) hannotated]

/-- Two keys that are respelled alike: the sources are the same, but the keys are not. -/
theorem shown_eq_of_render_respelled :
    ∃ tree tree' source,
      ofSample (.ofSpellings {}) .model "Root" (.object [("a-b", .null)]) = .ok tree ∧
      ofSample (.ofSpellings {}) .model "Root" (.object [("a_b", .null)]) = .ok tree' ∧
      Java.render "com.example" tree = .ok source ∧
      Java.render "com.example" tree' = .ok source ∧
      tree.shown = tree'.shown ∧ tree.keys ≠ tree'.keys := by
  let tree (key : String) : ClassTree :=
    ⟨"Root", [.publicAccess], .model, [⟨key, .anyObject, "aB", "aB", some "getAB", none, none⟩], []⟩
  have htree : ofSample (.ofSpellings {}) .model "Root" (.object [("a-b", .null)]) =
      .ok (tree "a-b") := rfl
  have htree' : ofSample (.ofSpellings {}) .model "Root" (.object [("a_b", .null)]) =
      .ok (tree "a_b") := rfl
  have hlegal := ofSample_legal (Namers.ofSpellings_legal {}) htree
  have hlegal' := ofSample_legal (Namers.ofSpellings_legal {}) htree'
  have hpackage : Java.isPackage "com.example" = true := by decide +kernel
  have hrender := (render_eq_ok_iff hlegal).mpr ⟨hpackage, rfl⟩
  -- The trees differ in a key that nothing in this style shows.
  have hrender' := hrender
  rw [render_eq_of_shown hlegal hlegal' hpackage rfl] at hrender'
  exact ⟨_, _, _, htree, htree', hrender, hrender',
    (shown_eq_of_render htree htree' hrender hrender').2.1, by decide⟩

end ClassTree
end JsonClasses
