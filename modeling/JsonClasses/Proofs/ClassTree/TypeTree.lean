import JsonClasses.Proofs.ClassTree.Mirror

/-!
# Type trees

The type tree of a class tree keeps the names of the classes, the keys and the types, and nothing
that depends on the style. Two class trees that mirror one document have the same type tree up to
the names of the nested classes.
-/
namespace JsonClasses

namespace ValueType

/-- The type in which the classes have new names. -/
def rename (naming : String → String) : ValueType → ValueType
  | scalar kind => scalar kind
  | named name => named (naming name)
  | list element => list (element.rename naming)

theorem layers_rename (naming : String → String) (type : ValueType) :
    (type.rename naming).layers = type.layers := by
  induction type with
  | scalar | named => rfl
  | list element ih => rw [rename, layers, layers, ih]

theorem innermost_rename (naming : String → String) (type : ValueType) :
    (type.rename naming).innermost = type.innermost.rename naming := by
  induction type with
  | scalar | named => rfl
  | list element ih => rw [rename, innermost, innermost, ih]

theorem lists_innermost (type : ValueType) : lists type.layers type.innermost = type := by
  induction type with
  | scalar | named => rfl
  | list element ih => rw [layers, innermost, lists, ih]

theorem ext_innermost {type type' : ValueType} (hlayers : type.layers = type'.layers)
    (hinnermost : type.innermost = type'.innermost) : type = type' := by
  rw [← lists_innermost type, hlayers, hinnermost, lists_innermost]

/-- Two types that fit one value differ at most in the class that they refer to. -/
theorem Fits.eq_rename {type type' : ValueType} {value : Json} {naming : String → String}
    (h : type.Fits value) (h' : type'.Fits value)
    (hnaming : ∀ name name', type.className? = some name → type'.className? = some name' →
      naming name = name') : type' = type.rename naming := by
  obtain ⟨hlayers, hinner⟩ := h
  obtain ⟨hlayers', hinner'⟩ := h'
  apply ext_innermost
  · rw [layers_rename, hlayers, hlayers']
  · rw [innermost_rename]
    -- An empty list reaches nothing, and then both types end in the same place.
    cases hr : value.reached? with
    | none =>
      rw [hr] at hinner hinner'
      rw [show type.innermost = _ from hinner, show type'.innermost = _ from hinner']
      rfl
    | some leaf =>
      rw [hr] at hinner hinner'
      cases leaf with
      | object entries =>
        obtain ⟨name, hname⟩ := hinner
        obtain ⟨name', hname'⟩ := hinner'
        have hclass : type.className? = some name := by simp only [className?, hname]
        have hclass' : type'.className? = some name' := by simp only [className?, hname']
        rw [hname, hname', rename, hnaming name name' hclass hclass']
      | array _ | null | bool _ | number _ | text _ =>
        obtain ⟨kind, hkind, hscalar⟩ := hinner
        obtain ⟨kind', hkind', hscalar'⟩ := hinner'
        rw [hscalar, hscalar', rename, Option.some.inj (hkind'.symm.trans hkind)]

end ValueType

/-! ## The names of one list for those of another -/

/-- Sends each name of the first list to the name at its place in the second. -/
def counterpart (names names' : List String) (name : String) : String :=
  ((names.zip names').lookup name).getD name

theorem counterpart_of_getElem? {names names' : List String} {name name' : String} {i : Nat}
    (hnodup : names.Nodup) (h : names[i]? = some name) (h' : names'[i]? = some name') :
    counterpart names names' name = name' := by
  have hlookup : (names.zip names').lookup name = some name' := by
    induction names generalizing names' i with
    | nil => simp at h
    | cons first names ih =>
      obtain ⟨hfirst, hnodup⟩ := List.nodup_cons.mp hnodup
      cases names' with
      | nil => simp at h'
      | cons first' names' =>
        rw [List.zip_cons_cons, List.lookup_cons]
        cases i with
        | zero =>
          rw [List.getElem?_cons_zero, Option.some.injEq] at h h'
          simp only [h, h', beq_self_eq_true]
        | succ i =>
          rw [List.getElem?_cons_succ] at h h'
          -- A name further on is not the first one, since no name comes twice.
          have hne : (name == first) = false := by
            rw [beq_eq_false_iff_ne]
            rintro rfl
            exact hfirst (List.mem_of_getElem? h)
          simp only [hne]
          exact ih hnodup h h'
  rw [counterpart, hlookup, Option.getD_some]

theorem map_counterpart {names names' : List String} (hnodup : names.Nodup)
    (hlength : names.length = names'.length) : names.map (counterpart names names') = names' := by
  apply List.ext_getElem (by rw [List.length_map, hlength])
  intro i hi hi'
  rw [List.getElem_map]
  rw [List.length_map] at hi
  exact counterpart_of_getElem? hnodup (List.getElem?_eq_getElem hi) (List.getElem?_eq_getElem hi')

/-! ## Type trees -/

/-- The name of a class, its keys with their types, and the same of its nested classes. -/
structure TypeTree where
  name : String
  properties : List (String × ValueType)
  nested : List TypeTree

namespace TypeTree

/-- The second tree is the first with other names for the nested classes. Each class has a renaming
of its own for the classes nested in it, since one simple name may stand for several classes. -/
inductive Renamed : TypeTree → TypeTree → Prop
  | intro {t t' : TypeTree} (naming : String → String)
      (properties : t'.properties = t.properties.map fun p => (p.1, p.2.rename naming))
      (names : t'.nested.map (·.name) = t.nested.map fun inner => naming inner.name)
      (apart : (t.nested.map (·.name)).Nodup) (apart' : (t'.nested.map (·.name)).Nodup)
      (nested : List.Forall₂ Renamed t.nested t'.nested) :
      Renamed t t'

end TypeTree

namespace ClassTree

mutual

def typeTree : ClassTree → TypeTree
  | ⟨name, _, _, properties, nested⟩ =>
      ⟨name, properties.map fun p => (p.key, p.type), typeTrees nested⟩

def typeTrees : List ClassTree → List TypeTree
  | [] => []
  | tree :: rest => typeTree tree :: typeTrees rest

end

theorem typeTrees_eq_map (trees : List ClassTree) : typeTrees trees = trees.map typeTree := by
  induction trees with
  | nil => rfl
  | cons tree rest ih => rw [typeTrees, ih, List.map_cons]

theorem typeTree_eq (c : ClassTree) :
    c.typeTree =
      ⟨c.name, c.properties.map fun p => (p.key, p.type), c.nested.map typeTree⟩ := by
  cases c
  rw [typeTree, typeTrees_eq_map]

@[simp] theorem typeTree_name (c : ClassTree) : c.typeTree.name = c.name := by
  rw [typeTree_eq]

@[simp] theorem typeTree_properties (c : ClassTree) :
    c.typeTree.properties = c.properties.map fun p => (p.key, p.type) := by
  rw [typeTree_eq]

@[simp] theorem typeTree_nested (c : ClassTree) : c.typeTree.nested = c.nested.map typeTree := by
  rw [typeTree_eq]

theorem map_name_typeTree (trees : List ClassTree) :
    (trees.map typeTree).map (·.name) = trees.map (·.name) := by
  rw [List.map_map]
  exact List.map_congr_left fun c _ => typeTree_name c

/-! ## Two trees of one document -/

variable {c d : ClassTree} {entries : List (String × Json)} {style style' : Style}
  {scope scope' : List String}

theorem Mirrors.fits {j : Nat} {p : Property} (h : Mirrors c entries)
    (hp : c.properties[j]? = some p) :
    ∃ entry, entries[j]? = some entry ∧ p.key = entry.1 ∧ p.type.Fits entry.2 := by
  obtain ⟨entry, hentry, hfits⟩ := exists_getElem?_of_forall₂ h.types hp
  have hkeys : c.properties.map (·.key) = entries.map (·.1) := by
    cases h with
    | intro keys _ _ _ => exact keys
  have hkey := congrArg (·[j]?) hkeys
  simp only [List.getElem?_map, hp, hentry, Option.map_some, Option.some.injEq] at hkey
  exact ⟨entry, hentry, hkey, hfits⟩

/-- The properties at one place of two classes that correspond to one object. -/
theorem Mirrors.property_eq_rename (hc : Mirrors c entries) (hd : Mirrors d entries)
    (hnodup : (c.nested.map (·.name)).Nodup) {j : Nat} {p q : Property}
    (hp : c.properties[j]? = some p) (hq : d.properties[j]? = some q) :
    q.key = p.key ∧ q.type =
      p.type.rename (counterpart (c.nested.map (·.name)) (d.nested.map (·.name))) := by
  obtain ⟨entry, hentry, hkey, hfits⟩ := hc.fits hp
  obtain ⟨entry', hentry', hkey', hfits'⟩ := hd.fits hq
  obtain rfl := Option.some.inj (hentry.symm.trans hentry')
  refine ⟨hkey'.trans hkey.symm, hfits.eq_rename hfits' fun name name' href href' => ?_⟩
  -- Both classes stand at the same place among the nested ones.
  obtain ⟨_, _, _, inner, _, _, hinner, rfl, _⟩ := hc.nested_of_property hp href
  obtain ⟨_, _, _, inner', _, _, hinner', rfl, _⟩ := hd.nested_of_property hq href'
  apply counterpart_of_getElem? hnodup
  · rw [List.getElem?_map, hinner, Option.map_some]
  · rw [List.getElem?_map, hinner', Option.map_some]

theorem Mirrors.length_nested (h : Mirrors c entries) :
    c.nested.length = (Json.reachedObjects entries).length := by
  cases h with
  | intro _ _ _ nested => exact nested.length_eq

theorem Mirrors.typeTree_properties_eq (hc : Mirrors c entries) (hd : Mirrors d entries)
    (hnodup : (c.nested.map (·.name)).Nodup) :
    d.typeTree.properties = c.typeTree.properties.map fun p =>
      (p.1, p.2.rename (counterpart (c.nested.map (·.name)) (d.nested.map (·.name)))) := by
  have hlength : d.properties.length = c.properties.length :=
    hd.types.length_eq.trans hc.types.length_eq.symm
  rw [typeTree_properties, typeTree_properties, List.map_map]
  apply List.ext_getElem (by simp only [List.length_map, hlength])
  intro j hj hj'
  rw [List.length_map] at hj hj'
  obtain ⟨hkey, htype⟩ := hc.property_eq_rename hd hnodup (List.getElem?_eq_getElem hj')
    (List.getElem?_eq_getElem hj)
  rw [List.getElem_map, List.getElem_map]
  exact Prod.ext hkey htype

theorem Mirrors.renamed (hc : Mirrors c entries) (hd : Mirrors d entries)
    (sc : Scoped style scope c) (sd : Scoped style' scope' d) :
    c.typeTree.Renamed d.typeTree := by
  induction c using ClassTree.induction generalizing d entries scope scope' with
  | step c ih =>
    have hlength : c.nested.length = d.nested.length :=
      hc.length_nested.trans hd.length_nested.symm
    have hnames : (c.nested.map (·.name)).map
        (counterpart (c.nested.map (·.name)) (d.nested.map (·.name))) = d.nested.map (·.name) :=
      map_counterpart sc.apart (by simp only [List.length_map, hlength])
    refine .intro _ (hc.typeTree_properties_eq hd sc.apart) ?_ ?_ ?_ ?_
    · rw [List.map_map] at hnames
      rw [typeTree_nested, typeTree_nested, map_name_typeTree, List.map_map]
      simp only [Function.comp_def, typeTree_name]
      exact hnames.symm
    · rw [typeTree_nested, map_name_typeTree]
      exact sc.apart
    · rw [typeTree_nested, map_name_typeTree]
      exact sd.apart
    -- Nested classes at one place correspond to one object.
    · rw [typeTree_nested, typeTree_nested, List.forall₂_iff_get]
      refine ⟨by simp only [List.length_map, hlength], fun i hi hi' => ?_⟩
      rw [List.length_map] at hi hi'
      obtain ⟨inside, hinside, hmirrors⟩ := hc.getElem?_nested (List.getElem?_eq_getElem hi)
      obtain ⟨inside', hinside', hmirrors'⟩ := hd.getElem?_nested (List.getElem?_eq_getElem hi')
      obtain rfl := Option.some.inj (hinside.symm.trans hinside')
      simp only [List.get_eq_getElem, List.getElem_map]
      exact ih _ (List.getElem_mem hi) hmirrors hmirrors' (sc.inside (List.getElem_mem hi))
        (sd.inside (List.getElem_mem hi'))

end ClassTree
end JsonClasses
