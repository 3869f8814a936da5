import JsonClasses.Proofs.ClassTree.Mirror

/-!
# Places in a class tree

A place is a way down from the root; each step names a nested class by its index. The same way
leads through the document, from object to object.
-/
namespace JsonClasses

/-- The object at a place of the document whose root object has these entries. -/
def Json.objectAt? : List (String × Json) → List Nat → Option (List (String × Json))
  | entries, [] => some entries
  | entries, i :: place => (reachedObjects entries)[i]?.bind (objectAt? · place)

namespace ClassTree

def at? : ClassTree → List Nat → Option ClassTree
  | c, [] => some c
  | c, i :: place => c.nested[i]?.bind (at? · place)

/-- The names of the classes on the way to a place, from the root on. -/
def namesTo : ClassTree → List Nat → List String
  | c, [] => [c.name]
  | c, i :: place => c.name :: (c.nested[i]?.map (namesTo · place)).getD []

variable {c tree : ClassTree} {entries : List (String × Json)} {place : List Nat}

theorem at?_cons_eq_some {i : Nat} :
    tree.at? (i :: place) = some c ↔
      ∃ inner, tree.nested[i]? = some inner ∧ inner.at? place = some c := by
  rw [at?, Option.bind_eq_some_iff]

theorem at?_append_singleton {inner : ClassTree} {i : Nat} (h : tree.at? place = some c)
    (hinner : c.nested[i]? = some inner) : tree.at? (place ++ [i]) = some inner := by
  induction place generalizing tree with
  | nil =>
    obtain rfl := Option.some.inj h
    exact at?_cons_eq_some.mpr ⟨inner, hinner, rfl⟩
  | cons j place ih =>
    obtain ⟨next, hnext, h⟩ := at?_cons_eq_some.mp h
    exact at?_cons_eq_some.mpr ⟨next, hnext, ih h⟩

/-- What is in scope at a place are the names on the way to it. -/
theorem Scoped.at_place {style : Style} (outer : List String)
    (h : Scoped style (outer ++ [tree.name]) tree) (hc : tree.at? place = some c) :
    Scoped style (outer ++ tree.namesTo place) c := by
  -- Going down one class moves its name from the way ahead to the way behind.
  induction place generalizing tree outer with
  | nil =>
    obtain rfl := Option.some.inj hc
    exact h
  | cons i place ih =>
    obtain ⟨inner, hinner, hc⟩ := at?_cons_eq_some.mp hc
    have hbelow := ih _ (h.inside (List.mem_of_getElem? hinner)) hc
    rw [namesTo, hinner, Option.map_some, Option.getD_some]
    rwa [List.append_assoc, List.singleton_append] at hbelow

theorem mem_subtrees_of_at? (hc : tree.at? place = some c) : c ∈ tree.subtrees := by
  induction place generalizing tree with
  | nil =>
    obtain rfl := Option.some.inj hc
    rw [subtrees_eq]
    exact List.mem_cons_self
  | cons i place ih =>
    obtain ⟨inner, hinner, hc⟩ := at?_cons_eq_some.mp hc
    rw [subtrees_eq]
    exact List.mem_cons_of_mem _
      (mem_subtreesOf.mpr ⟨inner, List.mem_of_getElem? hinner, ih hc⟩)

theorem mem_namesTo (hc : tree.at? place = some c) : c.name ∈ tree.namesTo place := by
  induction place generalizing tree with
  | nil =>
    obtain rfl := Option.some.inj hc
    exact List.mem_singleton_self _
  | cons i place ih =>
    obtain ⟨inner, hinner, hc⟩ := at?_cons_eq_some.mp hc
    rw [namesTo, hinner]
    exact List.mem_cons_of_mem _ (ih hc)

theorem Scoped.free_at_place {style : Style} {scope : List String} (h : Scoped style scope tree)
    (hfree : style.occupies tree.name = false) (hc : tree.at? place = some c) :
    style.occupies c.name = false := by
  induction place generalizing tree scope with
  | nil =>
    obtain rfl := Option.some.inj hc
    exact hfree
  | cons i place ih =>
    obtain ⟨inner, hinner, hc⟩ := at?_cons_eq_some.mp hc
    have hmem := List.mem_of_getElem? hinner
    exact ih (h.inside hmem) (h.fresh hmem).2 hc

/-- The class at a place corresponds to the object at that place. -/
theorem Mirrors.at_place (h : Mirrors tree entries) (hc : tree.at? place = some c) :
    ∃ inside, Json.objectAt? entries place = some inside ∧ Mirrors c inside := by
  induction place generalizing tree entries with
  | nil =>
    obtain rfl := Option.some.inj hc
    exact ⟨entries, rfl, h⟩
  | cons i place ih =>
    obtain ⟨inner, hinner, hc⟩ := at?_cons_eq_some.mp hc
    obtain ⟨inside, hinside, hmirrors⟩ := h.getElem?_nested hinner
    obtain ⟨found, hfound, hc⟩ := ih hmirrors hc
    refine ⟨found, ?_, hc⟩
    rw [Json.objectAt?, hinside, Option.bind_some, hfound]

end ClassTree
end JsonClasses
