import JsonClasses.ClassTree.Draft
import JsonClasses.Proofs.Naming.Candidates

/-!
# What a draft takes

A property is added under names that all come from one raw name, and without a clash. A name for a
nested class is none of the names that are taken where the class stands.
-/
namespace JsonClasses

/-- The namer makes these names of the candidates of a key, and no two of them are the same. -/
structure Namer.Supplies (namer : Namer) (key : String) (made : Nat → String) : Prop where
  makes : ∀ n, namer (Candidates.nth key n) .anyObject = .ok (made n)
  apart : Function.Injective made

namespace Draft

variable {draft next : Draft} {key raw : String} {type : ValueType} {property : Property}

/-! ## Properties -/

theorem propertyFrom_eq_ok_iff :
    draft.propertyFrom key type raw = .ok property ↔
      property.key = key ∧ property.type = type ∧
        draft.namers.field raw type = .ok property.field ∧
        draft.namers.parameter raw type = .ok property.parameter ∧
        nameWhen draft.style.hasGetters (draft.namers.method (getterRaw raw type) type) =
          .ok property.getter ∧
        nameWhen draft.style.hasSetters (draft.namers.method (setterRaw raw) type) =
          .ok property.setter ∧
        nameWhen draft.style.hasBuilder (draft.namers.method raw type) =
          .ok property.builderMethod := by
  obtain ⟨pkey, ptype, pfield, pparameter, pgetter, psetter, pbuilder⟩ := property
  unfold propertyFrom
  -- The names are derived one after the other, and the first error ends the derivation.
  cases draft.namers.field raw type with
  | error e => simp [bind, Except.bind]
  | ok field =>
    cases draft.namers.parameter raw type with
    | error e => simp [bind, Except.bind]
    | ok parameter =>
      cases nameWhen draft.style.hasGetters (draft.namers.method (getterRaw raw type) type) with
      | error e => simp [bind, Except.bind]
      | ok getter =>
        cases nameWhen draft.style.hasSetters (draft.namers.method (setterRaw raw) type) with
        | error e => simp [bind, Except.bind]
        | ok setter =>
          cases nameWhen draft.style.hasBuilder (draft.namers.method raw type) with
          | error e => simp [bind, Except.bind]
          | ok builder => simp [bind, Except.bind, eq_comm]

/-- The draft with one more property. -/
def pushed (draft : Draft) (property : Property) : Draft :=
  { draft with properties := draft.properties ++ [property] }

@[simp] theorem pushed_name : (draft.pushed property).name = draft.name := rfl

@[simp] theorem pushed_style : (draft.pushed property).style = draft.style := rfl

@[simp] theorem pushed_namers : (draft.pushed property).namers = draft.namers := rfl

@[simp] theorem pushed_nested : (draft.pushed property).nested = draft.nested := rfl

@[simp] theorem pushed_properties :
    (draft.pushed property).properties = draft.properties ++ [property] := rfl

theorem withProperty_eq (draft : Draft) (key : String) (type : ValueType) :
    draft.withProperty key type =
      (Candidates.search key (draft.propertyFrom key type) draft.hasClash
        (.unusableName key .field) draft.memberAttempts 0).map draft.pushed := by
  unfold withProperty
  cases Candidates.search key (draft.propertyFrom key type) draft.hasClash
    (.unusableName key .field) draft.memberAttempts 0 <;> rfl

theorem withProperty_of_free (hproperty : draft.propertyFrom key type key = .ok property)
    (hfree : draft.hasClash property = false) :
    draft.withProperty key type = .ok (draft.pushed property) := by
  have hfirst : draft.propertyFrom key type (Candidates.nth key 0) = .ok property := hproperty
  rw [withProperty_eq, memberAttempts, Candidates.search_succ_of_free hfirst hfree]
  rfl

theorem exists_of_withProperty (h : draft.withProperty key type = .ok next) :
    ∃ raw property, draft.propertyFrom key type raw = .ok property ∧
      draft.hasClash property = false ∧ next = draft.pushed property := by
  rw [withProperty_eq] at h
  cases hs : Candidates.search key (draft.propertyFrom key type) draft.hasClash
    (.unusableName key .field) draft.memberAttempts 0 with
  | error e => rw [hs] at h; cases h
  | ok property =>
    rw [hs] at h
    obtain ⟨n, hn⟩ := Candidates.exists_derive_of_search hs
    exact ⟨_, property, hn, Candidates.isTaken_eq_false_of_search hs, (Except.ok.inj h).symm⟩

/-! ## Names of nested classes -/

/-- The names that no class nested in this one can have: those of the classes around it, of the
classes nested before it, and of the types that the style refers to. -/
def takenNames (draft : Draft) (enclosing : List String) : List String :=
  enclosing ++ draft.nested.map (·.name) ++ draft.style.occupiedNames

/-- The class itself is one of those around the classes nested in it. -/
theorem refuses_iff {enclosing : List String} {name : String} (hname : draft.name ∈ enclosing) :
    (draft.forbidsNested name || enclosing.contains name) = true ↔
      name ∈ draft.takenNames enclosing := by
  simp only [forbidsNested, takenNames, Style.occupies, Bool.or_eq_true, beq_iff_eq,
    List.any_eq_true, List.contains_eq_mem, decide_eq_true_eq, List.mem_append, List.mem_map]
  -- The name of the draft itself is among those of the enclosing classes.
  constructor
  · rintro (((rfl | h) | h) | h)
    · exact .inl (.inl hname)
    · exact .inr h
    · exact .inl (.inr h)
    · exact .inl (.inl h)
  · rintro ((h | h) | h)
    · exact .inr h
    · exact .inl (.inr h)
    · exact .inl (.inl (.inr h))

/-- A taken name spoils one candidate, and there is an attempt to spare. -/
theorem nameForNested_first {enclosing : List String} {made : Nat → String}
    (hname : draft.name ∈ enclosing) (h : draft.namers.className.Supplies key made) :
    ∃ n, draft.nameForNested enclosing key = .ok (made n) ∧
      made n ∉ draft.takenNames enclosing ∧ ∀ m < n, made m ∈ draft.takenNames enclosing := by
  -- Each taken name spoils one attempt at most, and there are more attempts than taken names.
  have henough : (draft.takenNames enclosing).length < draft.classNameAttempts enclosing := by
    rw [takenNames, classNameAttempts, List.length_append, List.length_append, List.length_map]
    omega
  obtain ⟨n, hsearch, hfree, hbefore⟩ := Candidates.exists_search_of_spoilers
    (fun raw => draft.namers.className raw .anyObject)
    (fun name => draft.forbidsNested name || enclosing.contains name) made
    (fun taken n => taken = made n) _ h.makes
    (fun _ htaken => ⟨_, (refuses_iff hname).mp htaken, rfl⟩)
    (fun _ _ _ hm hn => h.apart (hm.symm.trans hn)) henough
  refine ⟨n, hsearch, fun hmem => ?_, fun m hm => (refuses_iff hname).mp (hbefore m hm)⟩
  rw [(refuses_iff hname).mpr hmem] at hfree
  cases hfree

/-- The first candidate is chosen where its name is not taken. -/
theorem nameForNested_of_free {enclosing : List String} {key name : String}
    (hname : draft.name ∈ enclosing) (hmade : draft.namers.className key .anyObject = .ok name)
    (hfree : name ∉ draft.takenNames enclosing) : draft.nameForNested enclosing key = .ok name := by
  have hfirst : draft.namers.className (Candidates.nth key 0) .anyObject = .ok name := hmade
  have hrefuses : (draft.forbidsNested name || enclosing.contains name) = false := by
    rw [← Bool.not_eq_true, refuses_iff hname]
    exact hfree
  rw [nameForNested, classNameAttempts]
  exact Candidates.search_succ_of_free hfirst hrefuses

/-! ## Nested classes -/

/-- The draft that a class nested in this one starts from. -/
def inner (draft : Draft) (name : String) : Draft :=
  withModifiers { name, style := draft.style, namers := draft.namers } [.publicAccess, .static]

@[simp] theorem inner_name {name : String} : (draft.inner name).name = name := rfl

@[simp] theorem inner_style {name : String} : (draft.inner name).style = draft.style := rfl

@[simp] theorem inner_namers {name : String} : (draft.inner name).namers = draft.namers := rfl

@[simp] theorem inner_properties {name : String} : (draft.inner name).properties = [] := rfl

@[simp] theorem inner_nested {name : String} : (draft.inner name).nested = [] := rfl

theorem nameForNested_fresh {enclosing : List String} {name : String}
    (h : draft.nameForNested enclosing key = .ok name) :
    name ∉ enclosing ∧ draft.style.occupies name = false ∧
      name ∉ draft.nested.map (·.name) := by
  have hfree := Candidates.isTaken_eq_false_of_search h
  simp only [forbidsNested, Bool.or_eq_false_iff, List.any_eq_false, List.contains_eq_mem,
    decide_eq_false_iff_not, beq_iff_eq] at hfree
  -- The name of the class itself is one of the enclosing names where classes are built.
  obtain ⟨⟨⟨_, hstyle⟩, hnested⟩, henclosing⟩ := hfree
  refine ⟨henclosing, hstyle, fun hmem => ?_⟩
  obtain ⟨tree, htree, hname⟩ := List.mem_map.mp hmem
  exact hnested tree htree hname

end Draft
end JsonClasses
