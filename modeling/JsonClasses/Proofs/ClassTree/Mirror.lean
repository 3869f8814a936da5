import JsonClasses.Proofs.ClassTree.Run
import JsonClasses.Proofs.ClassTree.Scope
import Mathlib.Data.List.Forall2

/-!
# A class tree mirrors its document

Properties stand for entries, list layers for arrays, and nested classes for the objects that
entries lead to, all in document order.
-/
namespace JsonClasses

/-- A type says what following first elements from a value finds: as many lists as arrays are
crossed, around the scalar at the end or around a class if an object is there. -/
def ValueType.Fits (type : ValueType) (value : Json) : Prop :=
  type.layers = value.crossed ∧
    match value.reached? with
    | none => type.innermost = .anyObject
    | some (.object _) => ∃ name, type.innermost = .named name
    | some leaf => ∃ kind, leaf.scalar? = some kind ∧ type.innermost = .scalar kind

namespace ValueType

theorem fits_leaf {value : Json} (h : value.reachedObject? = none) :
    (lists value.crossed (.scalar value.reachedScalar)).Fits value := by
  refine ⟨layers_lists _ _, ?_⟩
  rw [innermost_lists, Json.reachedScalar]
  cases hr : value.reached? with
  | none => rfl
  | some leaf =>
    cases leaf with
    | array elements => exact absurd hr (Json.reached?_ne_array value)
    | object entries =>
      rw [Json.reachedObject?_eq, hr] at h
      cases h
    | null | bool _ | number _ | text _ => exact ⟨_, rfl, rfl⟩

theorem fits_object {value : Json} {entries : List (String × Json)} {name : String}
    (h : value.reachedObject? = some entries) : (lists value.crossed (.named name)).Fits value := by
  refine ⟨layers_lists _ _, ?_⟩
  rw [innermost_lists]
  rw [Json.reachedObject?_eq] at h
  cases hr : value.reached? with
  | none => rw [hr] at h; cases h
  | some leaf =>
    rw [hr, Option.bind_some] at h
    cases leaf with
    | object entries => exact ⟨name, rfl⟩
    | array _ | null | bool _ | number _ | text _ => cases h

theorem Fits.isSome_className? {type : ValueType} {value : Json} (h : type.Fits value) :
    type.className?.isSome = value.reachedObject?.isSome := by
  obtain ⟨_, hinner⟩ := h
  rw [className?, Json.reachedObject?_eq]
  cases hr : value.reached? with
  | none =>
    rw [hr] at hinner
    simp only [hinner]
    rfl
  | some leaf =>
    rw [hr] at hinner
    -- An object is the only leaf that has a class.
    cases leaf with
    | object entries =>
      obtain ⟨name, hname⟩ := hinner
      simp only [hname]
      rfl
    | array _ | null | bool _ | number _ | text _ =>
      obtain ⟨kind, _, hkind⟩ := hinner
      simp only [hkind]
      rfl

end ValueType

namespace ClassTree
open ValueType

/-- A class that corresponds to an object. The properties that refer to classes match the nested
classes in order, and those the objects that entries lead to. -/
inductive Mirrors : ClassTree → List (String × Json) → Prop
  | intro {c : ClassTree} {entries : List (String × Json)}
      (keys : c.keys = entries.map (·.1))
      (types : List.Forall₂ (fun p entry => ValueType.Fits p.type entry.2) c.properties entries)
      (references : c.properties.filterMap (·.type.className?) = c.nested.map (·.name))
      (nested : List.Forall₂ Mirrors c.nested (Json.reachedObjects entries)) :
      Mirrors c entries

/-- What a run adds to a draft mirrors the entries. -/
theorem Takes.mirrors {enclosing : List String} {draft result : Draft}
    {entries : List (String × Json)} (h : Takes enclosing draft entries result) :
    ∃ properties nested, result.properties = draft.properties ++ properties ∧
      result.nested = draft.nested ++ nested ∧
      properties.map (·.key) = entries.map (·.1) ∧
      List.Forall₂ (fun p entry => ValueType.Fits p.type entry.2) properties entries ∧
      properties.filterMap (·.type.className?) = nested.map (·.name) ∧
      List.Forall₂ Mirrors nested (Json.reachedObjects entries) := by
  induction h with
  | done => exact ⟨[], [], by simp, by simp, rfl, .nil, rfl, .nil⟩
  | leaf hreaches hnext _ ih =>
    obtain ⟨_, property, hproperty, _, rfl⟩ := Draft.exists_of_withProperty hnext
    obtain ⟨hkey, htype, _⟩ := Draft.propertyFrom_eq_ok_iff.mp hproperty
    obtain ⟨properties, nested, hp, hn, hkeys, htypes, hrefs, hmirrors⟩ := ih
    refine ⟨property :: properties, nested, by simp [hp], hn, by simp [hkey, hkeys],
      .cons (htype ▸ fits_leaf hreaches) htypes, ?_, ?_⟩
    · have hnone : property.type.className? = none := by
        rw [htype, className?, innermost_lists]; rfl
      simp only [List.filterMap_cons, hnone, hrefs]
    · rwa [Json.reachedObjects_cons_of_leaf hreaches]
  | @object _ _ inner _ _ _ _ _ inside _ hreaches hname hwithin hnext _ ihWithin ih =>
    obtain ⟨_, property, hproperty, _, rfl⟩ := Draft.exists_of_withProperty hnext
    obtain ⟨hkey, htype, _⟩ := Draft.propertyFrom_eq_ok_iff.mp hproperty
    obtain ⟨properties, nested, hp, hn, hkeys, htypes, hrefs, hmirrors⟩ := ih
    -- The nested class starts empty, so what its run adds is all that it has.
    have hinner : Mirrors inner.toTree inside := by
      obtain ⟨_, _, hp, hn, hkeys, htypes, hrefs, hmirrors⟩ := ihWithin
      rw [Draft.inner_properties, List.nil_append] at hp
      rw [Draft.inner_nested, List.nil_append] at hn
      subst hp hn
      exact .intro hkeys htypes hrefs hmirrors
    refine ⟨property :: properties, inner.toTree :: nested, by simp [hp, Draft.withNested],
      by simp [hn, Draft.withNested], by simp [hkey, hkeys],
      .cons (htype ▸ fits_object hreaches) htypes, ?_, ?_⟩
    · have hsome : property.type.className? = some inner.toTree.name := by
        rw [htype, className?, innermost_lists]
        exact congrArg some hwithin.keeps.1.symm
      simp only [List.filterMap_cons, hsome, hrefs, List.map_cons]
    · rw [Json.reachedObjects_cons_of_object hreaches]
      exact .cons hinner hmirrors

theorem Mirrors.types {c : ClassTree} {entries : List (String × Json)} (h : Mirrors c entries) :
    List.Forall₂ (fun p entry => ValueType.Fits p.type entry.2) c.properties entries := by
  cases h with
  | intro _ types _ _ => exact types

theorem Mirrors.references {c : ClassTree} {entries : List (String × Json)}
    (h : Mirrors c entries) : c.properties.filterMap (·.type.className?) = c.nested.map (·.name) := by
  cases h with
  | intro _ _ references _ => exact references

theorem exists_getElem?_of_forall₂ {α β : Type} {R : α → β → Prop} {l : List α} {m : List β} {i : Nat}
    {a : α} (h : List.Forall₂ R l m) (ha : l[i]? = some a) : ∃ b, m[i]? = some b ∧ R a b := by
  obtain ⟨hi, rfl⟩ := List.getElem?_eq_some_iff.mp ha
  have hi' := h.length_eq ▸ hi
  exact ⟨m[i], List.getElem?_eq_getElem hi', (List.forall₂_iff_get.mp h).2 i hi hi'⟩

theorem Mirrors.getElem?_nested {c inner : ClassTree} {entries : List (String × Json)} {i : Nat}
    (h : Mirrors c entries) (hinner : c.nested[i]? = some inner) :
    ∃ inside, (Json.reachedObjects entries)[i]? = some inside ∧ Mirrors inner inside := by
  cases h with
  | intro _ _ _ nested => exact exists_getElem?_of_forall₂ nested hinner

theorem getElem?_filterMap_take {α β : Type} {f : α → Option β} {l : List α} {j : Nat} {a : α}
    {b : β} (ha : l[j]? = some a) (hb : f a = some b) :
    (l.filterMap f)[((l.take j).filterMap f).length]? = some b := by
  obtain ⟨hj, rfl⟩ := List.getElem?_eq_some_iff.mp ha
  have hsplit : l = l.take j ++ l[j] :: l.drop (j + 1) := by
    rw [List.getElem_cons_drop, List.take_append_drop]
  conv_lhs => arg 1; rw [hsplit, List.filterMap_append, List.filterMap_cons_some hb]
  rw [List.getElem?_append_right (Nat.le_refl _), Nat.sub_self]
  rfl

theorem length_filterMap_eq {α β γ δ : Type} {R : α → β → Prop} {f : α → Option γ}
    {g : β → Option δ} {l : List α} {m : List β} (h : List.Forall₂ R l m)
    (hfg : ∀ a b, R a b → (f a).isSome = (g b).isSome) :
    (l.filterMap f).length = (m.filterMap g).length := by
  induction h with
  | nil => rfl
  | @cons a b _ _ hab _ ih =>
    have := hfg a b hab
    cases hf : f a <;> cases hg : g b <;> simp_all

/-- The class that a property refers to is built from the value of its entry, and stands behind
those of the entries before. -/
theorem Mirrors.nested_of_property {c : ClassTree} {entries : List (String × Json)} {j : Nat}
    {p : Property} {reference : String} (h : Mirrors c entries) (hp : c.properties[j]? = some p)
    (href : p.type.className? = some reference) :
    ∃ key value inside inner, entries[j]? = some (key, value) ∧
      value.reachedObject? = some inside ∧
      c.nested[(Json.reachedObjects (entries.take j)).length]? = some inner ∧
      inner.name = reference ∧ Mirrors inner inside := by
  have htypes := h.types
  -- As many properties before this one refer to classes as entries lead to objects.
  have hcount : ((c.properties.take j).filterMap (·.type.className?)).length =
      (Json.reachedObjects (entries.take j)).length :=
    length_filterMap_eq (List.forall₂_take j htypes) fun _ _ hfits => hfits.isSome_className?
  have hname : (c.properties.filterMap (·.type.className?))[
      ((c.properties.take j).filterMap (·.type.className?)).length]? = some reference :=
    getElem?_filterMap_take hp href
  rw [h.references, hcount, List.getElem?_map] at hname
  obtain ⟨inner, hinner, hname⟩ := Option.map_eq_some_iff.mp hname
  obtain ⟨found, hfound, hmirrors⟩ := h.getElem?_nested hinner
  obtain ⟨⟨key, value⟩, hentry, hfits⟩ := exists_getElem?_of_forall₂ htypes hp
  have hsome := hfits.isSome_className?
  rw [href, Option.isSome_some, eq_comm, Option.isSome_iff_exists] at hsome
  obtain ⟨inside, hinside⟩ := hsome
  have hobject : (Json.reachedObjects entries)[(Json.reachedObjects (entries.take j)).length]? =
      some inside := getElem?_filterMap_take hentry hinside
  obtain rfl := Option.some.inj (hobject.symm.trans hfound)
  exact ⟨key, value, inside, inner, hentry, hinside, hinner, hname, hmirrors⟩

theorem Mirrors.exists_entries_of_subtree {c : ClassTree} {entries : List (String × Json)}
    (h : Mirrors c entries) : ∀ d ∈ c.subtrees, ∃ inside, Mirrors d inside := by
  apply forall_subtrees fun d => ∃ inside, Mirrors d inside
  · rintro d ⟨inside, hd⟩ inner hinner
    obtain ⟨i, hi⟩ := List.mem_iff_getElem?.mp hinner
    obtain ⟨inside, _, hmirrors⟩ := hd.getElem?_nested hi
    exact ⟨inside, hmirrors⟩
  · exact ⟨entries, h⟩

/-- The tree of a sample in which no object is found corresponds to an object without entries. -/
theorem mirrors_of_ofSample {namers : Namers} {style : Style} {name : String} {sample : Json}
    {tree : ClassTree} (h : ofSample namers style name sample = .ok tree) :
    Mirrors tree (sample.reachedObject?.getD []) := by
  obtain ⟨_, _, _, draft, hdraft, rfl⟩ := ofSample_eq_ok_iff.mp h
  obtain ⟨properties, nested, hp, hn, hkeys, htypes, hrefs, hmirrors⟩ := hdraft.mirrors
  change draft.properties = [] ++ properties at hp
  change draft.nested = [] ++ nested at hn
  rw [List.nil_append] at hp hn
  subst hp hn
  exact .intro hkeys htypes hrefs hmirrors

theorem Mirrors.eq_nil {c : ClassTree} (h : Mirrors c []) : c.properties = [] ∧ c.nested = [] := by
  cases h with
  | intro _ types _ nested =>
    exact ⟨List.forall₂_nil_right_iff.mp types, List.forall₂_nil_right_iff.mp nested⟩

theorem ofSample_mirrors {namers : Namers} {style : Style} {name : String} {sample : Json}
    {tree : ClassTree} (h : ofSample namers style name sample = .ok tree) :
    (match sample.reachedObject? with
      | some entries => Mirrors tree entries
      | none => tree.properties = [] ∧ tree.nested = []) ∧
    ∀ c ∈ tree.subtrees,
      (c.nested.map (·.name)).Nodup ∧
      (∀ p ∈ c.properties, ∀ reference ∈ p.type.className?,
        ∃ inner ∈ c.nested, inner.name = reference) ∧
      ∀ inner ∈ c.nested, ∃ p ∈ c.properties, p.type.className? = some inner.name := by
  have hroot := mirrors_of_ofSample h
  refine ⟨?_, fun c hc => ?_⟩
  · cases hs : sample.reachedObject? with
    | some entries => rwa [hs] at hroot
    | none =>
      rw [hs] at hroot
      exact hroot.eq_nil
  · obtain ⟨scope, hscoped⟩ := (ofSample_scoped h).2.exists_scope_of_subtree c hc
    obtain ⟨entries, hmirrors⟩ := hroot.exists_entries_of_subtree c hc
    -- The nested classes are those that properties refer to, in their order.
    have hrefs := hmirrors.references
    refine ⟨hscoped.apart, fun p hp reference href => ?_, fun inner hinner => ?_⟩
    · have hmem : reference ∈ c.nested.map (·.name) :=
        hrefs ▸ List.mem_filterMap.mpr ⟨p, hp, href⟩
      exact List.mem_map.mp hmem
    · have hmem : inner.name ∈ c.properties.filterMap (·.type.className?) :=
        hrefs ▸ List.mem_map_of_mem hinner
      exact List.mem_filterMap.mp hmem

theorem ofSample_mirrors_objects_in_arrays :
    ∃ tree, ofSample .standard .bean "Root" (.array [.object [("list", .array [.array [.object
        [("x", .null)], .null]]), ("none", .array []), ("id", .text "a")]]) = .ok tree ∧
      Mirrors tree [("list", .array [.array [.object [("x", .null)], .null]]),
        ("none", .array []), ("id", .text "a")] := by
  obtain ⟨tree, htree⟩ : ∃ tree, ofSample .standard .bean "Root" (.array [.object [("list",
    .array [.array [.object [("x", .null)], .null]]), ("none", .array []), ("id", .text "a")]]) =
      .ok tree := ⟨_, rfl⟩
  exact ⟨tree, htree, (ofSample_mirrors htree).1⟩

end ClassTree
end JsonClasses
