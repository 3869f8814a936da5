import JsonClasses.Proofs.ClassTree.Place

/-!
# The meaning of simple type names

A simple name is looked up in the innermost class first: among its member classes and as the name
of the class itself, and then in the same way in the classes around it. The builder of a class is
one of its member classes and has no members that are classes.
-/
namespace JsonClasses.ClassTree

/-- A class of the tree or the builder of one, both given by the place of the class. -/
inductive Meaning
  | ofClass (place : List Nat)
  | builderOf (place : List Nat)
  deriving DecidableEq, Repr

/-- The same meaning seen from further out. -/
def Meaning.below (place : List Nat) : Meaning → Meaning
  | .ofClass rest => .ofClass (place ++ rest)
  | .builderOf rest => .builderOf (place ++ rest)

/-- What a class itself gives a name. -/
def ownMeaning? (c : ClassTree) (name : String) : Option Meaning :=
  match c.nested.findIdx? (·.name == name) with
  | some i => some (.ofClass [i])
  | none =>
      if c.style.hasBuilder && name == Style.builderName then some (.builderOf [])
      else if name == c.name then some (.ofClass [])
      else none

/-- What a name means inside the class at a place. -/
def meaning? : ClassTree → List Nat → String → Option Meaning
  | c, [], name => c.ownMeaning? name
  | c, i :: place, name =>
      ((c.nested[i]?.bind (meaning? · place name)).map (.below [i])).or (c.ownMeaning? name)

/-- What a name means inside the builder of the class at a place. -/
def meaningInBuilder? (tree : ClassTree) (place : List Nat) (name : String) : Option Meaning :=
  if name = Style.builderName then some (.builderOf place) else tree.meaning? place name

variable {c tree : ClassTree} {style : Style} {scope : List String} {place : List Nat}
  {name : String}

/-! ## What a class gives its names -/

theorem findIdx?_eq_none_of_nested (h : ∀ inner ∈ c.nested, inner.name ≠ name) :
    c.nested.findIdx? (·.name == name) = none := by
  rw [List.findIdx?_eq_none_iff]
  intro inner hinner
  exact beq_eq_false_iff_ne.mpr (h inner hinner)

theorem ownMeaning?_nested {inner : ClassTree} {i : Nat} (h : Scoped style scope c)
    (hi : c.nested[i]? = some inner) : c.ownMeaning? inner.name = some (.ofClass [i]) := by
  have hfind : c.nested.findIdx? (·.name == inner.name) = some i := by
    obtain ⟨hlt, rfl⟩ := List.getElem?_eq_some_iff.mp hi
    refine List.findIdx?_eq_some_iff_getElem.mpr ⟨hlt, beq_self_eq_true _, fun j hj heq => ?_⟩
    have hnodup := List.pairwise_map.mp h.apart
    exact List.pairwise_iff_getElem.mp hnodup j i (by omega) hlt hj (beq_iff_eq.mp heq)
  rw [ownMeaning?, hfind]

theorem ownMeaning?_builderName (h : Scoped style scope c) (hbuilder : style.hasBuilder = true) :
    c.ownMeaning? Style.builderName = some (.builderOf []) := by
  have hnone : c.nested.findIdx? (·.name == Style.builderName) = none := by
    apply findIdx?_eq_none_of_nested
    rintro inner hinner heq
    have hfresh := (h.fresh hinner).2
    rw [heq, Style.occupies_builderName hbuilder] at hfresh
    cases hfresh
  rw [ownMeaning?, hnone]
  simp only [h.same, hbuilder, Bool.true_and, beq_self_eq_true, if_true]

theorem ownMeaning?_self (h : Scoped style scope c) (hscope : c.name ∈ scope)
    (hfree : style.occupies c.name = false) : c.ownMeaning? c.name = some (.ofClass []) := by
  have hnone : c.nested.findIdx? (·.name == c.name) = none := by
    apply findIdx?_eq_none_of_nested
    rintro inner hinner heq
    exact (h.fresh hinner).1 (heq ▸ hscope)
  have hbuilder : (c.style.hasBuilder && c.name == Style.builderName) = false := by
    rw [h.same]
    exact Style.not_builderName_of_free hfree
  rw [ownMeaning?, hnone]
  simp only [hbuilder, Bool.false_eq_true, if_false, beq_self_eq_true, if_true]

theorem ownMeaning?_eq_none (h : Scoped style scope c) (hfree : style.occupies c.name = false)
    (hname : style.occupies name = true) (hbuilder : name ≠ Style.builderName) :
    c.ownMeaning? name = none := by
  -- No nested class has the name, since a taken one is never chosen.
  have hnone : c.nested.findIdx? (·.name == name) = none := by
    apply findIdx?_eq_none_of_nested
    rintro inner hinner rfl
    rw [(h.fresh hinner).2] at hname
    cases hname
  have hself : name ≠ c.name := by
    rintro rfl
    rw [hfree] at hname
    cases hname
  rw [ownMeaning?, hnone]
  simp only [beq_eq_false_iff_ne.mpr hbuilder, beq_eq_false_iff_ne.mpr hself, Bool.and_false,
    Bool.false_eq_true, if_false]

/-! ## From a place outwards -/

/-- What the class at a place gives a name hides what the classes around it give. -/
theorem meaning?_of_own {m : Meaning} (hc : tree.at? place = some c)
    (hm : c.ownMeaning? name = some m) : tree.meaning? place name = some (m.below place) := by
  induction place generalizing tree with
  | nil =>
    obtain rfl := Option.some.inj hc
    rw [meaning?, hm]
    cases m <;> rfl
  -- The inner class answers, so the outer one is not asked.
  | cons i place ih =>
    obtain ⟨inner, hinner, hc⟩ := at?_cons_eq_some.mp hc
    rw [meaning?, hinner, Option.bind_some, ih hc, Option.map_some, Option.some_or]
    cases m <;> rfl

theorem meaning?_eq_none (h : Scoped style scope tree) (hfree : style.occupies tree.name = false)
    (hname : style.occupies name = true) (hbuilder : name ≠ Style.builderName) :
    tree.meaning? place name = none := by
  induction place generalizing tree scope with
  | nil => exact ownMeaning?_eq_none h hfree hname hbuilder
  | cons i place ih =>
    rw [meaning?, ownMeaning?_eq_none h hfree hname hbuilder, Option.or_none, Option.map_eq_none_iff,
      Option.bind_eq_none_iff]
    intro inner hinner
    have hmem := List.mem_of_getElem? hinner
    exact ih (h.inside hmem) (h.fresh hmem).2

/-! ## Names in a tree from a sample -/

/-- Inside the class at a place, and inside its builder if the style has builders, a name means
this. -/
def Means (style : Style) (tree : ClassTree) (place : List Nat) (name : String)
    (meaning : Option Meaning) : Prop :=
  tree.meaning? place name = meaning ∧
    (style.hasBuilder = true → tree.meaningInBuilder? place name = meaning)

/-- The types outside the tree that a source in this style refers to by simple names. -/
def outsideNames (style : Style) : List String :=
  ["Boolean", "Double", "Long", "List", "Object", "String"] ++
    (style.annotations?.map Annotations.typeNames).getD []

theorem occupies_of_mem_outsideNames (h : name ∈ outsideNames style) :
    style.occupies name = true ∧ name ≠ Style.builderName := by
  revert name
  cases style <;> decide

theorem Means.of_meaning? {meaning : Option Meaning} (h : tree.meaning? place name = meaning)
    (hname : style.hasBuilder = true → name ≠ Style.builderName) :
    Means style tree place name meaning := by
  refine ⟨h, fun hbuilder => ?_⟩
  rw [meaningInBuilder?, if_neg (hname hbuilder), h]

theorem Means.of_free {meaning : Option Meaning} (h : tree.meaning? place name = meaning)
    (hfree : style.occupies name = false) : Means style tree place name meaning := by
  refine .of_meaning? h ?_
  rintro hbuilder rfl
  rw [Style.occupies_builderName hbuilder] at hfree
  cases hfree

/-- What holds of the names in and around the class at a place, which is built from an object with
these entries. -/
structure Resolves (style : Style) (tree : ClassTree) (place : List Nat) (c : ClassTree)
    (entries : List (String × Json)) : Prop where
  siblings : (c.nested.map (·.name)).Nodup
  enclosing : ∀ inner ∈ c.nested, inner.name ∉ tree.namesTo place
  free : ∀ inner ∈ c.nested, style.occupies inner.name = false
  self : Means style tree place c.name (some (.ofClass place))
  builder : style.hasBuilder = true →
    Means style tree place Style.builderName (some (.builderOf place))
  outside : ∀ name ∈ outsideNames style, Means style tree place name none
  references : ∀ j p reference, c.properties[j]? = some p → p.type.className? = some reference →
    ∃ key value inside inner, entries[j]? = some (key, value) ∧
      value.reachedObject? = some inside ∧ inner.name = reference ∧ Mirrors inner inside ∧
      tree.at? (place ++ [(Json.reachedObjects (entries.take j)).length]) = some inner ∧
      Means style tree place reference
        (some (.ofClass (place ++ [(Json.reachedObjects (entries.take j)).length])))

theorem Scoped.resolves (h : Scoped style [tree.name] tree)
    (hroot : style.occupies tree.name = false) (hc : tree.at? place = some c)
    {entries : List (String × Json)} (hmirrors : Mirrors c entries) :
    Resolves style tree place c entries := by
  -- What is in scope for the class are the names on the way to it, its own at the end.
  have hscoped : Scoped style (tree.namesTo place) c := Scoped.at_place [] h hc
  have hfree := h.free_at_place hroot hc
  exact
    { siblings := hscoped.apart
      enclosing := fun _ hinner => (hscoped.fresh hinner).1
      free := fun _ hinner => (hscoped.fresh hinner).2
      self := by
        have hself := meaning?_of_own hc (ownMeaning?_self hscoped (mem_namesTo hc) hfree)
        rw [Meaning.below, List.append_nil] at hself
        exact .of_free hself hfree
      builder := by
        intro hbuilder
        have hown := meaning?_of_own hc (ownMeaning?_builderName hscoped hbuilder)
        rw [Meaning.below, List.append_nil] at hown
        exact ⟨hown, fun _ => by rw [meaningInBuilder?, if_pos rfl]⟩
      outside := by
        intro name hname
        obtain ⟨hoccupied, hbuilder⟩ := occupies_of_mem_outsideNames hname
        exact .of_meaning? (meaning?_eq_none h hroot hoccupied hbuilder) fun _ => hbuilder
      references := by
        intro j p reference hp href
        obtain ⟨key, value, inside, inner, hentry, hinside, hinner, rfl, hmirrored⟩ :=
          hmirrors.nested_of_property hp href
        have hown := meaning?_of_own hc (ownMeaning?_nested hscoped hinner)
        exact ⟨key, value, inside, inner, hentry, hinside, rfl, hmirrored,
          at?_append_singleton hc hinner,
          .of_free hown (hscoped.fresh (List.mem_of_getElem? hinner)).2⟩ }

theorem ofSample_resolves {namers : Namers} {sample : Json}
    (h : ofSample namers style name sample = .ok tree) (hc : tree.at? place = some c) :
    ∃ entries, Json.objectAt? (sample.reachedObject?.getD []) place = some entries ∧
      Mirrors c entries ∧ Resolves style tree place c entries := by
  obtain ⟨rfl, hscoped⟩ := ofSample_scoped h
  obtain ⟨_, _, hroot, _⟩ := ofSample_eq_ok_iff.mp h
  obtain ⟨entries, hentries, hmirrors⟩ := (mirrors_of_ofSample h).at_place hc
  exact ⟨entries, hentries, hmirrors, hscoped.resolves hroot hc hmirrors⟩

/-- The key of the outer class returns inside it, and there a key reads like the builder. -/
theorem ofSample_resolves_returning_key :
    ∃ tree c entries,
      ofSample .standard .builder "Root" (.object [("a", .object [("a", .array [.object
        [("builder", .object [("x", .null)])]])]), ("list", .object [])]) = .ok tree ∧
      tree.at? [0, 0] = some c ∧ tree.namesTo [0, 0] = ["Root", "A", "A2"] ∧
      Resolves .builder tree [0, 0] c entries := by
  obtain ⟨tree, htree, c, hc, hnames⟩ : ∃ tree,
      ofSample .standard .builder "Root" (.object [("a", .object [("a", .array [.object
        [("builder", .object [("x", .null)])]])]), ("list", .object [])]) = .ok tree ∧
      ∃ c, tree.at? [0, 0] = some c ∧ tree.namesTo [0, 0] = ["Root", "A", "A2"] :=
    ⟨_, rfl, _, rfl, by decide +kernel⟩
  obtain ⟨entries, _, _, hresolves⟩ := ofSample_resolves htree hc
  exact ⟨tree, c, entries, htree, hc, hnames, hresolves⟩

end JsonClasses.ClassTree
