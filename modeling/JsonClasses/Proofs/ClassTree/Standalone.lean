import JsonClasses.Proofs.ClassTree.AcrossStyles
import JsonClasses.Proofs.ClassTree.Legal
import JsonClasses.Proofs.ClassTree.Place

/-!
# Nested classes on their own

A nested class is built by a run over its object, like a root class, but with the names of the
classes around it in scope. These can only change the names of classes further inside, so the class
is the one that its object gives alone wherever none of those names is taken around it.
-/
namespace JsonClasses

/-! ## Runs in a larger scope -/

namespace Draft

variable {draft next : Draft} {enclosing : List String} {key name : String} {type : ValueType}

/-- A name that is chosen in a scope is chosen in a larger one, unless it is taken there. -/
theorem nameForNested_within {outer : List String}
    (h : draft.nameForNested enclosing key = .ok name) (hname : name ∉ outer) :
    draft.nameForNested (outer ++ enclosing) key = .ok name := by
  obtain ⟨n, hn, hmade, hfree, hbefore⟩ := Candidates.search_eq_ok_iff.mp h
  -- A longer scope allows more attempts.
  have hattempts : draft.classNameAttempts enclosing ≤
      draft.classNameAttempts (outer ++ enclosing) := by
    rw [classNameAttempts, classNameAttempts, List.length_append]
    omega
  refine Candidates.search_eq_ok_iff.mpr ⟨n, Nat.lt_of_lt_of_le hn hattempts, hmade, ?_, ?_⟩
  · rw [Bool.or_eq_false_iff] at hfree ⊢
    refine ⟨hfree.1, ?_⟩
    simpa [hname] using hfree.2
  · intro m hm
    obtain ⟨passed, hpassed, htaken⟩ := hbefore m hm
    refine ⟨passed, hpassed, ?_⟩
    rw [Bool.or_eq_true] at htaken ⊢
    refine htaken.imp_right fun hmem => ?_
    rw [List.contains_eq_mem, decide_eq_true_eq] at hmem ⊢
    exact List.mem_append_right outer hmem

/-- No name depends on the modifiers of the class. -/
theorem withProperty_modifiers (h : draft.withProperty key type = .ok next)
    (modifiers : List Modifier) :
    { draft with modifiers }.withProperty key type = .ok { next with modifiers } := by
  rw [withProperty_eq] at h ⊢
  cases hsearch : Candidates.search key (draft.propertyFrom key type) draft.hasClash
    (.unusableName key .field) draft.memberAttempts 0 with
  | error e =>
    rw [hsearch] at h
    cases h
  | ok property =>
    rw [hsearch] at h
    obtain rfl := Except.ok.inj h
    show (Candidates.search key (draft.propertyFrom key type) draft.hasClash
      (.unusableName key .field) draft.memberAttempts 0).map _ = _
    rw [hsearch]
    rfl

end Draft

namespace ClassTree

variable {draft result : Draft} {enclosing : List String} {entries : List (String × Json)}

theorem Takes.unique {result' : Draft} (h : Takes enclosing draft entries result)
    (h' : Takes enclosing draft entries result') : result = result' :=
  Except.ok.inj ((addEntries_eq_ok_iff.mpr h).symm.trans (addEntries_eq_ok_iff.mpr h'))

/-- A run goes the same way in a larger scope, unless a class gets a name that is taken there. -/
theorem Takes.within {outer : List String} (h : Takes enclosing draft entries result)
    (hnames : ∀ c ∈ subtreesOf result.nested, c.name ∉ outer) :
    Takes (outer ++ enclosing) draft entries result := by
  induction h with
  | done => exact .done
  | leaf reaches property _ ih => exact .leaf reaches property (ih hnames)
  | @object _ _ inner _ _ _ name _ _ _ reaches fresh within property others ihWithin ih =>
    have hinside : ∀ c ∈ inner.toTree.subtrees, c.name ∉ outer :=
      fun c hc => hnames c (others.mem_subtreesOf property hc)
    rw [subtrees_eq, List.forall_mem_cons] at hinside
    have hself : inner.toTree.name = name := within.keeps.1
    rw [hself] at hinside
    have hwithin := ihWithin hinside.2
    rw [← List.append_assoc] at hwithin
    exact .object reaches (Draft.nameForNested_within fresh hinside.1) hwithin property (ih hnames)

theorem Takes.withModifiers (h : Takes enclosing draft entries result)
    (modifiers : List Modifier) :
    Takes enclosing { draft with modifiers } entries { result with modifiers } := by
  induction h with
  | done => exact .done
  | leaf reaches property _ ih =>
    exact .leaf reaches (Draft.withProperty_modifiers property modifiers) ih
  | object reaches fresh within property _ _ ih =>
    exact .object reaches fresh within (Draft.withProperty_modifiers property modifiers) ih

/-! ## How a nested class is built -/

/-- The class was built by a run over these entries, inside classes with these names. It has its
style and its namers from the draft. -/
def BuiltFrom (draft : Draft) (enclosing : List String) (c : ClassTree)
    (entries : List (String × Json)) : Prop :=
  ∃ built, Takes (enclosing ++ [c.name]) (draft.inner c.name) entries built ∧ c = built.toTree

theorem Takes.built (h : Takes enclosing draft entries result) :
    ∃ nested, result.nested = draft.nested ++ nested ∧
      List.Forall₂ (BuiltFrom draft enclosing) nested (Json.reachedObjects entries) := by
  induction h with
  | done => exact ⟨[], (List.append_nil _).symm, .nil⟩
  | leaf reaches property _ ih =>
    obtain ⟨_, _, _, _, rfl⟩ := Draft.exists_of_withProperty property
    obtain ⟨nested, hnested, hbuilt⟩ := ih
    rw [Json.reachedObjects_cons_of_leaf reaches]
    exact ⟨nested, hnested, hbuilt⟩
  | @object _ _ inner _ _ _ name _ _ _ reaches _ within property _ _ ih =>
    obtain ⟨_, _, _, _, rfl⟩ := Draft.exists_of_withProperty property
    obtain ⟨nested, hnested, hbuilt⟩ := ih
    rw [Json.reachedObjects_cons_of_object reaches]
    -- The class of this entry comes before those of the entries behind it.
    refine ⟨inner.toTree :: nested, by simp [hnested, Draft.withNested], .cons ?_ hbuilt⟩
    have hself : inner.toTree.name = name := within.keeps.1
    refine ⟨inner, ?_, rfl⟩
    rw [hself]
    exact within

theorem Takes.getElem?_built {inner : ClassTree} {i : Nat}
    (h : Takes enclosing draft entries result) (hdraft : draft.nested = [])
    (hinner : result.nested[i]? = some inner) :
    ∃ inside, (Json.reachedObjects entries)[i]? = some inside ∧
      BuiltFrom draft enclosing inner inside := by
  obtain ⟨nested, hnested, hbuilt⟩ := h.built
  rw [hdraft, List.nil_append] at hnested
  exact exists_getElem?_of_forall₂ (hnested ▸ hbuilt) hinner

/-- A class was built from the object at its place, inside the classes on the way to it. -/
theorem Takes.built_at_place {outer : List String} {around inner : ClassTree} {place : List Nat}
    {i : Nat} (h : Takes (outer ++ [draft.name]) draft entries result)
    (hdraft : draft.nested = []) (haround : result.toTree.at? place = some around)
    (hinner : around.nested[i]? = some inner) :
    ∃ inside, Json.objectAt? entries (place ++ [i]) = some inside ∧
      BuiltFrom draft (outer ++ result.toTree.namesTo place) inner inside := by
  have hself : result.toTree.name = draft.name := h.keeps.1
  -- The run of the class at the first index is one of the same kind, one scope further in.
  induction place generalizing outer draft entries result with
  | nil =>
    obtain rfl := Option.some.inj haround
    obtain ⟨inside, hinside, hbuilt⟩ := h.getElem?_built hdraft hinner
    refine ⟨inside, ?_, ?_⟩
    · rw [List.nil_append, Json.objectAt?, hinside, Option.bind_some, Json.objectAt?]
    · rw [namesTo, hself]
      exact hbuilt
  | cons j place ih =>
    obtain ⟨next, hnext, haround⟩ := at?_cons_eq_some.mp haround
    obtain ⟨found, hfound, built, hrun, rfl⟩ := h.getElem?_built hdraft hnext
    have hrun : Takes (outer ++ [draft.name] ++ [(draft.inner built.name).name])
        (draft.inner built.name) found built := hrun
    obtain ⟨inside, hinside, hbuilt⟩ := ih hrun rfl haround hrun.keeps.1
    refine ⟨inside, ?_, ?_⟩
    · rw [List.cons_append, Json.objectAt?, hfound, Option.bind_some, hinside]
    · rw [namesTo, hnext, Option.map_some, Option.getD_some, hself, ← List.singleton_append,
        ← List.append_assoc]
      exact hbuilt

theorem BuiltFrom.modifiers {c : ClassTree} (h : BuiltFrom draft enclosing c entries) :
    c.modifiers = [.publicAccess, .static] := by
  obtain ⟨built, hrun, hc⟩ := h
  rw [hc]
  exact hrun.keeps_modifiers

theorem ofSample_built {namers : Namers} {style : Style} {root : String} {sample : Json}
    {tree around inner : ClassTree} {place : List Nat} {i : Nat}
    (h : ofSample namers style root sample = .ok tree) (haround : tree.at? place = some around)
    (hinner : around.nested[i]? = some inner) :
    ∃ inside, Json.objectAt? (sample.reachedObject?.getD []) (place ++ [i]) = some inside ∧
      BuiltFrom (rootDraft namers style root) (tree.namesTo place) inner inside := by
  obtain ⟨_, _, _, draft, hrun, rfl⟩ := ofSample_eq_ok_iff.mp h
  have hrun : Takes ([] ++ [(rootDraft namers style root).name]) (rootDraft namers style root)
      (sample.reachedObject?.getD []) draft := hrun
  exact hrun.built_at_place rfl haround hinner

/-! ## The class that the object gives alone -/

/-- An object gives a class alone if a draft with standard namers got through it. -/
theorem exists_ofSample_of_built {spellings : Spellings} {style : Style} {root : String}
    {c : ClassTree}
    (h : BuiltFrom (rootDraft (.ofSpellings spellings) style root) enclosing c entries)
    (hname : Java.isIdentifier c.name = true) (hfree : style.occupies c.name = false) :
    ∃ alone, ofSample (.ofSpellings spellings) style c.name (.object entries) = .ok alone := by
  obtain ⟨built, hrun, -⟩ := h
  have hstandard : ((rootDraft (.ofSpellings spellings) style root).inner c.name).Standard
      spellings := ⟨rfl, List.forall_mem_nil _⟩
  have hends : Ends (addEntries _ (enclosing ++ [c.name]) entries) (entriesFault? entries) :=
    addEntries_ends hstandard (List.mem_append_right enclosing (List.mem_singleton_self c.name))
  -- A fault would have ended this run too.
  have hfault : entriesFault? entries = none := by
    cases hfault : entriesFault? entries with
    | none => rfl
    | some e =>
      rw [hfault] at hends
      cases (addEntries_eq_ok_iff.mpr hrun).symm.trans hends
  have halone := ofSample_ends spellings style c.name (.object entries)
  rw [documentFault?, hname, hfree] at halone
  simpa [Json.isStructured, Json.reachedObject?, hfault, Ends] using halone

theorem BuiltFrom.eq_alone {namers : Namers} {style : Style} {root : String} {c alone : ClassTree}
    (h : BuiltFrom (rootDraft namers style root) enclosing c entries)
    (halone : ofSample namers style c.name (.object entries) = .ok alone)
    (hnames : ∀ d ∈ subtreesOf alone.nested, d.name ∉ enclosing) :
    c = { alone with modifiers := [.publicAccess, .static] } := by
  obtain ⟨built, hrun, hbuilt⟩ := h
  obtain ⟨_, _, _, draft, hdraft, rfl⟩ := ofSample_eq_ok_iff.mp halone
  have hsame := (hdraft.within hnames).withModifiers [.publicAccess, .static]
  rw [hbuilt, hrun.unique hsame]
  rfl

/-- A nested class is the class that its object gives alone, up to the names of the classes inside
it, and with the same names unless one of them is taken by a class around it. -/
theorem ofSample_nested_alone (spellings : Spellings) {style : Style} {root : String}
    {sample : Json} {tree around inner : ClassTree} {place : List Nat} {i : Nat}
    (h : ofSample (.ofSpellings spellings) style root sample = .ok tree)
    (haround : tree.at? place = some around) (hinner : around.nested[i]? = some inner) :
    ∃ inside alone,
      Json.objectAt? (sample.reachedObject?.getD []) (place ++ [i]) = some inside ∧
      ofSample (.ofSpellings spellings) style inner.name (.object inside) = .ok alone ∧
      alone.name = inner.name ∧ alone.modifiers = [.publicAccess] ∧
      inner.modifiers = [.publicAccess, .static] ∧ alone.typeTree.Renamed inner.typeTree ∧
      ((∀ c ∈ subtreesOf alone.nested, c.name ∉ tree.namesTo place) →
        inner = { alone with modifiers := [.publicAccess, .static] }) := by
  have hplace := at?_append_singleton haround hinner
  have hmember := List.mem_of_getElem? hinner
  obtain ⟨inside, hinside, hbuilt⟩ := ofSample_built h haround hinner
  -- The scope around the class, and its name in it.
  obtain ⟨rfl, hscoped⟩ := ofSample_scoped h
  have hscoped : Scoped style (tree.namesTo place) around := Scoped.at_place [] hscoped haround
  obtain ⟨_, hfree⟩ := hscoped.fresh hmember
  have hlegal := ofSample_legal (Namers.ofSpellings_legal spellings) h inner
    (mem_subtrees_of_at? hplace)
  obtain ⟨alone, halone⟩ := exists_ofSample_of_built hbuilt hlegal.name hfree
  obtain ⟨hname, hscopedAlone⟩ := ofSample_scoped halone
  obtain ⟨_, _, _, draft, hdraft, hdraftTree⟩ := ofSample_eq_ok_iff.mp halone
  refine ⟨inside, alone, hinside, halone, hname, ?_, hbuilt.modifiers, ?_, hbuilt.eq_alone halone⟩
  · rw [hdraftTree]
    exact hdraft.keeps_modifiers
  -- Both classes mirror the object at the place.
  · obtain ⟨found, hfound, hmirrors⟩ := (mirrors_of_ofSample h).at_place hplace
    obtain rfl := Option.some.inj (hfound.symm.trans hinside)
    exact (mirrors_of_ofSample halone).renamed hmirrors hscopedAlone (hscoped.inside hmember)

/-- Alone the link has a class inside it with the name of the root, which is taken in the tree. For
the order nothing is taken. -/
theorem ofSample_nested_alone_order_link :
    let orderEntries : List (String × Json) := [("items", .array [.object [("id", .null)]])]
    let linkEntries : List (String × Json) := [("root", .object [("x", .bool true)])]
    let sample : Json := .object [("order", .object orderEntries), ("link", .object linkEntries)]
    ∃ tree order link orderAlone linkAlone,
      ofSample (.ofSpellings {}) .builder "Root" sample = .ok tree ∧ tree.nested = [order, link] ∧
      ofSample (.ofSpellings {}) .builder "Order" (.object orderEntries) = .ok orderAlone ∧
      ofSample (.ofSpellings {}) .builder "Link" (.object linkEntries) = .ok linkAlone ∧
      order = { orderAlone with modifiers := [.publicAccess, .static] } ∧
      linkAlone.typeTree.Renamed link.typeTree ∧
      linkAlone.nested.map (·.name) = ["Root"] ∧ link.nested.map (·.name) = ["Root2"] := by
  intro orderEntries linkEntries sample
  have hnames : (ofSample (.ofSpellings {}) .builder "Root" sample).map (fun tree =>
      tree.nested.map fun c => (c.name, c.nested.map (·.name))) =
        .ok [("Order", ["Items"]), ("Link", ["Root2"])] := by
    simp only [sample, orderEntries, linkEntries]
    decide +kernel
  have hinOrder : (ofSample (.ofSpellings {}) .builder "Order" (.object orderEntries)).map
      (fun tree => (subtreesOf tree.nested).map (·.name)) = .ok ["Items"] := by
    simp only [orderEntries]
    decide +kernel
  have hinLink : (ofSample (.ofSpellings {}) .builder "Link" (.object linkEntries)).map
      (fun tree => tree.nested.map (·.name)) = .ok ["Root"] := by
    simp only [linkEntries]
    decide +kernel
  cases htree : ofSample (.ofSpellings {}) .builder "Root" sample with
  | error e =>
    rw [htree] at hnames
    cases hnames
  | ok tree =>
    rw [htree] at hnames
    obtain ⟨order, rest, hnested, horder, hrest⟩ := List.map_eq_cons_iff.mp (Except.ok.inj hnames)
    obtain ⟨link, _, rfl, hlink, hrest⟩ := List.map_eq_cons_iff.mp hrest
    obtain rfl := List.map_eq_nil_iff.mp hrest
    obtain ⟨horder, _⟩ := Prod.mk.inj horder
    obtain ⟨hlink, hinNestedLink⟩ := Prod.mk.inj hlink
    have hroot : tree.at? [] = some tree := rfl
    have horderAt : tree.nested[0]? = some order := by rw [hnested]; rfl
    have hlinkAt : tree.nested[1]? = some link := by rw [hnested]; rfl
    obtain ⟨inside, orderAlone, hinside, horderAlone, _, _, _, _, hequal⟩ :=
      ofSample_nested_alone {} htree hroot horderAt
    obtain rfl : orderEntries = inside := Option.some.inj hinside
    rw [horder] at horderAlone
    rw [horderAlone] at hinOrder
    obtain ⟨inside, linkAlone, hinside, hlinkAlone, _, _, _, hrenamed, _⟩ :=
      ofSample_nested_alone {} htree hroot hlinkAt
    obtain rfl : linkEntries = inside := Option.some.inj hinside
    rw [hlink] at hlinkAlone
    rw [hlinkAlone] at hinLink
    have hfree : ∀ c ∈ subtreesOf orderAlone.nested, c.name ∉ tree.namesTo [] := by
      have hitems : (subtreesOf orderAlone.nested).map (·.name) = ["Items"] :=
        Except.ok.inj hinOrder
      intro c hc
      have hname := hitems ▸ List.mem_map_of_mem hc
      rw [List.mem_singleton] at hname
      rw [hname, namesTo, (ofSample_scoped htree).1]
      decide
    exact ⟨tree, order, link, orderAlone, linkAlone, rfl, hnested, horderAlone, hlinkAlone,
      hequal hfree, hrenamed, Except.ok.inj hinLink, hinNestedLink⟩

end ClassTree
end JsonClasses
