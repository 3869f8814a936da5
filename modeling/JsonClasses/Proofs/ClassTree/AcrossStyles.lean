import JsonClasses.Proofs.ClassTree.TypeTree
import JsonClasses.Proofs.Generator.Outcome

/-!
# One document in two styles

The style decides which names are taken for classes, so two styles may name nested classes
differently, and below such a class the scopes differ too. All else about the types is the same,
and so are the names where no class has a name that only some styles occupy.
-/
namespace JsonClasses

/-- Names that some styles occupy and others leave free. -/
def Style.optionalNames : List String :=
  [builderName, "SerializedName", "JsonCreator", "JsonProperty"]

theorem Style.occupies_eq_of_not_optional {name : String} (h : name ∉ optionalNames)
    (style style' : Style) : style.occupies name = style'.occupies name := by
  have hcommon : ∀ style : Style, style.occupies name = Style.model.occupies name := by
    intro style
    simp only [optionalNames, List.mem_cons, List.not_mem_nil, or_false, not_or] at h
    obtain ⟨hbuilder, hserialized, hcreator, hproperty⟩ := h
    cases style <;>
      simp [occupies, occupiedNames, hasBuilder, annotations?, Annotations.typeNames, hbuilder,
        hserialized, hcreator, hproperty]
  rw [hcommon style, hcommon style']

namespace Draft

/-- Two drafts with the same types so far, for which the same names are taken, apart from those in
`differing`. -/
structure Alike (differing enclosing enclosing' : List String) (draft draft' : Draft) : Prop where
  namers : draft.namers = draft'.namers
  typeTree : draft.toTree.typeTree = draft'.toTree.typeTree
  taken : ∀ name, name ∉ differing →
    (draft.style.occupies name || enclosing.contains name) =
      (draft'.style.occupies name || enclosing'.contains name)

variable {draft draft' next next' : Draft} {differing enclosing enclosing' : List String}
  {key name name' : String} {type : ValueType}

namespace Alike

theorem name_eq (h : Alike differing enclosing enclosing' draft draft') :
    draft.name = draft'.name := by
  have hname := congrArg TypeTree.name h.typeTree
  rwa [ClassTree.typeTree_name, ClassTree.typeTree_name] at hname

theorem map_name_nested (h : Alike differing enclosing enclosing' draft draft') :
    draft.nested.map (·.name) = draft'.nested.map (·.name) := by
  have hnested := congrArg (fun tree => tree.nested.map (·.name)) h.typeTree
  simp only [ClassTree.typeTree_nested, ClassTree.map_name_typeTree] at hnested
  exact hnested

theorem refuses_eq (h : Alike differing enclosing enclosing' draft draft')
    (hname : name ∉ differing) :
    (draft.forbidsNested name || enclosing.contains name) =
      (draft'.forbidsNested name || enclosing'.contains name) := by
  have hnested : (draft.nested.any fun inner => inner.name == name) =
      draft'.nested.any fun inner => inner.name == name := by
    have hany := congrArg (List.any · (· == name)) h.map_name_nested
    simp only [List.any_map] at hany
    exact hany
  have htaken := h.taken name hname
  rw [forbidsNested, forbidsNested, h.name_eq, hnested]
  -- What is left is the order of the disjunction.
  revert htaken
  cases name == draft'.name <;> cases draft'.nested.any fun inner => inner.name == name <;> simp

/-- Where each search ends, the other one cannot have passed. -/
theorem nameForNested_eq (h : Alike differing enclosing enclosing' draft draft')
    (hsearch : draft.nameForNested enclosing key = .ok name)
    (hsearch' : draft'.nameForNested enclosing' key = .ok name')
    (hname : name ∉ differing) (hname' : name' ∉ differing) : name = name' := by
  obtain ⟨n, _, hmade, hfree, hbefore⟩ := Candidates.search_eq_ok_iff.mp hsearch
  obtain ⟨n', _, hmade', hfree', hbefore'⟩ := Candidates.search_eq_ok_iff.mp hsearch'
  simp only [h.namers] at hmade hbefore
  -- The later of two searches has passed what the earlier one found free, and both drafts agree on
  -- that name.
  obtain hlt | heq | hlt := Nat.lt_trichotomy n n'
  · obtain ⟨passed, hpassed, htaken⟩ := hbefore' n hlt
    obtain rfl := Except.ok.inj (hmade.symm.trans hpassed)
    rw [h.refuses_eq hname, htaken] at hfree
    cases hfree
  · subst heq
    exact Except.ok.inj (hmade.symm.trans hmade')
  · obtain ⟨passed, hpassed, htaken⟩ := hbefore n' hlt
    obtain rfl := Except.ok.inj (hmade'.symm.trans hpassed)
    rw [← h.refuses_eq hname', htaken] at hfree'
    cases hfree'

theorem of_withProperty (h : Alike differing enclosing enclosing' draft draft')
    (hnext : draft.withProperty key type = .ok next)
    (hnext' : draft'.withProperty key type = .ok next') :
    Alike differing enclosing enclosing' next next' := by
  obtain ⟨_, property, hproperty, _, rfl⟩ := exists_of_withProperty hnext
  obtain ⟨_, property', hproperty', _, rfl⟩ := exists_of_withProperty hnext'
  obtain ⟨hkey, htype, _⟩ := propertyFrom_eq_ok_iff.mp hproperty
  obtain ⟨hkey', htype', _⟩ := propertyFrom_eq_ok_iff.mp hproperty'
  refine ⟨h.namers, ?_, h.taken⟩
  have htree := h.typeTree
  simp only [ClassTree.typeTree_eq, toTree, TypeTree.mk.injEq] at htree ⊢
  obtain ⟨hname, hproperties, hnested⟩ := htree
  refine ⟨hname, ?_, hnested⟩
  rw [pushed_properties, pushed_properties, List.map_append, List.map_append, hproperties]
  simp only [List.map_singleton, hkey, htype, hkey', htype']

theorem withNested (h : Alike differing enclosing enclosing' draft draft')
    {tree tree' : ClassTree} (htree : tree.typeTree = tree'.typeTree) :
    Alike differing enclosing enclosing' (draft.withNested tree) (draft'.withNested tree') := by
  refine ⟨h.namers, ?_, h.taken⟩
  have hbefore := h.typeTree
  simp only [ClassTree.typeTree_eq, toTree, Draft.withNested, TypeTree.mk.injEq] at hbefore ⊢
  obtain ⟨hname, hproperties, hnested⟩ := hbefore
  refine ⟨hname, hproperties, ?_⟩
  rw [List.map_append, List.map_append, hnested, List.map_singleton, List.map_singleton, htree]

theorem inner (h : Alike differing enclosing enclosing' draft draft') (name : String) :
    Alike differing (enclosing ++ [name]) (enclosing' ++ [name]) (draft.inner name)
      (draft'.inner name) := by
  refine ⟨h.namers, rfl, fun other hother => ?_⟩
  have htaken := h.taken other hother
  simp only [inner_style, List.contains_append, ← Bool.or_assoc, htaken]

end Alike

end Draft

namespace ClassTree

variable {differing enclosing enclosing' : List String} {draft draft' result result' : Draft}
  {entries : List (String × Json)}

/-- A nested class stays until the end of the run that attached it, with all classes inside it. -/
theorem Takes.mem_subtreesOf {tree c : ClassTree} {next : Draft} {key : String} {type : ValueType}
    (h : Takes enclosing next entries result)
    (hnext : (draft.withNested tree).withProperty key type = .ok next) (hc : c ∈ tree.subtrees) :
    c ∈ subtreesOf result.nested := by
  obtain ⟨_, property, _, _, rfl⟩ := Draft.exists_of_withProperty hnext
  obtain ⟨_, more, _, hnested, _⟩ := h.mirrors
  rw [ClassTree.mem_subtreesOf]
  refine ⟨tree, ?_, hc⟩
  rw [hnested]
  apply List.mem_append_left
  exact List.mem_append_right draft.nested (List.mem_singleton_self tree)

/-- Two runs over the same entries keep in step, unless a class gets a name about which they
differ. -/
theorem Takes.alike (h : Takes enclosing draft entries result)
    (h' : Takes enclosing' draft' entries result')
    (halike : Draft.Alike differing enclosing enclosing' draft draft')
    (hnames : ∀ c ∈ subtreesOf result.nested, c.name ∉ differing)
    (hnames' : ∀ c ∈ subtreesOf result'.nested, c.name ∉ differing) :
    Draft.Alike differing enclosing enclosing' result result' := by
  induction h generalizing enclosing' draft' result' with
  | done =>
    cases h'
    exact halike
  | leaf hreaches hnext _ ih =>
    cases h' with
    | leaf _ hnext' hrest' => exact ih hrest' (halike.of_withProperty hnext hnext') hnames hnames'
    | object hreaches' => rw [hreaches] at hreaches'; cases hreaches'
  | @object _ _ inner _ _ _ name _ _ _ hreaches hname hwithin hnext hrest ihWithin ih =>
    cases h' with
    | leaf hreaches' => rw [hreaches] at hreaches'; cases hreaches'
    | @object _ _ inner' _ _ _ name' _ _ _ hreaches' hname' hwithin' hnext' hrest' =>
      rw [hreaches, Option.some.injEq] at hreaches'
      subst hreaches'
      have hinside : ∀ c ∈ inner.toTree.subtrees, c.name ∉ differing :=
        fun c hc => hnames c (hrest.mem_subtreesOf hnext hc)
      have hinside' : ∀ c ∈ inner'.toTree.subtrees, c.name ∉ differing :=
        fun c hc => hnames' c (hrest'.mem_subtreesOf hnext' hc)
      simp only [subtrees_eq, List.forall_mem_cons] at hinside hinside'
      -- Both searches end outside `differing`, so at one name.
      have hself : inner.toTree.name = name := hwithin.keeps.1
      have hself' : inner'.toTree.name = name' := hwithin'.keeps.1
      rw [hself] at hinside
      rw [hself'] at hinside'
      obtain rfl := halike.nameForNested_eq hname hname' hinside.1 hinside'.1
      have hinner := ihWithin hwithin' (halike.inner name) hinside.2 hinside'.2
      have hgrown := halike.withNested hinner.typeTree
      exact ih hrest' (hgrown.of_withProperty hnext hnext') hnames hnames'

/-! ## Two styles -/

theorem documentFault?_eq {style style' : Style} {name : String}
    (h : style.occupies name = false) (h' : style'.occupies name = false) (sample : Json) :
    documentFault? style name sample = documentFault? style' name sample := by
  rw [documentFault?, documentFault?, h, h']

theorem typeTree_eq_of_styles {namers : Namers} {style style' : Style} {name : String}
    {sample : Json} {tree tree' : ClassTree}
    (h : ofSample namers style name sample = .ok tree)
    (h' : ofSample namers style' name sample = .ok tree')
    (hnames : ∀ c ∈ tree.subtrees ++ tree'.subtrees, c.name ∉ Style.optionalNames) :
    tree.typeTree = tree'.typeTree := by
  obtain ⟨_, _, _, draft, hdraft, rfl⟩ := ofSample_eq_ok_iff.mp h
  obtain ⟨_, _, _, draft', hdraft', rfl⟩ := ofSample_eq_ok_iff.mp h'
  rw [List.forall_mem_append, subtrees_eq, subtrees_eq, List.forall_mem_cons,
    List.forall_mem_cons] at hnames
  obtain ⟨⟨_, hnames⟩, ⟨_, hnames'⟩⟩ := hnames
  have hroot : Draft.Alike Style.optionalNames [name] [name] (rootDraft namers style name)
      (rootDraft namers style' name) := by
    refine ⟨rfl, rfl, fun other hother => ?_⟩
    rw [Style.occupies_eq_of_not_optional hother (rootDraft namers style name).style]
  exact (hdraft.alike hdraft' hroot hnames hnames').typeTree

theorem ofSample_styles (spellings : Spellings) {style style' : Style} {name : String}
    (h : style.occupies name = false) (h' : style'.occupies name = false) (sample : Json) :
    match ofSample (.ofSpellings spellings) style name sample,
      ofSample (.ofSpellings spellings) style' name sample with
    | .error e, .error e' => e = e'
    | .ok tree, .ok tree' =>
        tree.name = tree'.name ∧ tree.typeTree.Renamed tree'.typeTree ∧
          ((∀ c ∈ tree.subtrees ++ tree'.subtrees, c.name ∉ Style.optionalNames) →
            tree.typeTree = tree'.typeTree)
    | _, _ => False := by
  have hends := ofSample_ends spellings style name sample
  have hends' := ofSample_ends spellings style' name sample
  rw [← documentFault?_eq h h' sample] at hends'
  -- Both runs end alike: the faults of a document do not depend on a style that leaves the name
  -- free.
  cases hfault : documentFault? style name sample with
  | some e =>
    rw [hfault] at hends hends'
    rw [show ofSample _ _ _ _ = .error e from hends, show ofSample _ _ _ _ = .error e from hends']
  | none =>
    rw [hfault] at hends hends'
    obtain ⟨tree, htree⟩ := hends
    obtain ⟨tree', htree'⟩ := hends'
    simp only [htree, htree']
    obtain ⟨hname, hscoped⟩ := ofSample_scoped htree
    obtain ⟨hname', hscoped'⟩ := ofSample_scoped htree'
    have hrenamed := (mirrors_of_ofSample htree).renamed (mirrors_of_ofSample htree') hscoped hscoped'
    exact ⟨hname.trans hname'.symm, hrenamed, typeTree_eq_of_styles htree htree'⟩

/-- A key that reads like the builder: the style with builders needs another name for its class. -/
theorem ofSample_styles_builder_key :
    Style.builder.occupies "Root" = false ∧ Style.model.occupies "Root" = false ∧
      ∃ tree tree',
        ofSample (.ofSpellings {}) .builder "Root" (.object [("builder", .object [("x", .null)]),
          ("rows", .array [.object []])]) = .ok tree ∧
        ofSample (.ofSpellings {}) .model "Root" (.object [("builder", .object [("x", .null)]),
          ("rows", .array [.object []])]) = .ok tree' ∧
        tree.nested.map (·.name) = ["Builder2", "Rows"] ∧
        tree'.nested.map (·.name) = ["Builder", "Rows"] ∧
        tree.typeTree.Renamed tree'.typeTree := by
  have hfree : Style.builder.occupies "Root" = false := by decide
  have hfree' : Style.model.occupies "Root" = false := by decide
  obtain ⟨tree, htree, hnames⟩ : ∃ tree, ofSample (.ofSpellings {}) .builder "Root" (.object
      [("builder", .object [("x", .null)]), ("rows", .array [.object []])]) = .ok tree ∧
      tree.nested.map (·.name) = ["Builder2", "Rows"] := ⟨_, rfl, by decide +kernel⟩
  obtain ⟨tree', htree', hnames'⟩ : ∃ tree, ofSample (.ofSpellings {}) .model "Root" (.object
      [("builder", .object [("x", .null)]), ("rows", .array [.object []])]) = .ok tree ∧
      tree.nested.map (·.name) = ["Builder", "Rows"] := ⟨_, rfl, by decide +kernel⟩
  have hboth := ofSample_styles {} hfree hfree'
    (.object [("builder", .object [("x", .null)]), ("rows", .array [.object []])])
  rw [htree, htree'] at hboth
  exact ⟨hfree, hfree', tree, tree', htree, htree', hnames, hnames', hboth.2.1⟩

end ClassTree
end JsonClasses
