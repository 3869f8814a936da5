import JsonClasses.Generator
import JsonClasses.Proofs.ClassTree.Named
import JsonClasses.Proofs.Naming.Alike

/-!
# Parameters of one class

A clash is looked for among fields, accessors and builder methods, not among parameters. So the
parameters of a class differ where some member with a clash of its own follows them, and under all
other settings there are two keys whose parameters are the same.
-/
namespace JsonClasses

/-- Whether equal parameters always mean a clash. -/
def Settings.keepsParametersApart (settings : Settings) : Bool :=
  settings.naming.field.alike settings.naming.parameter ||
    (settings.style.hasBuilder && settings.naming.method.alike settings.naming.parameter) ||
    (settings.style.hasSetters &&
      settings.naming.method.setterContinues settings.naming.parameter)

variable {settings : Settings}

/-! ## Parameters that are kept apart -/

theorem Property.clashesWith_of_parameter_eq (h : settings.keepsParametersApart = true)
    {key key' raw raw' : String} {type type' : ValueType} (hraw : Words.split raw ≠ [])
    (hraw' : Words.split raw' ≠ [])
    (heq : (ofWords settings.naming settings.style key type (Words.split raw)).parameter =
      (ofWords settings.naming settings.style key' type' (Words.split raw')).parameter) :
    (ofWords settings.naming settings.style key type (Words.split raw)).clashesWith
      (ofWords settings.naming settings.style key' type' (Words.split raw')) = true := by
  rw [ofWords_parameter, ofWords_parameter] at heq
  simp only [clashesWith, accessors, Bool.or_eq_true, Bool.and_eq_true, beq_iff_eq,
    List.any_eq_true, List.contains_eq_mem, decide_eq_true_eq, List.mem_append, Option.mem_toList]
  simp only [Settings.keepsParametersApart, Bool.or_eq_true, Bool.and_eq_true] at h
  -- Fields, builder methods or setters are spelled like parameters, so they are the same, too.
  obtain (hfield | ⟨hbuilder, hmethod⟩) | ⟨hsetters, hmethod⟩ := h
  · left; left
    rw [ofWords, ofWords, Spelling.identifier_eq_of_alike hfield,
      Spelling.identifier_eq_of_alike hfield, heq]
  · right
    simp only [ofWords, hbuilder, if_true, Option.isSome_some, true_and, Option.some.injEq]
    rw [Spelling.identifier_eq_of_alike hmethod, Spelling.identifier_eq_of_alike hmethod, heq]
  · left; right
    have hset := Spelling.identifier_set_eq hmethod hraw
      (fun w hw => Words.isWord_of_mem_split hw) hraw'
      (fun w hw => Words.isWord_of_mem_split hw) heq
    refine ⟨settings.naming.method.identifier ("set" :: Words.split raw), .inr ?_, .inr ?_⟩
    · simp only [ofWords, hsetters, if_true]
    · simp only [ofWords, hsetters, if_true, hset]

theorem ClassTree.Named.nodup_parameters {c : ClassTree}
    (hc : c.Named settings.naming settings.style) (h : settings.keepsParametersApart = true) :
    (c.properties.map (·.parameter)).Nodup := by
  rw [List.Nodup, List.pairwise_map]
  refine hc.apart.imp_of_mem fun {p q} hp hq hapart heq => ?_
  obtain ⟨raw, hraw, hp⟩ := hc.words p hp
  obtain ⟨raw', hraw', hq⟩ := hc.words q hq
  rw [hp, hq] at hapart heq
  rw [Property.clashesWith_of_parameter_eq h hraw' hraw heq.symm] at hapart
  cases hapart

/-! ## Parameters that collide -/

/-- Two keys whose parameters are the same in this spelling. The symbol `ϴ` has the small letter
of `Θ`, and the dotless `ı` the capital of `i`. -/
def collidingKeys : Spelling → String × String
  | .lowerCamel => ("θ_1", "ϴ1")
  | .upperCamel => ("ı_1", "i1")
  | .lowerSnake | .kebab => ("a_θ", "a_ϴ")
  | .upperSnake => ("aı", "ai")

/-- The words of the two keys. -/
def collidingWords : Spelling → List String × List String
  | .lowerCamel => (["θ", "1"], ["ϴ1"])
  | .upperCamel => (["ı", "1"], ["i1"])
  | .lowerSnake | .kebab => (["a", "θ"], ["a", "ϴ"])
  | .upperSnake => (["aı"], ["ai"])

theorem split_collidingKeys (spelling : Spelling) :
    Words.split (collidingKeys spelling).1 = (collidingWords spelling).1 ∧
      Words.split (collidingKeys spelling).2 = (collidingWords spelling).2 := by
  cases spelling <;> decide

theorem split_collidingKeys_ne_nil (spelling : Spelling) :
    Words.split (collidingKeys spelling).1 ≠ [] ∧ Words.split (collidingKeys spelling).2 ≠ [] := by
  rw [(split_collidingKeys spelling).1, (split_collidingKeys spelling).2]
  cases spelling <;> decide

theorem identifier_colliding (spelling : Spelling) :
    spelling.identifier (collidingWords spelling).1 =
      spelling.identifier (collidingWords spelling).2 := by
  cases spelling <;> decide +kernel

theorem identifier_apart {spelling parameter : Spelling} (h : spelling.alike parameter = false) :
    spelling.identifier (collidingWords parameter).1 ≠
      spelling.identifier (collidingWords parameter).2 := by
  revert h
  cases parameter <;> cases spelling <;> decide

/-- The getters say `is` and `get`. -/
theorem getter_apart (method parameter : Spelling) :
    method.identifier (Member.getterWords (collidingWords parameter).1 (.scalar .boolean)) ≠
      method.identifier (Member.getterWords (collidingWords parameter).2 .anyObject) := by
  have hboolean : Member.getterWords (collidingWords parameter).1 (.scalar .boolean) =
      "is" :: (collidingWords parameter).1 := by
    cases parameter <;> decide
  have hother : Member.getterWords (collidingWords parameter).2 .anyObject =
      "get" :: (collidingWords parameter).2 := rfl
  obtain ⟨head, his, hhead⟩ := Member.exists_head_identifier method (collidingWords parameter).1
    (show "is".toList = 'i' :: ['s'] from rfl) (by decide)
  obtain ⟨head', hget, hhead'⟩ := Member.exists_head_identifier method
    (collidingWords parameter).2 (show "get".toList = 'g' :: ['e', 't'] from rfl) (by decide)
  rw [hboolean, hother]
  -- One getter starts with `i` and the other with `g`, in either case of letters.
  intro heq
  rw [heq, hget, Option.some.injEq] at his
  subst his
  obtain rfl | rfl := hhead' <;> revert hhead <;> decide

theorem setter_apart {method parameter : Spelling} (h : method.setterContinues parameter = false) :
    method.identifier ("set" :: (collidingWords parameter).1) ≠
      method.identifier ("set" :: (collidingWords parameter).2) := by
  revert h
  cases parameter <;> cases method <;> decide

/-- The property of a key of the two, named after the key itself. -/
def collidingProperty (settings : Settings) (key : String) (type : ValueType) : Property :=
  .ofWords settings.naming settings.style key type (Words.split key)

theorem clashesWith_colliding (h : settings.keepsParametersApart = false) :
    (collidingProperty settings (collidingKeys settings.naming.parameter).2 .anyObject).clashesWith
      (collidingProperty settings (collidingKeys settings.naming.parameter).1 (.scalar .boolean)) =
        false := by
  obtain ⟨hfirst, hsecond⟩ := split_collidingKeys settings.naming.parameter
  simp only [Settings.keepsParametersApart, Bool.or_eq_false_iff] at h
  obtain ⟨⟨hfield, hbuilder⟩, hsetter⟩ := h
  rw [collidingProperty, collidingProperty, hfirst, hsecond]
  by_contra hclash
  rw [Bool.not_eq_false] at hclash
  obtain ⟨m, name, hnew, hold⟩ := Property.exists_member_of_clashesWith hclash
  rw [Property.member?_ofWords, Option.ite_none_right_eq_some, Option.some.injEq] at hnew hold
  have heq := hold.2.trans hnew.2.symm
  -- Setters and builder methods count only where the style writes them.
  cases m with
  | field => exact identifier_apart hfield heq
  | getter => exact getter_apart _ _ heq
  | setter =>
    have hwritten : settings.style.hasSetters = true := hold.1
    rw [hwritten, Bool.true_and] at hsetter
    exact setter_apart hsetter heq
  | builderMethod =>
    have hwritten : settings.style.hasBuilder = true := hold.1
    rw [hwritten, Bool.true_and] at hbuilder
    exact identifier_apart hbuilder heq

theorem parameter_colliding (settings : Settings) (type type' : ValueType) :
    (collidingProperty settings (collidingKeys settings.naming.parameter).1 type).parameter =
      (collidingProperty settings (collidingKeys settings.naming.parameter).2 type').parameter := by
  obtain ⟨hfirst, hsecond⟩ := split_collidingKeys settings.naming.parameter
  rw [collidingProperty, collidingProperty, Property.ofWords_parameter,
    Property.ofWords_parameter, hfirst, hsecond, identifier_colliding]

namespace ClassTree

theorem exists_colliding_parameters (h : settings.keepsParametersApart = false) :
    ∃ sample tree, ofSample (.ofSpellings settings.naming) settings.style "Root" sample =
        .ok tree ∧ ¬ (tree.properties.map (·.parameter)).Nodup := by
  obtain ⟨hwords, hwords'⟩ := split_collidingKeys_ne_nil settings.naming.parameter
  have hclash := clashesWith_colliding h
  have hsame := parameter_colliding settings (.scalar .boolean) .anyObject
  generalize (collidingKeys settings.naming.parameter).1 = key at hwords hclash hsame
  generalize (collidingKeys settings.naming.parameter).2 = key' at hwords' hclash hsame
  let root := rootDraft (.ofSpellings settings.naming) settings.style "Root"
  let first := collidingProperty settings key (.scalar .boolean)
  let second := collidingProperty settings key' .anyObject
  have hfirst : root.withProperty key (.scalar .boolean) = .ok (root.pushed first) :=
    Draft.withProperty_of_words rfl hwords rfl
  have hsecond : (root.pushed first).withProperty key' .anyObject =
      .ok ((root.pushed first).pushed second) := by
    refine Draft.withProperty_of_words rfl hwords' ?_
    change ([first].any fun earlier => second.clashesWith earlier) = false
    rw [List.any_cons, hclash, List.any_nil, Bool.or_false]
  have hroot : Java.isIdentifier "Root" = true := by decide
  have hfree : settings.style.occupies "Root" = false := by
    cases settings.style <;> decide
  -- The types of the two values differ, so that the getters do.
  refine ⟨.object [(key, .bool true), (key', .null)], _, ofSample_eq_ok_iff.mpr
    ⟨rfl, hroot, hfree, _, .leaf rfl hfirst (.leaf rfl hsecond .done), rfl⟩, ?_⟩
  change ¬ [first.parameter, second.parameter].Nodup
  rw [show first.parameter = second.parameter from hsame]
  exact fun hnodup => (List.nodup_cons.mp hnodup).1 (List.mem_singleton_self _)

theorem parameters_nodup_iff (settings : Settings) :
    (∀ className sample tree,
      ofSample (.ofSpellings settings.naming) settings.style className sample = .ok tree →
        ∀ c ∈ tree.subtrees, (c.properties.map (·.parameter)).Nodup) ↔
      settings.keepsParametersApart = true := by
  constructor
  · intro hall
    by_contra h
    rw [Bool.not_eq_true] at h
    obtain ⟨sample, tree, htree, hparameters⟩ := exists_colliding_parameters h
    have hself : tree ∈ tree.subtrees := by
      rw [subtrees_eq]
      exact List.mem_cons_self
    exact hparameters (hall _ _ _ htree tree hself)
  · intro h className sample tree htree c hc
    exact (ofSample_named htree c hc).nodup_parameters h

/-- With fields and methods in `lower-snake` these keys are apart, but the parameters are not. -/
theorem same_parameters :
    ((Generator.withSettings {}
        { naming := { field := .lowerSnake, method := .lowerSnake } }).classTree "Root"
          "\x7b\"a_1\":\"x\",\"a1\":\"y\"\x7d" .model).toOption.map
        (fun tree => tree.properties.map fun p => (p.field, p.parameter)) =
      some [("a_1", "a1"), ("a1", "a1")] := by
  decide +kernel

end ClassTree
end JsonClasses
