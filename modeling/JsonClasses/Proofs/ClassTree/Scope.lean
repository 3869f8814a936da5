import JsonClasses.Proofs.ClassTree.Run

/-!
# Names in scope

The names of a class and of the classes around it are in scope where its nested classes stand. No
nested class takes one of them, nor the name of a sibling, nor one that the style occupies.
-/
namespace JsonClasses

theorem Style.occupies_builderName {style : Style} (h : style.hasBuilder = true) :
    style.occupies builderName = true := by
  cases style <;> first | rfl | cases h

theorem Style.not_builderName_of_free {style : Style} {name : String}
    (h : style.occupies name = false) : (style.hasBuilder && name == builderName) = false := by
  rw [Bool.and_eq_false_iff, beq_eq_false_iff_ne, or_iff_not_imp_left, Bool.not_eq_false]
  rintro hbuilder rfl
  rw [occupies_builderName hbuilder] at h
  cases h

namespace ClassTree

inductive Scoped (style : Style) : List String → ClassTree → Prop
  | intro {scope : List String} {c : ClassTree} (same : c.style = style)
      (apart : (c.nested.map (·.name)).Nodup)
      (fresh : ∀ inner ∈ c.nested, inner.name ∉ scope ∧ style.occupies inner.name = false)
      (inside : ∀ inner ∈ c.nested, Scoped style (scope ++ [inner.name]) inner) :
      Scoped style scope c

namespace Scoped

variable {style : Style} {scope : List String} {c : ClassTree}

theorem same (h : Scoped style scope c) : c.style = style := by
  cases h with
  | intro same _ _ _ => exact same

theorem apart (h : Scoped style scope c) : (c.nested.map (·.name)).Nodup := by
  cases h with
  | intro _ apart _ _ => exact apart

theorem fresh (h : Scoped style scope c) {inner : ClassTree} (hinner : inner ∈ c.nested) :
    inner.name ∉ scope ∧ style.occupies inner.name = false := by
  cases h with
  | intro _ _ fresh _ => exact fresh inner hinner

theorem inside (h : Scoped style scope c) {inner : ClassTree} (hinner : inner ∈ c.nested) :
    Scoped style (scope ++ [inner.name]) inner := by
  cases h with
  | intro _ _ _ inside => exact inside inner hinner

theorem exists_scope_of_subtree (h : Scoped style scope c) :
    ∀ d ∈ c.subtrees, ∃ scope, Scoped style scope d := by
  apply forall_subtrees fun d => ∃ scope, Scoped style scope d
  · rintro d ⟨scope, hd⟩ inner hinner
    exact ⟨_, hd.inside hinner⟩
  · exact ⟨scope, h⟩

theorem of_leaf {draft : Draft} (hstyle : draft.style = style) (hnested : draft.nested = []) :
    Scoped style scope draft.toTree := by
  refine .intro hstyle ?_ ?_ ?_
  · rw [show draft.toTree.nested = [] from hnested]
    exact List.nodup_nil
  all_goals
    intro inner hinner
    rw [show draft.toTree.nested = [] from hnested] at hinner
    cases hinner

theorem pushed {draft : Draft} (h : Scoped style scope draft.toTree) (property : Property) :
    Scoped style scope (draft.pushed property).toTree :=
  .intro h.same h.apart (fun _ => h.fresh) (fun _ => h.inside)

theorem withNested {draft : Draft} {inner : ClassTree} (h : Scoped style scope draft.toTree)
    (hname : inner.name ∉ scope ∧ style.occupies inner.name = false ∧
      inner.name ∉ draft.nested.map (·.name))
    (hinner : Scoped style (scope ++ [inner.name]) inner) :
    Scoped style scope (draft.withNested inner).toTree := by
  -- The classes are those there were and the new one.
  have hsplit {tree : ClassTree} (ht : tree ∈ (draft.withNested inner).toTree.nested) :
      tree ∈ draft.toTree.nested ∨ tree = inner := by
    simpa [Draft.withNested, Draft.toTree] using ht
  refine .intro h.same ?_ (fun tree ht => ?_) (fun tree ht => ?_)
  · have hnodup : (draft.nested.map (·.name)).Nodup := h.apart
    simp only [Draft.withNested, Draft.toTree, List.map_append, List.map_cons, List.map_nil]
    exact hnodup.append (List.nodup_singleton _)
      (List.disjoint_singleton.mpr hname.2.2)
  · obtain ht | rfl := hsplit ht
    · exact h.fresh ht
    · exact ⟨hname.1, hname.2.1⟩
  · obtain ht | rfl := hsplit ht
    · exact h.inside ht
    · exact hinner

end Scoped

theorem Takes.scoped {enclosing : List String} {draft result : Draft}
    {entries : List (String × Json)} (h : Takes enclosing draft entries result)
    (hdraft : Scoped draft.style enclosing draft.toTree) :
    Scoped draft.style enclosing result.toTree := by
  induction h with
  | done => exact hdraft
  | leaf _ hnext _ ih =>
    obtain ⟨_, property, _, _, rfl⟩ := Draft.exists_of_withProperty hnext
    exact ih (hdraft.pushed property)
  -- Inside the nested class its own name is in scope too, and no class is nested there yet.
  | object _ hname hwithin hnext _ ihWithin ih =>
    obtain ⟨_, property, _, _, rfl⟩ := Draft.exists_of_withProperty hnext
    have hinner := ihWithin (.of_leaf rfl rfl)
    have hsame := hwithin.keeps.1
    rw [Draft.inner_name] at hsame
    apply ih
    apply Scoped.pushed
    apply hdraft.withNested
    · rw [show ∀ d : Draft, d.toTree.name = d.name from fun _ => rfl, hsame]
      exact Draft.nameForNested_fresh hname
    · rw [show ∀ d : Draft, d.toTree.name = d.name from fun _ => rfl, hsame]
      exact hinner

/-- In a class tree from a sample the names are chosen with respect to their scopes. -/
theorem ofSample_scoped {namers : Namers} {style : Style} {name : String} {sample : Json}
    {tree : ClassTree} (h : ofSample namers style name sample = .ok tree) :
    tree.name = name ∧ Scoped style [name] tree := by
  obtain ⟨_, _, _, draft, hdraft, rfl⟩ := ofSample_eq_ok_iff.mp h
  exact ⟨hdraft.keeps.1, hdraft.scoped (.of_leaf rfl rfl)⟩

end ClassTree
end JsonClasses
