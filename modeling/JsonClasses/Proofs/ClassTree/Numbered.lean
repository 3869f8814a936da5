import JsonClasses.Proofs.ClassTree.Named

/-!
# Properties and their keys

The names of a property are made of the words of its key, with a number behind them where the key
alone clashed with an earlier property.
-/
namespace JsonClasses

/-- Whether the names are those of a candidate for the key. -/
def Property.Numbered (spellings : Spellings) (style : Style) (p : Property) : Prop :=
  Words.split p.key ≠ [] ∧ ∃ n,
    p = .ofWords spellings style p.key p.type (Words.split p.key ++ Words.suffixOf n)

variable {spellings : Spellings} {style : Style}

namespace Draft

variable {draft next : Draft} {good : Property → Prop}

theorem Standard.numbered_of_withProperty {key : String} {type : ValueType}
    (h : draft.Standard spellings) (hnext : draft.withProperty key type = .ok next) :
    ∃ p : Property, p.Numbered spellings draft.style ∧ next = draft.pushed p := by
  have hkey : Words.split key ≠ [] := by
    intro hnone
    rw [withProperty_of_no_words h.namers hnone] at hnext
    cases hnext
  obtain ⟨n, hn, _⟩ := h.withProperty type hkey
  rw [hn, Except.ok.injEq] at hnext
  exact ⟨draft.candidate spellings key type n, ⟨hkey, n, rfl⟩, hnext.symm⟩

theorem forall_subtrees_iff :
    (∀ c ∈ draft.toTree.subtrees, ∀ p ∈ c.properties, good p) ↔
      (∀ p ∈ draft.properties, good p) ∧
        ∀ inner ∈ draft.nested, ∀ c ∈ inner.subtrees, ∀ p ∈ c.properties, good p := by
  rw [ClassTree.subtrees_eq, List.forall_mem_cons]
  refine and_congr_right fun _ => ?_
  rw [ClassTree.subtreesOf_eq_flatMap, List.forall_mem_flatMap]
  rfl

theorem forall_subtrees_pushed {p : Property} (hp : good p)
    (h : ∀ c ∈ draft.toTree.subtrees, ∀ p ∈ c.properties, good p) :
    ∀ c ∈ (draft.pushed p).toTree.subtrees, ∀ p ∈ c.properties, good p := by
  obtain ⟨hproperties, hnested⟩ := forall_subtrees_iff.mp h
  rw [forall_subtrees_iff, pushed_properties, List.forall_mem_append, List.forall_mem_singleton]
  exact ⟨⟨hproperties, hp⟩, hnested⟩

theorem forall_subtrees_withNested {inner : ClassTree}
    (h : ∀ c ∈ draft.toTree.subtrees, ∀ p ∈ c.properties, good p)
    (hinner : ∀ c ∈ inner.subtrees, ∀ p ∈ c.properties, good p) :
    ∀ c ∈ (draft.withNested inner).toTree.subtrees, ∀ p ∈ c.properties, good p := by
  obtain ⟨hproperties, hnested⟩ := forall_subtrees_iff.mp h
  rw [forall_subtrees_iff, withNested, List.forall_mem_append, List.forall_mem_singleton]
  exact ⟨hproperties, hnested, hinner⟩

end Draft

namespace ClassTree

variable {name : String} {sample : Json} {tree : ClassTree}

theorem ofSample_numbered (h : ofSample (.ofSpellings spellings) style name sample = .ok tree) :
    ∀ c ∈ tree.subtrees, ∀ p ∈ c.properties, p.Numbered spellings style := by
  obtain ⟨_, _, _, draft, hdraft, rfl⟩ := ofSample_eq_ok_iff.mp h
  -- A step numbers its property where the draft is named by these spellings, so both are kept.
  let I (draft : Draft) : Prop := draft.Named spellings ∧ draft.style = style ∧
    ∀ c ∈ draft.toTree.subtrees, ∀ p ∈ c.properties, p.Numbered spellings style
  have hroot : I (rootDraft (.ofSpellings spellings) style name) := by
    refine ⟨.of_empty rfl rfl rfl, rfl, Draft.forall_subtrees_iff.mpr ⟨?_, ?_⟩⟩
    · exact List.forall_mem_nil _
    · exact List.forall_mem_nil _
  have hresult : I draft := by
    refine hdraft.invariant ?_ ?_ ?_ hroot
    · rintro draft name ⟨hnamed, hstyle, _⟩
      refine ⟨.of_empty hnamed.standard.namers rfl rfl, hstyle, ?_⟩
      rw [Draft.forall_subtrees_iff]
      exact ⟨List.forall_mem_nil _, List.forall_mem_nil _⟩
    · rintro draft inner hsame ⟨hnamed, hstyle, hdraft⟩ ⟨hinnerNamed, _, hinner⟩
      exact ⟨hnamed.withNested hinnerNamed hsame, hstyle,
        Draft.forall_subtrees_withNested hdraft hinner⟩
    · rintro draft next key type hnext ⟨hnamed, hstyle, hdraft⟩
      have hnextNamed := hnamed.of_withProperty hnext
      obtain ⟨p, hp, rfl⟩ := hnamed.standard.numbered_of_withProperty hnext
      exact ⟨hnextNamed, hstyle, Draft.forall_subtrees_pushed (hstyle ▸ hp) hdraft⟩
  exact hresult.2.2

end ClassTree
end JsonClasses
