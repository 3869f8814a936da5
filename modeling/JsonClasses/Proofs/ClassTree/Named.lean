import JsonClasses.Proofs.ClassTree.Run
import JsonClasses.Proofs.ClassTree.Standard

/-!
# Classes with standard names

In every class of a tree each property got all its names from one raw name, and no two properties
clash.
-/
namespace JsonClasses

structure ClassTree.Named (spellings : Spellings) (style : Style) (c : ClassTree) : Prop where
  words : ∀ p ∈ c.properties, ∃ raw, Words.split raw ≠ [] ∧
    p = .ofWords spellings style p.key p.type (Words.split raw)
  apart : c.properties.Pairwise fun earlier p => p.clashesWith earlier = false

/-- The same of a class under construction and of the classes inside those nested in it. -/
structure Draft.Named (spellings : Spellings) (draft : Draft) : Prop where
  standard : draft.Standard spellings
  apart : draft.properties.Pairwise fun earlier p => p.clashesWith earlier = false
  inside : ∀ inner ∈ draft.nested, ∀ c ∈ inner.subtrees, c.Named spellings draft.style

namespace Draft.Named

variable {spellings : Spellings} {draft : Draft}

theorem of_empty (hnamers : draft.namers = .ofSpellings spellings)
    (hproperties : draft.properties = []) (hnested : draft.nested = []) : draft.Named spellings := by
  refine ⟨⟨hnamers, ?_⟩, ?_, ?_⟩
  · simp [hproperties]
  · simp [hproperties]
  · simp [hnested]

theorem subtrees (h : draft.Named spellings) :
    ∀ c ∈ draft.toTree.subtrees, c.Named spellings draft.style := by
  intro c hc
  rw [ClassTree.subtrees_eq, List.mem_cons, ClassTree.mem_subtreesOf] at hc
  obtain rfl | ⟨inner, hinner, hc⟩ := hc
  · exact ⟨h.standard.properties, h.apart⟩
  · exact h.inside inner hinner c hc

theorem withNested (h : draft.Named spellings) {inner : Draft} (hinner : inner.Named spellings)
    (hstyle : inner.style = draft.style) : (draft.withNested inner.toTree).Named spellings := by
  refine ⟨h.standard.withNested inner.toTree, h.apart, fun tree htree => ?_⟩
  obtain htree | htree := List.mem_append.mp htree
  · exact h.inside tree htree
  · rw [List.mem_singleton.mp htree]
    exact hstyle ▸ hinner.subtrees

theorem of_withProperty (h : draft.Named spellings) {key : String} {type : ValueType}
    {next : Draft} (hnext : draft.withProperty key type = .ok next) : next.Named spellings := by
  obtain ⟨raw, hraw, hfree, rfl⟩ := h.standard.exists_of_withProperty hnext
  refine ⟨h.standard.pushed hraw, ?_, h.inside⟩
  rw [pushed_properties, List.pairwise_append]
  refine ⟨h.apart, List.pairwise_singleton _ _, fun earlier hearlier p hp => ?_⟩
  rw [List.mem_singleton.mp hp]
  simpa using List.any_eq_false.mp hfree earlier hearlier

end Draft.Named

namespace ClassTree

variable {spellings : Spellings} {style : Style} {name : String} {sample : Json} {tree : ClassTree}

theorem Takes.named {enclosing : List String} {draft result : Draft}
    {entries : List (String × Json)} (h : Takes enclosing draft entries result)
    (hdraft : draft.Named spellings) : result.Named spellings := by
  -- A nested class starts empty, so it needs nothing of the draft around it but the namers.
  refine h.invariant (fun draft _ hdraft => .of_empty hdraft.standard.namers rfl rfl)
    (fun draft inner hstyle hdraft hinner => hdraft.withNested hinner hstyle)
    (fun draft next key type hnext hdraft => hdraft.of_withProperty hnext) hdraft

theorem ofSample_named (h : ofSample (.ofSpellings spellings) style name sample = .ok tree) :
    ∀ c ∈ tree.subtrees, c.Named spellings style := by
  obtain ⟨_, _, _, draft, hdraft, rfl⟩ := ofSample_eq_ok_iff.mp h
  have hroot : (rootDraft (.ofSpellings spellings) style name).Named spellings :=
    .of_empty rfl rfl rfl
  have hnamed := (hdraft.named hroot).subtrees
  rwa [hdraft.keeps.2.1] at hnamed

end ClassTree
end JsonClasses
