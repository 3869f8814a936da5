import JsonClasses.ClassTree.Basic
import JsonClasses.Proofs.Json.Reach

/-!
# Classes of a tree
-/
namespace JsonClasses

/-- The class that a type refers to, alone or inside lists. -/
def ValueType.className? (type : ValueType) : Option String :=
  match type.innermost with
  | .named name => some name
  | .scalar _ | .list _ => none

/-- A type inside this many lists. -/
def ValueType.lists : Nat → ValueType → ValueType
  | 0, type => type
  | n + 1, type => .list (lists n type)

namespace ValueType

theorem layers_lists (n : Nat) (type : ValueType) : (lists n type).layers = n + type.layers := by
  induction n with
  | zero => rw [lists, Nat.zero_add]
  | succ n ih => rw [lists, layers, ih]; omega

theorem innermost_lists (n : Nat) (type : ValueType) :
    (lists n type).innermost = type.innermost := by
  induction n with
  | zero => rfl
  | succ n ih => rw [lists, innermost, ih]

end ValueType

namespace ClassTree

/-- Induction over a tree: a class is settled once the classes nested in it are. -/
theorem induction {motive : ClassTree → Prop}
    (step : ∀ tree : ClassTree, (∀ inner ∈ tree.nested, motive inner) → motive tree) :
    ∀ tree, motive tree
  | ⟨name, modifiers, style, properties, nested⟩ =>
      step _ fun inner hinner =>
        have : sizeOf inner < sizeOf nested := List.sizeOf_lt_of_mem hinner
        induction step inner
  termination_by tree => sizeOf tree
  decreasing_by simp_wf; omega

theorem subtrees_eq (tree : ClassTree) : tree.subtrees = tree :: subtreesOf tree.nested := by
  cases tree
  rw [subtrees]

theorem subtreesOf_eq_flatMap (trees : List ClassTree) :
    subtreesOf trees = trees.flatMap subtrees := by
  induction trees with
  | nil => rw [subtreesOf, List.flatMap_nil]
  | cons tree rest ih => rw [subtreesOf, ih, List.flatMap_cons]

theorem mem_subtreesOf {c : ClassTree} {trees : List ClassTree} :
    c ∈ subtreesOf trees ↔ ∃ tree ∈ trees, c ∈ tree.subtrees := by
  induction trees with
  | nil => simp [subtreesOf]
  | cons tree rest ih => simp [subtreesOf, ih]

/-- What holds of a class and passes from a class to those nested in it holds in the whole tree. -/
theorem forall_subtrees (good : ClassTree → Prop) {tree : ClassTree}
    (pass : ∀ c, good c → ∀ inner ∈ c.nested, good inner) (h : good tree) :
    ∀ c ∈ tree.subtrees, good c := by
  induction tree using ClassTree.induction with
  | step tree ih =>
    intro c hc
    rw [subtrees_eq, List.mem_cons, mem_subtreesOf] at hc
    obtain rfl | ⟨inner, hinner, hc⟩ := hc
    · exact h
    · exact ih inner hinner (pass tree h inner hinner) c hc

end ClassTree
end JsonClasses
