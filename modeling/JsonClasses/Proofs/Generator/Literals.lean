import Mathlib
import JsonClasses.Proofs.ClassTree.Mirror
import JsonClasses.Proofs.Generator.Outcome
import JsonClasses.Proofs.Java.Annotation

/-!
# Keys in the generated source

The only string literals of a generated source are the names in its annotations. Read back, they are
the keys of the document, whatever characters the keys have.
-/
namespace JsonClasses
open ClassTree

variable {reader : String → Except Json.SyntaxError Json} {settings : Settings}
  {package className text source : String}

theorem flatMap_annotatedKeys {style : Style} {trees : List ClassTree}
    (h : ∀ c ∈ trees, c.style = style) :
    trees.flatMap Java.annotatedKeys =
      if style = .gson ∨ style = .jackson then trees.flatMap keys else [] := by
  cases style with
  | gson | jackson =>
    rw [if_pos (by decide)]
    apply List.flatMap_congr
    intro c hc
    rw [Java.annotatedKeys, h c hc]
    rfl
  | model | bean | builder =>
    rw [if_neg (by decide), List.flatMap_eq_nil_iff]
    intro c hc
    rw [Java.annotatedKeys, h c hc]
    rfl

/-- Class by class, each with its keys in the order of its object. A key that ended its literal
early or ran over the end of a line would be read as something else, or not at all. -/
theorem generate_literals
    (h : (Generator.ofReader reader settings).generate package className text = .ok source) :
    ∃ sample tree,
      reader text = .ok sample ∧
      ofSample (.ofSpellings settings.naming) settings.style className sample = .ok tree ∧
      Mirrors tree (sample.reachedObject?.getD []) ∧
      Java.literals? source = some
        (if settings.style = .gson ∨ settings.style = .jackson then tree.subtrees.flatMap keys
        else []) := by
  obtain ⟨sample, tree, hread, htree, hrender⟩ := exists_of_generate h
  have hlegal : ∀ c ∈ tree.subtrees, c.Legal :=
    ofSample_legal (Namers.ofSpellings_legal settings.naming) htree
  have hliterals : Java.literals? source = some (tree.subtrees.flatMap Java.annotatedKeys) :=
    Java.literals?_of_render hlegal hrender
  -- The classes all have the style of the settings, so one question decides for all of them.
  have hstyle : ∀ c ∈ tree.subtrees, c.style = settings.style := by
    intro c hc
    obtain ⟨scope, hscoped⟩ := (ofSample_scoped htree).2.exists_scope_of_subtree c hc
    exact hscoped.same
  rw [flatMap_annotatedKeys hstyle] at hliterals
  exact ⟨sample, tree, hread, htree, mirrors_of_ofSample htree, hliterals⟩

/-- One key would end its literal and start a Unicode escape, the other has a control character with
a digit behind it. -/
theorem generate_literals_escapes :
    ∃ source, (Generator.ofReader Json.read { style := .gson }).generate "a.b" "Root"
        "\x7b\"a\\\"\\\\u0022\": \x7b\"\\u00017\": null\x7d\x7d" = .ok source ∧
      Java.literals? source = some ["a\"\\u0022", "\x017"] := by
  have hread : Json.read "\x7b\"a\\\"\\\\u0022\": \x7b\"\\u00017\": null\x7d\x7d" =
      .ok (.object [("a\"\\u0022", .object [("\x017", .null)])]) := by cbv
  obtain ⟨tree, htree, hkeys⟩ : ∃ tree, ofSample (.ofSpellings {}) .gson "Root"
      (.object [("a\"\\u0022", .object [("\x017", .null)])]) = .ok tree ∧
      tree.subtrees.flatMap keys = ["a\"\\u0022", "\x017"] := ⟨_, rfl, by decide +kernel⟩
  obtain ⟨source, hsource⟩ : ∃ source, Java.render "a.b" tree = .ok source := by
    have hpackage : Java.isPackage "a.b" = true := by decide +kernel
    simp only [Java.render, Java.checkPackage, hpackage, if_true]
    exact ⟨_, rfl⟩
  have hgenerate : (Generator.ofReader Json.read { style := .gson }).generate "a.b" "Root"
      "\x7b\"a\\\"\\\\u0022\": \x7b\"\\u00017\": null\x7d\x7d" = .ok source := by
    rw [generate_of_read hread, htree, Except.bind, hsource]
  obtain ⟨sample', tree', hread', htree', _, hliterals⟩ := generate_literals hgenerate
  rw [hread] at hread'
  obtain rfl := Except.ok.inj hread'
  rw [htree] at htree'
  obtain rfl := Except.ok.inj htree'
  rw [if_pos (by decide), hkeys] at hliterals
  exact ⟨source, hgenerate, hliterals⟩

end JsonClasses
