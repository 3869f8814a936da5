import JsonClasses.Proofs.ClassTree.Mirror

/-!
# Entries one after the other

A run over two lists of entries is a run over the first and then one over the second. What a run
has added stays as it is, so entries at the end of an object change nothing before them.
-/
namespace JsonClasses.ClassTree

variable {enclosing : List String} {draft result : Draft}

theorem takes_append_iff {entries further : List (String × Json)} :
    Takes enclosing draft (entries ++ further) result ↔
      ∃ middle, Takes enclosing draft entries middle ∧ Takes enclosing middle further result := by
  constructor
  · intro h
    -- The derivation is cut where the first entries end.
    induction entries generalizing draft with
    | nil => exact ⟨draft, .done, h⟩
    | cons entry rest ih =>
      cases h with
      | leaf reaches property others =>
        obtain ⟨middle, hfirst, hsecond⟩ := ih others
        exact ⟨middle, .leaf reaches property hfirst, hsecond⟩
      | object reaches fresh within property others =>
        obtain ⟨middle, hfirst, hsecond⟩ := ih others
        exact ⟨middle, .object reaches fresh within property hfirst, hsecond⟩
  · rintro ⟨middle, hfirst, hsecond⟩
    -- The first derivation is repeated, with the second in place of its end.
    induction hfirst with
    | done => exact hsecond
    | leaf reaches property _ ih => exact .leaf reaches property (ih hsecond)
    | object reaches fresh within property _ _ ih =>
      exact .object reaches fresh within property (ih hsecond)

theorem Takes.grows {entries : List (String × Json)} (h : Takes enclosing draft entries result) :
    draft.properties <+: result.properties ∧ draft.nested <+: result.nested := by
  obtain ⟨properties, nested, hproperties, hnested, _⟩ := h.mirrors
  exact ⟨⟨properties, hproperties.symm⟩, ⟨nested, hnested.symm⟩⟩

theorem ofSample_of_append {namers : Namers} {style : Style} {name : String}
    {entries further : List (String × Json)} {larger : ClassTree}
    (h : ofSample namers style name (.object (entries ++ further)) = .ok larger) :
    ∃ smaller, ofSample namers style name (.object entries) = .ok smaller ∧
      smaller.name = larger.name ∧ smaller.modifiers = larger.modifiers ∧
      smaller.style = larger.style ∧ smaller.properties <+: larger.properties ∧
      smaller.nested <+: larger.nested := by
  obtain ⟨_, hname, hfree, draft, hdraft, rfl⟩ := ofSample_eq_ok_iff.mp h
  obtain ⟨middle, hfirst, hsecond⟩ := takes_append_iff.mp hdraft
  refine ⟨middle.toTree, ofSample_eq_ok_iff.mpr ⟨rfl, hname, hfree, middle, hfirst, rfl⟩, ?_⟩
  obtain ⟨hsame, hstyle, _⟩ := hsecond.keeps
  exact ⟨hsame.symm, hsecond.keeps_modifiers.symm, hstyle.symm, hsecond.grows⟩

/-- The new keys read like those that are there, and it is the new ones that get other names. -/
theorem ofSample_of_append_clashing_keys :
    let entries : List (String × Json) :=
      [("user_id", .text "a"), ("Item", .object [("x", .null)])]
    let further : List (String × Json) := [("userId", .bool true), ("item", .array [.object []])]
    ∃ larger smaller,
      ofSample .standard .builder "Root" (.object (entries ++ further)) = .ok larger ∧
      ofSample .standard .builder "Root" (.object entries) = .ok smaller ∧
      smaller.properties <+: larger.properties ∧ smaller.nested <+: larger.nested ∧
      larger.properties.map (·.field) = ["userId", "item", "userId2", "item2"] ∧
      larger.nested.map (·.name) = ["Item", "Item2"] := by
  intro entries further
  have hlarger : (ofSample .standard .builder "Root" (.object (entries ++ further))).map
      (fun tree => (tree.properties.map (·.field), tree.nested.map (·.name))) =
        .ok (["userId", "item", "userId2", "item2"], ["Item", "Item2"]) := by
    simp only [entries, further]
    decide +kernel
  cases hrun : ofSample .standard .builder "Root" (.object (entries ++ further)) with
  | error e =>
    rw [hrun] at hlarger
    cases hlarger
  | ok larger =>
    rw [hrun] at hlarger
    obtain ⟨hfields, hnames⟩ := Prod.mk.inj (Except.ok.inj hlarger)
    obtain ⟨smaller, hsmaller, _, _, _, hproperties, hnested⟩ := ofSample_of_append hrun
    exact ⟨larger, smaller, rfl, hsmaller, hproperties, hnested, hfields, hnames⟩

end JsonClasses.ClassTree
