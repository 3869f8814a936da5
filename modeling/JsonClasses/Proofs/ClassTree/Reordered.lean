import JsonClasses.Proofs.ClassTree.EntryOrder
import JsonClasses.Proofs.ClassTree.Members

/-!
# Entries in another order

Where no candidate with a number is needed, an entry becomes the same property and the same nested
class whatever stands beside it. So entries can change places, and what they become changes places
with them.
-/
namespace JsonClasses

namespace ClassTree
open ValueType

/-- Everything directly in the class is named after a key itself, without a number: the members of
a property, and the class that it refers to. -/
structure Unnumbered (namers : Namers) (tree : ClassTree) : Prop where
  members : ∀ p ∈ tree.properties,
    Draft.propertyFrom { name := tree.name, style := tree.style, namers } p.key p.type p.key = .ok p
  classes : ∀ p ∈ tree.properties, ∀ name ∈ p.type.className?,
    namers.className p.key .anyObject = .ok name

instance (namers : Namers) (tree : ClassTree) : Decidable (Unnumbered namers tree) :=
  decidable_of_iff
    ((∀ p ∈ tree.properties, Draft.propertyFrom { name := tree.name, style := tree.style, namers }
        p.key p.type p.key = .ok p) ∧
      ∀ p ∈ tree.properties, ∀ name ∈ p.type.className?,
        namers.className p.key .anyObject = .ok name)
    ⟨fun h => ⟨h.1, h.2⟩, fun h => ⟨h.members, h.classes⟩⟩

/-- An entry with what it becomes. -/
structure Row where
  entry : String × Json
  property : Property
  nested? : Option ClassTree

end ClassTree

namespace Draft

/-- The draft with what an entry becomes. -/
def withRow (draft : Draft) (row : ClassTree.Row) : Draft :=
  { draft with
    properties := draft.properties ++ [row.property]
    nested := draft.nested ++ row.nested?.toList }

def withRows (draft : Draft) (rows : List ClassTree.Row) : Draft :=
  { draft with
    properties := draft.properties ++ rows.map (·.property)
    nested := draft.nested ++ rows.filterMap (·.nested?) }

variable {draft : Draft}

@[simp] theorem withRow_leaf {entry : String × Json} {property : Property} :
    draft.withRow ⟨entry, property, none⟩ = draft.pushed property := by
  rw [withRow, Option.toList_none, List.append_nil, pushed]

@[simp] theorem withRows_nil : draft.withRows [] = draft := by
  simp [withRows]

@[simp] theorem withRows_cons {row : ClassTree.Row} {rows : List ClassTree.Row} :
    draft.withRows (row :: rows) = (draft.withRow row).withRows rows := by
  cases hnested : row.nested? <;> simp [withRows, withRow, hnested]

end Draft

namespace ClassTree
open ValueType

variable {draft result : Draft} {enclosing : List String} {entries : List (String × Json)}
  {row other : Row} {rows rows' : List Row}

namespace Row

/-- What an entry becomes under its key itself, whatever stands beside it. -/
inductive Made (draft : Draft) (enclosing : List String) : Row → Prop
  | leaf {key : String} {value : Json} {property : Property}
      (reaches : value.reachedObject? = none)
      (names : draft.propertyFrom key (lists value.crossed (.scalar value.reachedScalar)) key =
        .ok property) :
      Made draft enclosing ⟨(key, value), property, none⟩
  | object {key name : String} {value : Json} {inside : List (String × Json)} {inner : Draft}
      {property : Property} (reaches : value.reachedObject? = some inside)
      (named : draft.namers.className key .anyObject = .ok name)
      (outside : name ∉ enclosing) (unoccupied : draft.style.occupies name = false)
      (within : Takes (enclosing ++ [name]) (draft.inner name) inside inner)
      (names : draft.propertyFrom key (lists value.crossed (.named name)) key = .ok property) :
      Made draft enclosing ⟨(key, value), property, some inner.toTree⟩

/-- Nothing in the draft stands in the way of the row. -/
structure FreeIn (draft : Draft) (row : Row) : Prop where
  members : draft.hasClash row.property = false
  classes : ∀ c ∈ row.nested?, c.name ∉ draft.nested.map (·.name)

/-- Neither row stands in the way of the other. -/
structure Apart (row other : Row) : Prop where
  members : row.property.clashesWith other.property = false
  classes : ∀ c ∈ row.nested?, ∀ d ∈ other.nested?, c.name ≠ d.name

theorem Apart.symm (h : row.Apart other) : other.Apart row where
  members := by rw [Property.clashesWith_comm, h.members]
  classes c hc d hd := (h.classes d hd c hc).symm

/-- A row is made of the namers and the style of a draft, which stay. -/
theorem made_withRow_iff : row.Made (draft.withRow other) enclosing ↔ row.Made draft enclosing := by
  constructor
  · rintro (⟨reaches, names⟩ | ⟨reaches, named, outside, unoccupied, within, names⟩)
    · exact .leaf reaches names
    · exact .object reaches named outside unoccupied within names
  · rintro (⟨reaches, names⟩ | ⟨reaches, named, outside, unoccupied, within, names⟩)
    · exact .leaf reaches names
    · exact .object reaches named outside unoccupied within names

theorem freeIn_withRow_iff :
    row.FreeIn (draft.withRow other) ↔ row.FreeIn draft ∧ row.Apart other := by
  have hclash : (draft.withRow other).hasClash row.property =
      (draft.hasClash row.property || row.property.clashesWith other.property) := by
    rw [Draft.hasClash, Draft.withRow, List.any_append, Draft.hasClash, List.any_cons, List.any_nil,
      Bool.or_false]
  have hnames : (draft.withRow other).nested.map (·.name) =
      draft.nested.map (·.name) ++ other.nested?.toList.map (·.name) := List.map_append
  -- A row adds one property and at most one class to what is taken.
  constructor
  · rintro ⟨hmembers, hclasses⟩
    rw [hclash, Bool.or_eq_false_iff] at hmembers
    simp only [hnames, List.mem_append, not_or] at hclasses
    refine ⟨⟨hmembers.1, fun c hc => (hclasses c hc).1⟩, hmembers.2, fun c hc d hd heq => ?_⟩
    exact (hclasses c hc).2 (List.mem_map.mpr ⟨d, Option.mem_toList.mpr hd, heq.symm⟩)
  · rintro ⟨hfree, hapart⟩
    refine ⟨by rw [hclash, hfree.members, hapart.members, Bool.or_false], fun c hc hmem => ?_⟩
    rw [hnames, List.mem_append] at hmem
    obtain hmem | hmem := hmem
    · exact hfree.classes c hc hmem
    · obtain ⟨d, hd, heq⟩ := List.mem_map.mp hmem
      exact hapart.classes c hc d (Option.mem_toList.mp hd) heq.symm

/-- The entry of a row takes the draft to the draft with the row. -/
theorem Made.takes (hmade : row.Made draft enclosing) (hfree : row.FreeIn draft)
    (hname : draft.name ∈ enclosing) (hrest : Takes enclosing (draft.withRow row) entries result) :
    Takes enclosing draft (row.entry :: entries) result := by
  obtain ⟨hmembers, hclasses⟩ := hfree
  cases hmade with
  | @leaf key value property reaches names =>
    rw [Draft.withRow_leaf] at hrest
    exact .leaf reaches (Draft.withProperty_of_free names hmembers) hrest
  | @object key name value inside inner property reaches named outside unoccupied within names =>
    have hself : inner.toTree.name = name := within.keeps.1
    have htaken : name ∉ draft.takenNames enclosing := by
      rw [Draft.takenNames, List.mem_append, List.mem_append, not_or, not_or]
      refine ⟨⟨outside, hself ▸ hclasses _ rfl⟩, ?_⟩
      simpa [Style.occupies] using unoccupied
    -- The class has its name before the property is added.
    have hnext : (draft.withNested inner.toTree).withProperty key
        (lists value.crossed (.named name)) =
          .ok (draft.withRow ⟨(key, value), property, some inner.toTree⟩) :=
      Draft.withProperty_of_free names hmembers
    exact .object reaches (Draft.nameForNested_of_free hname named htaken) within hnext hrest

end Row

/-! ## Rows that do not depend on each other -/

/-- Rows that are made whatever stands beside them, and none of which stands in the way of
another. -/
structure Independent (draft : Draft) (enclosing : List String) (rows : List Row) : Prop where
  made : ∀ row ∈ rows, row.Made draft enclosing
  free : ∀ row ∈ rows, row.FreeIn draft
  apart : rows.Pairwise Row.Apart

theorem Independent.perm (h : Independent draft enclosing rows) (hperm : rows'.Perm rows) :
    Independent draft enclosing rows' where
  made row hrow := h.made row (hperm.mem_iff.mp hrow)
  free row hrow := h.free row (hperm.mem_iff.mp hrow)
  apart := h.apart.perm hperm.symm Row.Apart.symm

/-- Rows behind a first one are independent in the draft with it. -/
theorem independent_cons_iff :
    Independent draft enclosing (row :: rows) ↔
      row.Made draft enclosing ∧ row.FreeIn draft ∧
        Independent (draft.withRow row) enclosing rows := by
  constructor
  · rintro ⟨hmade, hfree, hapart⟩
    rw [List.forall_mem_cons] at hmade hfree
    obtain ⟨hfirst, hapart⟩ := List.pairwise_cons.mp hapart
    refine ⟨hmade.1, hfree.1, fun other hother => Row.made_withRow_iff.mpr (hmade.2 other hother),
      fun other hother => ?_, hapart⟩
    exact Row.freeIn_withRow_iff.mpr ⟨hfree.2 other hother, (hfirst other hother).symm⟩
  · rintro ⟨hmade, hfree, hothers⟩
    -- Free behind the first row means free before it and apart from it.
    have hsplit := fun other hother => Row.freeIn_withRow_iff.mp (hothers.free other hother)
    refine ⟨List.forall_mem_cons.mpr ⟨hmade, fun other hother => ?_⟩,
      List.forall_mem_cons.mpr ⟨hfree, fun other hother => (hsplit other hother).1⟩,
      List.pairwise_cons.mpr ⟨fun other hother => (hsplit other hother).2.symm, hothers.apart⟩⟩
    exact Row.made_withRow_iff.mp (hothers.made other hother)

theorem Independent.takes (h : Independent draft enclosing rows) (hname : draft.name ∈ enclosing) :
    Takes enclosing draft (rows.map (·.entry)) (draft.withRows rows) := by
  induction rows generalizing draft with
  | nil => rw [Draft.withRows_nil]; exact .done
  | cons row rows ih =>
    obtain ⟨hmade, hfree, hothers⟩ := independent_cons_iff.mp h
    rw [Draft.withRows_cons]
    exact hmade.takes hfree hname (ih hothers hname)

/-- In a run in which everything is named after its key, so is the property that is added first. -/
theorem Takes.exists_first {next : Draft} {key : String} {type : ValueType}
    (hnext : draft.withProperty key type = .ok next) (h : Takes enclosing next entries result)
    (hunnumbered : result.toTree.Unnumbered draft.namers) :
    ∃ property, draft.propertyFrom key type key = .ok property ∧
      draft.hasClash property = false ∧ next = draft.pushed property ∧
      ∀ name ∈ type.className?, draft.namers.className key .anyObject = .ok name := by
  obtain ⟨raw, property, hproperty, hfree, rfl⟩ := Draft.exists_of_withProperty hnext
  obtain ⟨rfl, rfl, -⟩ := Draft.propertyFrom_eq_ok_iff.mp hproperty
  -- What has been added stays to the end of the run.
  have hmem : property ∈ result.properties :=
    h.grows.1.subset (List.mem_append_right _ (List.mem_singleton_self property))
  have hstyle : result.style = draft.style := h.keeps.2.1
  refine ⟨property, ?_, hfree, rfl, hunnumbered.classes property hmem⟩
  have hmembers := hunnumbered.members property hmem
  rwa [Draft.toTree, hstyle] at hmembers

/-- A run in which everything is named after its key takes independent rows. -/
theorem Takes.exists_rows (h : Takes enclosing draft entries result)
    (hunnumbered : result.toTree.Unnumbered draft.namers) :
    ∃ rows : List Row, rows.map (·.entry) = entries ∧ result = draft.withRows rows ∧
      Independent draft enclosing rows := by
  -- Every name is that of the first candidate, so each step adds a row that no other has shaped.
  induction h with
  | done => exact ⟨[], rfl, Draft.withRows_nil.symm, by simp, by simp, .nil⟩
  | @leaf enclosing draft next result key value rest reaches hnext others ih =>
    obtain ⟨property, hproperty, hfree, rfl, -⟩ := others.exists_first hnext hunnumbered
    obtain ⟨rows, hentries, hresult, hothers⟩ := ih hunnumbered
    have hothers : Independent (draft.withRow ⟨(key, value), property, none⟩) enclosing rows := by
      rwa [Draft.withRow_leaf]
    refine ⟨⟨(key, value), property, none⟩ :: rows, congrArg _ hentries, ?_, ?_⟩
    · rw [hresult, Draft.withRows_cons, Draft.withRow_leaf]
    · exact independent_cons_iff.mpr ⟨.leaf reaches hproperty, ⟨hfree, by simp⟩, hothers⟩
  | @object enclosing draft inner next result key name value inside rest reaches fresh within
      hnext others _ ih =>
    obtain ⟨property, hproperty, hfree, rfl, hclass⟩ := others.exists_first hnext hunnumbered
    obtain ⟨rows, hentries, hresult, hothers⟩ := ih hunnumbered
    obtain ⟨houtside, hunoccupied, hapart⟩ := Draft.nameForNested_fresh fresh
    have hnamed : draft.namers.className key .anyObject = .ok name := by
      apply hclass name
      rw [className?, innermost_lists]
      rfl
    have hself : inner.toTree.name = name := within.keeps.1
    refine ⟨⟨(key, value), property, some inner.toTree⟩ :: rows, congrArg _ hentries, ?_, ?_⟩
    · rw [hresult, Draft.withRows_cons]
      rfl
    · refine independent_cons_iff.mpr ⟨.object reaches hnamed houtside hunoccupied within hproperty,
        ⟨hfree, ?_⟩, hothers⟩
      rintro c ⟨⟩
      rwa [hself]

/-! ## The tree of an object whose entries change places -/

/-- Without clashes the order of the entries decides the order of what they become and nothing
else: the properties change places with the entries, and the nested classes follow them. -/
theorem ofSample_of_perm {namers : Namers} {style : Style} {name : String}
    {entries entries' : List (String × Json)} {tree : ClassTree}
    (h : ofSample namers style name (.object entries) = .ok tree)
    (hunnumbered : tree.Unnumbered namers) (hperm : entries'.Perm entries) :
    ∃ properties nested,
      ofSample namers style name (.object entries') = .ok { tree with properties, nested } ∧
      properties.length = entries'.length ∧
      (entries'.zip properties).Perm (entries.zip tree.properties) ∧
      nested.Perm tree.nested ∧
      nested.map (·.name) = properties.filterMap (·.type.className?) := by
  obtain ⟨_, hname, hfree, draft, hdraft, rfl⟩ := ofSample_eq_ok_iff.mp h
  obtain ⟨rows, hentries, rfl, hrows⟩ := hdraft.exists_rows hunnumbered
  obtain rfl : rows.map Row.entry = entries := hentries
  -- The rows take the places that the entries take.
  have hlift : Relation.Comp (· = List.map Row.entry ·) List.Perm entries' rows := by
    rw [List.eq_map_comp_perm]
    exact hperm
  obtain ⟨rows', rfl, hplaces⟩ := hlift
  have hrun := (hrows.perm hplaces).takes (List.mem_singleton_self name)
  have hsample : ofSample namers style name (.object (rows'.map Row.entry)) =
      .ok ((rootDraft namers style name).withRows rows').toTree :=
    ofSample_eq_ok_iff.mpr ⟨rfl, hname, hfree, _, hrun, rfl⟩
  refine ⟨rows'.map Row.property, rows'.filterMap Row.nested?, hsample, ?_, ?_,
    hplaces.filterMap _, (mirrors_of_ofSample hsample).references.symm⟩
  · rw [List.length_map, List.length_map]
  · show ((rows'.map Row.entry).zip (rows'.map Row.property)).Perm
      ((rows.map Row.entry).zip (rows.map Row.property))
    rw [List.zip_map', List.zip_map']
    exact hplaces.map _

/-- Backwards, the two nested classes change places as their properties do. -/
theorem ofSample_of_perm_reversed :
    let entries : List (String × Json) :=
      [("user_id", .text "a"), ("Item", .object [("x", .null)]), ("tags", .array [.object []])]
    ∃ tree, ofSample .standard .bean "Root" (.object entries) = .ok tree ∧
      tree.Unnumbered .standard ∧ entries.reverse.Perm entries ∧
      ∃ properties nested, ofSample .standard .bean "Root" (.object entries.reverse) =
          .ok { tree with properties, nested } ∧
        nested.Perm tree.nested ∧ properties.map (·.field) = ["tags", "item", "userId"] ∧
        nested.map (·.name) = ["Tags", "Item"] := by
  intro entries
  -- The tree is not spelled out; what is checked of it is computed.
  have hchecked : (ofSample .standard .bean "Root" (.object entries)).map
      (fun tree => decide (tree.Unnumbered .standard)) = .ok true := by
    simp only [entries]
    decide +kernel
  have hnames : (ofSample .standard .bean "Root" (.object entries.reverse)).map
      (fun tree => (tree.properties.map (·.field), tree.nested.map (·.name))) =
        .ok (["tags", "item", "userId"], ["Tags", "Item"]) := by
    simp only [entries]
    decide +kernel
  cases hrun : ofSample .standard .bean "Root" (.object entries) with
  | error e =>
    rw [hrun] at hchecked
    cases hchecked
  | ok tree =>
    rw [hrun] at hchecked
    have hunnumbered : tree.Unnumbered .standard := of_decide_eq_true (Except.ok.inj hchecked)
    have hperm : entries.reverse.Perm entries := entries.reverse_perm
    obtain ⟨properties, nested, hreversed, _, _, hnested, _⟩ :=
      ofSample_of_perm hrun hunnumbered hperm
    rw [hreversed] at hnames
    obtain ⟨hfields, hclasses⟩ := Prod.mk.inj (Except.ok.inj hnames)
    exact ⟨tree, rfl, hunnumbered, hperm, properties, nested, hreversed, hnested, hfields, hclasses⟩

end ClassTree
end JsonClasses
