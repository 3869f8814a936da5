import JsonClasses.ClassTree.OfSample
import JsonClasses.Proofs.ClassTree.Basic
import JsonClasses.Proofs.ClassTree.Draft

/-!
# Runs over the entries of an object

A successful run is a derivation: an entry that leads to no object adds a property, and an entry
that leads to one adds a nested class, built by a run of its own, and then a property.
-/
namespace JsonClasses.ClassTree
open ValueType

variable {draft next result : Draft} {enclosing : List String}

/-! ## The type of a value -/

theorem typeOf_of_leaf (draft : Draft) (enclosing : List String) (key : String) :
    ∀ value : Json, value.reachedObject? = none →
      typeOf draft enclosing key value =
        .ok (lists value.crossed (.scalar value.reachedScalar), draft)
  | .null, _ | .bool _, _ | .number _, _ | .text _, _ => by rw [typeOf]; rfl
  | .array [], _ => by rw [typeOf, elementType]; rfl
  | .array (first :: _), h => by
      rw [Json.reachedObject?, Json.reachedFrom?] at h
      rw [typeOf, elementType, typeOf_of_leaf draft enclosing key first h]
      rfl

/-- The type of a value that leads to an object: the object becomes a nested class first. -/
theorem typeOf_of_object (draft : Draft) (enclosing : List String) (key : String)
    {inside : List (String × Json)} :
    ∀ value : Json, value.reachedObject? = some inside →
      typeOf draft enclosing key value =
        match draft.nameForNested enclosing key with
        | .error e => .error e
        | .ok name =>
            match addEntries (draft.inner name) (enclosing ++ [name]) inside with
            | .error e => .error e
            | .ok inner => .ok (lists value.crossed (.named name), draft.withNested inner.toTree)
  | .object _, h => by
      rw [Json.reachedObject?, Option.some.injEq] at h
      subst h
      rw [typeOf]
      rfl
  | .array (first :: _), h => by
      rw [Json.reachedObject?, Json.reachedFrom?] at h
      rw [typeOf, elementType, typeOf_of_object draft enclosing key first h]
      -- The list is put around the type after the run, so it changes neither of the errors.
      cases draft.nameForNested enclosing key with
      | error e => rfl
      | ok name =>
        simp only
        cases addEntries (draft.inner name) (enclosing ++ [name]) inside <;> rfl
  | .array [], h | .null, h | .bool _, h | .number _, h | .text _, h => by
      simp [Json.reachedObject?, Json.reachedFrom?] at h

/-! ## Runs -/

/-- The run over these entries takes the first draft to the second. -/
inductive Takes : List String → Draft → List (String × Json) → Draft → Prop
  | done {enclosing : List String} {draft : Draft} : Takes enclosing draft [] draft
  | leaf {enclosing : List String} {draft next result : Draft} {key : String} {value : Json}
      {rest : List (String × Json)} (reaches : value.reachedObject? = none)
      (property : draft.withProperty key (lists value.crossed (.scalar value.reachedScalar)) =
        .ok next)
      (others : Takes enclosing next rest result) :
      Takes enclosing draft ((key, value) :: rest) result
  | object {enclosing : List String} {draft inner next result : Draft} {key name : String}
      {value : Json} {inside rest : List (String × Json)}
      (reaches : value.reachedObject? = some inside)
      (fresh : draft.nameForNested enclosing key = .ok name)
      (within : Takes (enclosing ++ [name]) (draft.inner name) inside inner)
      (property : (draft.withNested inner.toTree).withProperty key
        (lists value.crossed (.named name)) = .ok next)
      (others : Takes enclosing next rest result) :
      Takes enclosing draft ((key, value) :: rest) result

theorem addEntries_eq_ok_iff {entries : List (String × Json)} :
    addEntries draft enclosing entries = .ok result ↔ Takes enclosing draft entries result := by
  induction entries using Json.entries_induction generalizing draft enclosing result with
  | nil =>
    rw [addEntries]
    exact ⟨fun h => Except.ok.inj h ▸ .done, fun h => by cases h; rfl⟩
  | cons key value rest ihInside ihRest =>
    rw [addEntries]
    -- The two cases are the two kinds of steps of a derivation.
    cases hv : value.reachedObject? with
    | none =>
      rw [typeOf_of_leaf draft enclosing key value hv]
      simp only
      constructor
      · intro h
        split at h
        · cases h
        · rename_i next hnext
          exact .leaf hv hnext (ihRest.mp h)
      · intro h
        cases h with
        | leaf _ hnext hrest => simp only [hnext, ihRest.mpr hrest]
        | object hobject => rw [hv] at hobject; cases hobject
    | some inside =>
      rw [typeOf_of_object draft enclosing key value hv]
      constructor
      · intro h
        split at h
        · cases h
        · rename_i type grown htype
          split at htype
          · cases htype
          · rename_i name hname
            split at htype
            · cases htype
            · rename_i inner hinner
              obtain ⟨rfl, rfl⟩ := Prod.mk.inj (Except.ok.inj htype)
              split at h
              · cases h
              · rename_i next hnext
                exact .object hv hname ((ihInside inside hv).mp hinner) hnext (ihRest.mp h)
      · intro h
        cases h with
        | leaf hleaf => rw [hv] at hleaf; cases hleaf
        | object hobject hname hwithin hnext hrest =>
          rw [hv, Option.some.injEq] at hobject
          subst hobject
          simp only [hname, (ihInside inside hv).mpr hwithin, hnext, ihRest.mpr hrest]

/-- A run keeps what belongs to the class as a whole. -/
theorem Takes.keeps {entries : List (String × Json)} (h : Takes enclosing draft entries result) :
    result.name = draft.name ∧ result.style = draft.style ∧ result.namers = draft.namers := by
  induction h with
  | done => exact ⟨rfl, rfl, rfl⟩
  | leaf _ hnext _ ih =>
    obtain ⟨_, property, _, _, rfl⟩ := Draft.exists_of_withProperty hnext
    exact ih
  | object _ _ _ hnext _ _ ih =>
    obtain ⟨_, property, _, _, rfl⟩ := Draft.exists_of_withProperty hnext
    exact ih

theorem Takes.keeps_modifiers {entries : List (String × Json)}
    (h : Takes enclosing draft entries result) : result.modifiers = draft.modifiers := by
  induction h with
  | done => rfl
  | leaf _ hnext _ ih | object _ _ _ hnext _ _ ih =>
    obtain ⟨_, property, _, _, rfl⟩ := Draft.exists_of_withProperty hnext
    exact ih

/-- A run keeps what each of its steps keeps. A nested class starts from the draft around it, but
without members. -/
theorem Takes.invariant {I : Draft → Prop} {entries : List (String × Json)}
    (inner : ∀ draft name, I draft → I (draft.inner name))
    (withNested : ∀ draft inner, inner.style = draft.style → I draft → I inner →
      I (draft.withNested inner.toTree))
    (withProperty : ∀ draft next key type, draft.withProperty key type = .ok next →
      I draft → I next)
    (h : Takes enclosing draft entries result) (hdraft : I draft) : I result := by
  induction h with
  | done => exact hdraft
  | leaf _ hnext _ ih => exact ih (withProperty _ _ _ _ hnext hdraft)
  | @object _ draft within _ _ _ _ _ _ _ _ _ hwithin hnext _ ihWithin ih =>
    have hinner := ihWithin (inner _ _ hdraft)
    have hnested := withNested draft within hwithin.keeps.2.1 hdraft hinner
    exact ih (withProperty _ _ _ _ hnext hnested)

/-- The draft that the root class starts from. -/
def rootDraft (namers : Namers) (style : Style) (name : String) : Draft :=
  Draft.withModifiers { name, style, namers } [.publicAccess]

theorem ofSample_of_accepted {namers : Namers} {style : Style} {name : String} {sample : Json}
    (hsample : sample.isStructured = true) (hname : Java.isIdentifier name = true)
    (hfree : style.occupies name = false) :
    ofSample namers style name sample =
      (addEntries (rootDraft namers style name) [name] (sample.reachedObject?.getD [])).map
        Draft.toTree := by
  simp only [ofSample, hsample, hname, hfree, Bool.not_true, Bool.false_eq_true, Bool.or_self,
    if_false]
  rw [show Draft.withModifiers { name, style, namers } [.publicAccess] =
    rootDraft namers style name from rfl]
  cases addEntries (rootDraft namers style name) [name] (sample.reachedObject?.getD []) <;> rfl

theorem ofSample_eq_ok_iff {namers : Namers} {style : Style} {name : String} {sample : Json}
    {tree : ClassTree} :
    ofSample namers style name sample = .ok tree ↔
      sample.isStructured = true ∧ Java.isIdentifier name = true ∧ style.occupies name = false ∧
        ∃ draft, Takes [name] (rootDraft namers style name) (sample.reachedObject?.getD []) draft ∧
          tree = draft.toTree := by
  constructor
  · intro h
    -- The checks come first, and each of them would have ended in an error.
    have haccepted : sample.isStructured = true ∧ Java.isIdentifier name = true ∧
        style.occupies name = false := by
      revert h
      rw [ofSample]
      cases sample.isStructured <;> cases Java.isIdentifier name <;> cases style.occupies name <;>
        simp
    obtain ⟨hsample, hname, hfree⟩ := haccepted
    refine ⟨hsample, hname, hfree, ?_⟩
    rw [ofSample_of_accepted hsample hname hfree] at h
    cases hrun : addEntries (rootDraft namers style name) [name] (sample.reachedObject?.getD []) with
    | error e => rw [hrun] at h; cases h
    | ok draft =>
      rw [hrun] at h
      exact ⟨draft, addEntries_eq_ok_iff.mp hrun, (Except.ok.inj h).symm⟩
  · rintro ⟨hsample, hname, hfree, draft, hrun, rfl⟩
    rw [ofSample_of_accepted hsample hname hfree, addEntries_eq_ok_iff.mpr hrun]
    rfl

end JsonClasses.ClassTree
