import JsonClasses.Proofs.ClassTree.Draft

/-!
# Operations on a draft

A caller works on one draft and goes on after a call that failed. Here the draft is a state that
every attempt reads and may change, so whatever a call does before it fails would stay. The
properties of a draft are those of the calls that succeeded, and their members are apart, whatever
the namers do.
-/
namespace JsonClasses

/-- Two properties of one class do not get in each other's way. Builder methods count in a style
that has them. -/
structure Property.ApartFrom (style : Style) (property earlier : Property) : Prop where
  field : property.field ≠ earlier.field
  accessors : ∀ name ∈ property.accessors, name ∉ earlier.accessors
  builderMethod : style.hasBuilder = true → property.builderMethod ≠ earlier.builderMethod

namespace Draft

/-! ## Adding a property step by step -/

/-- A call on a draft. What it has done when it fails is not undone. -/
abbrev Call (α : Type) := EStateM GenerationError Draft α

/-- Tries one candidate after the other, from `index` on, and adds the first one that is free. -/
def tryCandidates (key : String) (type : ValueType) : (attempts index : Nat) → Call Unit
  | 0, _ => throw (.unusableName key .field)
  | attempts + 1, index => do
      let property ← ofExcept ((← get).propertyFrom key type (Candidates.nth key index))
      if (← get).hasClash property then
        tryCandidates key type attempts (index + 1)
      else
        modify fun draft => draft.pushed property

def addProperty (key : String) (type : ValueType) : Call Unit := do
  tryCandidates key type (← get).memberAttempts 0

variable {draft next : Draft} {key : String} {type : ValueType} {property : Property}

theorem tryCandidates_eq (attempts index : Nat) :
    tryCandidates key type attempts index draft =
      match Candidates.search key (draft.propertyFrom key type) draft.hasClash
        (.unusableName key .field) attempts index with
      | .ok property => .ok () (draft.pushed property)
      | .error e => .error e draft := by
  induction attempts generalizing index with
  | zero => rfl
  | succ attempts ih =>
    -- The first attempt, with the draft that it reads put in.
    have hfirst : tryCandidates key type (attempts + 1) index draft =
        match draft.propertyFrom key type (Candidates.nth key index) with
        | .error e => .error e draft
        | .ok property =>
            (if draft.hasClash property then tryCandidates key type attempts (index + 1)
              else modify fun draft => draft.pushed property : Call Unit) draft := by
      show EStateM.bind _ _ draft = _
      simp only [EStateM.bind]
      cases draft.propertyFrom key type (Candidates.nth key index) <;> rfl
    rw [hfirst]
    cases hp : draft.propertyFrom key type (Candidates.nth key index) with
    | error e => rw [Candidates.search_succ_of_error hp]
    | ok property =>
      by_cases hclash : draft.hasClash property = true
      · rw [Candidates.search_succ_of_taken hp hclash]
        simp only [hclash, if_true]
        exact ih (index + 1)
      · have hfree : draft.hasClash property = false := by simpa using hclash
        rw [Candidates.search_succ_of_free hp hfree]
        simp only [hfree, Bool.false_eq_true, if_false]
        rfl

/-- The draft changes only when the property is added in the end. -/
theorem addProperty_eq (draft : Draft) (key : String) (type : ValueType) :
    addProperty key type draft =
      match draft.withProperty key type with
      | .ok next => .ok () next
      | .error e => .error e draft := by
  show tryCandidates key type draft.memberAttempts 0 draft = _
  rw [tryCandidates_eq, withProperty_eq]
  cases Candidates.search key (draft.propertyFrom key type) draft.hasClash
    (.unusableName key .field) draft.memberAttempts 0 <;> rfl

/-! ## Sequences of operations -/

inductive Operation
  | addProperty (key : String) (type : ValueType)
  | addModifiers (modifiers : List Modifier)
  | addNested (inner : ClassTree)
  | build

inductive Answer
  | done
  | failed (error : GenerationError)
  | built (tree : ClassTree)

def perform : Operation → StateM Draft Answer
  | .addProperty key type => fun draft =>
      match Draft.addProperty key type draft with
      | .ok _ next => (.done, next)
      | .error e next => (.failed e, next)
  | .addModifiers modifiers => do
      modify fun draft => draft.withModifiers modifiers
      return .done
  | .addNested inner => do
      modify fun draft => draft.withNested inner
      return .done
  | .build => return .built (← get).toTree

def performAll (operations : List Operation) : StateM Draft (List Answer) :=
  operations.mapM perform

/-- What the successful calls were given, in order. -/
def accepted (calls : List (Operation × Answer)) : List (String × ValueType) :=
  calls.filterMap fun
    | (.addProperty key type, .done) => some (key, type)
    | _ => none

theorem performAll_cons (operation : Operation) (operations : List Operation) (draft : Draft) :
    performAll (operation :: operations) draft =
      ((perform operation draft).1 :: (performAll operations (perform operation draft).2).1,
        (performAll operations (perform operation draft).2).2) := by
  rw [performAll, List.mapM_cons]
  rfl

/-! ## What every sequence keeps -/

/-- The properties of a draft are those that were given, and they are apart. -/
structure Holds (style : Style) (given : List (String × ValueType)) (draft : Draft) : Prop where
  same : draft.style = style
  given : draft.properties.map (fun property => (property.key, property.type)) = given
  apart : draft.properties.Pairwise fun earlier property => property.ApartFrom style earlier

theorem isSome_builderMethod {raw : String} (h : draft.propertyFrom key type raw = .ok property)
    (hbuilder : draft.style.hasBuilder = true) : property.builderMethod.isSome = true := by
  obtain ⟨_, _, _, _, _, _, hmethod⟩ := propertyFrom_eq_ok_iff.mp h
  rw [nameWhen, hbuilder, if_pos rfl] at hmethod
  cases hname : draft.namers.method raw type with
  | error e => rw [hname] at hmethod; cases hmethod
  | ok name =>
    rw [hname] at hmethod
    rw [← Except.ok.inj hmethod]
    rfl

/-- What is compared when a property is added is all that keeps it apart from the others. -/
theorem apartFrom_of_free {raw : String} {earlier : Property}
    (h : draft.propertyFrom key type raw = .ok property) (hfree : draft.hasClash property = false)
    (hearlier : earlier ∈ draft.properties) : property.ApartFrom draft.style earlier := by
  have hclash : property.clashesWith earlier = false := by
    simpa using List.any_eq_false.mp hfree earlier hearlier
  simp only [Property.clashesWith, Bool.or_eq_false_iff, beq_eq_false_iff_ne, List.any_eq_false,
    List.contains_eq_mem, decide_eq_true_eq] at hclash
  obtain ⟨⟨hfield, haccessors⟩, hmethods⟩ := hclash
  refine ⟨fun heq => hfield heq.symm, haccessors, fun hbuilder heq => ?_⟩
  rw [isSome_builderMethod h hbuilder, Bool.true_and, beq_eq_false_iff_ne] at hmethods
  exact hmethods heq.symm

theorem Holds.of_withProperty {style : Style} {given : List (String × ValueType)}
    (h : Holds style given draft) (hnext : draft.withProperty key type = .ok next) :
    Holds style (given ++ [(key, type)]) next := by
  obtain ⟨raw, property, hproperty, hfree, rfl⟩ := exists_of_withProperty hnext
  obtain ⟨hkey, htype, _⟩ := propertyFrom_eq_ok_iff.mp hproperty
  refine ⟨h.same, ?_, ?_⟩
  · rw [pushed_properties, List.map_append, h.given, List.map_singleton, hkey, htype]
  · rw [pushed_properties, List.pairwise_append]
    refine ⟨h.apart, List.pairwise_singleton _ _, fun earlier hearlier p hp => ?_⟩
    rw [List.mem_singleton.mp hp]
    exact h.same ▸ apartFrom_of_free hproperty hfree hearlier

theorem perform_addProperty (draft : Draft) (key : String) (type : ValueType) :
    perform (.addProperty key type) draft =
      match draft.withProperty key type with
      | .ok next => (.done, next)
      | .error e => (.failed e, draft) := by
  show (match addProperty key type draft with
    | .ok _ next => (Answer.done, next)
    | .error e next => (.failed e, next)) = _
  rw [addProperty_eq]
  cases draft.withProperty key type <;> rfl

theorem Holds.perform {style : Style} {given : List (String × ValueType)}
    (h : Holds style given draft) (operation : Operation) :
    Holds style (given ++ accepted [(operation, (Draft.perform operation draft).1)])
      (Draft.perform operation draft).2 := by
  cases operation with
  | addProperty key type =>
    rw [perform_addProperty]
    cases hnext : draft.withProperty key type with
    | ok next => exact h.of_withProperty hnext
    | error e =>
      show Holds style (given ++ []) draft
      rwa [List.append_nil]
  -- The other operations touch neither the properties nor the style.
  | addModifiers modifiers | addNested inner | build =>
    show Holds style (given ++ []) _
    rw [List.append_nil]
    exact ⟨h.same, h.given, h.apart⟩

theorem Holds.performAll {style : Style} {given : List (String × ValueType)}
    (h : Holds style given draft) (operations : List Operation) :
    Holds style (given ++ accepted (operations.zip (Draft.performAll operations draft).1))
      (Draft.performAll operations draft).2 := by
  induction operations generalizing draft given with
  | nil =>
    show Holds style (given ++ []) draft
    rwa [List.append_nil]
  | cons operation operations ih =>
    have hrest := ih (h.perform operation)
    rw [List.append_assoc, accepted, accepted, ← List.filterMap_append] at hrest
    rw [performAll_cons]
    exact hrest

theorem performAll_apart (namers : Namers) (style : Style) (name : String)
    (operations : List Operation) :
    let reached := performAll operations { name, style, namers }
    reached.2.toTree.properties.map (fun property => (property.key, property.type)) =
        accepted (operations.zip reached.1) ∧
      reached.2.toTree.properties.Pairwise
        (fun earlier property => property.ApartFrom style earlier) ∧
      ∀ key type e after, perform (.addProperty key type) reached.2 = (.failed e, after) →
        after.toTree = reached.2.toTree := by
  -- What holds of the draft is kept by every operation, so it holds of the one that is reached.
  have hempty : Holds style [] { name, style, namers } := ⟨rfl, rfl, List.Pairwise.nil⟩
  have hreached := hempty.performAll operations
  refine ⟨hreached.given, hreached.apart, fun key type e after hfailed => ?_⟩
  rw [perform_addProperty] at hfailed
  split at hfailed
  · cases hfailed
  · rw [← (Prod.mk.inj hfailed).2]

/-- A namer that makes the same field of every key: the second key fails, and the caller goes
on. -/
example : (performAll [.addProperty "a" .anyObject, .addProperty "b" .anyObject,
    .addModifiers [.publicAccess]]
    { name := "Root", style := .model,
      namers := { Namers.standard with field := fun _ _ => .ok "value" } }).1 =
    [.done, .failed (.unusableName "b" .field), .done] := by
  rfl

end Draft
end JsonClasses
