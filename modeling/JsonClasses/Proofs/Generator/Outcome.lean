import JsonClasses.Generator
import JsonClasses.Proofs.ClassTree.Run
import JsonClasses.Proofs.ClassTree.Standard

/-!
# The outcome of generation

With the standard namers the only names that cannot be made are those of keys without words. So the
outcome is known from the text, the class name, the keys and the package; the first fault counts.
-/
namespace JsonClasses
open ClassTree

/-- A key without a letter or digit names nothing. Where an object is reached, the class is named
before the property. -/
def keyFault? (entry : String × Json) : Option GenerationError :=
  if entry.1.toList.any Unicode.isAlphanumeric then none
  else some (.unusableName entry.1 (if entry.2.reachedObject?.isSome then .className else .field))

/-- The first fault of the entries of an object and of all objects inside it. -/
def entriesFault? (entries : List (String × Json)) : Option GenerationError :=
  (Json.visited entries).findSome? keyFault?

/-- The first fault of a document and a class name. -/
def documentFault? (style : Style) (className : String) (sample : Json) : Option GenerationError :=
  if !sample.isStructured then some (.scalarRoot sample.kind)
  else if !Java.isIdentifier className || style.occupies className then
    some (.unusableName className .className)
  else entriesFault? (sample.reachedObject?.getD [])

/-- The package is looked at last. -/
def fault? (style : Style) (package className : String) (sample : Json) :
    Option GenerationError :=
  (documentFault? style className sample).or
    (if Java.isPackage package then none else some (.illegalPackage package))

variable {spellings : Spellings} {draft : Draft} {enclosing : List String}

/-! ## Keys -/

theorem keyFault?_of_words {key : String} (h : Words.split key ≠ []) (value : Json) :
    keyFault? (key, value) = none := by
  rw [keyFault?, if_pos]
  by_contra hnone
  exact h (Words.split_eq_nil_iff.mpr (by simpa using hnone))

theorem keyFault?_of_no_words {key : String} (h : Words.split key = []) (value : Json) :
    keyFault? (key, value) = some (.unusableName key
      (if value.reachedObject?.isSome then .className else .field)) := by
  have hnone := Words.split_eq_nil_iff.mp h
  rw [keyFault?, if_neg (by simpa using hnone)]

theorem entriesFault?_cons (key : String) (value : Json) (rest : List (String × Json)) :
    entriesFault? ((key, value) :: rest) =
      (keyFault? (key, value)).or
        ((entriesFault? (value.reachedObject?.getD [])).or (entriesFault? rest)) := by
  rw [entriesFault?, Json.visited_cons, List.findSome?_cons, List.findSome?_append]
  cases keyFault? (key, value) <;> rfl

/-! ## Runs -/

/-- A run fails with this error, or succeeds if there is none. -/
def Ends {ε α : Type} (result : Except ε α) : Option ε → Prop
  | some e => result = .error e
  | none => ∃ x, result = .ok x

theorem Ends.map {ε α β : Type} {result : Except ε α} {fault : Option ε} (f : α → β)
    (h : Ends result fault) : Ends (result.map f) fault := by
  cases fault with
  | some e =>
    rw [show result = .error e from h]
    rfl
  | none =>
    obtain ⟨x, rfl⟩ := h
    exact ⟨f x, rfl⟩

theorem addEntries_ends {entries : List (String × Json)} (h : draft.Standard spellings)
    (hname : draft.name ∈ enclosing) :
    Ends (addEntries draft enclosing entries) (entriesFault? entries) := by
  induction entries using Json.entries_induction generalizing draft enclosing with
  | nil => exact ⟨draft, by rw [addEntries]⟩
  | cons key value rest ihInside ihRest =>
    rw [addEntries, entriesFault?_cons]
    -- A key without words fails before anything inside its value is looked at.
    by_cases hkey : Words.split key = []
    · rw [keyFault?_of_no_words hkey]
      cases hvalue : value.reachedObject? with
      | none =>
        rw [typeOf_of_leaf draft enclosing key value hvalue]
        simp only [Draft.withProperty_of_no_words h.namers hkey]
        rfl
      | some inside =>
        rw [typeOf_of_object draft enclosing key value hvalue,
          Draft.nameForNested_of_no_words h.namers hkey]
        rfl
    -- With words there is always a name, so only the entries inside and behind can fail.
    · rw [keyFault?_of_words hkey, Option.none_or]
      cases hvalue : value.reachedObject? with
      | none =>
        obtain ⟨next, hnext, hstandard, hsame⟩ :=
          h.exists_withProperty (.lists value.crossed (.scalar value.reachedScalar)) hkey
        rw [typeOf_of_leaf draft enclosing key value hvalue]
        simp only [hnext]
        exact ihRest hstandard (hsame ▸ hname)
      | some inside =>
        obtain ⟨name, hnamed⟩ := Draft.exists_nameForNested h.namers hname hkey
        have hinside := ihInside inside hvalue (h.inner name)
          (List.mem_append_right enclosing (List.mem_singleton_self name))
        rw [typeOf_of_object draft enclosing key value hvalue, hnamed, Option.getD_some]
        cases hfault : entriesFault? inside with
        | some e =>
          rw [hfault] at hinside
          simp only [show addEntries (draft.inner name) (enclosing ++ [name]) inside = .error e
            from hinside]
          rfl
        | none =>
          rw [hfault] at hinside
          obtain ⟨inner, hinner⟩ := hinside
          obtain ⟨next, hnext, hstandard, hsame⟩ :=
            (h.withNested inner.toTree).exists_withProperty (.lists value.crossed (.named name))
              hkey
          simp only [hinner, hnext]
          exact ihRest hstandard (hsame ▸ hname)

/-! ## Whole documents -/

theorem ofSample_ends (spellings : Spellings) (style : Style) (className : String)
    (sample : Json) :
    Ends (ofSample (.ofSpellings spellings) style className sample)
      (documentFault? style className sample) := by
  -- The faults of the document are looked for in the order of the checks.
  cases hsample : sample.isStructured with
  | false =>
    rw [ofSample, documentFault?, hsample]
    rfl
  | true =>
    cases hrefused : !Java.isIdentifier className || style.occupies className with
    | true =>
      simp only [ofSample, documentFault?, hsample, hrefused, Bool.not_true, Bool.false_eq_true,
        if_false, if_true]
      rfl
    | false =>
      obtain ⟨hname, hfree⟩ := Bool.or_eq_false_iff.mp hrefused
      rw [Bool.not_eq_false'] at hname
      have hroot : (rootDraft (.ofSpellings spellings) style className).Standard spellings :=
        ⟨rfl, fun p hp => by cases hp⟩
      simp only [ofSample_of_accepted hsample hname hfree, documentFault?, hsample, hrefused,
        Bool.not_true, Bool.false_eq_true, if_false]
      exact (addEntries_ends hroot (List.mem_singleton_self className)).map Draft.toTree

variable {reader : String → Except Json.SyntaxError Json} {settings : Settings}
  {package className text : String}

theorem generate_of_unread {error : Json.SyntaxError} (h : reader text = .error error) :
    (Generator.ofReader reader settings).generate package className text =
      .error (.malformedText error) := by
  simp only [Generator.generate, Generator.generateIn, Generator.classTree, Generator.ofReader,
    Generator.withSettings, h]

theorem generate_of_read {sample : Json} (h : reader text = .ok sample) :
    (Generator.ofReader reader settings).generate package className text =
      (ofSample (.ofSpellings settings.naming) settings.style className sample).bind
        (Java.render package) := by
  simp only [Generator.generate, Generator.generateIn, Generator.classTree, Generator.ofReader,
    Generator.withSettings, h]
  cases ofSample (.ofSpellings settings.naming) settings.style className sample <;> rfl

/-- A source comes from the class tree of a document that was read. -/
theorem exists_of_generate {source : String}
    (h : (Generator.ofReader reader settings).generate package className text = .ok source) :
    ∃ sample tree, reader text = .ok sample ∧
      ofSample (.ofSpellings settings.naming) settings.style className sample = .ok tree ∧
      Java.render package tree = .ok source := by
  cases hread : reader text with
  | error error =>
    rw [generate_of_unread hread] at h
    cases h
  | ok sample =>
    rw [generate_of_read hread] at h
    cases htree : ofSample (.ofSpellings settings.naming) settings.style className sample with
    | error e =>
      rw [htree] at h
      cases h
    | ok tree =>
      rw [htree] at h
      exact ⟨sample, tree, rfl, htree, h⟩

theorem generate_outcome (reader : String → Except Json.SyntaxError Json) (settings : Settings)
    (package className text : String) :
    match reader text with
    | .error error =>
        (Generator.ofReader reader settings).generate package className text =
          .error (.malformedText error)
    | .ok sample =>
        match fault? settings.style package className sample with
        | some e => (Generator.ofReader reader settings).generate package className text = .error e
        | none => ∃ tree source,
            ofSample (.ofSpellings settings.naming) settings.style className sample = .ok tree ∧
              Java.render package tree = .ok source ∧
              (Generator.ofReader reader settings).generate package className text =
                .ok source := by
  cases hread : reader text with
  | error error => exact generate_of_unread hread
  | ok sample =>
    have hends := ofSample_ends settings.naming settings.style className sample
    simp only [fault?, generate_of_read hread]
    -- The faults of the document come before that of the package.
    cases hdocument : documentFault? settings.style className sample with
    | some e =>
      rw [hdocument] at hends
      simp only [Option.some_or]
      rw [show ofSample _ _ _ _ = .error e from hends]
      rfl
    | none =>
      rw [hdocument] at hends
      obtain ⟨tree, htree⟩ := hends
      simp only [htree, Option.none_or, Except.bind, Java.render, Java.checkPackage]
      cases Java.isPackage package with
      | false => rfl
      | true => exact ⟨tree, _, rfl, rfl, rfl⟩

end JsonClasses
