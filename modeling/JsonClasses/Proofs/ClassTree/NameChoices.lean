import JsonClasses.Proofs.ClassTree.Run

/-!
# Choices of names for nested classes

Here the inference of a class tree keeps a record of every name that it asks for a nested class,
with the names around it and the answer. Forgetting the record leaves the inference as it is. With
a namer that tells the candidates of a key apart each answer is the first candidate that is not
taken, wherever in the document the name is asked for.
-/
namespace JsonClasses

/-- A name is asked for a class nested in the innermost of `enclosing`, behind the `siblings`. -/
structure NameChoice where
  enclosing : List String
  siblings : List String
  key : String
  answer : Except GenerationError String

/-- The names that are not free for the class. -/
def NameChoice.taken (choice : NameChoice) (style : Style) : List String :=
  choice.enclosing ++ choice.siblings ++ style.occupiedNames

/-- A result and the choices made on the way, also on the way to an error. -/
abbrev Recorded (α : Type) := Except GenerationError α × List NameChoice

namespace Recorded

variable {α β γ : Type}

/-- Nothing is chosen. -/
def plain (result : Except GenerationError α) : Recorded α := (result, [])

def andThen (first : Recorded α) (rest : α → Recorded β) : Recorded β :=
  match first.1 with
  | .error e => (.error e, first.2)
  | .ok x => ((rest x).1, first.2 ++ (rest x).2)

theorem andThen_of_ok {first : Recorded α} {x : α} (h : first.1 = .ok x) (rest : α → Recorded β) :
    first.andThen rest = ((rest x).1, first.2 ++ (rest x).2) := by
  simp only [andThen, h]

theorem andThen_of_error {first : Recorded α} {e : GenerationError} (h : first.1 = .error e)
    (rest : α → Recorded β) : first.andThen rest = (.error e, first.2) := by
  simp only [andThen, h]

theorem andThen_assoc (first : Recorded α) (second : α → Recorded β) (third : β → Recorded γ) :
    (first.andThen second).andThen third = first.andThen fun x => (second x).andThen third := by
  cases hfirst : first.1 with
  | error e => rw [andThen_of_error hfirst, andThen_of_error hfirst, andThen_of_error rfl]
  | ok x =>
    rw [andThen_of_ok hfirst, andThen_of_ok hfirst]
    cases hsecond : (second x).1 with
    | error e => rw [andThen_of_error rfl, andThen_of_error hsecond]
    | ok y => rw [andThen_of_ok rfl, andThen_of_ok hsecond, List.append_assoc]

theorem snd_andThen_plain (first : Recorded α) (f : α → β) :
    (first.andThen fun x => plain (.ok (f x))).2 = first.2 := by
  cases hfirst : first.1 with
  | error e => rw [andThen_of_error hfirst]
  | ok x =>
    rw [andThen_of_ok hfirst]
    exact List.append_nil first.2

theorem plain_andThen (x : α) (rest : α → Recorded β) : (plain (.ok x)).andThen rest = rest x := by
  rw [andThen_of_ok rfl]
  rfl

end Recorded

/-! ## Inference with a record -/

/-- What a draft asks when a class is nested in it. -/
def Draft.nameChoice (draft : Draft) (enclosing : List String) (key : String) : NameChoice where
  enclosing := enclosing
  siblings := draft.nested.map (·.name)
  key := key
  answer := draft.nameForNested enclosing key

def Draft.recordedName (draft : Draft) (enclosing : List String) (key : String) : Recorded String :=
  ((draft.nameChoice enclosing key).answer, [draft.nameChoice enclosing key])

namespace ClassTree
open ValueType Recorded

mutual

def recordedType (draft : Draft) (enclosing : List String) (key : String) :
    Json → Recorded (ValueType × Draft)
  | .object entries =>
      (draft.recordedName enclosing key).andThen fun name =>
        (recordedEntries (draft.inner name) (enclosing ++ [name]) entries).andThen fun inner =>
          plain (.ok (.named name, draft.withNested inner.toTree))
  | .array elements =>
      (recordedElement draft enclosing key elements).andThen fun (type, draft) =>
        plain (.ok (.list type, draft))
  | .null => plain (.ok (.anyObject, draft))
  | .bool _ => plain (.ok (.scalar .boolean, draft))
  | .number _ => plain (.ok (.scalar .decimal, draft))
  | .text _ => plain (.ok (.scalar .string, draft))

def recordedElement (draft : Draft) (enclosing : List String) (key : String) :
    List Json → Recorded (ValueType × Draft)
  | [] => plain (.ok (.anyObject, draft))
  | first :: _ => recordedType draft enclosing key first

def recordedEntries (draft : Draft) (enclosing : List String) :
    List (String × Json) → Recorded Draft
  | [] => plain (.ok draft)
  | (key, value) :: rest =>
      (recordedType draft enclosing key value).andThen fun (type, draft) =>
        (plain (draft.withProperty key type)).andThen fun draft =>
          recordedEntries draft enclosing rest

end

/-- The class tree of a document, with the record of its inference. -/
def recordedSample (namers : Namers) (style : Style) (name : String) (sample : Json) :
    Recorded ClassTree :=
  if !sample.isStructured then plain (.error (.scalarRoot sample.kind))
  else if !Java.isIdentifier name || style.occupies name then
    plain (.error (.unusableName name .className))
  else
    (recordedEntries (rootDraft namers style name) [name]
      (sample.reachedObject?.getD [])).andThen fun draft => plain (.ok draft.toTree)

theorem recordedType_of_leaf (draft : Draft) (enclosing : List String) (key : String) :
    ∀ value : Json, value.reachedObject? = none →
      recordedType draft enclosing key value =
        plain (.ok (lists value.crossed (.scalar value.reachedScalar), draft))
  | .null, _ | .bool _, _ | .number _, _ | .text _, _ => by rw [recordedType]; rfl
  | .array [], _ => by rw [recordedType, recordedElement]; rfl
  | .array (first :: _), h => by
      rw [Json.reachedObject?, Json.reachedFrom?] at h
      rw [recordedType, recordedElement, recordedType_of_leaf draft enclosing key first h]
      rfl

theorem recordedType_of_object (draft : Draft) (enclosing : List String) (key : String)
    {inside : List (String × Json)} :
    ∀ value : Json, value.reachedObject? = some inside →
      recordedType draft enclosing key value =
        (draft.recordedName enclosing key).andThen fun name =>
          (recordedEntries (draft.inner name) (enclosing ++ [name]) inside).andThen fun inner =>
            plain (.ok (lists value.crossed (.named name), draft.withNested inner.toTree))
  | .object _, h => by
      rw [Json.reachedObject?, Option.some.injEq] at h
      subst h
      rw [recordedType]
      rfl
  | .array (first :: _), h => by
      rw [Json.reachedObject?, Json.reachedFrom?] at h
      rw [recordedType, recordedElement, recordedType_of_object draft enclosing key first h]
      simp only [andThen_assoc, plain_andThen]
      rfl
  | .array [], h | .null, h | .bool _, h | .number _, h | .text _, h => by
      simp [Json.reachedObject?, Json.reachedFrom?] at h

theorem typeOf_keeps {draft grown : Draft} {enclosing : List String} {key : String} {value : Json}
    {type : ValueType} (h : typeOf draft enclosing key value = .ok (type, grown)) :
    grown.name = draft.name ∧ grown.style = draft.style ∧ grown.namers = draft.namers := by
  -- A leaf leaves the draft as it is, and an object adds a nested class.
  cases hvalue : value.reachedObject? with
  | none =>
    rw [typeOf_of_leaf draft enclosing key value hvalue] at h
    obtain ⟨_, rfl⟩ := Prod.mk.inj (Except.ok.inj h)
    exact ⟨rfl, rfl, rfl⟩
  | some inside =>
    rw [typeOf_of_object draft enclosing key value hvalue] at h
    split at h
    · cases h
    · split at h
      · cases h
      · obtain ⟨_, rfl⟩ := Prod.mk.inj (Except.ok.inj h)
        exact ⟨rfl, rfl, rfl⟩

theorem addEntries_cons_eq_bind (draft : Draft) (enclosing : List String) (key : String)
    (value : Json) (rest : List (String × Json)) :
    addEntries draft enclosing ((key, value) :: rest) =
      (typeOf draft enclosing key value).bind fun (type, draft) =>
        (draft.withProperty key type).bind fun draft => addEntries draft enclosing rest := by
  rw [addEntries]
  cases typeOf draft enclosing key value with
  | error e => rfl
  | ok typed =>
    obtain ⟨type, grown⟩ := typed
    simp only [Except.bind]
    cases grown.withProperty key type <;> rfl

theorem typeOf_of_object_eq_bind (draft : Draft) (enclosing : List String) (key : String)
    {value : Json} {inside : List (String × Json)} (h : value.reachedObject? = some inside) :
    typeOf draft enclosing key value =
      (draft.nameForNested enclosing key).bind fun name =>
        (addEntries (draft.inner name) (enclosing ++ [name]) inside).bind fun inner =>
          .ok (lists value.crossed (.named name), draft.withNested inner.toTree) := by
  rw [typeOf_of_object draft enclosing key value h]
  cases draft.nameForNested enclosing key with
  | error e => rfl
  | ok name =>
    simp only [Except.bind]
    cases addEntries (draft.inner name) (enclosing ++ [name]) inside <;> rfl

/-! ## Forgetting the record -/

/-- A choice is made by a draft of the run, with the name of its class among those around. -/
def MadeBy (namers : Namers) (style : Style) (choice : NameChoice) : Prop :=
  ∃ draft : Draft, draft.namers = namers ∧ draft.style = style ∧
    draft.name ∈ choice.enclosing ∧ choice = draft.nameChoice choice.enclosing choice.key

/-- The record leaves the result as it is, and every choice in it is made by a draft of the run. -/
structure Follows {α : Type} (namers : Namers) (style : Style) (recorded : Recorded α)
    (result : Except GenerationError α) : Prop where
  same : recorded.1 = result
  made : ∀ choice ∈ recorded.2, MadeBy namers style choice

namespace Follows

variable {α β : Type} {namers : Namers} {style : Style}

theorem plain (result : Except GenerationError α) : Follows namers style (plain result) result :=
  ⟨rfl, List.forall_mem_nil _⟩

theorem andThen {first : Recorded α} {result : Except GenerationError α} {rest : α → Recorded β}
    {next : α → Except GenerationError β} (h : Follows namers style first result)
    (hrest : ∀ x, result = .ok x → Follows namers style (rest x) (next x)) :
    Follows namers style (first.andThen rest) (result.bind next) := by
  cases result with
  | error e =>
    rw [andThen_of_error h.same]
    exact ⟨rfl, h.made⟩
  | ok x =>
    rw [andThen_of_ok h.same]
    exact ⟨(hrest x rfl).same, List.forall_mem_append.mpr ⟨h.made, (hrest x rfl).made⟩⟩

theorem recordedName {draft : Draft} {enclosing : List String} (hname : draft.name ∈ enclosing)
    (key : String) :
    Follows draft.namers draft.style (draft.recordedName enclosing key)
      (draft.nameForNested enclosing key) :=
  ⟨rfl, List.forall_mem_singleton.mpr ⟨draft, rfl, rfl, hname, rfl⟩⟩

end Follows

variable {draft result : Draft} {enclosing : List String}

/-- A nested class finds itself among the names around it. -/
theorem inner_name_mem (draft : Draft) (enclosing : List String) (name : String) :
    (draft.inner name).name ∈ enclosing ++ [name] :=
  List.mem_append_right enclosing (List.mem_singleton_self name)

/-- A value follows once the object that it leads to does. -/
theorem recordedType_follows_of {value : Json} (hname : draft.name ∈ enclosing) (key : String)
    (h : ∀ inside, value.reachedObject? = some inside → ∀ name,
      Follows draft.namers draft.style
        (recordedEntries (draft.inner name) (enclosing ++ [name]) inside)
        (addEntries (draft.inner name) (enclosing ++ [name]) inside)) :
    Follows draft.namers draft.style (recordedType draft enclosing key value)
      (typeOf draft enclosing key value) := by
  cases hvalue : value.reachedObject? with
  | none =>
    rw [recordedType_of_leaf draft enclosing key value hvalue,
      typeOf_of_leaf draft enclosing key value hvalue]
    exact .plain _
  | some inside =>
    rw [recordedType_of_object draft enclosing key value hvalue,
      typeOf_of_object_eq_bind draft enclosing key hvalue]
    apply (Follows.recordedName hname key).andThen
    intro name _
    exact (h inside hvalue name).andThen fun inner _ => .plain _

theorem recordedEntries_follows (draft : Draft) (enclosing : List String)
    (entries : List (String × Json)) (hname : draft.name ∈ enclosing) :
    Follows draft.namers draft.style (recordedEntries draft enclosing entries)
      (addEntries draft enclosing entries) := by
  induction entries using Json.entries_induction generalizing draft enclosing with
  | nil =>
    rw [recordedEntries, addEntries]
    exact .plain _
  | cons key value rest ihInside ihRest =>
    have htype := recordedType_follows_of hname key fun inside hvalue name =>
      ihInside inside hvalue (draft.inner name) (enclosing ++ [name])
        (inner_name_mem draft enclosing name)
    rw [recordedEntries, addEntries_cons_eq_bind]
    apply htype.andThen
    rintro ⟨type, grown⟩ hgrown
    apply (Follows.plain (grown.withProperty key type)).andThen
    intro next hnext
    -- The entries behind find the same class, with more in it.
    obtain ⟨_, property, _, _, rfl⟩ := Draft.exists_of_withProperty hnext
    obtain ⟨hsame, hstyle, hnamers⟩ := typeOf_keeps hgrown
    rw [← hnamers, ← hstyle]
    exact ihRest (grown.pushed property) enclosing (hsame ▸ hname)

theorem recordedType_follows (hname : draft.name ∈ enclosing) (key : String) (value : Json) :
    Follows draft.namers draft.style (recordedType draft enclosing key value)
      (typeOf draft enclosing key value) :=
  recordedType_follows_of hname key fun inside _ name =>
    recordedEntries_follows (draft.inner name) (enclosing ++ [name]) inside
      (inner_name_mem draft enclosing name)

/-! ## What is asked -/

/-- Going through the entries leads to the choice: for an object behind the first key, inside that
object once it has a name, or behind an entry that was added. -/
inductive Asks (choice : NameChoice) : Draft → List String → List (String × Json) → Prop
  | here {draft : Draft} {enclosing : List String} {key : String} {value : Json}
      {inside rest : List (String × Json)} (reaches : value.reachedObject? = some inside)
      (asked : choice = draft.nameChoice enclosing key) :
      Asks choice draft enclosing ((key, value) :: rest)
  | inside {draft : Draft} {enclosing : List String} {key name : String} {value : Json}
      {inside rest : List (String × Json)} (reaches : value.reachedObject? = some inside)
      (named : draft.nameForNested enclosing key = .ok name)
      (within : Asks choice (draft.inner name) (enclosing ++ [name]) inside) :
      Asks choice draft enclosing ((key, value) :: rest)
  | later {draft next : Draft} {enclosing : List String} {key : String} {value : Json}
      {rest : List (String × Json)} (added : addEntries draft enclosing [(key, value)] = .ok next)
      (behind : Asks choice next enclosing rest) :
      Asks choice draft enclosing ((key, value) :: rest)

theorem mem_recordedType_iff {choice : NameChoice} {key : String} {value : Json} :
    choice ∈ (recordedType draft enclosing key value).2 ↔
      ∃ inside, value.reachedObject? = some inside ∧
        (choice = draft.nameChoice enclosing key ∨
          ∃ name, draft.nameForNested enclosing key = .ok name ∧
            choice ∈ (recordedEntries (draft.inner name) (enclosing ++ [name]) inside).2) := by
  cases hvalue : value.reachedObject? with
  | none =>
    rw [recordedType_of_leaf draft enclosing key value hvalue]
    simp [plain]
  | some inside =>
    have hasked : (draft.recordedName enclosing key).1 = draft.nameForNested enclosing key := rfl
    have hchoice : (draft.recordedName enclosing key).2 = [draft.nameChoice enclosing key] := rfl
    rw [recordedType_of_object draft enclosing key value hvalue]
    -- A class without a name has no inside.
    cases hnamed : draft.nameForNested enclosing key with
    | error e =>
      rw [andThen_of_error (hasked.trans hnamed), hchoice]
      simp
    | ok name =>
      rw [andThen_of_ok (hasked.trans hnamed), hchoice, snd_andThen_plain]
      simp

theorem addEntries_singleton (draft : Draft) (enclosing : List String) (key : String)
    (value : Json) :
    addEntries draft enclosing [(key, value)] =
      (typeOf draft enclosing key value).bind fun (type, draft) => draft.withProperty key type := by
  rw [addEntries_cons_eq_bind]
  cases typeOf draft enclosing key value with
  | error e => rfl
  | ok typed =>
    simp only [Except.bind]
    cases typed.2.withProperty key typed.1 with
    | error e => rfl
    | ok next => simp only [addEntries]

theorem mem_recordedEntries_cons_iff {choice : NameChoice} (hname : draft.name ∈ enclosing)
    {key : String} {value : Json} {rest : List (String × Json)} :
    choice ∈ (recordedEntries draft enclosing ((key, value) :: rest)).2 ↔
      choice ∈ (recordedType draft enclosing key value).2 ∨
        ∃ next, addEntries draft enclosing [(key, value)] = .ok next ∧
          choice ∈ (recordedEntries next enclosing rest).2 := by
  have hsame := (recordedType_follows hname key value).same
  rw [recordedEntries, addEntries_singleton]
  cases htype : typeOf draft enclosing key value with
  | error e =>
    rw [andThen_of_error (hsame.trans htype)]
    simp [Except.bind]
  | ok typed =>
    rw [andThen_of_ok (hsame.trans htype)]
    simp only [Except.bind]
    cases hnext : typed.2.withProperty key typed.1 with
    | error e =>
      rw [andThen_of_error rfl]
      simp [plain]
    | ok next =>
      rw [plain_andThen]
      simp

/-- The record holds what the run asks, and nothing else, however the run ends. -/
theorem mem_recordedEntries_iff {choice : NameChoice} (entries : List (String × Json))
    (hname : draft.name ∈ enclosing) :
    choice ∈ (recordedEntries draft enclosing entries).2 ↔ Asks choice draft enclosing entries := by
  induction entries using Json.entries_induction generalizing draft enclosing with
  | nil =>
    rw [recordedEntries]
    exact iff_of_false List.not_mem_nil fun h => nomatch h
  | cons key value rest ihInside ihRest =>
    have hinside := inner_name_mem draft enclosing
    have hbehind : ∀ next, addEntries draft enclosing [(key, value)] = .ok next →
        next.name ∈ enclosing := fun next hnext =>
      (addEntries_eq_ok_iff.mp hnext).keeps.1 ▸ hname
    rw [mem_recordedEntries_cons_iff hname, mem_recordedType_iff]
    -- The three ways to an entry of the record are the three ways to ask.
    constructor
    · rintro (⟨inside, hreaches, hasked | ⟨name, hnamed, hmem⟩⟩ | ⟨next, hadded, hmem⟩)
      · exact .here hreaches hasked
      · exact .inside hreaches hnamed ((ihInside inside hreaches (hinside name)).mp hmem)
      · exact .later hadded ((ihRest (hbehind next hadded)).mp hmem)
    · intro h
      cases h with
      | here reaches asked => exact .inl ⟨_, reaches, .inl asked⟩
      | inside reaches named within =>
        exact .inl ⟨_, reaches, .inr ⟨_, named, (ihInside _ reaches (hinside _)).mpr within⟩⟩
      | later added behind => exact .inr ⟨_, added, (ihRest (hbehind _ added)).mpr behind⟩

/-! ## Names of the tree -/

/-- In a run that succeeds the answers are the names of the classes that it nests, in the order of
the tree. -/
theorem Takes.answers {entries : List (String × Json)} (h : Takes enclosing draft entries result) :
    (subtreesOf result.nested).map (fun c => Except.ok c.name) =
      (subtreesOf draft.nested).map (fun c => Except.ok c.name) ++
        (recordedEntries draft enclosing entries).2.map (·.answer) := by
  induction h with
  | done => rw [recordedEntries, plain, List.map_nil, List.append_nil]
  | @leaf enclosing draft _ _ key value _ hreaches hnext _ ih =>
    obtain ⟨_, property, _, _, rfl⟩ := Draft.exists_of_withProperty hnext
    rw [recordedEntries, recordedType_of_leaf draft enclosing key value hreaches, plain_andThen, ih]
    simp only [hnext, plain_andThen, Draft.pushed_nested]
  | @object enclosing draft inner _ _ key name value inside _ hreaches hname hwithin hnext _
      ihWithin ih =>
    have hinner : (recordedEntries (draft.inner name) (enclosing ++ [name]) inside).1 = .ok inner := by
      rw [(recordedEntries_follows (draft.inner name) (enclosing ++ [name]) inside
        (inner_name_mem draft enclosing name)).same]
      exact addEntries_eq_ok_iff.mpr hwithin
    have hchoice : (draft.recordedName enclosing key).1 = .ok name := hname
    have hself : inner.toTree.name = name := hwithin.keeps.1
    rw [Draft.inner_nested, subtreesOf, List.map_nil, List.nil_append] at ihWithin
    rw [recordedEntries, recordedType_of_object draft enclosing key value hreaches,
      andThen_assoc, andThen_of_ok hchoice, andThen_assoc, andThen_of_ok hinner, plain_andThen]
    simp only [hnext, plain_andThen]
    obtain ⟨_, property, _, _, rfl⟩ := Draft.exists_of_withProperty hnext
    -- The class itself comes before the classes inside it, and those before the ones behind it.
    rw [ih, Draft.pushed_nested, Draft.withNested, subtreesOf_eq_flatMap, List.flatMap_append,
      ← subtreesOf_eq_flatMap, List.flatMap_singleton, subtrees_eq]
    simp only [List.map_append, List.map_cons, List.append_assoc, List.cons_append, hself,
      show inner.toTree.nested = inner.nested from rfl, ihWithin]
    rw [show (draft.recordedName enclosing key).2 = [draft.nameChoice enclosing key] from rfl]
    simp [Draft.nameChoice, hname]

/-! ## Whole documents -/

theorem MadeBy.first_free {namers : Namers} {style : Style} {choice : NameChoice}
    {made : Nat → String} (h : MadeBy namers style choice)
    (hsupplies : namers.className.Supplies choice.key made) :
    ∃ n, choice.answer = .ok (made n) ∧ made n ∉ choice.taken style ∧
      ∀ m < n, made m ∈ choice.taken style := by
  obtain ⟨draft, rfl, rfl, hname, hchoice⟩ := h
  obtain ⟨n, hanswer, hfree⟩ := Draft.nameForNested_first hname hsupplies
  refine ⟨n, ?_, ?_⟩
  · rw [hchoice]
    exact hanswer
  · rw [hchoice]
    exact hfree

theorem recordedRoot_follows (namers : Namers) (style : Style) (name : String)
    (entries : List (String × Json)) :
    Follows namers style (recordedEntries (rootDraft namers style name) [name] entries)
      (addEntries (rootDraft namers style name) [name] entries) :=
  recordedEntries_follows (rootDraft namers style name) [name] entries
    (List.mem_singleton_self name)

theorem recordedSample_of_accepted {namers : Namers} {style : Style} {name : String} {sample : Json}
    (hsample : sample.isStructured = true) (hname : Java.isIdentifier name = true)
    (hfree : style.occupies name = false) :
    recordedSample namers style name sample =
      (recordedEntries (rootDraft namers style name) [name]
        (sample.reachedObject?.getD [])).andThen fun draft => plain (.ok draft.toTree) := by
  simp only [recordedSample, hsample, hname, hfree, Bool.not_true, Bool.false_eq_true,
    Bool.or_self, if_false]

theorem recordedSample_follows (namers : Namers) (style : Style) (name : String) (sample : Json) :
    Follows namers style (recordedSample namers style name sample)
      (ofSample namers style name sample) := by
  -- No name is chosen for a sample or a root that is refused.
  cases hsample : sample.isStructured with
  | false =>
    rw [recordedSample, ofSample, hsample]
    exact .plain _
  | true =>
    cases hrefused : !Java.isIdentifier name || style.occupies name with
    | true =>
      simp only [recordedSample, ofSample, hsample, hrefused, Bool.not_true, Bool.false_eq_true,
        if_false, if_true]
      exact .plain _
    | false =>
      obtain ⟨hname, hfree⟩ := Bool.or_eq_false_iff.mp hrefused
      rw [Bool.not_eq_false'] at hname
      have hroot := recordedRoot_follows namers style name (sample.reachedObject?.getD [])
      rw [recordedSample_of_accepted hsample hname hfree, ofSample_of_accepted hsample hname hfree]
      rw [show Except.map Draft.toTree _ = Except.bind _ fun draft =>
        .ok (Draft.toTree draft) from rfl]
      exact hroot.andThen fun draft _ => .plain _

/-- Names are asked only in documents that are not refused at once, and all of them are recorded. -/
theorem mem_recordedSample_iff {namers : Namers} {style : Style} {name : String} {sample : Json}
    {choice : NameChoice} :
    choice ∈ (recordedSample namers style name sample).2 ↔
      sample.isStructured = true ∧ Java.isIdentifier name = true ∧ style.occupies name = false ∧
        Asks choice (rootDraft namers style name) [name] (sample.reachedObject?.getD []) := by
  by_cases haccepted : sample.isStructured = true ∧ Java.isIdentifier name = true ∧
      style.occupies name = false
  · obtain ⟨hsample, hname, hfree⟩ := haccepted
    rw [recordedSample_of_accepted hsample hname hfree, snd_andThen_plain,
      mem_recordedEntries_iff _ (List.mem_singleton_self name)]
    simp only [hsample, hname, hfree, true_and]
  · refine iff_of_false (fun hmem => ?_) fun h => haccepted ⟨h.1, h.2.1, h.2.2.1⟩
    unfold recordedSample at hmem
    split at hmem
    · cases hmem
    · split at hmem
      · cases hmem
      · rename_i hsample hrefused
        rw [Bool.not_eq_true, Bool.or_eq_false_iff, Bool.not_eq_false'] at hrefused
        exact haccepted ⟨by simpa using hsample, hrefused⟩

/-- Whether the document as a whole succeeds or not, no name of a nested class is given up. -/
theorem recordedSample_first_free (namers : Namers) (style : Style) (name : String)
    (sample : Json) :
    (recordedSample namers style name sample).1 = ofSample namers style name sample ∧
      (∀ choice ∈ (recordedSample namers style name sample).2, ∀ made,
        namers.className.Supplies choice.key made →
          ∃ n, choice.answer = .ok (made n) ∧ made n ∉ choice.taken style ∧
            ∀ m < n, made m ∈ choice.taken style) ∧
      ∀ tree, ofSample namers style name sample = .ok tree →
        (recordedSample namers style name sample).2.map (·.answer) =
          (subtreesOf tree.nested).map fun c => .ok c.name := by
  have hfollows := recordedSample_follows namers style name sample
  refine ⟨hfollows.same, fun choice hchoice made => (hfollows.made choice hchoice).first_free, ?_⟩
  intro tree htree
  obtain ⟨hsample, hname, hfree, draft, hdraft, rfl⟩ := ofSample_eq_ok_iff.mp htree
  have hroot := recordedRoot_follows namers style name (sample.reachedObject?.getD [])
  have hresult := hroot.same.trans (addEntries_eq_ok_iff.mpr hdraft)
  have hanswers := hdraft.answers
  -- The root starts without nested classes, so those at the end are the ones that were named.
  rw [show (rootDraft namers style name).nested = [] from rfl, subtreesOf, List.map_nil,
    List.nil_append] at hanswers
  rw [recordedSample_of_accepted hsample hname hfree, andThen_of_ok hresult]
  show List.map _ (_ ++ []) = _
  rw [List.append_nil]
  exact hanswers.symm

/-- The namer keeps every candidate as it is. The classes around, a sibling and the builder stand in
the way; the last key names no field, so there is no tree. -/
theorem recordedSample_first_free_own_names :
    let namers : Namers := { Namers.standard with className := fun raw _ => .ok raw }
    let recorded := recordedSample namers .builder "Root" (.object [("Root", .object [("Root",
      .object [("Builder", .object [])])]), ("Root_2", .array [.object []]), ("!!", .null)])
    recorded.2.map (·.answer) =
        [.ok "Root_2", .ok "Root_3", .ok "Builder_2", .ok "Root_2_2"] ∧
      recorded.1.isOk = false ∧
      ∀ choice ∈ recorded.2, namers.className.Supplies choice.key (Candidates.nth choice.key) ∧
        ∃ n, choice.answer = .ok (Candidates.nth choice.key n) ∧
          Candidates.nth choice.key n ∉ choice.taken .builder ∧
          ∀ m < n, Candidates.nth choice.key m ∈ choice.taken .builder := by
  intro namers recorded
  have hsupplies : ∀ key, namers.className.Supplies key (Candidates.nth key) :=
    fun key => ⟨fun _ => rfl, Candidates.nth_injective key⟩
  refine ⟨by decide +kernel, by decide +kernel, fun choice hchoice => ⟨hsupplies choice.key, ?_⟩⟩
  exact (recordedSample_first_free namers .builder "Root" _).2.1 choice hchoice _
    (hsupplies choice.key)

end ClassTree
end JsonClasses
