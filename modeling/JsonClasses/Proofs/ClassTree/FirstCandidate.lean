import JsonClasses.Proofs.ClassTree.Operation
import JsonClasses.Proofs.ClassTree.Standard

/-!
# The first free candidate

With standard namers a draft takes every key that has a word, whatever was done to it before. The
property is named after the first candidate that clashes with none of the earlier properties, and
each of those stands in the way of at most three candidates.
-/
namespace JsonClasses

/-- Only one of the styles writes setters, and another one the methods of a builder. -/
theorem Member.length_filter_isWritten_le (style : Style) :
    (Member.all.filter (·.isWritten style)).length ≤ 3 := by
  cases style <;> decide

namespace Draft

variable {spellings : Spellings} {style : Style} {draft next : Draft} {key : String}
  {type : ValueType}

/-! ## What every sequence of operations keeps -/

theorem Standard.of_withProperty (h : draft.Standard spellings)
    (hnext : draft.withProperty key type = .ok next) : next.Standard spellings := by
  rcases h.exists_of_withProperty hnext with ⟨raw, hraw, _, rfl⟩
  exact h.pushed hraw

theorem Standard.perform (h : draft.Standard spellings) (operation : Operation) :
    (Draft.perform operation draft).2.Standard spellings := by
  cases operation with
  | addProperty key type =>
    rw [perform_addProperty]
    cases hnext : draft.withProperty key type with
    | ok next => exact h.of_withProperty hnext
    -- A call that fails leaves the draft alone.
    | error e => exact h
  | addModifiers modifiers => exact ⟨h.namers, h.properties⟩
  | addNested inner => exact h.withNested inner
  | build => exact h

theorem Standard.performAll (h : draft.Standard spellings) (operations : List Operation) :
    (Draft.performAll operations draft).2.Standard spellings := by
  induction operations generalizing draft with
  | nil => exact h
  | cons operation operations ih =>
    rw [performAll_cons]
    exact ih (h.perform operation)

/-! ## How many candidates are spoiled -/

/-- Only a member that the style writes can spoil a candidate. -/
theorem Standard.exists_written_spoiler (h : draft.Standard spellings) {n : Nat}
    (hclash : draft.hasClash (draft.candidate spellings key type n) = true) :
    ∃ earlier ∈ draft.properties ×ˢ Member.all.filter (·.isWritten draft.style),
      draft.spoils spellings key type earlier n := by
  rcases h.exists_spoiler hclash with ⟨⟨earlier, m⟩, hmem, name, hnew, hold⟩
  -- A member that the style leaves out has no name that could be taken.
  have hwritten : m.isWritten draft.style = true := by
    rw [candidate, Property.member?_ofWords] at hnew
    by_contra hnot
    rw [if_neg hnot] at hnew
    cases hnew
  rw [List.mem_product] at hmem
  refine ⟨(earlier, m), ?_, name, hnew, hold⟩
  rw [List.mem_product, List.mem_filter]
  exact ⟨hmem.1, hmem.2, hwritten⟩

theorem Standard.exists_free_candidate (h : draft.Standard spellings) (type : ValueType)
    (hkey : Words.split key ≠ []) :
    ∃ n ≤ 3 * draft.properties.length,
      draft.hasClash (draft.candidate spellings key type n) = false := by
  rcases Candidates.exists_free_of_spoilers draft.hasClash (draft.candidate spellings key type)
    (draft.spoils spellings key type) _ (fun _ hclash => h.exists_written_spoiler hclash)
    (fun _ _ _ hm hn => eq_of_spoils hkey hm hn) with ⟨n, hle, hfree⟩
  refine ⟨n, ?_, hfree⟩
  rw [List.length_product] at hle
  calc n ≤ draft.properties.length * (Member.all.filter (·.isWritten draft.style)).length := hle
    _ ≤ draft.properties.length * 3 :=
        Nat.mul_le_mul_left _ (Member.length_filter_isWritten_le draft.style)
    _ = 3 * draft.properties.length := Nat.mul_comm _ _

/-- The number of the candidate that is taken, and all candidates before it clash. -/
theorem Standard.withProperty_first (h : draft.Standard spellings) (type : ValueType)
    (hkey : Words.split key ≠ []) :
    ∃ n ≤ 3 * draft.properties.length,
      draft.withProperty key type = .ok (draft.pushed (draft.candidate spellings key type n)) ∧
      draft.hasClash (draft.candidate spellings key type n) = false ∧
      ∀ m < n, draft.hasClash (draft.candidate spellings key type m) = true := by
  rcases h.withProperty type hkey with ⟨n, hnext, hfree, hbefore⟩
  rcases h.exists_free_candidate type hkey with ⟨bound, hbound, hfreeBound⟩
  refine ⟨n, ?_, hnext, hfree, hbefore⟩
  -- A free candidate below the first free one would clash.
  by_contra hlate
  have hclash := hbefore bound (by omega)
  rw [hfreeBound] at hclash
  cases hclash

/-! ## Drafts that were worked on -/

/-- The candidate that is taken has a number of at most three times the earlier properties, and
four attempts for each of those are allowed. -/
theorem performAll_first_free (spellings : Spellings) (style : Style) (name : String)
    (operations : List Operation) {key : String} (type : ValueType)
    (hkey : ∃ c ∈ key.toList, Unicode.isAlphanumeric c = true) :
    let reached := (performAll operations { name, style, namers := .ofSpellings spellings }).2
    ∃ n ≤ 3 * reached.properties.length, ∃ property,
      reached.propertyFrom key type (Candidates.nth key n) = .ok property ∧
      reached.hasClash property = false ∧
      (∀ m < n, ∃ refused, reached.propertyFrom key type (Candidates.nth key m) = .ok refused ∧
        reached.hasClash refused = true) ∧
      perform (.addProperty key type) reached =
        (.done, { reached with properties := reached.properties ++ [property] }) := by
  intro reached
  have hwords : Words.split key ≠ [] := by
    rw [ne_eq, Words.split_eq_nil_iff]
    rcases hkey with ⟨c, hc, halphanumeric⟩
    intro hnone
    rw [hnone c hc] at halphanumeric
    cases halphanumeric
  have hempty : Standard spellings { name, style, namers := .ofSpellings spellings } :=
    ⟨rfl, List.forall_mem_nil _⟩
  have hreached : reached.Standard spellings := hempty.performAll operations
  have hmade := propertyFrom_nth hreached.namers hwords type
  rcases hreached.withProperty_first type hwords with ⟨n, hbound, hnext, hfree, hbefore⟩
  refine ⟨n, hbound, reached.candidate spellings key type n, hmade n, hfree, ?_, ?_⟩
  · intro m hm
    exact ⟨reached.candidate spellings key type m, hmade m, hbefore m hm⟩
  · rw [perform_addProperty, hnext]
    rfl

/-- Two keys that read the same are there, so the third one gets the third number. -/
theorem performAll_first_free_third :
    let reached := (performAll [.addProperty "id" (.scalar .string), .build,
      .addProperty "Id" .anyObject]
      { name := "Root", style := .bean, namers := .ofSpellings {} }).2
    (∃ c ∈ "ID".toList, Unicode.isAlphanumeric c = true) ∧
      ∃ n ≤ 3 * reached.properties.length, ∃ property,
        reached.propertyFrom "ID" .anyObject (Candidates.nth "ID" n) = .ok property ∧
        perform (.addProperty "ID" .anyObject) reached =
          (.done, { reached with properties := reached.properties ++ [property] }) ∧
        (reached.properties ++ [property]).map (·.field) = ["id", "id2", "id3"] := by
  intro reached
  have hkey : ∃ c ∈ "ID".toList, Unicode.isAlphanumeric c = true :=
    ⟨'I', by decide, by decide +kernel⟩
  have hfields : (perform (.addProperty "ID" .anyObject) reached).2.properties.map (·.field) =
      ["id", "id2", "id3"] := by
    decide +kernel
  have hfirst := performAll_first_free {} .bean "Root" [.addProperty "id" (.scalar .string),
    .build, .addProperty "Id" .anyObject] .anyObject hkey
  rw [show (performAll _ _).2 = reached from rfl] at hfirst
  -- From here on the draft is opaque, so that no step computes it again.
  clear_value reached
  rcases hfirst with ⟨n, hbound, property, hproperty, _, _, hnext⟩
  rw [hnext] at hfields
  exact ⟨hkey, n, hbound, property, hproperty, hnext, hfields⟩

end Draft
end JsonClasses
