import JsonClasses.Proofs.ClassTree.Members
import Mathlib.Data.List.ProdSigma

/-!
# Drafts with standard namers

A property that is already there spoils at most one candidate for each kind of member, and a class
name that is taken at most one candidate for a nested class. So there are enough attempts, and only
a raw name without words can fail.
-/
namespace JsonClasses.Draft

variable {spellings : Spellings} {draft : Draft} {key raw : String} {type : ValueType}

/-- The namers are the standard ones, and the properties got their names from them. -/
structure Standard (spellings : Spellings) (draft : Draft) : Prop where
  namers : draft.namers = .ofSpellings spellings
  properties : ∀ p ∈ draft.properties, ∃ raw, Words.split raw ≠ [] ∧
    p = .ofWords spellings draft.style p.key p.type (Words.split raw)

/-! ## Properties -/

theorem propertyFrom_of_words (hnamers : draft.namers = .ofSpellings spellings)
    (h : Words.split raw ≠ []) :
    draft.propertyFrom key type raw =
      .ok (.ofWords spellings draft.style key type (Words.split raw)) := by
  -- The raw names of accessors have words as well, since the verb is one.
  have hgetter : Words.split (getterRaw raw type) ≠ [] := by
    obtain ⟨_, _, hwords, _⟩ := Member.exists_head_getterWords (Words.split raw) type
    rw [Member.split_getterRaw, hwords]
    exact List.cons_ne_nil _ _
  have hsetter : Words.split (setterRaw raw) ≠ [] := by
    rw [Member.split_setterRaw]
    exact List.cons_ne_nil _ _
  rw [propertyFrom_eq_ok_iff, hnamers]
  simp only [Namers.ofSpellings, Namer.standard_eq_ok type h,
    Namer.standard_eq_ok type hgetter, Namer.standard_eq_ok type hsetter, Member.split_getterRaw,
    Member.split_setterRaw, nameWhen]
  refine ⟨rfl, rfl, rfl, rfl, ?_, ?_, ?_⟩
  · simp [Property.ofWords, Except.map]
  · cases hs : draft.style.hasSetters <;> simp [Property.ofWords, hs, Except.map]
  · cases hb : draft.style.hasBuilder <;> simp [Property.ofWords, hb, Except.map]

/-- A key whose own names clash with none keeps them. -/
theorem withProperty_of_words (hnamers : draft.namers = .ofSpellings spellings)
    (h : Words.split key ≠ [])
    (hfree : draft.hasClash (.ofWords spellings draft.style key type (Words.split key)) = false) :
    draft.withProperty key type =
      .ok (draft.pushed (.ofWords spellings draft.style key type (Words.split key))) :=
  withProperty_of_free (propertyFrom_of_words hnamers h) hfree

theorem propertyFrom_of_no_words (hnamers : draft.namers = .ofSpellings spellings)
    (h : Words.split raw = []) :
    draft.propertyFrom key type raw = .error (.unusableName raw .field) := by
  rw [propertyFrom, hnamers]
  simp only [Namers.ofSpellings, Namer.standard_eq_error type h]
  rfl

theorem withProperty_of_no_words (hnamers : draft.namers = .ofSpellings spellings)
    (h : Words.split key = []) :
    draft.withProperty key type = .error (.unusableName key .field) := by
  -- The field is named first, so its error is the one that shows.
  have hfirst : draft.propertyFrom key type (Candidates.nth key 0) =
      .error (.unusableName key .field) := propertyFrom_of_no_words hnamers h
  rw [withProperty_eq, memberAttempts, Candidates.search_succ_of_error hfirst]
  rfl

/-- The property of the candidate with this index. -/
def candidate (spellings : Spellings) (draft : Draft) (key : String) (type : ValueType) (n : Nat) :
    Property :=
  .ofWords spellings draft.style key type (Words.split key ++ Words.suffixOf n)

/-- A member of an earlier property spoils the candidate that would give its name to the same
member. -/
def spoils (spellings : Spellings) (draft : Draft) (key : String) (type : ValueType)
    (earlier : Property × Member) (n : Nat) : Prop :=
  ∃ name, (draft.candidate spellings key type n).member? earlier.2 = some name ∧
    earlier.1.member? earlier.2 = some name

theorem eq_of_spoils (hkey : Words.split key ≠ []) {earlier : Property × Member} {m n : Nat}
    (hm : draft.spoils spellings key type earlier m)
    (hn : draft.spoils spellings key type earlier n) : m = n := by
  obtain ⟨name, hm, hname⟩ := hm
  obtain ⟨name', hn, hname'⟩ := hn
  rw [hname, Option.some.injEq] at hname'
  subst hname'
  rw [candidate, Property.member?_ofWords, Option.ite_none_right_eq_some, Option.some.injEq,
    Member.words_append _ hkey] at hm hn
  exact Spelling.identifier_suffixOf_injective (Member.join_words_ne_nil _ _ type hkey)
    (hm.2.trans hn.2.symm)

theorem Standard.exists_spoiler (h : Standard spellings draft) {n : Nat}
    (hclash : draft.hasClash (draft.candidate spellings key type n) = true) :
    ∃ earlier ∈ draft.properties ×ˢ Member.all,
      draft.spoils spellings key type earlier n := by
  obtain ⟨earlier, hearlier, hclash⟩ := List.any_eq_true.mp hclash
  obtain ⟨raw, _, heq⟩ := h.properties earlier hearlier
  rw [candidate, heq] at hclash
  obtain ⟨m, name, hnew, hold⟩ := Property.exists_member_of_clashesWith hclash
  rw [← heq] at hold
  exact ⟨(earlier, m), List.mem_product.mpr ⟨hearlier, m.mem_all⟩, name, hnew, hold⟩

theorem propertyFrom_nth (hnamers : draft.namers = .ofSpellings spellings)
    (hkey : Words.split key ≠ []) (type : ValueType) (n : Nat) :
    draft.propertyFrom key type (Candidates.nth key n) =
      .ok (draft.candidate spellings key type n) := by
  rw [propertyFrom_of_words hnamers (Words.split_nth_ne_nil hkey n), Words.split_nth, candidate]

/-- A key with a word gets a property, named after the first candidate without a clash. -/
theorem Standard.withProperty (h : Standard spellings draft) (type : ValueType)
    (hkey : Words.split key ≠ []) :
    ∃ n, draft.withProperty key type = .ok (draft.pushed (draft.candidate spellings key type n)) ∧
      draft.hasClash (draft.candidate spellings key type n) = false ∧
      ∀ m < n, draft.hasClash (draft.candidate spellings key type m) = true := by
  have hmade := propertyFrom_nth h.namers hkey type
  -- There are four kinds of members, and two attempts to spare.
  have henough : (draft.properties ×ˢ Member.all).length < draft.memberAttempts := by
    rw [List.length_product, memberAttempts, show Member.all.length = 4 from rfl]
    omega
  obtain ⟨n, hsearch, hfirst⟩ := Candidates.exists_search_of_spoilers
    (draft.propertyFrom key type) draft.hasClash (draft.candidate spellings key type)
    (draft.spoils spellings key type) _ hmade (fun _ hclash => h.exists_spoiler hclash)
    (fun _ _ _ hm hn => eq_of_spoils hkey hm hn) henough
  refine ⟨n, ?_, hfirst⟩
  rw [withProperty_eq, hsearch]
  rfl

theorem Standard.pushed (h : Standard spellings draft) (hraw : Words.split raw ≠ []) :
    Standard spellings
      (draft.pushed (.ofWords spellings draft.style key type (Words.split raw))) := by
  refine ⟨h.namers, fun p hp => ?_⟩
  rw [pushed_properties, List.mem_append, List.mem_singleton] at hp
  obtain hp | rfl := hp
  · exact h.properties p hp
  · exact ⟨raw, hraw, rfl⟩

theorem Standard.withNested (h : Standard spellings draft) (inner : ClassTree) :
    Standard spellings (draft.withNested inner) :=
  ⟨h.namers, h.properties⟩

theorem Standard.inner (h : Standard spellings draft) (name : String) :
    Standard spellings (draft.inner name) := by
  refine ⟨h.namers, fun p hp => ?_⟩
  rw [inner_properties] at hp
  cases hp

theorem Standard.exists_withProperty (h : Standard spellings draft) (type : ValueType)
    (hkey : Words.split key ≠ []) :
    ∃ next, draft.withProperty key type = .ok next ∧ Standard spellings next ∧
      next.name = draft.name := by
  obtain ⟨n, hnext, _⟩ := h.withProperty type hkey
  refine ⟨_, hnext, ?_, rfl⟩
  rw [candidate, ← Words.split_nth]
  exact h.pushed (Words.split_nth_ne_nil hkey n)

/-- A property that was added got its names from one raw name, and clashes with no other. -/
theorem Standard.exists_of_withProperty {next : Draft} (h : Standard spellings draft)
    (hnext : draft.withProperty key type = .ok next) :
    ∃ raw, Words.split raw ≠ [] ∧
      draft.hasClash (.ofWords spellings draft.style key type (Words.split raw)) = false ∧
      next = draft.pushed (.ofWords spellings draft.style key type (Words.split raw)) := by
  obtain ⟨raw, property, hproperty, hfree, rfl⟩ := Draft.exists_of_withProperty hnext
  have hraw : Words.split raw ≠ [] := by
    intro hnone
    rw [propertyFrom_of_no_words h.namers hnone] at hproperty
    cases hproperty
  rw [propertyFrom_of_words h.namers hraw] at hproperty
  obtain rfl := Except.ok.inj hproperty
  exact ⟨raw, hraw, hfree, rfl⟩

/-! ## Nested classes -/

theorem nameForNested_of_no_words {enclosing : List String}
    (hnamers : draft.namers = .ofSpellings spellings) (h : Words.split key = []) :
    draft.nameForNested enclosing key = .error (.unusableName key .className) := by
  have hfirst : draft.namers.className (Candidates.nth key 0) .anyObject =
      .error (.unusableName key .className) := by
    rw [hnamers]
    exact Namer.standard_eq_error .anyObject h
  exact Candidates.search_succ_of_error hfirst

/-- A key with a word gets a name for a nested class. -/
theorem exists_nameForNested {enclosing : List String}
    (hnamers : draft.namers = .ofSpellings spellings) (hname : draft.name ∈ enclosing)
    (hkey : Words.split key ≠ []) : ∃ name, draft.nameForNested enclosing key = .ok name := by
  have hsupplies : draft.namers.className.Supplies key fun n =>
      spellings.className.identifier (Words.split key ++ Words.suffixOf n) := by
    refine ⟨fun n => ?_, Spelling.identifier_suffixOf_injective
      (Member.join_words_ne_nil spellings.className .field .anyObject hkey)⟩
    rw [hnamers, ← Words.split_nth]
    exact Namer.standard_eq_ok .anyObject (Words.split_nth_ne_nil hkey n)
  obtain ⟨n, hfirst, _⟩ := nameForNested_first hname hsupplies
  exact ⟨_, hfirst⟩

end JsonClasses.Draft
