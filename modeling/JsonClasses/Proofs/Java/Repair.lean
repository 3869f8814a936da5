import JsonClasses.Java.Identifier
import JsonClasses.Proofs.Naming.Words

/-!
# Repaired names

Repair looks at a text in three ways: at each character alone, at the first one, and at the text as
a whole. A text with digits behind is never a keyword.
-/
namespace JsonClasses.Java
open Unicode

/-- A character as it stands in a repaired name. -/
def mend (c : Char) : Char := if continuesIdentifier c then c else '_'

theorem repair_eq (s : String) :
    repair s = guardKeyword (String.ofList (guardStart (s.toList.map mend))) := rfl

theorem repair_congr {s t : String} (h : s.toList.map mend = t.toList.map mend) :
    repair s = repair t := by
  rw [repair_eq, repair_eq, h]

/-! ## The start -/

theorem guardStart_append {cs : List Char} (h : cs ≠ []) (rest : List Char) :
    guardStart (cs ++ rest) = guardStart cs ++ rest := by
  cases cs with
  | nil => exact absurd rfl h
  | cons c cs =>
    simp only [List.cons_append, guardStart]
    split <;> rfl

theorem guardStart_of_starts {c : Char} {cs : List Char} (h : startsIdentifier c = true) :
    guardStart (c :: cs) = c :: cs := by
  rw [guardStart, if_pos h]

theorem continuesIdentifier_of_starts {c : Char} (h : startsIdentifier c = true) :
    continuesIdentifier c = true := by
  simp only [startsIdentifier, continuesIdentifier, isAlphanumeric, Bool.or_eq_true] at h ⊢
  obtain (h | h) | h := h
  · exact .inl (.inl (.inl h))
  · exact .inl (.inr h)
  · exact .inr h

theorem mend_of_continues {c : Char} (h : continuesIdentifier c = true) : mend c = c :=
  if_pos h

theorem mend_of_isAlphanumeric {c : Char} (h : isAlphanumeric c = true) : mend c = c := by
  apply mend_of_continues
  simp only [continuesIdentifier, h, Bool.true_or]

theorem mend_of_isDigit {c : Char} (h : c.isDigit = true) : mend c = c :=
  mend_of_isAlphanumeric (isAlphanumeric_of_isDigit h)

theorem map_mend_toString (n : Nat) : (toString n).toList.map mend = (toString n).toList := by
  rw [List.map_congr_left fun c hc => mend_of_isDigit (Text.isDigit_of_mem_toString hc),
    List.map_id']

/-! ## Keywords -/

theorem toList_guardKeyword (s : String) :
    (guardKeyword s).toList = s.toList ∨
      isKeyword s = true ∧ (guardKeyword s).toList = s.toList ++ ['_'] := by
  rw [guardKeyword]
  split
  · rename_i h
    exact .inr ⟨h, by rw [String.toList_append]; rfl⟩
  · exact .inl rfl

theorem not_isKeyword_of_digit {s : String} {c : Char} (h : s.toList.getLast? = some c)
    (hc : c.isDigit = true) : isKeyword s = false := by
  have hlast : ∀ k ∈ keywords, k.toList.getLast?.any Char.isDigit = false := by decide
  rw [isKeyword, List.contains_eq_mem, decide_eq_false_iff_not]
  intro hmem
  have hnone := hlast s hmem
  rw [h, Option.any_some, hc] at hnone
  cases hnone

/-! ## Heads and tails -/

/-- A first character that may start an identifier stays in front. -/
theorem head?_repair {s : String} {c : Char} (h : s.toList.head? = some c)
    (hc : startsIdentifier c = true) : (repair s).toList.head? = some c := by
  obtain ⟨cs, hs⟩ := List.head?_eq_some_iff.mp h
  rw [repair_eq, hs, List.map_cons, mend_of_continues (continuesIdentifier_of_starts hc),
    guardStart_of_starts hc]
  obtain hsame | ⟨_, hguarded⟩ := toList_guardKeyword (String.ofList (c :: cs.map mend))
  · rw [hsame, String.toList_ofList, List.head?_cons]
  · rw [hguarded, String.toList_ofList, List.cons_append, List.head?_cons]

/-- What stands in front of digits is repaired as if it stood alone. -/
theorem toList_repair_append_digits {s t : String} (hs : s.toList ≠ []) {c : Char}
    (ht : t.toList.getLast? = some c) (hc : c.isDigit = true) :
    (repair (s ++ t)).toList = guardStart (s.toList.map mend) ++ t.toList.map mend := by
  have hmap : s.toList.map mend ≠ [] := by simpa using hs
  rw [repair_eq, String.toList_append, List.map_append, guardStart_append hmap, guardKeyword,
    not_isKeyword_of_digit (c := c) _ hc]
  · simp only [Bool.false_eq_true, if_false, String.toList_ofList]
  · rw [String.toList_ofList, List.getLast?_append, List.getLast?_map, ht, Option.map_some,
      Option.some_or, mend_of_isDigit hc]

/-- A repaired text differs from any longer one that starts with it and ends in a digit. -/
theorem repair_ne_append_digits {s t : String} (hs : s.toList ≠ []) {c : Char}
    (ht : t.toList.getLast? = some c) (hc : c.isDigit = true) : repair s ≠ repair (s ++ t) := by
  intro heq
  have hlist := congrArg String.toList heq
  rw [toList_repair_append_digits hs ht hc, repair_eq] at hlist
  -- The shorter text ends where the longer goes on, or in the `_` of a guarded keyword.
  obtain hsame | ⟨_, hguarded⟩ := toList_guardKeyword (String.ofList (guardStart (s.toList.map mend)))
  · rw [hsame, String.toList_ofList, List.self_eq_append_right, List.map_eq_nil_iff] at hlist
    rw [hlist] at ht
    cases ht
  · rw [hguarded, String.toList_ofList, List.append_cancel_left_eq] at hlist
    have hmend : mend c = '_' := by
      have := congrArg List.getLast? hlist
      rw [List.getLast?_map, ht, List.getLast?_singleton, Option.map_some] at this
      exact (Option.some.inj this).symm
    rw [← mend_of_isDigit hc, hmend] at hc
    cases hc

/-! ## What repair keeps apart -/

/-- A text that starts with a letter or digit and does not look like a guarded keyword. -/
structure Regular (s : String) : Prop where
  head : ∃ c rest, s.toList = c :: rest ∧ isAlphanumeric c = true
  tail : ∀ k ∈ keywords, s.toList.map mend ≠ k.toList ++ ['_']

theorem Regular.exists_head {s : String} (h : Regular s) :
    ∃ c rest, s.toList.map mend = c :: rest ∧ c ≠ '_' := by
  obtain ⟨c, rest, hs, hc⟩ := h.head
  refine ⟨c, rest.map mend, ?_, ne_underscore_of_isAlphanumeric hc⟩
  rw [hs, List.map_cons, mend_of_isAlphanumeric hc]

theorem Regular.guardStart_cases {s : String} (h : Regular s) :
    guardStart (s.toList.map mend) = s.toList.map mend ∨
      guardStart (s.toList.map mend) = '_' :: s.toList.map mend := by
  obtain ⟨c, rest, hs, _⟩ := h.exists_head
  rw [hs, guardStart]
  split
  · exact .inl rfl
  · exact .inr rfl

/-- A guarded keyword is no other repaired text. -/
theorem Regular.guardStart_ne {s t : String} (hs : Regular s) (ht : Regular t)
    (hkeyword : isKeyword (String.ofList (guardStart (t.toList.map mend))) = true) :
    guardStart (s.toList.map mend) ≠ guardStart (t.toList.map mend) ++ ['_'] := by
  have hunderscore : ∀ k ∈ keywords, k.toList.head? = some '_' → k.toList = ['_'] := by decide
  obtain ⟨c, rest, htmap, hc⟩ := ht.exists_head
  rw [isKeyword, List.contains_eq_mem, decide_eq_true_eq] at hkeyword
  -- The only keyword with `_` in front is `_` itself, so the keyword stands as it was mended.
  have hsame : guardStart (t.toList.map mend) = t.toList.map mend := by
    obtain h | h := ht.guardStart_cases
    · exact h
    · have hone := hunderscore _ hkeyword (by rw [h, String.toList_ofList, List.head?_cons])
      rw [h, String.toList_ofList, htmap] at hone
      cases hone
  have htail := hs.tail _ hkeyword
  rw [String.toList_ofList, hsame] at htail
  rw [hsame]
  intro heq
  obtain h | h := hs.guardStart_cases
  · exact htail (h.symm.trans heq)
  · rw [h, htmap, List.cons_append] at heq
    exact hc (List.cons.inj heq).1.symm

theorem Regular.map_mend_eq {s t : String} (hs : Regular s) (ht : Regular t)
    (h : repair s = repair t) : s.toList.map mend = t.toList.map mend := by
  have hlist := congrArg String.toList h
  rw [repair_eq, repair_eq] at hlist
  -- First the guard behind keywords is undone, then the one at the start.
  have hguarded : guardStart (s.toList.map mend) = guardStart (t.toList.map mend) := by
    obtain h₁ | ⟨hk₁, h₁⟩ := toList_guardKeyword (String.ofList (guardStart (s.toList.map mend)))
    all_goals
      obtain h₂ | ⟨hk₂, h₂⟩ :=
        toList_guardKeyword (String.ofList (guardStart (t.toList.map mend)))
    all_goals rw [h₁, h₂, String.toList_ofList, String.toList_ofList] at hlist
    · exact hlist
    · exact absurd hlist (hs.guardStart_ne ht hk₂)
    · exact absurd hlist.symm (ht.guardStart_ne hs hk₁)
    · exact List.append_cancel_right hlist
  obtain ⟨c, rest, hsmap, hc⟩ := hs.exists_head
  obtain ⟨d, rest', htmap, hd⟩ := ht.exists_head
  obtain h₁ | h₁ := hs.guardStart_cases
  all_goals obtain h₂ | h₂ := ht.guardStart_cases
  all_goals rw [h₁, h₂] at hguarded
  · exact hguarded
  · rw [hsmap] at hguarded
    exact absurd (List.cons.inj hguarded).1 hc
  · rw [htmap] at hguarded
    exact absurd (List.cons.inj hguarded).1.symm hd
  · exact (List.cons.inj hguarded).2

/-- Whatever repair puts into a text is a `_`. -/
theorem eq_of_repair_eq {s t : String} (h : repair s = t) (ht : '_' ∉ t.toList) : s = t := by
  have hlist := congrArg String.toList h
  rw [repair_eq] at hlist
  -- Neither the guard behind a keyword nor the one at the start was put.
  have hguarded : guardStart (s.toList.map mend) = t.toList := by
    obtain hsame | ⟨_, hbehind⟩ :=
      toList_guardKeyword (String.ofList (guardStart (s.toList.map mend)))
    · rwa [hsame, String.toList_ofList] at hlist
    · rw [hbehind] at hlist
      exact absurd (hlist ▸ List.mem_append_right _ (List.mem_singleton_self '_')) ht
  have hmended : s.toList.map mend = t.toList := by
    cases hcs : s.toList.map mend with
    | nil => rw [← hguarded, hcs, guardStart]
    | cons c cs =>
      rw [hcs, guardStart] at hguarded
      split at hguarded
      · exact hguarded
      · exact absurd (hguarded ▸ List.mem_cons_self) ht
  have hsame : ∀ c ∈ s.toList, mend c = c := by
    intro c hc
    by_cases hcontinues : continuesIdentifier c = true
    · exact mend_of_continues hcontinues
    · have hmend : mend c = '_' := if_neg hcontinues
      exact absurd (hmended ▸ hmend ▸ List.mem_map_of_mem hc) ht
  rw [List.map_congr_left hsame, List.map_id'] at hmended
  exact String.toList_injective hmended

/-! ## Identifiers -/

theorem isIdentifier_iff {s : String} :
    isIdentifier s = true ↔ ∃ c rest, s.toList = c :: rest ∧ startsIdentifier c = true ∧
      (∀ d ∈ rest, continuesIdentifier d = true) ∧ isKeyword s = false := by
  rw [isIdentifier]
  cases s.toList with
  | nil => simp
  | cons c rest => simp [and_assoc]

theorem repair_of_isIdentifier {name : String} (h : isIdentifier name = true) :
    repair name = name := by
  obtain ⟨c, rest, hname, hc, hrest, hkeyword⟩ := isIdentifier_iff.mp h
  have hmended : name.toList.map mend = name.toList := by
    rw [hname, List.map_cons, mend_of_continues (continuesIdentifier_of_starts hc),
      List.map_congr_left fun d hd => mend_of_continues (hrest d hd), List.map_id']
  rw [repair_eq, hmended, hname, guardStart_of_starts hc, ← hname, String.ofList_toList,
    guardKeyword, hkeyword]
  rfl

theorem continuesIdentifier_of_mem {name : String} (h : isIdentifier name = true) :
    ∀ c ∈ name.toList, continuesIdentifier c = true := by
  obtain ⟨first, rest, hname, hfirst, hrest, _⟩ := isIdentifier_iff.mp h
  rw [hname, List.forall_mem_cons]
  exact ⟨continuesIdentifier_of_starts hfirst, hrest⟩

theorem not_mem_of_isIdentifier {name : String} (h : isIdentifier name = true) {c : Char}
    (hc : continuesIdentifier c = false) : c ∉ name.toList := by
  intro hmem
  rw [continuesIdentifier_of_mem h c hmem] at hc
  cases hc

/-- None of the signs goes on with an identifier. -/
theorem not_mem_of_continues {signs : List Char}
    (h : signs.all (fun c => !continuesIdentifier c) = true) {c : Char}
    (hc : continuesIdentifier c = true) : c ∉ signs := by
  intro hmem
  have hsign := List.all_eq_true.mp h c hmem
  rw [hc] at hsign
  cases hsign

theorem continuesIdentifier_mend (c : Char) : continuesIdentifier (mend c) = true := by
  cases h : continuesIdentifier c with
  | true => rw [mend_of_continues h, h]
  | false =>
    have hunderscore : continuesIdentifier '_' = true := by decide
    rwa [mend, if_neg (by simp [h])]

theorem exists_guardStart {cs : List Char} (hcs : cs ≠ [])
    (h : ∀ c ∈ cs, continuesIdentifier c = true) :
    ∃ c rest, guardStart cs = c :: rest ∧ startsIdentifier c = true ∧
      ∀ d ∈ rest, continuesIdentifier d = true := by
  cases cs with
  | nil => exact absurd rfl hcs
  | cons c cs =>
    by_cases hc : startsIdentifier c = true
    · exact ⟨c, cs, if_pos hc, hc, (List.forall_mem_cons.mp h).2⟩
    · exact ⟨'_', c :: cs, if_neg hc, by decide, h⟩

/-- Only a text without characters cannot be repaired. -/
theorem isIdentifier_repair {s : String} (h : s.toList ≠ []) : isIdentifier (repair s) = true := by
  -- No keyword is another one with an underscore behind it.
  have hguarded : ∀ k ∈ keywords, isKeyword (k ++ "_") = false := by decide
  have hmended : ∀ d ∈ s.toList.map mend, continuesIdentifier d = true := by
    intro d hd
    obtain ⟨c, _, rfl⟩ := List.mem_map.mp hd
    exact continuesIdentifier_mend c
  obtain ⟨c, rest, hstart, hc, hrest⟩ := exists_guardStart (by simpa using h) hmended
  rw [repair_eq, hstart, guardKeyword, isIdentifier_iff]
  split
  · rename_i hkeyword
    refine ⟨c, rest ++ ['_'], by simp, hc, ?_, hguarded _ ?_⟩
    · rw [List.forall_mem_append]
      exact ⟨hrest, List.forall_mem_singleton.mpr (by decide)⟩
    · simpa [isKeyword] using hkeyword
  · rename_i hkeyword
    exact ⟨c, rest, String.toList_ofList, hc, hrest, by simpa using hkeyword⟩

end JsonClasses.Java
