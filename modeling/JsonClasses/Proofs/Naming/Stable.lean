import JsonClasses.Proofs.Naming.Boundaries
import JsonClasses.Proofs.Naming.Joined

/-!
# Names converted again

Whatever repair puts into a text separates words, so a repaired name has the words of the text that
was repaired. In lower case no new word starts in them: such a name, converted again, stays.
-/
namespace JsonClasses
open Unicode

namespace Words

/-! ## Repair keeps the words -/

/-- Only what stands between words is mended, and it becomes what stands between words. -/
theorem splitFrom_map_mend (word cs : List Char) :
    splitFrom word (cs.map Java.mend) = splitFrom word cs := by
  induction cs generalizing word with
  | nil => rfl
  | cons c cs ih =>
    rw [List.map_cons]
    -- What is mended was no letter or digit, and an underscore is none either.
    by_cases hcontinues : Java.continuesIdentifier c = true
    · rw [Java.mend_of_continues hcontinues]
      cases word with
      | nil => simp only [splitFrom, ih]
      | cons last earlier => simp only [splitFrom, ih]
    · have hc : isAlphanumeric c = false := by
        rw [← Bool.not_eq_true]
        intro hc
        apply hcontinues
        rw [Java.continuesIdentifier, hc, Bool.true_or, Bool.true_or]
      have hmend : Java.mend c = '_' := if_neg hcontinues
      rw [hmend, splitFrom_cons_separator isAlphanumeric_underscore, splitFrom_cons_separator hc,
        ih]

theorem splitFrom_guardStart (cs : List Char) :
    splitFrom [] (Java.guardStart cs) = splitFrom [] cs := by
  cases cs with
  | nil => rfl
  | cons c cs =>
    rw [Java.guardStart]
    split
    · rfl
    · exact splitFrom_cons_separator isAlphanumeric_underscore [] (c :: cs)

theorem split_guardKeyword (s : String) : split (Java.guardKeyword s) = split s := by
  rw [Java.guardKeyword]
  split
  · have hsplit := split_append_separator s "" isAlphanumeric_underscore
    rw [String.append_empty, show split "" = [] from rfl, List.append_nil] at hsplit
    exact hsplit
  · rfl

/-- A repaired text has the words of the text. -/
theorem split_repair (s : String) : split (Java.repair s) = split s := by
  rw [Java.repair_eq, split_guardKeyword, split, String.toList_ofList, splitFrom_guardStart,
    splitFrom_map_mend, split]

/-! ## Words in lower case -/

/-- The characters of the words are among those of the raw name. -/
theorem isAscii_of_mem_split {raw word : String} (h : Text.IsAscii raw) (hword : word ∈ split raw) :
    Text.IsAscii word := by
  intro c hc
  obtain ⟨chars, hchars, rfl⟩ := List.mem_map.mp hword
  rw [String.toList_ofList] at hc
  have hmem : c ∈ (splitFrom [] raw.toList).flatten := List.mem_flatten_of_mem hchars hc
  rw [flatten_splitFrom] at hmem
  exact h c (List.mem_of_mem_filter hmem)

theorem split_intercalate_lower (separator : Char) {words : List String}
    (hseparator : isAlphanumeric separator = false) (hwords : ∀ w ∈ words, IsWord w)
    (hascii : ∀ w ∈ words, Text.IsAscii w) :
    split (String.intercalate (String.singleton separator) (words.map Text.lower)) =
      words.map Text.lower := by
  apply split_intercalate
  · rw [List.forall_mem_map]
    exact fun w hw => uncut_of_small_tail (.inl rfl) (hwords w hw) (hascii w hw)
  · exact (List.pairwise_of_forall fun _ _ => .between hseparator).isChain

end Words

namespace Spelling

/-- Names in lower case with something between the words. -/
theorem split_join_lower {spelling : Spelling} (hspelling : spelling ∈ [lowerSnake, kebab])
    {words : List String} (hwords : ∀ w ∈ words, Words.IsWord w)
    (hascii : ∀ w ∈ words, Text.IsAscii w) :
    Words.split (spelling.join words) = words.map Text.lower := by
  rw [List.mem_cons, List.mem_singleton] at hspelling
  obtain rfl | rfl := hspelling
  · exact Words.split_intercalate_lower '_' (by decide) hwords hascii
  · exact Words.split_intercalate_lower '-' (by decide) hwords hascii

/-- In lower case a name of ASCII characters is converted once: the second time it gives the words
that the first time made, and they are repaired in the same way. -/
theorem standard_stable {spelling : Spelling} (hspelling : spelling ∈ [lowerSnake, kebab])
    {raw : String} (hascii : Text.IsAscii raw)
    (hraw : ∃ c ∈ raw.toList, isAlphanumeric c = true) :
    ∃ name, ∀ role type, Namer.standard role spelling raw type = .ok name ∧
      Namer.standard role spelling name type = .ok name := by
  have hne : Words.split raw ≠ [] := by
    obtain ⟨c, hc, halnum⟩ := hraw
    intro hnil
    rw [Words.split_eq_nil_iff.mp hnil c hc] at halnum
    cases halnum
  have hword : ∀ w ∈ Words.split raw, Words.IsWord w := fun _ hw => Words.isWord_of_mem_split hw
  have hwords : ∀ w ∈ Words.split raw, Text.IsAscii w := fun _ hw =>
    Words.isAscii_of_mem_split hascii hw
  have hagain : Words.split (spelling.identifier (Words.split raw)) =
      (Words.split raw).map Text.lower := by
    rw [identifier, Words.split_repair, split_join_lower hspelling hword hwords]
  -- These words are not those of `raw`, but they differ from them in letter case alone.
  have hletters : List.Forall₂ Text.SameLetters ((Words.split raw).map Text.lower)
      (Words.split raw) := by
    rw [List.forall₂_map_left_iff, List.forall₂_same]
    exact fun w hw => Text.sameLetters_lower (hwords w hw)
  refine ⟨spelling.identifier (Words.split raw), fun role type => ⟨?_, ?_⟩⟩
  · exact Namer.standard_eq_ok type hne
  · rw [Namer.standard_eq_ok type (by rw [hagain]; simpa using hne), hagain, identifier, identifier,
      join_congr hletters]

/-- The `_` in front of a digit and the one that replaces a hyphen are there again. -/
theorem standard_stable_kebab :
    Text.IsAscii "3rd TRY$x" ∧ (∃ c ∈ "3rd TRY$x".toList, isAlphanumeric c = true) ∧
      Namer.standard .field kebab "3rd TRY$x" .anyObject = .ok "_3rd_try_x" ∧
      Namer.standard .field kebab "_3rd_try_x" .anyObject = .ok "_3rd_try_x" := by
  have hascii : Text.IsAscii "3rd TRY$x" := by decide +kernel
  have hraw : ∃ c ∈ "3rd TRY$x".toList, isAlphanumeric c = true := ⟨'3', by decide, by decide⟩
  have hkebab : kebab ∈ [lowerSnake, kebab] := by decide
  obtain ⟨name, hname⟩ := standard_stable hkebab hascii hraw
  obtain ⟨hfirst, hagain⟩ := hname .field .anyObject
  have hcomputed : Namer.standard .field kebab "3rd TRY$x" .anyObject = .ok "_3rd_try_x" := by
    decide +kernel
  rw [hcomputed, Except.ok.injEq] at hfirst
  exact ⟨hascii, hraw, hcomputed, hfirst ▸ hagain⟩

end Spelling
end JsonClasses
