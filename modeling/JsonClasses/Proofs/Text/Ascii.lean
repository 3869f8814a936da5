import JsonClasses.Proofs.Text.Casing
import Mathlib

/-!
# Texts of ASCII characters

For an ASCII character the tables say what its range says, and no case mapping makes several
characters of it. So a text of such characters changes its letter case one by one.
-/
namespace JsonClasses
open Unicode

/-- Whether all characters are among the first 128. -/
def Text.IsAscii (s : String) : Prop := ∀ c ∈ s.toList, c.toNat < 128

instance (s : String) : Decidable (Text.IsAscii s) :=
  decidable_of_iff (s.toList.all (fun c => decide (c.toNat < 128)) = true)
    (by simp only [List.all_eq_true, decide_eq_true_eq, Text.IsAscii])

/-! ## Characters -/

/-- What holds of the first 128 code points holds of every ASCII character. -/
theorem Text.forall_ascii {P : Char → Prop} (h : ∀ n < 128, P (Char.ofNat n)) {c : Char}
    (hc : c.toNat < 128) : P c := by
  have hchar := h c.toNat hc
  rwa [Char.ofNat_toNat] at hchar

namespace Unicode

/-- What an ASCII character is and becomes, told from its range. -/
@[mk_iff]
structure ReadsAsAscii (c : Char) : Prop where
  alphanumeric : isAlphanumeric c = c.isAlphanum
  numeric : isNumeric c = c.isDigit
  uppercase : isUppercase c = c.isUpper
  lowercase : isLowercase c = c.isLower
  lower : lowerCase c = [c.toLower]
  upper : upperCase c = [c.toUpper]
  toLower_lt : c.toLower.toNat < 128
  toUpper_lt : c.toUpper.toNat < 128
  toLower_isDigit : c.toLower.isDigit = c.isDigit
  toUpper_isDigit : c.toUpper.isDigit = c.isDigit
  letter : c.isAlpha = true → c.isDigit = false

instance : DecidablePred ReadsAsAscii := fun c => decidable_of_iff' _ (readsAsAscii_iff c)

variable {c : Char}

theorem readsAsAscii (hc : c.toNat < 128) : ReadsAsAscii c :=
  Text.forall_ascii (P := ReadsAsAscii) (by decide +kernel) hc

theorem isAlphanumeric_toLower (hc : c.toNat < 128) :
    isAlphanumeric c.toLower = isAlphanumeric c := by
  have hascii := readsAsAscii hc
  rw [(readsAsAscii hascii.toLower_lt).alphanumeric, hascii.alphanumeric, Char.isAlphanum,
    Char.isAlphanum, Char.isAlpha_toLower_eq_isAlpha, hascii.toLower_isDigit]

theorem isAlphanumeric_toUpper (hc : c.toNat < 128) :
    isAlphanumeric c.toUpper = isAlphanumeric c := by
  have hascii := readsAsAscii hc
  rw [(readsAsAscii hascii.toUpper_lt).alphanumeric, hascii.alphanumeric, Char.isAlphanum,
    Char.isAlphanum, Char.isAlpha_toUpper_eq_isAlpha, hascii.toUpper_isDigit]

theorem isUppercase_toLower (hc : c.toNat < 128) : isUppercase c.toLower = false := by
  rw [(readsAsAscii (readsAsAscii hc).toLower_lt).uppercase, Char.isUpper_toLower_eq_false]

theorem toNat_lt_of_isAlpha (h : c.isAlpha = true) : c.toNat < 128 := by
  simp only [Char.isAlpha, Char.isUpper, Char.isLower, Bool.or_eq_true, Bool.and_eq_true,
    decide_eq_true_eq, ge_iff_le, UInt32.le_iff_toNat_le] at h
  have : c.toNat = c.val.toNat := rfl
  have : 'Z'.val.toNat = 90 := rfl
  have : 'z'.val.toNat = 122 := rfl
  omega

section Letter

variable (h : c.isAlpha = true)
include h

theorem isAlphanumeric_of_isAlpha : isAlphanumeric c = true := by
  rw [(readsAsAscii (toNat_lt_of_isAlpha h)).alphanumeric, Char.isAlphanum, h, Bool.true_or]

theorem isLowercase_toLower_of_isAlpha : isLowercase c.toLower = true := by
  have hascii := readsAsAscii (toNat_lt_of_isAlpha h)
  rw [(readsAsAscii hascii.toLower_lt).lowercase, Char.isLower_toLower_eq_isAlpha, h]

theorem isUppercase_toUpper_of_isAlpha : isUppercase c.toUpper = true := by
  have hascii := readsAsAscii (toNat_lt_of_isAlpha h)
  rw [(readsAsAscii hascii.toUpper_lt).uppercase, Char.isUpper_toUpper_eq_isAlpha, h]

theorem isNumeric_toUpper_of_isAlpha : isNumeric c.toUpper = false := by
  have hascii := readsAsAscii (toNat_lt_of_isAlpha h)
  rw [(readsAsAscii hascii.toUpper_lt).numeric, hascii.toUpper_isDigit, hascii.letter h]

end Letter

end Unicode

/-! ## Letter case -/

namespace Text

variable {cs : List Char} {s t : String}

theorem flatMap_lowerCase_of_ascii (h : ∀ c ∈ cs, c.toNat < 128) :
    cs.flatMap lowerCase = cs.map Char.toLower := by
  rw [List.map_eq_flatMap]
  exact List.flatMap_congr fun c hc => (readsAsAscii (h c hc)).lower

theorem flatMap_upperCase_of_ascii (h : ∀ c ∈ cs, c.toNat < 128) :
    cs.flatMap upperCase = cs.map Char.toUpper := by
  rw [List.map_eq_flatMap]
  exact List.flatMap_congr fun c hc => (readsAsAscii (h c hc)).upper

theorem toList_lower_of_ascii (h : IsAscii s) : (lower s).toList = s.toList.map Char.toLower := by
  have hsigma : 'Σ' ∉ s.toList := fun hmem => absurd (h _ hmem) (by decide)
  rw [lower, String.toList_ofList, lowerFrom_eq_flatMap [] hsigma, flatMap_lowerCase_of_ascii h]

theorem toList_upper_of_ascii (h : IsAscii s) : (upper s).toList = s.toList.map Char.toUpper := by
  rw [upper, String.toList_ofList, flatMap_upperCase_of_ascii h]

theorem toList_capitalize_of_ascii (h : IsAscii s) {c : Char} (hs : s.toList = c :: cs) :
    (capitalize s).toList = c.toUpper :: cs.map Char.toLower := by
  rw [IsAscii, hs, List.forall_mem_cons] at h
  rw [capitalize, hs, capitalizeChars, (readsAsAscii h.1).upper, flatMap_lowerCase_of_ascii h.2,
    String.toList_ofList, List.singleton_append]

/-- Both leave no capital behind the first character. -/
theorem exists_small_tail {write : String → String} (hwrite : write = lower ∨ write = capitalize)
    (h : IsAscii s) {c : Char} (hs : s.toList = c :: cs) :
    ∃ d, (write s).toList = d :: cs.map Char.toLower ∧ (d = c.toLower ∨ d = c.toUpper) := by
  obtain rfl | rfl := hwrite
  · exact ⟨c.toLower, by rw [toList_lower_of_ascii h, hs, List.map_cons], .inl rfl⟩
  · exact ⟨c.toUpper, toList_capitalize_of_ascii h hs, .inr rfl⟩

/-! ## Letters -/

/-- Whether two texts differ in letter case alone. -/
structure SameLetters (s t : String) : Prop where
  left : IsAscii s
  right : IsAscii t
  letters : s.toList.map Char.toLower = t.toList.map Char.toLower

theorem SameLetters.map_toUpper (h : SameLetters s t) :
    s.toList.map Char.toUpper = t.toList.map Char.toUpper := by
  have hupper := congrArg (List.map Char.toUpper) h.letters
  simpa only [List.map_map, Function.comp_def, Char.toUpper_toLower_eq_toUpper] using hupper

theorem SameLetters.lower_eq (h : SameLetters s t) : lower s = lower t := by
  apply String.toList_injective
  rw [toList_lower_of_ascii h.left, toList_lower_of_ascii h.right, h.letters]

theorem SameLetters.upper_eq (h : SameLetters s t) : upper s = upper t := by
  apply String.toList_injective
  rw [toList_upper_of_ascii h.left, toList_upper_of_ascii h.right, h.map_toUpper]

theorem SameLetters.capitalize_eq (h : SameLetters s t) :
    capitalize s = capitalize t := by
  apply String.toList_injective
  have hlower := h.letters
  have hupper := h.map_toUpper
  -- Both texts are empty, or both have a first letter, and it is the same one.
  cases hs : s.toList with
  | nil =>
    cases ht : t.toList with
    | nil => rw [capitalize, capitalize, hs, ht]
    | cons d ds => simp [hs, ht] at hlower
  | cons c cs =>
    cases ht : t.toList with
    | nil => simp [hs, ht] at hlower
    | cons d ds =>
      rw [hs, ht, List.map_cons, List.map_cons] at hlower hupper
      rw [toList_capitalize_of_ascii h.left hs, toList_capitalize_of_ascii h.right ht,
        (List.cons.inj hupper).1, (List.cons.inj hlower).2]

theorem sameLetters_lower (h : IsAscii s) : SameLetters (lower s) s where
  left c hc := by
    rw [toList_lower_of_ascii h] at hc
    obtain ⟨d, hd, rfl⟩ := List.mem_map.mp hc
    exact (readsAsAscii (h d hd)).toLower_lt
  right := h
  letters := by
    simp only [toList_lower_of_ascii h, List.map_map, Function.comp_def,
      Char.toLower_toLower_eq_toLower]

theorem sameLetters_upper (h : IsAscii s) : SameLetters (upper s) s where
  left c hc := by
    rw [toList_upper_of_ascii h] at hc
    obtain ⟨d, hd, rfl⟩ := List.mem_map.mp hc
    exact (readsAsAscii (h d hd)).toUpper_lt
  right := h
  letters := by
    simp only [toList_upper_of_ascii h, List.map_map, Function.comp_def,
      Char.toLower_toUpper_eq_toLower]

theorem sameLetters_capitalize (h : IsAscii s) : SameLetters (capitalize s) s := by
  cases hs : s.toList with
  | nil =>
    have hnil : (capitalize s).toList = [] := by rw [capitalize, hs]; rfl
    refine ⟨fun c hc => ?_, h, by rw [hnil, hs]⟩
    rw [hnil] at hc
    cases hc
  | cons c cs =>
    have hcapital := toList_capitalize_of_ascii h hs
    have hchars := h
    rw [IsAscii, hs, List.forall_mem_cons] at hchars
    refine ⟨?_, h, ?_⟩
    · rw [IsAscii, hcapital, List.forall_mem_cons, List.forall_mem_map]
      exact ⟨(readsAsAscii hchars.1).toUpper_lt, fun d hd => (readsAsAscii (hchars.2 d hd)).toLower_lt⟩
    · simp only [hcapital, hs, List.map_cons, List.map_map, Function.comp_def,
        Char.toLower_toUpper_eq_toLower, Char.toLower_toLower_eq_toLower]

end Text
end JsonClasses
