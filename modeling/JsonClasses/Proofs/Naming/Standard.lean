import JsonClasses.Naming.Namer
import JsonClasses.Proofs.Java.Repair
import JsonClasses.Proofs.Text.Casing

/-!
# Standard names

A standard name is a list of words, joined in a spelling and repaired. The candidates for a key are
the words of the key with a number behind them, and no two of them give the same name.
-/
namespace JsonClasses
open Unicode

namespace Spelling

variable {spelling : Spelling} {words : List String} {first : String}

/-! ## Joined words -/

/-- The first word of a name. -/
def opening : Spelling → String → String
  | lowerCamel | lowerSnake | kebab => Text.lower
  | upperCamel => Text.capitalize
  | upperSnake => Text.upper

/-- A word of a name behind others. -/
def continuing : Spelling → String → String
  | lowerCamel | upperCamel => Text.capitalize
  | lowerSnake | kebab => Text.lower
  | upperSnake => Text.upper

/-- What stands between the words. -/
def separator : Spelling → String
  | lowerCamel | upperCamel => ""
  | lowerSnake | upperSnake => "_"
  | kebab => "-"

/-- A word of a name behind others, with what separates it from them. -/
def following (spelling : Spelling) (word : String) : String :=
  spelling.separator ++ spelling.continuing word

theorem intercalate_cons (separator first : String) (words : List String) :
    String.intercalate separator (first :: words) =
      first ++ String.join (words.map (separator ++ ·)) := by
  induction words generalizing first with
  | nil => simp
  | cons word words ih =>
    rw [String.intercalate_cons_cons, ih, List.map_cons, String.join_cons, String.append_assoc,
      String.append_assoc]

theorem join_cons (spelling : Spelling) (first : String) (words : List String) :
    spelling.join (first :: words) =
      spelling.opening first ++ String.join (words.map spelling.following) := by
  cases spelling with
  | lowerCamel => rfl
  | upperCamel => rw [join, List.map_cons, String.join_cons]; rfl
  | lowerSnake | upperSnake | kebab =>
    rw [join, List.map_cons, intercalate_cons, List.map_map]
    rfl

theorem join_append (h : words ≠ []) (more : List String) :
    spelling.join (words ++ more) =
      spelling.join words ++ String.join (more.map spelling.following) := by
  cases words with
  | nil => exact absurd rfl h
  | cons first words =>
    rw [List.cons_append, join_cons, join_cons, List.map_append, String.append_assoc]
    rw [String.join_append]

/-- How a spelling writes the first character of a name. -/
def openingChar : Spelling → Char → List Char
  | lowerCamel | lowerSnake | kebab => lowerCase
  | upperCamel | upperSnake => upperCase

theorem opening_eq (spelling : Spelling) {c : Char} {cs : List Char}
    (hfirst : first.toList = c :: cs) :
    ∃ rest, (spelling.opening first).toList = spelling.openingChar c ++ rest := by
  -- The first character is lowered or raised alone, whatever stands behind it.
  cases spelling with
  | lowerCamel | lowerSnake | kebab =>
    refine ⟨Text.lowerFrom [c] cs, ?_⟩
    simp only [opening, openingChar, Text.lower, hfirst, Text.lowerFrom, Text.lowerBetween_nil,
      String.toList_ofList]
  | upperCamel =>
    refine ⟨cs.flatMap lowerCase, ?_⟩
    simp only [opening, openingChar, Text.capitalize, hfirst, Text.capitalizeChars,
      String.toList_ofList]
  | upperSnake =>
    refine ⟨cs.flatMap upperCase, ?_⟩
    simp only [opening, openingChar, Text.upper, hfirst, List.flatMap_cons, String.toList_ofList]

theorem openingChar_ne_nil (spelling : Spelling) (c : Char) : spelling.openingChar c ≠ [] := by
  cases spelling with
  | lowerCamel | lowerSnake | kebab => exact lowerCase_ne_nil c
  | upperCamel | upperSnake => exact upperCase_ne_nil c

theorem opening_ne_nil (h : first.toList ≠ []) : (spelling.opening first).toList ≠ [] := by
  obtain ⟨c, cs, hfirst⟩ := List.exists_cons_of_ne_nil h
  obtain ⟨rest, heq⟩ := opening_eq spelling hfirst
  rw [heq]
  exact List.append_ne_nil_of_left_ne_nil (openingChar_ne_nil spelling c) rest

theorem join_ne_nil (words : List String) (h : first.toList ≠ []) :
    (spelling.join (first :: words)).toList ≠ [] := by
  rw [join_cons, String.toList_append]
  exact List.append_ne_nil_of_left_ne_nil (opening_ne_nil h) _

/-! ## Candidates -/

theorem following_toString (spelling : Spelling) (n : Nat) :
    spelling.following (toString n) = spelling.separator ++ toString n := by
  rw [following]
  cases spelling with
  | lowerCamel | upperCamel => rw [continuing, Text.capitalize_toString]
  | lowerSnake | kebab => rw [continuing, Text.lower_toString]
  | upperSnake => rw [continuing, Text.upper_toString]

theorem join_suffixOf_succ (h : words ≠ []) (n : Nat) :
    spelling.join (words ++ Words.suffixOf (n + 1)) =
      spelling.join words ++ (spelling.separator ++ toString (n + 2)) := by
  rw [Words.suffixOf, join_append h, List.map_cons, List.map_nil, String.join_cons,
    String.join_nil, String.append_empty, following_toString]

/-- The identifier that the standard namer makes of these words. -/
def identifier (spelling : Spelling) (words : List String) : String :=
  Java.repair (spelling.join words)

theorem head?_identifier {c image : Char} {cs : List Char} (words : List String)
    (hfirst : first.toList = c :: cs) (hopen : spelling.openingChar c = [image])
    (hstart : Java.startsIdentifier image = true) :
    (spelling.identifier (first :: words)).toList.head? = some image := by
  obtain ⟨rest, hrest⟩ := opening_eq spelling hfirst
  refine Java.head?_repair ?_ hstart
  rw [join_cons, String.toList_append, hrest, hopen, List.singleton_append, List.cons_append,
    List.head?_cons]

theorem exists_getLast?_toString (separator : String) (n : Nat) :
    ∃ c, (separator ++ toString n).toList.getLast? = some c ∧ c.isDigit = true := by
  have hne := Text.toList_toString_ne_nil n
  refine ⟨(toString n).toList.getLast hne, ?_, Text.isDigit_of_mem_toString (List.getLast_mem hne)⟩
  rw [String.toList_append, List.getLast?_append, List.getLast?_eq_some_getLast hne, Option.some_or]

/-- No two candidates for a key give the same identifier. -/
theorem identifier_suffixOf_injective (h : (spelling.join words).toList ≠ []) :
    Function.Injective fun n => spelling.identifier (words ++ Words.suffixOf n) := by
  have hwords : words ≠ [] := by
    rintro rfl
    exact h (by cases spelling <;> rfl)
  have hfirst (n : Nat) : spelling.identifier words ≠
      spelling.identifier (words ++ Words.suffixOf (n + 1)) := by
    obtain ⟨c, hlast, hc⟩ := exists_getLast?_toString spelling.separator (n + 2)
    rw [identifier, identifier, join_suffixOf_succ hwords]
    exact Java.repair_ne_append_digits h hlast hc
  intro m n heq
  -- Two candidates with numbers differ in their last digits, the first one has none.
  cases m with
  | zero =>
    cases n with
    | zero => rfl
    | succ n => simp only [Words.suffixOf, List.append_nil] at heq; exact absurd heq (hfirst n)
  | succ m =>
    cases n with
    | zero => simp only [Words.suffixOf, List.append_nil] at heq; exact absurd heq.symm (hfirst m)
    | succ n =>
      obtain ⟨c, hlast, hc⟩ := exists_getLast?_toString spelling.separator (m + 2)
      obtain ⟨d, hlast', hd⟩ := exists_getLast?_toString spelling.separator (n + 2)
      have hlist := congrArg String.toList heq
      simp only [identifier, join_suffixOf_succ hwords,
        Java.toList_repair_append_digits h hlast hc, Java.toList_repair_append_digits h hlast' hd,
        String.toList_append, List.map_append, List.append_cancel_left_eq] at hlist
      rw [Java.map_mend_toString, Java.map_mend_toString] at hlist
      have := Text.toString_nat_injective hlist
      omega

end Spelling

theorem Namer.standard_eq_ok {role : Role} {spelling : Spelling} {raw : String} (type : ValueType)
    (h : Words.split raw ≠ []) :
    Namer.standard role spelling raw type = .ok (spelling.identifier (Words.split raw)) := by
  rw [Namer.standard]
  split
  · rename_i hnil
    exact absurd hnil h
  · rfl

theorem Namer.standard_eq_error {role : Role} {spelling : Spelling} {raw : String}
    (type : ValueType) (h : Words.split raw = []) :
    Namer.standard role spelling raw type = .error (.unusableName raw role) := by
  rw [Namer.standard, h]

end JsonClasses
