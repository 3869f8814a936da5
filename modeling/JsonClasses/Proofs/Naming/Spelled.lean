import JsonClasses.Proofs.Naming.Alike
import JsonClasses.Proofs.Naming.Stable
import JsonClasses.Proofs.Unicode.Letters

/-!
# Names as a source file spells them

Repair asks whether characters are alphabetic or numeric, a source file asks for their general
category. The two differ on letters and digits of a foreign kind, and on marks in front. Changes of
case and repair keep what is foreign, so the characters of the raw name decide.
-/
namespace JsonClasses
open Unicode

namespace Java

/-! ## Characters of a name -/

/-- Lu, Ll, Lt, Lm, Lo, Nl, Sc and Pc. -/
def startsName (c : Char) : Bool :=
  match category? c with
  | some .letter | some .currency | some .connector => true
  | _ => false

/-- These, Nd, Mn, Mc and the ignorable characters. -/
def continuesName (c : Char) : Bool :=
  startsName c ||
    match category? c with
    | some .digit | some .mark | some .ignorable => true
    | _ => false

def IsSpelled (name : String) : Prop :=
  ∃ c rest, name.toList = c :: rest ∧ startsName c = true ∧ ∀ d ∈ rest, continuesName d = true

variable {c : Char} {name s : String}

theorem continuesName_iff (h : continuesIdentifier c = true) :
    continuesName c = true ↔ isForeign c = false := by
  simp only [continuesIdentifier, isAlphanumeric, Bool.or_eq_true, beq_iff_eq] at h
  -- A letter, a number, an underscore or a dollar sign.
  obtain ((h | h) | rfl) | rfl := h
  · obtain ⟨category, hmem, hcategory⟩ := category?_of_isAlphabetic h
    simp only [List.mem_cons, List.not_mem_nil, or_false] at hmem
    rw [continuesName, startsName, isForeign, hcategory]
    obtain rfl | rfl | rfl := hmem <;> decide
  · obtain ⟨category, hmem, hcategory⟩ := category?_of_isNumeric h
    simp only [List.mem_cons, List.not_mem_nil, or_false] at hmem
    rw [continuesName, startsName, isForeign, hcategory]
    obtain rfl | rfl | rfl := hmem <;> decide
  · decide
  · decide

theorem startsName_iff (h : startsIdentifier c = true) :
    startsName c = true ↔ isForeign c = false ∧ category? c ≠ some .mark := by
  simp only [startsIdentifier, Bool.or_eq_true, beq_iff_eq] at h
  obtain (h | rfl) | rfl := h
  · obtain ⟨category, hmem, hcategory⟩ := category?_of_isAlphabetic h
    simp only [List.mem_cons, List.not_mem_nil, or_false] at hmem
    rw [startsName, isForeign, hcategory]
    obtain rfl | rfl | rfl := hmem <;> decide
  · decide
  · decide

theorem category?_ne_mark_of_not_starts (halnum : isAlphanumeric c = true)
    (h : startsIdentifier c = false) : category? c ≠ some .mark := by
  have hnumeric : isNumeric c = true := by
    simp only [startsIdentifier, isAlphanumeric, Bool.or_eq_false_iff, Bool.or_eq_true] at h halnum
    exact halnum.resolve_left (by simp [h.1.1])
  obtain ⟨category, hmem, hcategory⟩ := category?_of_isNumeric hnumeric
  rw [hcategory]
  rintro heq
  rw [Option.some.inj heq] at hmem
  exact absurd hmem (by decide)

/-! ## Identifiers -/

theorem isSpelled_iff (h : isIdentifier name = true) :
    IsSpelled name ↔ name.toList.any isForeign = false ∧
      ∀ c ∈ name.toList.head?, category? c ≠ some .mark := by
  obtain ⟨first, rest, hname, hfirst, hrest, -⟩ := isIdentifier_iff.mp h
  have hsplit : IsSpelled name ↔ startsName first = true ∧ ∀ d ∈ rest, continuesName d = true := by
    constructor
    · rintro ⟨c, cs, hc, hspelled⟩
      obtain ⟨rfl, rfl⟩ := List.cons.inj (hname.symm.trans hc)
      exact hspelled
    · exact fun hspelled => ⟨first, rest, hname, hspelled⟩
  have htail : (∀ d ∈ rest, continuesName d = true) ↔ ∀ d ∈ rest, isForeign d = false :=
    forall₂_congr fun d hd => continuesName_iff (hrest d hd)
  rw [hsplit, startsName_iff hfirst, htail, hname, List.any_cons, Bool.or_eq_false_iff,
    List.any_eq_false]
  simp only [List.head?_cons, Option.mem_some_iff, forall_eq', Bool.not_eq_true]
  tauto

/-- Repair puts a `_` before a number, and leaves another first letter. -/
theorem forall_head?_repair_iff (hhead : s.toList.head? = some c)
    (halnum : isAlphanumeric c = true) :
    (∀ d ∈ (repair s).toList.head?, category? d ≠ some .mark) ↔ category? c ≠ some .mark := by
  cases hc : startsIdentifier c with
  | true => simp [head?_repair hhead hc]
  | false =>
    -- What cannot begin an identifier gets an underscore in front, which is no mark.
    obtain ⟨cs, hs⟩ := List.head?_eq_some_iff.mp hhead
    have hunderscore : (repair s).toList.head? = some '_' := by
      rw [repair_eq, hs, List.map_cons, mend_of_isAlphanumeric halnum, guardStart,
        if_neg (by simp [hc])]
      obtain hsame | ⟨_, hguarded⟩ := toList_guardKeyword (String.ofList ('_' :: c :: cs.map mend))
      · rw [hsame, String.toList_ofList, List.head?_cons]
      · rw [hguarded, String.toList_ofList, List.cons_append, List.head?_cons]
    have hmark : category? '_' ≠ some .mark := by decide
    rw [hunderscore]
    simp [hmark, category?_ne_mark_of_not_starts halnum hc]

end Java

/-! ## Changes of case -/

namespace Text

variable {cs : List Char}

theorem any_isForeign_flatMap {image : Char → List Char}
    (himage : ∀ c, (image c).any isForeign = isForeign c) :
    (cs.flatMap image).any isForeign = cs.any isForeign := by
  rw [List.any_flatMap]
  exact congrArg _ (funext himage)

theorem any_isForeign_lower (s : String) :
    (lower s).toList.any isForeign = s.toList.any isForeign := by
  -- The small sigma at the end of a word is a letter like the other one.
  have hbetween (before : List Char) (c : Char) (after : List Char) :
      (lowerBetween before c after).any isForeign = isForeign c := by
    rw [lowerBetween]
    split
    · rename_i hsigma
      rw [hsigma]
      split <;> decide
    · exact any_isForeign_lowerCase c
  have hfrom (before cs : List Char) : (lowerFrom before cs).any isForeign = cs.any isForeign := by
    induction cs generalizing before with
    | nil => rfl
    | cons c cs ih => rw [lowerFrom, List.any_append, hbetween, ih, List.any_cons]
  rw [lower, String.toList_ofList, hfrom]

theorem any_isForeign_upper (s : String) :
    (upper s).toList.any isForeign = s.toList.any isForeign := by
  rw [upper, String.toList_ofList, any_isForeign_flatMap any_isForeign_upperCase]

theorem any_isForeign_capitalize (s : String) :
    (capitalize s).toList.any isForeign = s.toList.any isForeign := by
  rw [capitalize, String.toList_ofList]
  cases s.toList with
  | nil => rfl
  | cons c cs =>
    rw [capitalizeChars, List.any_append, any_isForeign_upperCase,
      any_isForeign_flatMap any_isForeign_lowerCase, List.any_cons]

end Text

/-! ## Words -/

namespace Words

/-- What is foreign stands in the words. -/
theorem any_isForeign_split (raw : String) :
    (split raw).any (·.toList.any isForeign) = raw.toList.any isForeign := by
  have hwords : (splitFrom [] raw.toList).flatten = raw.toList.filter isAlphanumeric := by
    simpa using flatten_splitFrom [] raw.toList
  have hforeign (c : Char) : (isAlphanumeric c && isForeign c) = isForeign c := by
    cases h : isForeign c with
    | true => rw [isAlphanumeric_of_isForeign h, Bool.and_self]
    | false => rw [Bool.and_false]
  calc (split raw).any (·.toList.any isForeign)
      = (splitFrom [] raw.toList).flatten.any isForeign := by
        simp [split, List.any_map, Function.comp_def]
    _ = raw.toList.any isForeign := by
        rw [hwords, List.any_filter]
        exact congrArg _ (funext hforeign)

/-- A name starts with the first letter or digit of the raw name. -/
theorem head?_first_word {raw first : String} {words : List String}
    (h : split raw = first :: words) : first.toList.head? = raw.toList.find? isAlphanumeric := by
  have hwords : (splitFrom [] raw.toList).flatten = raw.toList.filter isAlphanumeric := by
    simpa using flatten_splitFrom [] raw.toList
  have hne : first.toList ≠ [] := (isWord_of_mem_split (h ▸ List.mem_cons_self)).1
  obtain ⟨word, rest, hsplit, rfl, -⟩ := List.map_eq_cons_iff.mp h
  obtain ⟨c, cs, hfirst⟩ := List.exists_cons_of_ne_nil hne
  rw [String.toList_ofList] at hfirst
  rw [← List.head?_filter, ← hwords, hsplit, String.toList_ofList, hfirst, List.flatten_cons,
    List.cons_append, List.head?_cons, List.head?_cons]

end Words

namespace Spelling

theorem any_isForeign_opening (spelling : Spelling) (word : String) :
    (spelling.opening word).toList.any isForeign = word.toList.any isForeign := by
  cases spelling with
  | lowerCamel | lowerSnake | kebab => exact Text.any_isForeign_lower word
  | upperCamel => exact Text.any_isForeign_capitalize word
  | upperSnake => exact Text.any_isForeign_upper word

theorem any_isForeign_following (spelling : Spelling) (word : String) :
    (spelling.following word).toList.any isForeign = word.toList.any isForeign := by
  have hseparator : spelling.separator.toList.any isForeign = false := by
    cases spelling <;> decide
  rw [following, String.toList_append, List.any_append, hseparator, Bool.false_or,
    ← opening_behind, any_isForeign_opening]

theorem any_isForeign_identifier (spelling : Spelling) (words : List String) :
    (spelling.identifier words).toList.any isForeign = words.any (·.toList.any isForeign) := by
  -- Repair keeps the words, and nothing foreign stands between them.
  rw [identifier, ← Words.any_isForeign_split, Words.split_repair, Words.any_isForeign_split]
  cases words with
  | nil => cases spelling <;> rfl
  | cons first words =>
    rw [join_cons, String.toList_append, List.any_append, any_isForeign_opening, List.any_cons,
      String.toList_join, List.any_flatMap, List.any_map]
    exact congrArg _ (congrArg _ (funext (any_isForeign_following spelling)))

end Spelling

/-! ## Standard names -/

/-- A standard name is spelled as a source file requires just if no character of the raw name is a
number that is no digit or a letter in a circle or square, and what its first letter or digit
becomes is no mark. -/
theorem Namer.standard_isSpelled_iff {role : Role} {spelling : Spelling} {raw name : String}
    {type : ValueType} (h : Namer.standard role spelling raw type = .ok name) :
    Java.IsSpelled name ↔
      (∀ c ∈ raw.toList, category? c ≠ some .otherNumber ∧ category? c ≠ some .enclosed) ∧
      ∀ c ∈ raw.toList.find? isAlphanumeric, ∀ d ∈ (spelling.openingChar c).head?,
        category? d ≠ some .mark := by
  have hraw : Words.split raw ≠ [] := by
    intro hnil
    rw [Namer.standard_eq_error type hnil] at h
    cases h
  rw [Namer.standard_eq_ok type hraw] at h
  obtain rfl := Except.ok.inj h
  obtain ⟨first, words, hsplit⟩ := List.exists_cons_of_ne_nil hraw
  obtain ⟨hfirst, hletters⟩ := Words.isWord_of_mem_split (hsplit ▸ List.mem_cons_self)
  obtain ⟨c, cs, hchars⟩ := List.exists_cons_of_ne_nil hfirst
  have hfind : raw.toList.find? isAlphanumeric = some c := by
    rw [← Words.head?_first_word hsplit, hchars, List.head?_cons]
  -- The name opens with what the first letter or digit becomes.
  obtain ⟨d, rest, hopening, hd, -⟩ :=
    Spelling.exists_head_opening spelling hchars (hletters c (hchars ▸ List.mem_cons_self))
  have hhead : (spelling.openingChar c).head? = some d := by
    obtain ⟨tail, heq⟩ := Spelling.opening_eq spelling hchars
    obtain ⟨e, image, himage⟩ := List.exists_cons_of_ne_nil (spelling.openingChar_ne_nil c)
    rw [hopening, himage, List.cons_append] at heq
    rw [himage, List.head?_cons, (List.cons.inj heq).1]
  have hjoined : (spelling.join (first :: words)).toList.head? = some d := by
    rw [Spelling.join_cons, String.toList_append, hopening, List.cons_append, List.head?_cons]
  have hforeign (e : Char) : isForeign e = false ↔
      category? e ≠ some .otherNumber ∧ category? e ≠ some .enclosed := by
    rw [isForeign]
    cases category? e with
    | none => simp
    | some category => cases category <;> simp
  have hidentifier : Java.isIdentifier (spelling.identifier (first :: words)) = true :=
    Java.isIdentifier_repair (Spelling.join_ne_nil words hfirst)
  rw [hsplit, Java.isSpelled_iff hidentifier, Spelling.any_isForeign_identifier, ← hsplit,
    Words.any_isForeign_split, List.any_eq_false, hsplit, Spelling.identifier,
    Java.forall_head?_repair_iff hjoined hd, hfind]
  simp only [Bool.not_eq_true, hforeign, Option.mem_some_iff, forall_eq', hhead]

/-- A Roman number is a letter to a source file. -/
theorem Namer.standard_isSpelled_iff_roman :
    Namer.standard .field .upperSnake "of Ⅻ" .anyObject = .ok "OF_Ⅻ" ∧ Java.IsSpelled "OF_Ⅻ" := by
  have hname : Namer.standard .field .upperSnake "of Ⅻ" .anyObject = .ok "OF_Ⅻ" := by
    decide +kernel
  have hkinds : "of Ⅻ".toList.all (fun c =>
      category? c != some .otherNumber && category? c != some .enclosed) = true := by
    decide +kernel
  have hfirst : "of Ⅻ".toList.find? isAlphanumeric = some 'o' := by decide +kernel
  have hopening : (Spelling.upperSnake.openingChar 'o').head? = some 'O' := by decide +kernel
  have hletter : category? 'O' = some .letter := by decide +kernel
  refine ⟨hname, (standard_isSpelled_iff hname).mpr ⟨fun c hc => ?_, ?_⟩⟩
  · simpa only [Bool.and_eq_true, bne_iff_ne] using List.all_eq_true.mp hkinds c hc
  · rw [hfirst]
    simp [hopening, hletter]

/-- Repair leaves the square, which is numeric, but it is no digit to a source file. -/
theorem Namer.standard_square :
    Namer.standard .field .lowerCamel "x²" .anyObject = .ok "x²" ∧ ¬ Java.IsSpelled "x²" := by
  have hsquare : Java.continuesName '²' = false := by decide +kernel
  have hchars : "x²".toList = ['x', '²'] := by decide
  refine ⟨by decide +kernel, ?_⟩
  rintro ⟨c, rest, hname, -, hrest⟩
  obtain ⟨-, rfl⟩ := List.cons.inj (hchars.symm.trans hname)
  rw [List.forall_mem_singleton, hsquare] at hrest
  cases hrest

end JsonClasses
