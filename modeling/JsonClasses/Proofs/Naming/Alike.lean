import JsonClasses.Proofs.Naming.Standard

/-!
# Names that keep others apart

Equal names in one spelling mean equal names in another if the two spellings give the same
identifiers, or if the second puts a verb in front and goes on in the same way. The latter needs
that a repaired name tells what was repaired, which fails for small first words only.
-/
namespace JsonClasses
open Unicode

namespace Spelling

variable {spelling method parameter : Spelling} {words words' : List String} {first : String}

/-! ## Spellings that give the same identifiers -/

/-- Repair turns the hyphens of `kebab` into underscores. -/
def repaired : Spelling → Spelling
  | kebab => lowerSnake
  | spelling => spelling

def alike (s t : Spelling) : Bool := s.repaired == t.repaired

theorem identifier_repaired (spelling : Spelling) (words : List String) :
    spelling.repaired.identifier words = spelling.identifier words := by
  cases spelling with
  | lowerCamel | upperCamel | lowerSnake | upperSnake => rfl
  -- Repair makes underscores of the hyphens.
  | kebab =>
    apply Java.repair_congr
    cases words with
    | nil => rfl
    | cons first words =>
      have hfollowing (w : String) : (lowerSnake.following w).toList.map Java.mend =
          (kebab.following w).toList.map Java.mend := by
        have hseparator : lowerSnake.separator.toList.map Java.mend =
            kebab.separator.toList.map Java.mend := by decide
        rw [following, following, String.toList_append, String.toList_append, List.map_append,
          List.map_append, hseparator]
        rfl
      simp only [repaired, join_cons, String.toList_append, String.toList_join, List.map_append,
        List.map_flatMap, List.flatMap_map, hfollowing]
      rfl

theorem identifier_eq_of_alike (h : spelling.alike parameter = true) (words : List String) :
    spelling.identifier words = parameter.identifier words := by
  rw [← identifier_repaired, beq_iff_eq.mp h, identifier_repaired]

/-! ## Names that tell what was repaired -/

theorem exists_head_opening (spelling : Spelling) {c : Char} {cs : List Char}
    (hfirst : first.toList = c :: cs) (hc : isAlphanumeric c = true) :
    ∃ d rest, (spelling.opening first).toList = d :: rest ∧ isAlphanumeric d = true ∧
      (spelling = upperCamel ∨ spelling = upperSnake → d.isLower = false) := by
  obtain ⟨rest, hopening⟩ := opening_eq spelling hfirst
  rw [hopening]
  cases spelling with
  | lowerCamel | lowerSnake | kebab =>
    obtain ⟨d, image, himage⟩ := List.exists_cons_of_ne_nil (lowerCase_ne_nil c)
    refine ⟨d, image ++ rest, by rw [openingChar, himage, List.cons_append], ?_, by simp⟩
    -- This letter alone becomes two characters, and the second one is no letter.
    by_cases hdot : c = 'İ'
    · have hi : lowerCase 'İ' = ['i', Char.ofNat 0x307] := by decide
      rw [hdot, hi] at himage
      rw [← (List.cons.inj himage).1]
      decide
    · exact isAlphanumeric_lowerCase hc hdot d (himage ▸ List.mem_cons_self)
  | upperCamel | upperSnake =>
    obtain ⟨d, image, himage, hd, hlower⟩ := head_upperCase hc
    exact ⟨d, image ++ rest, by rw [openingChar, himage, List.cons_append], hd, fun _ => hlower⟩

/-- A name in small words ends with the last word in lower case. -/
theorem exists_tail_lowerSnake (hne : words ≠ []) :
    ∃ last ∈ words, ∃ done, (lowerSnake.join words).toList = done ++ (Text.lower last).toList := by
  obtain ⟨front, last, rfl⟩ := List.eq_nil_or_concat' words |>.resolve_left hne
  refine ⟨last, List.mem_append_right front (List.mem_singleton_self last), ?_⟩
  cases front with
  | nil => exact ⟨[], by simp [join]⟩
  | cons first front =>
    refine ⟨(lowerSnake.join (first :: front)).toList ++ ['_'], ?_⟩
    rw [join_append (List.cons_ne_nil first front), List.map_cons, List.map_nil, String.join_cons,
      String.join_nil, String.append_empty, String.toList_append, following, String.toList_append,
      List.append_assoc]
    rfl

/-- Only a last word that ends in `İ` leaves a mended character behind, and then `i` stands before
it, which ends no keyword. -/
theorem lowerSnake_ne_guarded (hne : words ≠ []) (hwords : ∀ w ∈ words, Words.IsWord w) :
    ∀ k ∈ Java.keywords,
      (lowerSnake.join words).toList.map Java.mend ≠ k.toList ++ ['_'] := by
  intro k hk heq
  obtain ⟨last, hlast, done, hjoin⟩ := exists_tail_lowerSnake hne
  obtain ⟨hnonempty, halnum⟩ := hwords last hlast
  obtain ⟨cs, c, hcs⟩ := List.eq_nil_or_concat' last.toList |>.resolve_left hnonempty
  have hc : isAlphanumeric c = true :=
    halnum c (hcs ▸ List.mem_append_right cs (List.mem_singleton_self c))
  obtain ⟨front, hlower⟩ := Text.lowerFrom_append_singleton [] cs c
  rw [hjoin, Text.lower, String.toList_ofList, hcs, hlower, List.map_append, List.map_append] at heq
  -- The last character of the text comes from `c`, the last character of the last word.
  by_cases hdot : c = 'İ'
  · have hends : ∀ k ∈ Java.keywords, k.toList.getLast? ≠ some 'i' := by decide
    have hmended : ['i', Char.ofNat 0x307].map Java.mend = ['i'] ++ ['_'] := by decide
    rw [hdot, Text.lowerBetween_dot, hmended, ← List.append_assoc, ← List.append_assoc] at heq
    apply hends k hk
    rw [← List.append_cancel_right heq, List.getLast?_append, List.getLast?_singleton,
      Option.some_or]
  · have hnil := Text.lowerBetween_ne_nil (cs.reverse ++ []) c []
    obtain ⟨image, d, himage⟩ := List.eq_nil_or_concat' _ |>.resolve_left hnil
    have hd : isAlphanumeric d = true := Text.lowerBetween_eq hc hdot _ _ d
      (himage ▸ List.mem_append_right image (List.mem_singleton_self d))
    rw [himage, List.map_append, List.map_cons, List.map_nil, Java.mend_of_isAlphanumeric hd,
      ← List.append_assoc, ← List.append_assoc] at heq
    exact ne_underscore_of_isAlphanumeric hd (List.cons.inj (List.append_inj_right' heq rfl)).1

theorem regular_join (hne : words ≠ []) (hwords : ∀ w ∈ words, Words.IsWord w)
    (hspelling : spelling ∈ [upperCamel, lowerSnake, upperSnake]) :
    Java.Regular (spelling.join words) := by
  obtain ⟨first, rest, rfl⟩ := List.exists_cons_of_ne_nil hne
  obtain ⟨hnonempty, halnum⟩ := hwords first List.mem_cons_self
  obtain ⟨c, cs, hfirst⟩ := List.exists_cons_of_ne_nil hnonempty
  have hc := halnum c (hfirst ▸ List.mem_cons_self)
  obtain ⟨d, image, hopen, hd, hlower⟩ := exists_head_opening spelling hfirst hc
  have hjoin : (spelling.join (first :: rest)).toList =
      d :: (image ++ (String.join (rest.map spelling.following)).toList) := by
    rw [join_cons, String.toList_append, hopen, List.cons_append]
  refine ⟨⟨d, _, hjoin, hd⟩, ?_⟩
  by_cases hsnake : spelling = lowerSnake
  · subst hsnake
    exact lowerSnake_ne_guarded hne hwords
  -- A name that starts with a capital is no keyword, whatever it ends in.
  · have hupper : spelling = upperCamel ∨ spelling = upperSnake := by
      simpa [hsnake] using hspelling
    have hheads : ∀ k ∈ Java.keywords,
        k.toList.head?.any (fun c => c.isLower || c == '_') = true := by decide
    intro k hk heq
    obtain ⟨e, he, hcase⟩ := (Option.any_eq_true _ _).mp (hheads k hk)
    rw [Bool.or_eq_true, beq_iff_eq] at hcase
    obtain ⟨tail, hk⟩ := List.head?_eq_some_iff.mp he
    rw [hjoin, List.map_cons, Java.mend_of_isAlphanumeric hd, hk, List.cons_append] at heq
    obtain rfl := (List.cons.inj heq).1
    obtain hcase | hcase := hcase
    · rw [hlower hupper] at hcase
      cases hcase
    · exact ne_underscore_of_isAlphanumeric hd hcase

/-! ## Setters -/

/-- Whether a setter in the first spelling goes on behind its verb like a parameter in the second
starts. -/
def setterContinues (method : Spelling) : Spelling → Bool
  | lowerCamel => false
  | upperCamel => method.alike lowerCamel || method.alike upperCamel
  | parameter => method.alike parameter

theorem join_set (hparameter : parameter ∈ [upperCamel, lowerSnake, upperSnake])
    (hmethod : method = parameter ∨ method = lowerCamel ∧ parameter = upperCamel)
    (hne : words ≠ []) :
    method.join ("set" :: words) =
      method.opening "set" ++ method.separator ++ parameter.join words := by
  obtain ⟨first, rest, rfl⟩ := List.exists_cons_of_ne_nil hne
  -- Behind `set` the words go on as they would at the start of the parameter.
  have hsame : method.continuing = parameter.opening ∧ method.following = parameter.following := by
    obtain rfl | ⟨rfl, rfl⟩ := hmethod
    · cases method with
      | upperCamel | lowerSnake | upperSnake => exact ⟨rfl, rfl⟩
      | lowerCamel | kebab => simp at hparameter
    · exact ⟨rfl, rfl⟩
  rw [join_cons, join_cons, List.map_cons, String.join_cons, ← hsame.1, ← hsame.2, following]
  simp only [String.append_assoc]

theorem identifier_set_eq (hcontinues : method.setterContinues parameter = true)
    (hne : words ≠ []) (hwords : ∀ w ∈ words, Words.IsWord w) (hne' : words' ≠ [])
    (hwords' : ∀ w ∈ words', Words.IsWord w)
    (h : parameter.identifier words = parameter.identifier words') :
    method.identifier ("set" :: words) = method.identifier ("set" :: words') := by
  have hrepaired : parameter.repaired ∈ [upperCamel, lowerSnake, upperSnake] ∧
      (method.repaired = parameter.repaired ∨
        method.repaired = lowerCamel ∧ parameter.repaired = upperCamel) := by
    revert hcontinues
    cases method <;> cases parameter <;> decide
  rw [← identifier_repaired parameter, ← identifier_repaired parameter] at h
  rw [← identifier_repaired method, ← identifier_repaired method, identifier, identifier,
    join_set hrepaired.1 hrepaired.2 hne, join_set hrepaired.1 hrepaired.2 hne']
  -- The names agree as they are mended, although one of them might be guarded.
  have hmended := (regular_join hne hwords hrepaired.1).map_mend_eq
    (regular_join hne' hwords' hrepaired.1) h
  apply Java.repair_congr
  simp only [String.toList_append, List.map_append, hmended]

end Spelling
end JsonClasses
