import JsonClasses.Proofs.Naming.Alike

/-!
# Names of one word

A word behind others starts with a separator or with a capital. So a name with small letters behind
its first character has one word, and which word that is can be told from the name.
-/
namespace JsonClasses.Spelling
open Unicode

variable {spelling : Spelling} {words : List String} {first name : String}

/-- A word behind others never starts with a small letter of ASCII. -/
theorem exists_head_following (spelling : Spelling) {word : String} (hword : Words.IsWord word) :
    ∃ c cs, (spelling.following word).toList = c :: cs ∧ c.isLower = false := by
  rw [following, String.toList_append]
  cases spelling with
  | lowerCamel | upperCamel =>
    obtain ⟨c, cs, hcs⟩ := List.exists_cons_of_ne_nil hword.1
    obtain ⟨d, image, hopen, _, hlower⟩ :=
      exists_head_opening upperCamel hcs (hword.2 c (hcs ▸ List.mem_cons_self))
    exact ⟨d, image, hopen, hlower (.inl rfl)⟩
  | lowerSnake | upperSnake => exact ⟨'_', _, rfl, by decide⟩
  | kebab => exact ⟨'-', _, rfl, by decide⟩

theorem eq_nil_of_following (hwords : ∀ w ∈ words, Words.IsWord w)
    (h : ∀ c ∈ (String.join (words.map spelling.following)).toList, c.isLower = true) :
    words = [] := by
  cases words with
  | nil => rfl
  | cons word words =>
    obtain ⟨c, cs, hfollowing, hc⟩ :=
      exists_head_following spelling (hwords word List.mem_cons_self)
    rw [List.map_cons, String.join_cons, String.toList_append, hfollowing] at h
    rw [h c (List.mem_append_left _ List.mem_cons_self)] at hc
    cases hc

/-- A name whose other characters are small letters is that of its first word alone. -/
theorem join_eq_iff (hfirst : Words.IsWord first) (hwords : ∀ w ∈ words, Words.IsWord w)
    (hname : ∀ c ∈ name.toList.tail, c.isLower = true) :
    spelling.join (first :: words) = name ↔ words = [] ∧ spelling.opening first = name := by
  rw [join_cons]
  constructor
  · intro h
    have hne : (spelling.opening first).toList ≠ [] := opening_ne_nil hfirst.1
    obtain ⟨c, cs, hopen⟩ := List.exists_cons_of_ne_nil hne
    have hlist := congrArg String.toList h
    rw [String.toList_append, hopen, List.cons_append] at hlist
    rw [← hlist, List.tail_cons] at hname
    -- A second word would bring a capital or a separator.
    obtain rfl := eq_nil_of_following hwords fun d hd => hname d (List.mem_append_right cs hd)
    exact ⟨rfl, by rw [← h, List.map_nil, String.join_nil, String.append_empty]⟩
  · rintro ⟨rfl, h⟩
    rw [List.map_nil, String.join_nil, String.append_empty, h]

/-- In capitals a name does not start with a small letter. -/
theorem opening_ne_of_head_isLower (hfirst : Words.IsWord first)
    (hspelling : spelling = upperCamel ∨ spelling = upperSnake) {c : Char} {cs : List Char}
    (hname : name.toList = c :: cs) (hc : c.isLower = true) : spelling.opening first ≠ name := by
  obtain ⟨d, ds, hds⟩ := List.exists_cons_of_ne_nil hfirst.1
  obtain ⟨head, image, hopen, _, hlower⟩ :=
    exists_head_opening spelling hds (hfirst.2 d (hds ▸ List.mem_cons_self))
  rintro rfl
  rw [hopen] at hname
  rw [← (List.cons.inj hname).1, hlower hspelling] at hc
  cases hc

/-! ## Identifiers -/

/-- Repair leaves an identifier without `_` as it is, and makes no text into one. -/
theorem identifier_eq_iff (hname : Java.isIdentifier name = true) (hmended : '_' ∉ name.toList) :
    spelling.identifier words = name ↔ spelling.join words = name := by
  constructor
  · exact fun h => Java.eq_of_repair_eq h hmended
  · rintro rfl
    exact Java.repair_of_isIdentifier hname

end JsonClasses.Spelling
