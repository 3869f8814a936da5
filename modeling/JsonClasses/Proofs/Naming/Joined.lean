import JsonClasses.Proofs.Naming.Standard
import JsonClasses.Proofs.Text.Ascii

/-!
# Joined words read back

A joined name gives its words back, up to letter case, if no word is cut inside and each can be told
from the one behind it. So a name of plain words says the same in every spelling.
-/
namespace JsonClasses
open Unicode

namespace Words

/-! ## Words in capitals -/

section Capitals

variable {last : Char} {earlier cs : List Char}

/-- Capitals lengthen an open word that ends in one. -/
theorem splitFrom_append_capitals (hlast : isLowercase last = false ∧ isNumeric last = false)
    (hcs : ∀ c ∈ cs, isAlphanumeric c = true ∧ isUppercase c = true ∧ isNumeric c = false)
    (rest : List Char) :
    splitFrom (last :: earlier) (cs ++ rest) = splitFrom (cs.reverse ++ last :: earlier) rest := by
  induction cs generalizing last earlier with
  | nil => rfl
  | cons c cs ih =>
    obtain ⟨⟨hc, hupper, hnumeric⟩, hcs⟩ := List.forall_mem_cons.mp hcs
    have hlower : isLowercase c = false := isLowercase_of_isUppercase hupper
    rw [List.cons_append, splitFrom_cons_of_uncut hc (by rw [hlast.1, hlast.2, Bool.or_false,
      Bool.and_false]) (by rw [hlower, Bool.false_and, Bool.false_and]), ih ⟨hlower, hnumeric⟩ hcs,
      List.reverse_cons, List.append_assoc, List.singleton_append]

theorem uncut_of_capitals (hne : cs ≠ [])
    (hcs : ∀ c ∈ cs, isAlphanumeric c = true ∧ isUppercase c = true ∧ isNumeric c = false) :
    Uncut cs where
  nonempty := hne
  reads rest := by
    obtain ⟨c, cs, rfl⟩ := List.exists_cons_of_ne_nil hne
    obtain ⟨⟨hc, hupper, hnumeric⟩, hcs⟩ := List.forall_mem_cons.mp hcs
    have hlower := isLowercase_of_isUppercase hupper
    rw [List.cons_append, splitFrom, if_pos hc, splitFrom_append_capitals ⟨hlower, hnumeric⟩ hcs,
      List.reverse_cons]

end Capitals

/-! ## Words one behind the other -/

/-- Whether a word ends where the one behind it starts: something stands between them, or a capital
behind a small letter. -/
inductive Separates (before after : String) : String → Prop
  | between {c : Char} (hc : isAlphanumeric c = false) : Separates before after (String.singleton c)
  | capital {earlier rest : List Char} {last c : Char} (hbefore : before.toList = earlier ++ [last])
      (hlast : isLowercase last = true) (hafter : after.toList = c :: rest)
      (hc : isAlphanumeric c = true) (hupper : isUppercase c = true) : Separates before after ""

theorem split_append_of_separates {before after separator : String}
    (h : Separates before after separator) (hbefore : Uncut before.toList) (rest : String) :
    split (before ++ separator ++ (after ++ rest)) = before :: split (after ++ rest) := by
  cases h with
  | between hc =>
    rw [split_append_separator before _ hc, split_of_uncut hbefore, List.singleton_append]
  | @capital earlier tail last c hends hlast hafter hc hupper =>
    -- All of `before` is open when the capital behind its last letter closes it.
    have hopen : before.toList.reverse = last :: earlier.reverse := by
      rw [hends, List.reverse_concat']
    rw [String.append_empty, split, split, String.toList_append, String.toList_append,
      hbefore.reads, hafter, List.cons_append, hopen, splitFrom, if_pos hc, splitFrom, if_pos hc,
      hlast, hupper, Bool.true_or, Bool.true_and, if_pos rfl, ← hopen, hbefore.closed_reverse,
      List.map_append, List.map_singleton, String.ofList_toList, List.singleton_append]

/-- Words that end where the next one starts are read back from the text that they make. -/
theorem split_intercalate {separator : String} {words : List String}
    (huncut : ∀ word ∈ words, Uncut word.toList) (hends : words.IsChain (Separates · · separator)) :
    split (String.intercalate separator words) = words := by
  -- The first word is read off, and the rest is read as if it stood alone.
  induction words with
  | nil => rfl
  | cons first words ih =>
    obtain ⟨hfirst, hwords⟩ := List.forall_mem_cons.mp huncut
    cases words with
    | nil => rw [String.intercalate_singleton, split_of_uncut hfirst]
    | cons second words =>
      obtain ⟨hsecond, hends⟩ := List.isChain_cons_cons.mp hends
      have hrest := ih hwords hends
      rw [Spelling.intercalate_cons] at hrest
      rw [String.intercalate_cons_cons, Spelling.intercalate_cons,
        split_append_of_separates hsecond hfirst, hrest]

/-! ## Words of ASCII characters -/

section Ascii

variable {word : String}

/-- At least two letters of ASCII, small ones or capitals. -/
structure IsPlain (word : String) : Prop where
  two : 2 ≤ word.toList.length
  letters : ∀ c ∈ word.toList, c.isAlpha = true

instance (word : String) : Decidable (IsPlain word) :=
  decidable_of_iff (2 ≤ word.toList.length ∧ word.toList.all Char.isAlpha = true)
    ⟨fun h => ⟨h.1, List.all_eq_true.mp h.2⟩, fun h => ⟨h.two, List.all_eq_true.mpr h.letters⟩⟩

theorem IsPlain.isAscii (h : IsPlain word) : Text.IsAscii word :=
  fun c hc => toNat_lt_of_isAlpha (h.letters c hc)

theorem IsPlain.ne_nil (h : IsPlain word) : word.toList ≠ [] := by
  have htwo := h.two
  exact List.ne_nil_of_length_pos (by omega)

theorem IsPlain.isWord (h : IsPlain word) : IsWord word :=
  ⟨h.ne_nil, fun c hc => isAlphanumeric_of_isAlpha (h.letters c hc)⟩

/-- The first letter of a plain word is not its last. -/
theorem IsPlain.exists_ends (h : IsPlain word) :
    ∃ c cs last, word.toList = c :: (cs ++ [last]) ∧ c.isAlpha = true ∧ last.isAlpha = true := by
  have htwo := h.two
  have hletters := h.letters
  obtain ⟨c, rest, hchars⟩ := List.exists_cons_of_ne_nil h.ne_nil
  rw [hchars, List.length_cons] at htwo
  have hrest : rest ≠ [] := List.ne_nil_of_length_pos (by omega)
  obtain ⟨cs, last, rfl⟩ := List.eq_nil_or_concat' rest |>.resolve_left hrest
  exact ⟨c, cs, last, hchars, hletters c (by simp [hchars]), hletters last (by simp [hchars])⟩

/-- Without capitals behind the first character no other word starts. -/
theorem uncut_of_small_tail {write : String → String}
    (hwrite : write = Text.lower ∨ write = Text.capitalize) (hword : IsWord word)
    (hascii : Text.IsAscii word) : Uncut (write word).toList := by
  obtain ⟨c, cs, hchars⟩ := List.exists_cons_of_ne_nil hword.1
  obtain ⟨d, hwritten, hd⟩ := Text.exists_small_tail hwrite hascii hchars
  have halnum := hword.2
  rw [hchars, List.forall_mem_cons] at halnum
  rw [Text.IsAscii, hchars, List.forall_mem_cons] at hascii
  -- Letter case does not matter to what is alphanumeric.
  have hfirst : isAlphanumeric d = true := by
    obtain rfl | rfl := hd
    · rw [isAlphanumeric_toLower hascii.1, halnum.1]
    · rw [isAlphanumeric_toUpper hascii.1, halnum.1]
  rw [hwritten]
  refine uncut_of_small hfirst (List.forall_mem_map.mpr fun e he => ?_)
  have hsmall := isAlphanumeric_toLower (hascii.2 e he)
  exact ⟨hsmall.trans (halnum.2 e he), isUppercase_toLower (hascii.2 e he)⟩

theorem uncut_upper (h : IsPlain word) : Uncut (Text.upper word).toList := by
  rw [Text.toList_upper_of_ascii h.isAscii]
  apply uncut_of_capitals (by simpa using h.ne_nil)
  rw [List.forall_mem_map]
  intro c hc
  have halpha := h.letters c hc
  exact ⟨(isAlphanumeric_toUpper (h.isAscii c hc)).trans (h.isWord.2 c hc),
    isUppercase_toUpper_of_isAlpha halpha, isNumeric_toUpper_of_isAlpha halpha⟩

/-- A plain word ends small, and the capital of the one behind it starts another. -/
theorem separates_of_small_tail {before : String} {write : String → String}
    (hwrite : write = Text.lower ∨ write = Text.capitalize) (hbefore : IsPlain before)
    (hword : IsPlain word) : Separates (write before) (Text.capitalize word) "" := by
  obtain ⟨first, cs, last, hends, -, hlast⟩ := hbefore.exists_ends
  obtain ⟨d, hwritten, -⟩ := Text.exists_small_tail hwrite hbefore.isAscii hends
  rw [List.map_append, List.map_singleton, ← List.cons_append] at hwritten
  obtain ⟨c, _, _, hstarts, hc, -⟩ := hword.exists_ends
  have hcapital := Text.toList_capitalize_of_ascii hword.isAscii hstarts
  have halnum : isAlphanumeric c.toUpper = true := by
    rw [isAlphanumeric_toUpper (toNat_lt_of_isAlpha hc), isAlphanumeric_of_isAlpha hc]
  exact .capital hwritten (isLowercase_toLower_of_isAlpha hlast) hcapital halnum
    (isUppercase_toUpper_of_isAlpha hc)

end Ascii
end Words

namespace Spelling

variable {spelling : Spelling} {words : List String} {word first : String}

theorem join_eq_intercalate (spelling : Spelling) (first : String) (words : List String) :
    spelling.join (first :: words) =
      String.intercalate spelling.separator
        (spelling.opening first :: words.map spelling.continuing) := by
  rw [join_cons, intercalate_cons, List.map_map]
  rfl

/-! ## Words behind others -/

/-- The spelling that starts a name as this one writes a word behind others. -/
def behind : Spelling → Spelling
  | lowerCamel => upperCamel
  | spelling => spelling

@[simp] theorem opening_behind (spelling : Spelling) :
    spelling.behind.opening = spelling.continuing := by
  cases spelling <;> rfl

@[simp] theorem continuing_behind (spelling : Spelling) :
    spelling.behind.continuing = spelling.continuing := by
  cases spelling <;> rfl

@[simp] theorem separator_behind (spelling : Spelling) :
    spelling.behind.separator = spelling.separator := by
  cases spelling <;> rfl

/-! ## Letter case does not matter to a spelling -/

theorem opening_congr (spelling : Spelling) {word' : String} (h : Text.SameLetters word word') :
    spelling.opening word = spelling.opening word' := by
  cases spelling with
  | lowerCamel | lowerSnake | kebab => exact h.lower_eq
  | upperCamel => exact h.capitalize_eq
  | upperSnake => exact h.upper_eq

theorem continuing_congr (spelling : Spelling) {word' : String} (h : Text.SameLetters word word') :
    spelling.continuing word = spelling.continuing word' := by
  simpa using opening_congr spelling.behind h

theorem join_congr {words' : List String} (h : List.Forall₂ Text.SameLetters words words') :
    spelling.join words = spelling.join words' := by
  cases h with
  | nil => rfl
  | @cons first first' words words' hfirst hwords =>
    have hcontinuing : words.map spelling.continuing = words'.map spelling.continuing := by
      induction hwords with
      | nil => rfl
      | cons hword _ ih => rw [List.map_cons, List.map_cons, continuing_congr spelling hword, ih]
    rw [join_eq_intercalate, join_eq_intercalate, opening_congr spelling hfirst, hcontinuing]

theorem sameLetters_opening (spelling : Spelling) (h : Text.IsAscii word) :
    Text.SameLetters (spelling.opening word) word := by
  cases spelling with
  | lowerCamel | lowerSnake | kebab => exact Text.sameLetters_lower h
  | upperCamel => exact Text.sameLetters_capitalize h
  | upperSnake => exact Text.sameLetters_upper h

theorem sameLetters_continuing (spelling : Spelling) (h : Text.IsAscii word) :
    Text.SameLetters (spelling.continuing word) word := by
  simpa using sameLetters_opening spelling.behind h

/-! ## Plain words -/

theorem uncut_opening (spelling : Spelling) (h : Words.IsPlain word) :
    Words.Uncut (spelling.opening word).toList := by
  cases spelling with
  | lowerCamel | lowerSnake | kebab => exact Words.uncut_of_small_tail (.inl rfl) h.isWord h.isAscii
  | upperCamel => exact Words.uncut_of_small_tail (.inr rfl) h.isWord h.isAscii
  | upperSnake => exact Words.uncut_upper h

theorem uncut_continuing (spelling : Spelling) (h : Words.IsPlain word) :
    Words.Uncut (spelling.continuing word).toList := by
  simpa using uncut_opening spelling.behind h

theorem separates_opening (spelling : Spelling) {before : String} (hbefore : Words.IsPlain before)
    (hword : Words.IsPlain word) :
    Words.Separates (spelling.opening before) (spelling.continuing word) spelling.separator := by
  cases spelling with
  | lowerCamel => exact Words.separates_of_small_tail (.inl rfl) hbefore hword
  | upperCamel => exact Words.separates_of_small_tail (.inr rfl) hbefore hword
  | lowerSnake | upperSnake => exact .between (c := '_') (by decide)
  | kebab => exact .between (c := '-') (by decide)

theorem separates_continuing (spelling : Spelling) {before : String}
    (hbefore : Words.IsPlain before) (hword : Words.IsPlain word) :
    Words.Separates (spelling.continuing before) (spelling.continuing word)
      spelling.separator := by
  simpa using separates_opening spelling.behind hbefore hword

/-- The words of a name of plain words are those that it was made of, up to letter case. -/
theorem split_join (hfirst : Words.IsPlain first) (hwords : ∀ w ∈ words, Words.IsPlain w) :
    Words.split (spelling.join (first :: words)) =
      spelling.opening first :: words.map spelling.continuing := by
  rw [join_eq_intercalate]
  apply Words.split_intercalate
  · rw [List.forall_mem_cons, List.forall_mem_map]
    exact ⟨uncut_opening spelling hfirst, fun w hw => uncut_continuing spelling (hwords w hw)⟩
  · apply List.Pairwise.isChain
    rw [List.pairwise_cons, List.forall_mem_map, List.pairwise_map]
    refine ⟨fun w hw => separates_opening spelling hfirst (hwords w hw), ?_⟩
    exact List.pairwise_of_forall_mem_list fun v hv w hw =>
      separates_continuing spelling (hwords v hv) (hwords w hw)

/-- A name of plain words says the same in every spelling: read back from the one that it is written
in, its words make the name in another as they would have made it at first. -/
theorem respell_join (h : ∀ word ∈ words, Words.IsPlain word) (written target : Spelling) :
    target.respell (written.join words) = target.join words ∧
      (words ≠ [] → ∀ role type, Namer.standard role target (written.join words) type =
        .ok (target.identifier words)) := by
  cases words with
  | nil => exact ⟨by cases written <;> cases target <;> rfl, fun hne => absurd rfl hne⟩
  | cons first words =>
    obtain ⟨hfirst, hwords⟩ := List.forall_mem_cons.mp h
    have hsplit : Words.split (written.join (first :: words)) =
        written.opening first :: words.map written.continuing := split_join hfirst hwords
    -- The words that are read back differ from the given ones in letter case only.
    have hletters : List.Forall₂ Text.SameLetters (Words.split (written.join (first :: words)))
        (first :: words) := by
      rw [hsplit]
      refine .cons (sameLetters_opening written hfirst.isAscii) ?_
      rw [List.forall₂_map_left_iff, List.forall₂_same]
      exact fun w hw => sameLetters_continuing written (hwords w hw).isAscii
    refine ⟨join_congr hletters, fun _ role type => ?_⟩
    rw [Namer.standard_eq_ok type (by rw [hsplit]; exact List.cons_ne_nil _ _), identifier,
      identifier, join_congr hletters]

/-- Words of two letters, one of them in capitals, from one camel case to the other. -/
theorem respell_join_camel :
    (∀ word ∈ ["my", "ID"], Words.IsPlain word) ∧
      upperCamel.respell (lowerCamel.join ["my", "ID"]) = "MyId" ∧
      Namer.standard .className upperCamel (lowerCamel.join ["my", "ID"]) .anyObject =
        .ok "MyId" := by
  have hplain : ∀ word ∈ ["my", "ID"], Words.IsPlain word := by decide +kernel
  obtain ⟨hrespell, hnamer⟩ := respell_join hplain lowerCamel upperCamel
  have hname : upperCamel.identifier ["my", "ID"] = "MyId" := by decide +kernel
  refine ⟨hplain, hrespell.trans (by decide +kernel), ?_⟩
  rw [hnamer (by decide) .className .anyObject, hname]

end Spelling
end JsonClasses
