import JsonClasses.Naming.Candidates
import JsonClasses.Naming.Words
import Std.Data.String.ToNat

/-!
# Words of a raw name

A separator cuts a raw name in two whose words do not depend on each other. So the number of a
candidate, which is read whole, is one more word behind those of the key, and a verb in front one
more before them.
-/
namespace JsonClasses
open Unicode

/-! ## Digits -/

/-- What holds of the ten digits holds of every digit. -/
theorem Text.forall_digit {P : Char → Prop} (h : ∀ n < 10, P (Char.ofNat (48 + n))) {c : Char}
    (hc : c.isDigit = true) : P c := by
  simp only [Char.isDigit, Bool.and_eq_true, decide_eq_true_eq, UInt32.le_iff_toNat_le] at hc
  have hlow : 48 ≤ c.toNat := hc.1
  have hhigh : c.toNat ≤ 57 := hc.2
  have hdigit := h (c.toNat - 48) (by omega)
  rwa [Nat.add_sub_cancel' hlow, Char.ofNat_toNat] at hdigit

theorem Unicode.isAlphanumeric_of_isDigit {c : Char} (h : c.isDigit = true) :
    isAlphanumeric c = true :=
  Text.forall_digit (P := fun c => isAlphanumeric c = true) (by decide) h

theorem Unicode.isUppercase_of_isDigit {c : Char} (h : c.isDigit = true) :
    isUppercase c = false :=
  Text.forall_digit (P := fun c => isUppercase c = false) (by decide) h

theorem Unicode.isAlphanumeric_underscore : isAlphanumeric '_' = false := by decide

theorem Unicode.ne_underscore_of_isAlphanumeric {c : Char} (h : isAlphanumeric c = true) :
    c ≠ '_' := by
  rintro rfl
  rw [isAlphanumeric_underscore] at h
  cases h

theorem Text.isDigit_of_mem_toString {n : Nat} {c : Char} (h : c ∈ (toString n).toList) :
    c.isDigit = true := by
  rw [Nat.toString_eq_repr, Nat.toList_repr] at h
  exact Nat.isDigit_of_mem_toDigits (by decide) (by decide) h

theorem Text.toList_toString_ne_nil (n : Nat) : (toString n).toList ≠ [] := by
  rw [Nat.toString_eq_repr, Nat.toList_repr]
  exact Nat.toDigits_ne_nil

theorem Text.toString_nat_injective {m n : Nat} (h : (toString m).toList = (toString n).toList) :
    m = n := by
  rw [Nat.toString_eq_repr, Nat.toString_eq_repr] at h
  exact Nat.repr_injective (String.toList_injective h)

namespace Words

/-! ## Splitting -/

theorem splitFrom_append_separator {word cs rest : List Char} {separator : Char}
    (h : isAlphanumeric separator = false) :
    splitFrom word (cs ++ separator :: rest) = splitFrom word cs ++ splitFrom [] rest := by
  -- The open word is generalized: a cut inside `cs` opens a new one.
  induction cs generalizing word with
  | nil => simp only [List.nil_append, splitFrom, h, Bool.false_eq_true, if_false]
  | cons c cs ih =>
    rw [List.cons_append]
    cases hc : isAlphanumeric c with
    | false =>
      simp only [splitFrom, hc, Bool.false_eq_true, if_false, ih, List.append_assoc]
    | true =>
      cases word with
      | nil => simp only [splitFrom, hc, if_true, ih]
      | cons last earlier =>
        simp only [splitFrom, hc, if_true, ih]
        split
        · rw [List.append_assoc]
        · split
          · rw [List.append_assoc]
          · rfl

theorem splitFrom_cons_separator {c : Char} (h : isAlphanumeric c = false) (word cs : List Char) :
    splitFrom word (c :: cs) = closed word ++ splitFrom [] cs := by
  show splitFrom word ([] ++ c :: cs) = splitFrom word [] ++ splitFrom [] cs
  exact splitFrom_append_separator h

theorem split_append_separator (first rest : String) {separator : Char}
    (h : isAlphanumeric separator = false) :
    split (first ++ String.singleton separator ++ rest) = split first ++ split rest := by
  simp only [split, String.toList_append, String.toList_singleton, List.append_assoc,
    List.singleton_append, splitFrom_append_separator h, List.map_append]

/-! ## Words that are read whole -/

/-- A word in which no other starts, whatever stands behind it. -/
structure Uncut (word : List Char) : Prop where
  nonempty : word ≠ []
  reads : ∀ rest, splitFrom [] (word ++ rest) = splitFrom word.reverse rest

section Uncut

variable {last c : Char} {earlier cs word : List Char}

theorem splitFrom_cons_of_uncut (hc : isAlphanumeric c = true)
    (hcapital : (isUppercase c && (isLowercase last || isNumeric last)) = false)
    (hacronym : (isLowercase c && isUppercase last && !earlier.isEmpty) = false) :
    splitFrom (last :: earlier) (c :: cs) = splitFrom (c :: last :: earlier) cs := by
  rw [splitFrom, if_pos hc, hcapital, hacronym]
  rfl

/-- Characters that are no capitals lengthen the open word. -/
theorem splitFrom_append_small (hlast : isUppercase last = false ∨ earlier = [])
    (hcs : ∀ c ∈ cs, isAlphanumeric c = true ∧ isUppercase c = false) (rest : List Char) :
    splitFrom (last :: earlier) (cs ++ rest) = splitFrom (cs.reverse ++ last :: earlier) rest := by
  induction cs generalizing last earlier with
  | nil => rfl
  | cons c cs ih =>
    obtain ⟨⟨hc, hupper⟩, hcs⟩ := List.forall_mem_cons.mp hcs
    have hacronym : (isLowercase c && isUppercase last && !earlier.isEmpty) = false := by
      obtain hlast | rfl := hlast
      · rw [hlast, Bool.and_false, Bool.false_and]
      · exact Bool.and_false _
    rw [List.cons_append, splitFrom_cons_of_uncut hc (by rw [hupper, Bool.false_and]) hacronym,
      ih (.inl hupper) hcs, List.reverse_cons, List.append_assoc, List.singleton_append]

theorem uncut_of_small (hc : isAlphanumeric c = true)
    (hcs : ∀ d ∈ cs, isAlphanumeric d = true ∧ isUppercase d = false) : Uncut (c :: cs) where
  nonempty := List.cons_ne_nil c cs
  reads rest := by
    rw [List.cons_append, splitFrom, if_pos hc, splitFrom_append_small (.inr rfl) hcs,
      List.reverse_cons]

theorem Uncut.closed_reverse (h : Uncut word) : closed word.reverse = [word] := by
  rw [closed, if_neg (by simpa using h.nonempty), List.reverse_reverse]

theorem split_of_uncut {word : String} (h : Uncut word.toList) : split word = [word] := by
  have hread := h.reads []
  rw [List.append_nil, splitFrom, h.closed_reverse] at hread
  rw [split, hread, List.map_singleton, String.ofList_toList]

end Uncut

/-! ## Raw names with one more word -/

theorem split_toString (n : Nat) : split (toString n) = [toString n] := by
  obtain ⟨c, cs, hchars⟩ := List.exists_cons_of_ne_nil (Text.toList_toString_ne_nil n)
  have hdigits : ∀ d ∈ c :: cs, d.isDigit = true := fun d hd =>
    Text.isDigit_of_mem_toString (hchars ▸ hd)
  apply split_of_uncut
  rw [hchars]
  refine uncut_of_small (isAlphanumeric_of_isDigit (hdigits c List.mem_cons_self)) fun d hd => ?_
  have hd := hdigits d (List.mem_cons_of_mem c hd)
  exact ⟨isAlphanumeric_of_isDigit hd, isUppercase_of_isDigit hd⟩

/-- The words behind those of the key in the candidate with this index. -/
def suffixOf : Nat → List String
  | 0 => []
  | n + 1 => [toString (n + 2)]

theorem split_nth (key : String) (n : Nat) :
    split (Candidates.nth key n) = split key ++ suffixOf n := by
  cases n with
  | zero => rw [Candidates.nth, suffixOf, List.append_nil]
  | succ n =>
    rw [Candidates.nth, show "_" = String.singleton '_' from rfl,
      split_append_separator key _ isAlphanumeric_underscore, split_toString, suffixOf]

theorem split_nth_ne_nil {key : String} (h : split key ≠ []) (n : Nat) :
    split (Candidates.nth key n) ≠ [] := by
  rw [split_nth]
  exact List.append_ne_nil_of_left_ne_nil h _

/-- A verb in front of a raw name, with a space between them. -/
theorem split_behind (verb raw : String) : split (verb ++ " " ++ raw) = split verb ++ split raw := by
  have hspace : isAlphanumeric ' ' = false := by decide
  rw [show " " = String.singleton ' ' from rfl, split_append_separator verb raw hspace]

/-! ## Words -/

/-- Not empty, and without separators. -/
def IsWord (word : String) : Prop :=
  word.toList ≠ [] ∧ ∀ c ∈ word.toList, isAlphanumeric c = true

theorem isWord_of_mem_closed {word : List Char} (hword : ∀ c ∈ word, isAlphanumeric c = true) :
    ∀ w ∈ closed word, IsWord (String.ofList w) := by
  intro w hw
  rw [closed] at hw
  split at hw
  · cases hw
  · rename_i hne
    obtain rfl := List.mem_singleton.mp hw
    rw [IsWord, String.toList_ofList]
    exact ⟨by simpa using hne, fun c hc => hword c (List.mem_reverse.mp hc)⟩

theorem isWord_of_mem_splitFrom {word cs : List Char}
    (hword : ∀ c ∈ word, isAlphanumeric c = true) :
    ∀ w ∈ splitFrom word cs, IsWord (String.ofList w) := by
  -- The invariant is that the open word has no separator in it.
  induction cs generalizing word with
  | nil => exact isWord_of_mem_closed hword
  | cons c cs ih =>
    have hclosed := isWord_of_mem_closed hword
    cases hc : isAlphanumeric c with
    | false =>
      simp only [splitFrom, hc, Bool.false_eq_true, if_false, List.forall_mem_append]
      exact ⟨hclosed, ih (List.forall_mem_nil _)⟩
    | true =>
      have hone : ∀ d ∈ [c], isAlphanumeric d = true := by simpa using hc
      cases word with
      | nil =>
        simp only [splitFrom, hc, if_true]
        exact ih hone
      | cons last earlier =>
        obtain ⟨hlast, hearlier⟩ := List.forall_mem_cons.mp hword
        simp only [splitFrom, hc, if_true]
        split
        · rw [List.forall_mem_append]
          exact ⟨hclosed, ih hone⟩
        · split
          · rw [List.forall_mem_append]
            refine ⟨isWord_of_mem_closed hearlier, ih ?_⟩
            simpa using And.intro hc hlast
          · exact ih (List.forall_mem_cons.mpr ⟨hc, hword⟩)

theorem isWord_of_mem_split {raw word : String} (h : word ∈ split raw) : IsWord word := by
  obtain ⟨w, hw, rfl⟩ := List.mem_map.mp h
  exact isWord_of_mem_splitFrom (List.forall_mem_nil _) w hw

/-! ## Raw names without words -/

theorem splitFrom_cons_ne_nil (last : Char) (earlier cs : List Char) :
    splitFrom (last :: earlier) cs ≠ [] := by
  -- A word that is open is closed in the end, wherever the cuts fall.
  induction cs generalizing last earlier with
  | nil => simp [splitFrom, closed]
  | cons c cs ih =>
    rw [splitFrom]
    split
    · split
      · simp [closed]
      · split
        · exact List.append_ne_nil_of_right_ne_nil _ (ih c [last])
        · exact ih c (last :: earlier)
    · simp [closed]

theorem splitFrom_nil_eq_nil_iff {cs : List Char} :
    splitFrom [] cs = [] ↔ ∀ c ∈ cs, isAlphanumeric c = false := by
  induction cs with
  | nil => simp [splitFrom, closed]
  | cons c cs ih =>
    rw [List.forall_mem_cons, ← ih, splitFrom]
    cases hc : isAlphanumeric c with
    | true => simp [splitFrom_cons_ne_nil]
    | false => simp [closed]

theorem split_eq_nil_iff {raw : String} :
    split raw = [] ↔ ∀ c ∈ raw.toList, isAlphanumeric c = false := by
  rw [split, List.map_eq_nil_iff, splitFrom_nil_eq_nil_iff]

end Words
end JsonClasses
