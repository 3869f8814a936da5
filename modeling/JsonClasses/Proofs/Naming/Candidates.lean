import JsonClasses.Naming.Candidates
import Mathlib.Data.List.Nodup
import Mathlib.Data.Nat.Find
import Mathlib.Data.List.Perm.Subperm

/-!
# The search for a free candidate

A search that succeeds returns the first free candidate. It does succeed when there are more
attempts than ways to spoil a candidate and no way spoils two of them.
-/
namespace JsonClasses.Candidates

/-! ## Numbers of candidates -/

/-- The number of the candidate of `key` that reads like this. -/
def index? (key raw : String) : Option Nat :=
  let n := Nat.ofDigitChars 10 (raw.toList.drop (key.length + 1)) 0 - 1
  if nth key n = raw then some n else none

theorem drop_nth_succ (key : String) (n : Nat) :
    (nth key (n + 1)).toList.drop (key.length + 1) = Nat.toDigits 10 (n + 2) := by
  rw [nth, String.toList_append, Nat.toString_eq_repr, Nat.toList_repr]
  apply List.drop_left'
  rw [String.toList_append, List.length_append, String.length_toList]
  rfl

theorem index?_eq_some_iff {key raw : String} {n : Nat} :
    index? key raw = some n ↔ raw = nth key n := by
  constructor
  · intro h
    rw [index?, Option.ite_none_right_eq_some, Option.some.injEq] at h
    rw [← h.2, h.1]
  · rintro rfl
    -- The digits behind the key and the underscore give back the number.
    have hnumber : Nat.ofDigitChars 10 ((nth key n).toList.drop (key.length + 1)) 0 - 1 = n := by
      cases n with
      | zero =>
        rw [nth, List.drop_eq_nil_of_le (by rw [String.length_toList]; omega)]
        rfl
      | succ n =>
        rw [drop_nth_succ, Nat.ofDigitChars_ten_toDigits]
        rfl
    rw [index?, hnumber, if_pos rfl]

@[simp] theorem index?_nth (key : String) (n : Nat) : index? key (nth key n) = some n :=
  index?_eq_some_iff.mpr rfl

theorem nth_injective (key : String) : Function.Injective (nth key) := by
  intro m n h
  have hsame : some m = some n := by rw [← index?_nth key m, h, index?_nth]
  exact Option.some.inj hsame

theorem append_nth (before key : String) (n : Nat) :
    before ++ nth key n = nth (before ++ key) n := by
  cases n with
  | zero => rfl
  | succ n => simp only [nth, String.append_assoc]

theorem take_nth (key : String) (n : Nat) : (nth key n).toList.take key.length = key.toList := by
  cases n with
  | zero => rw [nth, List.take_of_length_le (by rw [String.length_toList])]
  | succ n =>
    rw [nth, String.toList_append, String.toList_append, List.append_assoc, ← String.length_toList,
      List.take_left]

/-- Keys of one length share no candidate. -/
theorem index?_nth_of_ne {key key' : String} (hlength : key.length = key'.length)
    (hne : key ≠ key') (n : Nat) : index? key (nth key' n) = none := by
  rw [Option.eq_none_iff_forall_ne_some]
  intro m h
  rw [index?_eq_some_iff] at h
  apply hne
  apply String.toList_injective
  rw [← take_nth key m, ← h, hlength, take_nth]

/-! ## The end of a search -/

variable {ε α : Type} {key : String} {derive : String → Except ε α} {isTaken : α → Bool}
  {giveUp : ε} {attempts index : Nat}

theorem search_succ_of_error {e : ε} (h : derive (nth key index) = .error e) :
    search key derive isTaken giveUp (attempts + 1) index = .error e := by
  rw [search, h]

theorem search_succ_of_free {x : α} (h : derive (nth key index) = .ok x) (hx : isTaken x = false) :
    search key derive isTaken giveUp (attempts + 1) index = .ok x := by
  simp only [search, h, hx, Bool.false_eq_true, if_false]

theorem search_succ_of_taken {x : α} (h : derive (nth key index) = .ok x) (hx : isTaken x = true) :
    search key derive isTaken giveUp (attempts + 1) index =
      search key derive isTaken giveUp attempts (index + 1) := by
  simp only [search, h, hx, if_true]

theorem search_eq_ok_iff {x : α} :
    search key derive isTaken giveUp attempts index = .ok x ↔
      ∃ n < attempts, derive (nth key (n + index)) = .ok x ∧ isTaken x = false ∧
        ∀ m < n, ∃ y, derive (nth key (m + index)) = .ok y ∧ isTaken y = true := by
  induction attempts generalizing index with
  | zero => simp [search]
  | succ attempts ih =>
    have hshift (n : Nat) : n + 1 + index = n + (index + 1) := by omega
    -- Either the first candidate is the result, or it is taken and the search goes on behind it.
    rw [Nat.exists_lt_succ_left]
    simp only [Nat.forall_lt_succ_left, Nat.zero_add, hshift, Nat.not_lt_zero, false_implies,
      implies_true, and_true]
    cases hd : derive (nth key index) with
    | error e => simp [search_succ_of_error hd]
    | ok first =>
      cases ht : isTaken first with
      | false =>
        rw [search_succ_of_free hd ht]
        constructor
        · rintro ⟨⟩
          exact .inl ⟨rfl, ht⟩
        · rintro (⟨hx, _⟩ | ⟨n, _, _, _, ⟨y, hy, hyt⟩, _⟩)
          · exact hx
          · rw [← Except.ok.inj hy, ht] at hyt
            cases hyt
      | true =>
        rw [search_succ_of_taken hd ht, ih]
        constructor
        · rintro ⟨n, hn, hx, hfree, hbefore⟩
          exact .inr ⟨n, hn, hx, hfree, ⟨first, rfl, ht⟩, hbefore⟩
        · rintro (⟨hx, hfree⟩ | ⟨n, hn, hx, hfree, _, hbefore⟩)
          · rw [← Except.ok.inj hx, ht] at hfree
            cases hfree
          · exact ⟨n, hn, hx, hfree, hbefore⟩

/-- A search in which every attempt is taken gives up. -/
theorem search_of_all_taken
    (h : ∀ n < attempts, ∃ x, derive (nth key (n + index)) = .ok x ∧ isTaken x = true) :
    search key derive isTaken giveUp attempts index = .error giveUp := by
  induction attempts generalizing index with
  | zero => rfl
  | succ attempts ih =>
    obtain ⟨x, hx, htaken⟩ := h 0 (Nat.succ_pos attempts)
    rw [Nat.zero_add] at hx
    rw [search_succ_of_taken hx htaken]
    apply ih
    intro n hn
    rw [← Nat.add_assoc, Nat.add_right_comm]
    exact h (n + 1) (Nat.succ_lt_succ hn)

theorem isTaken_eq_false_of_search {x : α}
    (h : search key derive isTaken giveUp attempts index = .ok x) : isTaken x = false := by
  obtain ⟨_, _, _, hfree, _⟩ := search_eq_ok_iff.mp h
  exact hfree

theorem exists_derive_of_search {x : α}
    (h : search key derive isTaken giveUp attempts index = .ok x) :
    ∃ n, derive (nth key n) = .ok x := by
  obtain ⟨n, _, hx, _⟩ := search_eq_ok_iff.mp h
  exact ⟨n + index, hx⟩

/-! ## Enough attempts -/

/-- If each way to spoil a candidate spoils at most one, as many candidates as there are ways can
be spoiled, and no more. -/
theorem exists_free_of_spoilers {β : Type} (isTaken : α → Bool) (made : Nat → α)
    (spoils : β → Nat → Prop) (spoilers : List β)
    (hspoiled : ∀ n, isTaken (made n) = true → ∃ b ∈ spoilers, spoils b n)
    (honce : ∀ b m n, spoils b m → spoils b n → m = n) :
    ∃ n ≤ spoilers.length, isTaken (made n) = false := by
  by_contra hall
  have htaken : ∀ n : Fin (spoilers.length + 1), ∃ b ∈ spoilers, spoils b n := by
    intro n
    apply hspoiled
    by_contra hfree
    exact hall ⟨n, by omega, by simpa using hfree⟩
  -- Each candidate blames another spoiler, and there is one candidate too many.
  choose blame hmem hspoils using htaken
  have hinj : Function.Injective blame := by
    intro m n he
    exact Fin.ext (honce (blame n) m n (he ▸ hspoils m) (hspoils n))
  have hnodup : ((List.finRange (spoilers.length + 1)).map blame).Nodup :=
    (List.nodup_finRange _).map hinj
  have hsub : (List.finRange (spoilers.length + 1)).map blame ⊆ spoilers := by
    intro b hb
    obtain ⟨n, _, rfl⟩ := List.mem_map.mp hb
    exact hmem n
  have hlen := (List.subperm_of_subset hnodup hsub).length_le
  simp only [List.length_map, List.length_finRange] at hlen
  omega

/-- A search over candidates that can all be derived ends at the first free one, if there are more
attempts than ways to spoil a candidate. -/
theorem exists_search_of_spoilers {β : Type} (derive : String → Except ε α) (isTaken : α → Bool)
    (made : Nat → α) (spoils : β → Nat → Prop) (spoilers : List β)
    (hmade : ∀ n, derive (nth key n) = .ok (made n))
    (hspoiled : ∀ n, isTaken (made n) = true → ∃ b ∈ spoilers, spoils b n)
    (honce : ∀ b m n, spoils b m → spoils b n → m = n) (henough : spoilers.length < attempts) :
    ∃ n, search key derive isTaken giveUp attempts 0 = .ok (made n) ∧
      isTaken (made n) = false ∧ ∀ m < n, isTaken (made m) = true := by
  classical
  -- More attempts than spoilers, so the least free one is among them.
  have hfree : ∃ n, isTaken (made n) = false := by
    obtain ⟨n, _, hn⟩ := exists_free_of_spoilers isTaken made spoils spoilers hspoiled honce
    exact ⟨n, hn⟩
  have hbefore : ∀ m < Nat.find hfree, isTaken (made m) = true := by
    intro m hm
    simpa using Nat.find_min hfree hm
  have hattempts : Nat.find hfree < attempts := by
    obtain ⟨n, hle, hn⟩ := exists_free_of_spoilers isTaken made spoils spoilers hspoiled honce
    have := Nat.find_min' hfree hn
    omega
  refine ⟨Nat.find hfree, search_eq_ok_iff.mpr ?_, Nat.find_spec hfree, hbefore⟩
  refine ⟨Nat.find hfree, hattempts, hmade _, Nat.find_spec hfree, fun m hm => ?_⟩
  exact ⟨made m, hmade _, hbefore m hm⟩

end JsonClasses.Candidates
