import JsonClasses.Unicode.Property
import Mathlib.Data.List.Chain
import Mathlib.Data.List.TakeWhile

/-!
# Letter case of characters

A table of case mappings is checked range by range: what holds of the two ends of a shift holds of
all code points that it sends. Changing its case leaves a letter or digit one, but for the dot that
a lower-case `İ` takes with it. No letter is both a capital and a small one.
-/
namespace JsonClasses.Unicode

theorem toNat_ofNat_cases (n : Nat) :
    (Char.ofNat n).toNat = n ∨ ¬ n.isValidChar ∧ (Char.ofNat n).toNat = 0 := by
  by_cases hn : n.isValidChar
  · have hchar : Char.ofNat n = Char.ofNatAux n hn := dif_pos hn
    exact .inl (congrArg Char.toNat hchar)
  · have hzero : Char.ofNat n = Char.ofNat 0 := dif_neg hn
    exact .inr ⟨hn, congrArg Char.toNat hzero⟩

/-! ## Ranges -/

theorem covers_of_mem {ranges : List Range} {r : Range} {c : Nat}
    (hsorted : ranges.Pairwise (fun r s => r.1 ≤ s.1)) (hr : r ∈ ranges) (hlow : r.1 ≤ c)
    (hhigh : c ≤ r.2) : covers ranges c = true := by
  induction ranges with
  | nil => cases hr
  | cons first rest ih =>
    obtain ⟨hfirst, hrest⟩ := List.pairwise_cons.mp hsorted
    rw [covers]
    -- The search cannot stop early, since no earlier range starts behind the code point.
    obtain rfl | hr := List.mem_cons.mp hr
    · rw [if_neg (by omega), decide_eq_true hhigh, Bool.true_or]
    · have := hfirst r hr
      rw [if_neg (by omega), ih hrest hr, Bool.or_true]

theorem exists_mem_of_covers {ranges : List Range} {c : Nat} (h : covers ranges c = true) :
    ∃ r ∈ ranges, r.1 ≤ c ∧ c ≤ r.2 := by
  induction ranges with
  | nil => cases h
  | cons first rest ih =>
    rw [covers] at h
    split at h
    · cases h
    · rw [Bool.or_eq_true, decide_eq_true_eq] at h
      obtain h | h := h
      · exact ⟨first, List.mem_cons_self, by omega, h⟩
      · obtain ⟨r, hr, hc⟩ := ih h
        exact ⟨r, List.mem_cons_of_mem _ hr, hc⟩

theorem sorted_of_isChain {ranges : List Range} (h : ranges.IsChain fun r s => r.1 ≤ s.1) :
    ranges.Pairwise fun r s => r.1 ≤ s.1 := by
  have : Trans (fun r s : Range => r.1 ≤ s.1) (fun r s : Range => r.1 ≤ s.1)
      (fun r s : Range => r.1 ≤ s.1) := ⟨Nat.le_trans⟩
  exact h.pairwise

theorem alphabeticRanges_sorted :
    alphabeticRanges.Pairwise (fun r s : Range => r.1 ≤ s.1) := by
  apply sorted_of_isChain
  decide +kernel

theorem isAlphabetic_ofNat {c : Nat} (h : covers alphabeticRanges c = true) :
    isAlphabetic (Char.ofNat c) = true := by
  -- No range touches the surrogates, which are no characters.
  have hvalid : ∀ r ∈ alphabeticRanges, r.2 < 0xD800 ∨ 0xDFFF < r.1 ∧ r.2 < 0x110000 := by
    decide +kernel
  have hc : c.isValidChar := by
    obtain ⟨r, hr, hlow, hhigh⟩ := exists_mem_of_covers h
    obtain h | h := hvalid r hr
    · exact .inl (by omega)
    · exact .inr (by omega)
  obtain hsame | ⟨hn, _⟩ := toNat_ofNat_cases c
  · rwa [isAlphabetic, hsame]
  · exact absurd hc hn

/-! ## Shifts -/

theorem shifted_cases (table : List Shift) (c : Nat) :
    shifted table c = c ∨ ∃ s ∈ table, ∃ i ≤ s.last - s.first, i % s.step = 0 ∧
      shifted table c = s.target + i := by
  induction table with
  | nil => exact .inl rfl
  | cons s rest ih =>
    rw [shifted]
    split
    · exact .inl rfl
    · cases himage : s.image? c with
      | none =>
        obtain h | ⟨t, ht, h⟩ := ih
        · exact .inl h
        · exact .inr ⟨t, List.mem_cons_of_mem _ ht, h⟩
      | some image =>
        rw [Shift.image?, Option.ite_none_right_eq_some, Option.some.injEq] at himage
        obtain ⟨⟨_, hlast, hstep⟩, rfl⟩ := himage
        exact .inr ⟨s, List.mem_cons_self, c - s.first, by omega, hstep, rfl⟩

/-- Whether everything that a shift sends becomes a letter. Most shifts lead into one range. -/
def Shift.isAlphabetic (s : Shift) : Bool :=
  (alphabeticRanges.any fun r => r.1.ble s.target && (s.target + (s.last - s.first)).ble r.2) ||
    (List.range (s.last - s.first + 1)).all fun i =>
      i % s.step != 0 || covers alphabeticRanges (s.target + i)

theorem Shift.covers_of_isAlphabetic {s : Shift} (h : s.isAlphabetic = true) {i : Nat}
    (hi : i ≤ s.last - s.first) (hstep : i % s.step = 0) :
    covers alphabeticRanges (s.target + i) = true := by
  simp only [isAlphabetic, Bool.or_eq_true, List.any_eq_true, Bool.and_eq_true, Nat.ble_eq,
    List.all_eq_true, List.mem_range, bne_iff_ne] at h
  obtain ⟨r, hr, hfirst, hlast⟩ | h := h
  · exact covers_of_mem alphabeticRanges_sorted hr (by omega) (by omega)
  · obtain h | h := h i (by omega)
    · exact absurd hstep h
    · exact h

theorem isAlphanumeric_shifted {table : List Shift} (htable : table.all Shift.isAlphabetic = true)
    {c : Char} (hc : isAlphanumeric c = true) :
    isAlphanumeric (Char.ofNat (shifted table c.toNat)) = true := by
  obtain h | ⟨s, hs, i, hi, hstep, h⟩ := shifted_cases table c.toNat
  · rwa [h, Char.ofNat_toNat]
  · have hcovers := Shift.covers_of_isAlphabetic (List.all_eq_true.mp htable s hs) hi hstep
    rw [h, isAlphanumeric, isAlphabetic_ofNat hcovers, Bool.true_or]

/-! ## Expansions -/

theorem mem_of_expansion? {table : List (Nat × List Nat)} {c : Nat} {images : List Nat}
    (h : expansion? table c = some images) : (c, images) ∈ table := by
  induction table with
  | nil => cases h
  | cons entry rest ih =>
    obtain ⟨source, expansion⟩ := entry
    rw [expansion?] at h
    split at h
    · cases h
    · split at h
      · rename_i heq
        rw [Option.some.injEq] at h
        rw [heq, h]
        exact List.mem_cons_self
      · exact List.mem_cons_of_mem _ (ih h)

theorem upperCase_ne_nil (c : Char) : upperCase c ≠ [] := by
  have htable : ∀ entry ∈ upperExpansions, entry.2 ≠ [] := by decide +kernel
  rw [upperCase]
  split
  · rename_i images h
    simpa using htable _ (mem_of_expansion? h)
  · exact List.cons_ne_nil _ _

theorem lowerCase_ne_nil (c : Char) : lowerCase c ≠ [] := by
  have htable : ∀ entry ∈ lowerExpansions, entry.2 ≠ [] := by decide +kernel
  rw [lowerCase]
  split
  · rename_i images h
    simpa using htable _ (mem_of_expansion? h)
  · exact List.cons_ne_nil _ _

/-! ## Letters and digits -/

theorem isAlphanumeric_lowerCase {c : Char} (hc : isAlphanumeric c = true) (hdot : c ≠ 'İ') :
    ∀ d ∈ lowerCase c, isAlphanumeric d = true := by
  have htable : lowerShifts.all Shift.isAlphabetic = true := by decide +kernel
  have hexpansions : ∀ entry ∈ lowerExpansions, entry.1 = 'İ'.toNat := by decide +kernel
  rw [lowerCase]
  split
  · rename_i images h
    exact absurd (Char.toNat_inj.mp (hexpansions _ (mem_of_expansion? h))) hdot
  · rw [List.forall_mem_singleton]
    exact isAlphanumeric_shifted htable hc

theorem isLower_ofNat {n : Nat} (h : n < 'a'.toNat ∨ 'z'.toNat < n) :
    (Char.ofNat n).isLower = false := by
  have hn : (Char.ofNat n).toNat < 'a'.toNat ∨ 'z'.toNat < (Char.ofNat n).toNat := by
    obtain hsame | ⟨_, hzero⟩ := toNat_ofNat_cases n
    · rwa [hsame]
    · exact .inl (hzero ▸ by decide)
  change (decide (_ ≥ 'a'.val) && decide (_ ≤ 'z'.val)) = false
  rw [Bool.and_eq_false_iff, decide_eq_false_iff_not, decide_eq_false_iff_not,
    ge_iff_le, UInt32.le_iff_toNat_le, UInt32.le_iff_toNat_le, Nat.not_le, Nat.not_le]
  exact hn

theorem isLower_shifted_upper (c : Char) :
    (Char.ofNat (shifted upperShifts c.toNat)).isLower = false := by
  have htable : ∀ s ∈ upperShifts,
      s.target + (s.last - s.first) < 'a'.toNat ∨ 'z'.toNat < s.target := by decide +kernel
  have hascii : ∀ n < 26, shifted upperShifts ('a'.toNat + n) < 'a'.toNat := by decide +kernel
  apply isLower_ofNat
  obtain h | ⟨s, hs, i, hi, _, h⟩ := shifted_cases upperShifts c.toNat
  -- What no shift sends stays, so the small letters of ASCII are looked up one by one.
  · by_cases hlower : 'a'.toNat ≤ c.toNat ∧ c.toNat ≤ 'z'.toNat
    · have := hascii (c.toNat - 'a'.toNat) (by have : 'z'.toNat = 'a'.toNat + 25 := rfl; omega)
      rw [Nat.add_sub_cancel' hlower.1] at this
      exact .inl this
    · omega
  · have := htable s hs
    omega

/-- The upper case of a letter or digit starts with one, and not with a small letter of ASCII. -/
theorem head_upperCase {c : Char} (hc : isAlphanumeric c = true) :
    ∃ d rest, upperCase c = d :: rest ∧ isAlphanumeric d = true ∧ d.isLower = false := by
  have htable : upperShifts.all Shift.isAlphabetic = true := by decide +kernel
  have hexpansions : ∀ entry ∈ upperExpansions, ∃ n ∈ entry.2.head?,
      isAlphanumeric (Char.ofNat n) = true ∧ (Char.ofNat n).isLower = false := by decide +kernel
  rw [upperCase]
  split
  · rename_i images h
    obtain ⟨n, hn, halnum, hlower⟩ := hexpansions _ (mem_of_expansion? h)
    obtain ⟨rest, rfl⟩ := List.head?_eq_some_iff.mp hn
    exact ⟨_, _, rfl, halnum, hlower⟩
  · exact ⟨_, [], rfl, isAlphanumeric_shifted htable hc, isLower_shifted_upper c⟩

/-! ## Capitals and small letters -/

/-- Whether no range of one list meets a range of the other. Both are sorted, so a range that ends
before one of the second list starts is not looked at again. -/
def disjoint : List Range → List Range → Bool
  | _, [] => true
  | ranges, (first, last) :: rest =>
      let later := ranges.dropWhile fun r => r.2.blt first
      later.head?.all (fun r => last.blt r.1) && disjoint later rest

theorem covers_eq_false_of_disjoint {ranges others : List Range} {c : Nat}
    (hranges : ranges.Pairwise fun r s => r.1 ≤ s.1)
    (hothers : others.Pairwise fun r s => r.1 ≤ s.1) (h : disjoint ranges others = true)
    (hc : covers others c = true) : covers ranges c = false := by
  rw [← Bool.not_eq_true]
  intro hboth
  obtain ⟨r, hr, hlow, hhigh⟩ := exists_mem_of_covers hboth
  obtain ⟨s, hs, hfirst, hlast⟩ := exists_mem_of_covers hc
  clear hboth hc
  induction others generalizing ranges with
  | nil => cases hs
  | cons other rest ih =>
    obtain ⟨hother, hrest⟩ := List.pairwise_cons.mp hothers
    rw [disjoint, Bool.and_eq_true] at h
    have hstart : other.1 ≤ c := by
      obtain rfl | hs := List.mem_cons.mp hs
      · exact hfirst
      · exact Nat.le_trans (hother s hs) hfirst
    -- The range around `c` does not end before this one starts, so it is among the later ones.
    have hlater : r ∈ ranges.dropWhile fun r => r.2.blt other.1 := by
      rw [← List.takeWhile_append_dropWhile (p := fun r => r.2.blt other.1) (l := ranges),
        List.mem_append] at hr
      refine hr.resolve_left fun hdropped => ?_
      have hends := List.mem_takeWhile_imp hdropped
      rw [Nat.blt_eq] at hends
      omega
    have hsorted := hranges.sublist (List.dropWhile_sublist fun r => r.2.blt other.1)
    obtain rfl | hs := List.mem_cons.mp hs
    · obtain ⟨next, others, hnext⟩ := List.exists_cons_of_ne_nil (List.ne_nil_of_mem hlater)
      rw [hnext] at hlater hsorted
      rw [hnext, List.head?_cons, Option.all_some, Nat.blt_eq] at h
      have hle : next.1 ≤ r.1 := by
        obtain rfl | hr := List.mem_cons.mp hlater
        · exact Nat.le_refl _
        · exact (List.pairwise_cons.mp hsorted).1 r hr
      omega
    · exact ih hsorted hrest h.2 hlater hs

/-- No letter is both. -/
theorem isLowercase_of_isUppercase {c : Char} (h : isUppercase c = true) :
    isLowercase c = false := by
  have hcapitals : uppercaseRanges.IsChain (fun r s : Range => r.1 ≤ s.1) := by decide +kernel
  have hsmall : lowercaseRanges.IsChain (fun r s : Range => r.1 ≤ s.1) := by decide +kernel
  have hdisjoint : disjoint lowercaseRanges uppercaseRanges = true := by decide +kernel
  exact covers_eq_false_of_disjoint (sorted_of_isChain hsmall) (sorted_of_isChain hcapitals)
    hdisjoint h

theorem isUppercase_of_isLowercase {c : Char} (h : isLowercase c = true) :
    isUppercase c = false := by
  rw [← Bool.not_eq_true]
  intro hupper
  rw [isLowercase_of_isUppercase hupper] at h
  cases h

end JsonClasses.Unicode
