import JsonClasses.Proofs.Unicode.Cases
import JsonClasses.Proofs.Unicode.Category

/-!
# Letters and digits by category

Alphabetic characters are letters, marks and the letters in circles and squares; numeric ones are
digits, letters that stand for numbers and the numbers that are no digits. A change of case neither
makes nor removes letters in circles and squares or such numbers.
-/
namespace JsonClasses.Unicode

/-! ## Ranges of a category -/

/-- The code point is in one of the ranges. -/
def Within (ranges : List Range) (c : Nat) : Prop := ∃ r ∈ ranges, r.1 ≤ c ∧ c ≤ r.2

def rangesOf (kinds : List Category) : List Range :=
  categories.filterMap fun (first, last, category) =>
    if category ∈ kinds then some (first, last) else none

/-- One range ends before the other starts. -/
def Precedes (e f : Nat × Nat × Category) : Prop := e.1 ≤ f.1 ∧ e.2.1 < f.1

instance (e f : Nat × Nat × Category) : Decidable (Precedes e f) :=
  inferInstanceAs (Decidable (_ ∧ _))

instance : Trans Precedes Precedes Precedes :=
  ⟨fun h h' => ⟨h.1.trans h'.1, h.2.trans_le h'.1⟩⟩

theorem categories_sorted : categories.Pairwise Precedes := by
  have hchain : categories.IsChain Precedes := by decide +kernel
  exact hchain.pairwise

theorem exists_of_categoryIn? {table : List (Nat × Nat × Category)} {c : Nat} {category : Category}
    (h : categoryIn? table c = some category) :
    ∃ first last, (first, last, category) ∈ table ∧ first ≤ c ∧ c ≤ last := by
  induction table with
  | nil => cases h
  | cons entry rest ih =>
    obtain ⟨first, last, other⟩ := entry
    rw [categoryIn?] at h
    split at h
    · cases h
    split at h
    · rename_i hlow hhigh
      obtain rfl := Option.some.inj h
      exact ⟨first, last, List.mem_cons_self, by omega, hhigh⟩
    · obtain ⟨first, last, hmem, hc⟩ := ih h
      exact ⟨first, last, List.mem_cons_of_mem _ hmem, hc⟩

theorem categoryIn?_of_mem {table : List (Nat × Nat × Category)} {first last c : Nat}
    {category : Category} (hsorted : table.Pairwise Precedes)
    (hmem : (first, last, category) ∈ table) (hlow : first ≤ c) (hhigh : c ≤ last) :
    categoryIn? table c = some category := by
  induction table with
  | nil => cases hmem
  | cons entry rest ih =>
    obtain ⟨start, stop, other⟩ := entry
    obtain ⟨hentry, hrest⟩ := List.pairwise_cons.mp hsorted
    rw [categoryIn?]
    obtain heq | hmem := List.mem_cons.mp hmem
    · cases heq
      rw [if_neg (by omega), if_pos hhigh]
    · -- The search passes this range, which ends before the one that is meant.
      obtain ⟨hstart, hstop⟩ : start ≤ first ∧ stop < first := hentry _ hmem
      rw [if_neg (by omega), if_neg (by omega)]
      exact ih hrest hmem

theorem covers_iff_within {ranges : List Range} (hsorted : ranges.Pairwise fun r s => r.1 ≤ s.1)
    {c : Nat} : covers ranges c = true ↔ Within ranges c :=
  ⟨exists_mem_of_covers, fun ⟨_, hr, hlow, hhigh⟩ => covers_of_mem hsorted hr hlow hhigh⟩

theorem within_rangesOf_iff {kinds : List Category} {c : Nat} :
    Within (rangesOf kinds) c ↔ ∃ category ∈ kinds, categoryIn? categories c = some category := by
  constructor
  · rintro ⟨r, hr, hlow, hhigh⟩
    obtain ⟨⟨first, last, category⟩, hmem, hentry⟩ := List.mem_filterMap.mp hr
    rw [Option.ite_none_right_eq_some] at hentry
    obtain ⟨hkind, heq⟩ := hentry
    obtain rfl := Option.some.inj heq
    exact ⟨category, hkind, categoryIn?_of_mem categories_sorted hmem hlow hhigh⟩
  · rintro ⟨category, hkind, hcategory⟩
    obtain ⟨first, last, hmem, hc⟩ := exists_of_categoryIn? hcategory
    refine ⟨(first, last), List.mem_filterMap.mpr ⟨_, hmem, ?_⟩, hc⟩
    exact if_pos hkind

/-! ## Properties and categories -/

/-- Whether the ranges, which are sorted, leave no gap from one code point to another. -/
def spans : List Range → Nat → Nat → Bool
  | [], first, last => last.blt first
  | r :: rest, first, last =>
      last.blt first ||
        if r.2 < first then spans rest first last
        else r.1.ble first && spans rest (r.2 + 1) last

/-- Whether all code points of some ranges are in others. Both are sorted, so a range that ends
before the next one starts is not looked at again. -/
def includes : List Range → List Range → Bool
  | _, [] => true
  | ranges, (first, last) :: rest =>
      let later := ranges.dropWhile fun r => r.2.blt first
      spans later first last && includes later rest

theorem within_of_spans {ranges : List Range} {first last c : Nat}
    (h : spans ranges first last = true) (hlow : first ≤ c) (hhigh : c ≤ last) :
    Within ranges c := by
  induction ranges generalizing first with
  | nil =>
    rw [spans, Nat.blt_eq] at h
    omega
  | cons r rest ih =>
    have hrest : ∀ {first}, spans rest first last = true → first ≤ c → Within (r :: rest) c :=
      fun h hlow => (ih h hlow).imp fun _ hs => ⟨List.mem_cons_of_mem r hs.1, hs.2⟩
    rw [spans, Bool.or_eq_true, Nat.blt_eq] at h
    -- The span is empty, the first range lies before it, or it covers the start of the span.
    obtain h | h := h
    · omega
    split at h
    · exact hrest h hlow
    · rw [Bool.and_eq_true, Nat.ble_eq] at h
      by_cases hc : c ≤ r.2
      · exact ⟨r, List.mem_cons_self, by omega, hc⟩
      · exact hrest h.2 (by omega)

theorem within_of_includes {ranges others : List Range} {c : Nat}
    (h : includes ranges others = true) (hc : Within others c) : Within ranges c := by
  induction others generalizing ranges with
  | nil =>
    obtain ⟨_, hr, _⟩ := hc
    cases hr
  | cons other rest ih =>
    -- Ranges that end before this one are of no use to the ones behind it either.
    have hlater : ∀ {c}, Within (ranges.dropWhile fun r => r.2.blt other.1) c → Within ranges c :=
      fun hc => hc.imp fun _ hr => ⟨(List.dropWhile_sublist _).subset hr.1, hr.2⟩
    rw [includes, Bool.and_eq_true] at h
    obtain ⟨r, hr, hlow, hhigh⟩ := hc
    obtain rfl | hr := List.mem_cons.mp hr
    · exact hlater (within_of_spans h.1 hlow hhigh)
    · exact hlater (ih h.2 ⟨r, hr, hlow, hhigh⟩)

theorem category?_of_isAlphabetic {c : Char} (h : isAlphabetic c = true) :
    ∃ category ∈ [Category.letter, .mark, .enclosed], category? c = some category := by
  have htable : includes (rangesOf [.letter, .mark, .enclosed]) alphabeticRanges = true := by
    decide +kernel
  exact within_rangesOf_iff.mp (within_of_includes htable (exists_mem_of_covers h))

theorem category?_of_isNumeric {c : Char} (h : isNumeric c = true) :
    ∃ category ∈ [Category.letter, .digit, .otherNumber], category? c = some category := by
  have htable : includes (rangesOf [.letter, .digit, .otherNumber]) numericRanges = true := by
    decide +kernel
  exact within_rangesOf_iff.mp (within_of_includes htable (exists_mem_of_covers h))

/-! ## Numbers that are no digits, letters in circles and squares -/

/-- A letter or digit whose category has no place in a name. -/
def isForeign (c : Char) : Bool :=
  match category? c with
  | some .otherNumber | some .enclosed => true
  | _ => false

def foreignRanges : List Range := rangesOf [.otherNumber, .enclosed]

theorem isForeign_iff {c : Char} : isForeign c = true ↔ Within foreignRanges c.toNat := by
  rw [foreignRanges, within_rangesOf_iff, isForeign, category?]
  cases categoryIn? categories c.toNat with
  | none => simp
  | some category => cases category <;> simp

theorem isAlphanumeric_of_isForeign {c : Char} (h : isForeign c = true) :
    isAlphanumeric c = true := by
  have hnumbers : includes numericRanges (rangesOf [.otherNumber]) = true := by decide +kernel
  have hletters : includes alphabeticRanges (rangesOf [.enclosed]) = true := by decide +kernel
  have hnumeric : numericRanges.Pairwise fun r s => r.1 ≤ s.1 :=
    sorted_of_isChain (by decide +kernel)
  -- Foreign characters are numbers without digits and enclosed letters.
  obtain ⟨category, hkind, hcategory⟩ := within_rangesOf_iff.mp (isForeign_iff.mp h)
  have hwithin : Within (rangesOf [category]) c.toNat :=
    within_rangesOf_iff.mpr ⟨category, List.mem_singleton_self category, hcategory⟩
  rw [List.mem_cons, List.mem_singleton] at hkind
  rw [isAlphanumeric, Bool.or_eq_true]
  obtain rfl | rfl := hkind
  · exact .inr ((covers_iff_within hnumeric).mpr (within_of_includes hnumbers hwithin))
  · exact .inl ((covers_iff_within alphabeticRanges_sorted).mpr (within_of_includes hletters hwithin))

/-! ## Change of case -/

/-- Whether a shift leaves the code points of a range among themselves. Nearly all shifts have
nothing to do with it. -/
def Shift.respects (s : Shift) (r : Range) : Bool :=
  (s.last.blt r.1 || r.2.blt s.first) &&
      ((s.target + (s.last - s.first)).blt r.1 || r.2.blt s.target) ||
    r.1.ble s.first && s.last.ble r.2 && r.1.ble s.target &&
      (s.target + (s.last - s.first)).ble r.2

theorem shifted_mem_iff {table : List Shift} {r : Range} (h : table.all (·.respects r) = true)
    (c : Nat) : r.1 ≤ shifted table c ∧ shifted table c ≤ r.2 ↔ r.1 ≤ c ∧ c ≤ r.2 := by
  induction table with
  | nil => rfl
  | cons s rest ih =>
    rw [List.all_cons, Bool.and_eq_true] at h
    rw [shifted]
    split
    · rfl
    cases himage : s.image? c with
    | none => exact ih h.2
    | some image =>
      rw [Shift.image?, Option.ite_none_right_eq_some, Option.some.injEq] at himage
      obtain ⟨⟨hfirst, hlast, _⟩, rfl⟩ := himage
      -- A shift that respects the range moves its characters within it or outside of it.
      have hs := h.1
      simp only [Shift.respects, Bool.or_eq_true, Bool.and_eq_true, Nat.blt_eq, Nat.ble_eq] at hs
      change r.1 ≤ s.target + (c - s.first) ∧ s.target + (c - s.first) ≤ r.2 ↔ _
      omega

theorem within_shifted_iff {table : List Shift} {ranges : List Range}
    (h : ranges.all (fun r => table.all (·.respects r)) = true) (c : Nat) :
    Within ranges (shifted table c) ↔ Within ranges c := by
  refine exists_congr fun r => and_congr_right fun hr => ?_
  exact shifted_mem_iff (List.all_eq_true.mp h r hr) c

theorem foreignRanges_sorted : foreignRanges.Pairwise fun r s : Range => r.1 ≤ s.1 :=
  sorted_of_isChain (by decide +kernel)

theorem isForeign_eq (c : Char) : isForeign c = covers foreignRanges c.toNat := by
  rw [Bool.eq_iff_iff, isForeign_iff, covers_iff_within foreignRanges_sorted]

theorem isForeign_ofNat (n : Nat) : isForeign (Char.ofNat n) = covers foreignRanges n := by
  have hvalid : ∀ r ∈ foreignRanges, 0 < r.1 ∧ (r.2 < 0xD800 ∨ 0xDFFF < r.1 ∧ r.2 < 0x110000) := by
    decide +kernel
  rw [isForeign_eq]
  obtain hsame | ⟨hinvalid, hzero⟩ := toNat_ofNat_cases n
  · rw [hsame]
  · -- Neither zero nor a number that is no code point is in one of the ranges.
    rw [hzero, Bool.eq_iff_iff, covers_iff_within foreignRanges_sorted,
      covers_iff_within foreignRanges_sorted]
    refine exists_congr fun r => and_congr_right fun hr => ?_
    obtain ⟨hpositive, hr⟩ := hvalid r hr
    have hn : ¬ (n < 0xD800 ∨ 0xDFFF < n ∧ n < 0x110000) := hinvalid
    omega

theorem isForeign_shifted {table : List Shift}
    (h : foreignRanges.all (fun r => table.all (·.respects r)) = true) (c : Char) :
    isForeign (Char.ofNat (shifted table c.toNat)) = isForeign c := by
  rw [isForeign_ofNat, isForeign_eq, Bool.eq_iff_iff, covers_iff_within foreignRanges_sorted,
    covers_iff_within foreignRanges_sorted]
  exact within_shifted_iff h c.toNat

/-- Nothing foreign expands or comes of an expansion. -/
theorem any_isForeign_expansion {table : List (Nat × List Nat)}
    (h : ∀ entry ∈ table, covers foreignRanges entry.1 = false ∧
      entry.2.any (covers foreignRanges) = false) {c : Char} {images : List Nat}
    (himages : expansion? table c.toNat = some images) :
    (images.map Char.ofNat).any isForeign = isForeign c := by
  obtain ⟨hsource, htargets⟩ := h _ (mem_of_expansion? himages)
  rw [isForeign_eq, hsource, List.any_map, ← htargets]
  exact congrArg _ (funext isForeign_ofNat)

theorem any_isForeign_upperCase (c : Char) : (upperCase c).any isForeign = isForeign c := by
  rw [upperCase]
  split
  · rename_i images himages
    exact any_isForeign_expansion (by decide +kernel) himages
  · rw [List.any_cons, List.any_nil, Bool.or_false, isForeign_shifted (by decide +kernel)]

theorem any_isForeign_lowerCase (c : Char) : (lowerCase c).any isForeign = isForeign c := by
  rw [lowerCase]
  split
  · rename_i images himages
    exact any_isForeign_expansion (by decide +kernel) himages
  · rw [List.any_cons, List.any_nil, Bool.or_false, isForeign_shifted (by decide +kernel)]

end JsonClasses.Unicode
