import JsonClasses.Proofs.ClassTree.Members
import JsonClasses.Proofs.ClassTree.Operation
import Mathlib.Data.List.ProdSigma

/-!
# Attempts to name a property

A draft gives up a key after four candidates for each earlier property and two more. Getters and
setters share a name space, so in a style with setters an earlier property can spoil five
candidates: one with its field, and one with each of its accessors for each accessor of the new
property. So there are enough attempts in every style but that one, and in that one as long as there
is at most one property.
-/
namespace JsonClasses

namespace Draft

variable {draft : Draft} {key raw : String} {type : ValueType} {made : Nat → Property}

theorem wanted_of_nameWhen {wanted : Bool} {made : Except GenerationError String} {name : String}
    (h : nameWhen wanted made = .ok (some name)) : wanted = true := by
  cases wanted with
  | false => cases h
  | true => rfl

theorem isWritten_of_member? {property : Property} {m : Member} {name : String}
    (h : draft.propertyFrom key type raw = .ok property) (hname : property.member? m = some name) :
    m.isWritten draft.style = true := by
  obtain ⟨_, _, _, _, _, hsetter, hbuilder⟩ := propertyFrom_eq_ok_iff.mp h
  cases m with
  | field | getter => rfl
  | setter =>
    rw [show property.setter = some name from hname] at hsetter
    exact wanted_of_nameWhen hsetter
  | builderMethod =>
    rw [show property.builderMethod = some name from hname] at hbuilder
    exact wanted_of_nameWhen hbuilder

/-! ## Enough attempts -/

/-- The namers make a property of every candidate of a key, and no two of these properties agree in
a member. A getter of one and a setter of another may still have the same name. -/
structure TellsApart (draft : Draft) (key : String) (type : ValueType) (made : Nat → Property) :
    Prop where
  makes : ∀ n, draft.propertyFrom key type (Candidates.nth key n) = .ok (made n)
  apart : ∀ (m : Member) (name : String) (i j : Nat), (made i).member? m = some name →
    (made j).member? m = some name → i = j

/-- The ways in which one earlier property can spoil a candidate. -/
def waysToClash (style : Style) : List (Member × Member) :=
  Member.clashing.filter fun pair => pair.1.isWritten style

theorem length_waysToClash_le {style : Style} (h : style ≠ .bean) :
    (waysToClash style).length ≤ 4 := by
  cases style with
  | bean => exact absurd rfl h
  | model | builder | gson | jackson => decide

theorem length_waysToClash_bean : (waysToClash .bean).length = 5 := by
  decide

/-- An earlier property spoils a candidate in one of these ways. -/
def Spoils (made : Nat → Property) (spoiler : Property × (Member × Member)) (n : Nat) : Prop :=
  ∃ name, (made n).member? spoiler.2.1 = some name ∧ spoiler.1.member? spoiler.2.2 = some name

theorem TellsApart.exists_way (h : draft.TellsApart key type made) {n : Nat}
    (hclash : draft.hasClash (made n) = true) :
    ∃ spoiler ∈ draft.properties ×ˢ waysToClash draft.style, Spoils made spoiler n := by
  obtain ⟨earlier, hearlier, hclash⟩ := List.any_eq_true.mp hclash
  obtain ⟨pair, hpair, name, hnew, hold⟩ := Property.clashesWith_iff.mp hclash
  refine ⟨(earlier, pair), List.mem_product.mpr ⟨hearlier, ?_⟩, name, hnew, hold⟩
  exact List.mem_filter.mpr ⟨hpair, isWritten_of_member? (h.makes n) hnew⟩

theorem TellsApart.eq_of_spoils (h : draft.TellsApart key type made)
    {spoiler : Property × (Member × Member)} {m n : Nat} (hm : Spoils made spoiler m)
    (hn : Spoils made spoiler n) : m = n := by
  obtain ⟨name, hm, hname⟩ := hm
  obtain ⟨name', hn, hname'⟩ := hn
  obtain rfl := Option.some.inj (hname.symm.trans hname')
  exact h.apart spoiler.2.1 name m n hm hn

theorem TellsApart.withProperty (h : draft.TellsApart key type made)
    (henough : draft.style ≠ .bean ∨ draft.properties.length ≤ 1) :
    ∃ n, draft.withProperty key type = .ok (draft.pushed (made n)) ∧
      draft.hasClash (made n) = false ∧ ∀ m < n, draft.hasClash (made m) = true := by
  -- A candidate is spoiled by a property there and a pair that clashes with it, and no pair spoils
  -- two.
  have hattempts : (draft.properties ×ˢ waysToClash draft.style).length < draft.memberAttempts := by
    rw [List.length_product, memberAttempts]
    by_cases hstyle : draft.style = .bean
    · have hfew := henough.resolve_left fun hnot => hnot hstyle
      rw [hstyle, length_waysToClash_bean]
      omega
    · have hways := Nat.mul_le_mul_left draft.properties.length (length_waysToClash_le hstyle)
      omega
  obtain ⟨n, hsearch, hfirst⟩ := Candidates.exists_search_of_spoilers
    (draft.propertyFrom key type) draft.hasClash made (Spoils made) _ h.makes
    (fun _ hclash => h.exists_way hclash) (fun _ _ _ hm hn => h.eq_of_spoils hm hn) hattempts
  refine ⟨n, ?_, hfirst⟩
  rw [withProperty_eq, hsearch]
  rfl

end Draft

/-! ## Too few attempts -/

/-- Gives the candidates of some keys numbered names, and leaves every other raw name as it is. -/
def Namer.numbering (series : List (String × (Nat → Nat))) : Namer := fun raw _ =>
  match series.findSome? fun s => (Candidates.index? s.1 raw).map s.2 with
  | some n => .ok ("m" ++ toString n)
  | none => .ok raw

theorem Namer.numbering_nth {series : List (String × (Nat → Nat))} {key : String}
    {number : Nat → Nat} (hmem : (key, number) ∈ series)
    (hlength : ∀ s ∈ series, s.1.length = key.length) (hnodup : (series.map (·.1)).Nodup)
    (n : Nat) (type : ValueType) :
    numbering series (Candidates.nth key n) type = .ok ("m" ++ toString (number n)) := by
  have hfound : (series.findSome? fun s =>
      (Candidates.index? s.1 (Candidates.nth key n)).map s.2) = some (number n) := by
    -- Keys of one length have no candidates in common, so the search passes all others.
    induction series with
    | nil => cases hmem
    | cons first rest ih =>
      rw [List.map_cons, List.nodup_cons] at hnodup
      obtain rfl | hmem := List.mem_cons.mp hmem
      · simp only [List.findSome?_cons, Candidates.index?_nth, Option.map_some]
      · have hne : first.1 ≠ key := by
          rintro rfl
          exact hnodup.1 (List.mem_map.mpr ⟨_, hmem, rfl⟩)
        have hfirst := Candidates.index?_nth_of_ne (hlength first List.mem_cons_self) hne n
        simp only [List.findSome?_cons, hfirst, Option.map_none]
        exact ih hmem (fun s hs => hlength s (List.mem_cons_of_mem first hs)) hnodup.2
  simp only [numbering, hfound]

/-- Each candidate of `x` gets names of its own, but one of them is always the name of a member of
a candidate of `y`: the first five candidates of `x` meet the members of the first candidate of `y`,
the next five those of the second, and so on. -/
def Namers.crowded : Namers where
  className := fun raw _ => .ok raw
  field := .numbering [("x", fun i => i), ("y", fun j => 5 * j + 2)]
  method := .numbering [("get x", fun i => i), ("set x", fun i => i + 3),
    ("get y", fun j => 5 * j + 3), ("set y", fun j => 5 * j + 4)]
  parameter := fun raw _ => .ok raw

namespace Draft

def newcomer (i : Nat) : Property where
  key := "x"
  type := .anyObject
  field := "m" ++ toString i
  parameter := Candidates.nth "x" i
  getter := some ("m" ++ toString i)
  setter := some ("m" ++ toString (i + 3))
  builderMethod := none

def resident (j : Nat) : Property where
  key := Candidates.nth "y" j
  type := .anyObject
  field := "m" ++ toString (5 * j + 2)
  parameter := Candidates.nth "y" j
  getter := some ("m" ++ toString (5 * j + 3))
  setter := some ("m" ++ toString (5 * j + 4))
  builderMethod := none

theorem numbered_inj {m n : Nat} : "m" ++ toString m = "m" ++ toString n ↔ m = n := by
  constructor
  · intro h
    have hlist := congrArg String.toList h
    rw [String.toList_append, String.toList_append] at hlist
    exact Text.toString_nat_injective (List.append_cancel_left hlist)
  · rintro rfl
    rfl

theorem getterRaw_nth (key : String) (n : Nat) :
    getterRaw (Candidates.nth key n) .anyObject = Candidates.nth ("get " ++ key) n :=
  Candidates.append_nth "get " key n

theorem setterRaw_nth (key : String) (n : Nat) :
    setterRaw (Candidates.nth key n) = Candidates.nth ("set " ++ key) n :=
  Candidates.append_nth "set " key n

variable {draft : Draft}

theorem propertyFrom_newcomer (hnamers : draft.namers = .crowded) (hstyle : draft.style = .bean)
    (i : Nat) :
    draft.propertyFrom "x" .anyObject (Candidates.nth "x" i) = .ok (newcomer i) := by
  have hfield : Namers.crowded.field (Candidates.nth "x" i) .anyObject = .ok _ :=
    Namer.numbering_nth List.mem_cons_self (by decide) (by decide) i .anyObject
  have hgetter : Namers.crowded.method (Candidates.nth "get x" i) .anyObject = .ok _ :=
    Namer.numbering_nth List.mem_cons_self (by decide) (by decide) i .anyObject
  have hsetter : Namers.crowded.method (Candidates.nth "set x" i) .anyObject = .ok _ :=
    Namer.numbering_nth (List.mem_cons_of_mem _ List.mem_cons_self) (by decide) (by decide) i
      .anyObject
  rw [propertyFrom_eq_ok_iff, hnamers, hstyle, getterRaw_nth, setterRaw_nth]
  exact ⟨rfl, rfl, hfield, rfl, congrArg _ hgetter, congrArg _ hsetter, rfl⟩

theorem propertyFrom_resident (hnamers : draft.namers = .crowded) (hstyle : draft.style = .bean)
    (j : Nat) :
    draft.propertyFrom (Candidates.nth "y" j) .anyObject (Candidates.nth "y" j) =
      .ok (resident j) := by
  have hfield : Namers.crowded.field (Candidates.nth "y" j) .anyObject = .ok _ :=
    Namer.numbering_nth (List.mem_cons_of_mem _ List.mem_cons_self) (by decide) (by decide) j
      .anyObject
  have hgetter : Namers.crowded.method (Candidates.nth "get y" j) .anyObject = .ok _ :=
    Namer.numbering_nth (List.mem_cons_of_mem _ (List.mem_cons_of_mem _ List.mem_cons_self))
      (by decide) (by decide) j .anyObject
  have hsetter : Namers.crowded.method (Candidates.nth "set y" j) .anyObject = .ok _ :=
    Namer.numbering_nth (List.mem_cons_of_mem _ (List.mem_cons_of_mem _
      (List.mem_cons_of_mem _ List.mem_cons_self))) (by decide) (by decide) j .anyObject
  rw [propertyFrom_eq_ok_iff, hnamers, hstyle, getterRaw_nth, setterRaw_nth]
  exact ⟨rfl, rfl, hfield, rfl, congrArg _ hgetter, congrArg _ hsetter, rfl⟩

/-- A newcomer has five candidates to lose to each resident. -/
theorem newcomer_clashesWith (i : Nat) :
    (newcomer i).clashesWith (resident (i / 5)) = true := by
  rw [Property.clashesWith_iff]
  -- Every resident spoils five candidates in a row, each through another pair of members.
  have hsplit : i = 5 * (i / 5) + i % 5 := (Nat.div_add_mod i 5).symm
  have hrest : i % 5 < 5 := Nat.mod_lt i (by decide)
  obtain h | h | h | h | h : i % 5 = 0 ∨ i % 5 = 1 ∨ i % 5 = 2 ∨ i % 5 = 3 ∨ i % 5 = 4 := by omega
  all_goals rw [h] at hsplit
  · refine ⟨(.setter, .getter), by decide, "m" ++ toString (i + 3), rfl, ?_⟩
    exact congrArg some (numbered_inj.mpr (by omega))
  · refine ⟨(.setter, .setter), by decide, "m" ++ toString (i + 3), rfl, ?_⟩
    exact congrArg some (numbered_inj.mpr (by omega))
  · refine ⟨(.field, .field), by decide, "m" ++ toString i, rfl, ?_⟩
    exact congrArg some (numbered_inj.mpr (by omega))
  · refine ⟨(.getter, .getter), by decide, "m" ++ toString i, rfl, ?_⟩
    exact congrArg some (numbered_inj.mpr (by omega))
  · refine ⟨(.getter, .setter), by decide, "m" ++ toString i, rfl, ?_⟩
    exact congrArg some (numbered_inj.mpr (by omega))

/-- Residents do not get in each other's way. -/
theorem resident_not_clashesWith {i j : Nat} (h : i ≠ j) :
    (resident i).clashesWith (resident j) = false := by
  rw [← Bool.not_eq_true, Property.clashesWith_iff]
  rintro ⟨pair, hpair, name, hnew, hold⟩
  simp only [Member.clashing, List.mem_cons, List.not_mem_nil, or_false] at hpair
  obtain rfl | rfl | rfl | rfl | rfl | rfl := hpair
  -- No builder methods are written; the other members have numbers that differ.
  case inr.inr.inr.inr.inr => cases hnew
  all_goals
    have hsame := numbered_inj.mp (Option.some.inj (hold.trans hnew.symm))
    omega

/-- The draft with the first residents in it. -/
def crowd (draft : Draft) (count : Nat) : Draft :=
  { draft with properties := (List.range count).map resident }

theorem withProperty_crowd (hnamers : draft.namers = .crowded) (hstyle : draft.style = .bean)
    (count : Nat) :
    (draft.crowd count).withProperty (Candidates.nth "y" count) .anyObject =
      .ok (draft.crowd (count + 1)) := by
  have hfree : (draft.crowd count).hasClash (resident count) = false := by
    rw [hasClash, List.any_eq_false]
    intro earlier hearlier
    obtain ⟨j, hj, rfl⟩ := List.mem_map.mp hearlier
    rw [resident_not_clashesWith (Nat.ne_of_gt (List.mem_range.mp hj))]
    exact Bool.false_ne_true
  have hproperty : (draft.crowd count).propertyFrom (Candidates.nth "y" count) .anyObject
      (Candidates.nth "y" count) = .ok (resident count) :=
    propertyFrom_resident hnamers hstyle count
  rw [withProperty_of_free hproperty hfree, pushed, crowd, crowd, List.range_succ, List.map_append,
    List.map_singleton]

/-- The keys of the residents, added one by one. -/
def settle (count : Nat) : List Operation :=
  (List.range count).map fun j => .addProperty (Candidates.nth "y" j) .anyObject

theorem performAll_concat (operations : List Operation) (operation : Operation) (draft : Draft) :
    (performAll (operations ++ [operation]) draft).2 =
      (perform operation (performAll operations draft).2).2 := by
  induction operations generalizing draft with
  | nil =>
    rw [List.nil_append, performAll_cons]
    rfl
  | cons first operations ih =>
    rw [List.cons_append, performAll_cons, performAll_cons]
    exact ih _

theorem performAll_settle (draft : Draft) (hnamers : draft.namers = .crowded)
    (hstyle : draft.style = .bean) (hempty : draft.properties = []) (count : Nat) :
    (performAll (settle count) draft).2 = draft.crowd count := by
  induction count with
  | zero =>
    show draft = draft.crowd 0
    rw [crowd, List.range_zero, List.map_nil, ← hempty]
  | succ count ih =>
    rw [settle, List.range_succ, List.map_append, List.map_singleton, performAll_concat]
    rw [show (performAll ((List.range count).map _) draft).2 = draft.crowd count from ih]
    rw [perform_addProperty, withProperty_crowd hnamers hstyle]

theorem tellsApart_newcomer (hnamers : draft.namers = .crowded) (hstyle : draft.style = .bean) :
    draft.TellsApart "x" .anyObject newcomer := by
  refine ⟨propertyFrom_newcomer hnamers hstyle, fun m name i j hi hj => ?_⟩
  have hsame := hi.trans hj.symm
  cases m with
  | field | getter => exact numbered_inj.mp (Option.some.inj hsame)
  | setter => exact Nat.add_right_cancel (numbered_inj.mp (Option.some.inj hsame))
  | builderMethod => cases hi

/-- Two residents are enough to refuse as many candidates as there are attempts. -/
theorem withProperty_newcomer (hnamers : draft.namers = .crowded) (hstyle : draft.style = .bean)
    {count : Nat} (hcount : 2 ≤ count) :
    (draft.crowd count).withProperty "x" .anyObject = .error (.unusableName "x" .field) := by
  rw [withProperty_eq, Candidates.search_of_all_taken]
  · rfl
  intro n hn
  rw [memberAttempts, crowd, List.length_map, List.length_range] at hn
  refine ⟨newcomer n, propertyFrom_newcomer hnamers hstyle n, ?_⟩
  rw [hasClash, List.any_eq_true]
  refine ⟨resident (n / 5), List.mem_map_of_mem (List.mem_range.mpr ?_), newcomer_clashesWith n⟩
  omega

/-! ## The exact condition -/

/-- A key is never given up, whatever was done to the draft before, in every style but the one with
setters, and in that one with at most one property. -/
theorem memberAttempts_suffice_iff (style : Style) (count : Nat) :
    (∀ namers name operations key type made,
      let reached := (performAll operations { name, style, namers }).2
      reached.properties.length = count → reached.TellsApart key type made →
        ∃ n, perform (.addProperty key type) reached = (.done, reached.pushed (made n)) ∧
          reached.hasClash (made n) = false ∧ ∀ m < n, reached.hasClash (made m) = true) ↔
      style ≠ .bean ∨ count ≤ 1 := by
  constructor
  · intro hall
    by_contra hmany
    rw [not_or, not_not, not_le] at hmany
    obtain ⟨rfl, hcount⟩ := hmany
    -- A crowd of beans spoils every candidate of the newcomer that is tried.
    have hreached := performAll_settle { name := "Root", style := .bean, namers := .crowded }
      rfl rfl rfl count
    obtain ⟨n, hdone, _⟩ := hall .crowded "Root" (settle count) "x" .anyObject newcomer
      (by rw [hreached, crowd, List.length_map, List.length_range])
      (by rw [hreached]; exact tellsApart_newcomer rfl rfl)
    rw [hreached, perform_addProperty, withProperty_newcomer rfl rfl hcount] at hdone
    cases (Prod.mk.inj hdone).1
  · intro henough namers name operations key type made reached hcount htells
    have hstyle : reached.style = style := by
      have hempty : Holds style [] { name, style, namers } := ⟨rfl, rfl, List.Pairwise.nil⟩
      exact (hempty.performAll operations).same
    rw [← hstyle, ← hcount] at henough
    obtain ⟨n, hnext, hfirst⟩ := htells.withProperty henough
    refine ⟨n, ?_, hfirst⟩
    rw [perform_addProperty, hnext]

/-- Two properties are there and the eleventh candidate is free, but the key is given up. -/
theorem addProperty_gives_up_before_free :
    let reached := (performAll [.addProperty "y" .anyObject, .addProperty "y_2" .anyObject]
      { name := "Root", style := .bean, namers := .crowded }).2
    reached.TellsApart "x" .anyObject newcomer ∧
      Candidates.nth "x" 10 = "x_11" ∧ reached.hasClash (newcomer 10) = false ∧
      perform (.addProperty "x" .anyObject) reached =
        (.failed (.unusableName "x" .field), reached) := by
  have hreached := performAll_settle { name := "Root", style := .bean, namers := .crowded }
    rfl rfl rfl 2
  rw [show settle 2 = [.addProperty "y" .anyObject, .addProperty "y_2" .anyObject] from rfl]
    at hreached
  rw [hreached]
  refine ⟨tellsApart_newcomer rfl rfl, by decide, by decide +kernel, ?_⟩
  rw [perform_addProperty, withProperty_newcomer rfl rfl (Nat.le_refl 2)]

end Draft
end JsonClasses
