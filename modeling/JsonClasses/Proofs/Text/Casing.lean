import JsonClasses.Text.Casing
import JsonClasses.Proofs.Naming.Words
import JsonClasses.Proofs.Unicode.Cases

/-!
# Letter case of texts

Of all characters only `Σ` looks at those around it when it becomes small. The others change their
case one by one, numbers have none, and letters stay letters.
-/
namespace JsonClasses.Text
open Unicode

variable {cs : List Char}

/-! ## One by one -/

/-- Without `Σ` the characters do not look at each other. -/
theorem lowerFrom_eq_flatMap (before : List Char) (h : 'Σ' ∉ cs) :
    lowerFrom before cs = cs.flatMap lowerCase := by
  induction cs generalizing before with
  | nil => rfl
  | cons c cs ih =>
    rw [List.mem_cons, not_or] at h
    rw [lowerFrom, lowerBetween, if_neg (Ne.symm h.1), ih _ h.2, List.flatMap_cons]

theorem lowerFrom_append_singleton (before cs : List Char) (c : Char) :
    ∃ done, lowerFrom before (cs ++ [c]) = done ++ lowerBetween (cs.reverse ++ before) c [] := by
  induction cs generalizing before with
  | nil => exact ⟨[], by rw [List.nil_append, lowerFrom, lowerFrom, List.append_nil]; rfl⟩
  | cons d cs ih =>
    obtain ⟨done, hdone⟩ := ih (d :: before)
    refine ⟨lowerBetween before d (cs ++ [c]) ++ done, ?_⟩
    rw [List.cons_append, lowerFrom, hdone, List.append_assoc, List.reverse_cons, List.append_assoc,
      List.singleton_append]

/-! ## Letters -/

theorem lowerBetween_eq {c : Char} (hc : isAlphanumeric c = true) (hdot : c ≠ 'İ')
    (before after : List Char) : ∀ d ∈ lowerBetween before c after, isAlphanumeric d = true := by
  rw [lowerBetween]
  split
  · split
    all_goals
      rw [List.forall_mem_singleton]
      decide
  · exact isAlphanumeric_lowerCase hc hdot

theorem lowerBetween_ne_nil (before : List Char) (c : Char) (after : List Char) :
    lowerBetween before c after ≠ [] := by
  rw [lowerBetween]
  split
  · split <;> exact List.cons_ne_nil _ _
  · exact lowerCase_ne_nil c

/-- A `Σ` in front ends no word. -/
theorem lowerBetween_nil (c : Char) (after : List Char) :
    lowerBetween [] c after = lowerCase c := by
  have hsigma : ['σ'] = lowerCase 'Σ' := by decide
  rw [lowerBetween]
  split
  · rename_i hc
    rw [hc, ← hsigma, if_neg (by simp [meetsCased])]
  · rfl

theorem lowerBetween_dot (before after : List Char) :
    lowerBetween before 'İ' after = ['i', Char.ofNat 0x307] := by
  rw [lowerBetween, if_neg (by decide)]
  decide

/-! ## Numbers -/

theorem lowerCase_of_isDigit {c : Char} (h : c.isDigit = true) : lowerCase c = [c] :=
  forall_digit (P := fun c => lowerCase c = [c]) (by decide) h

theorem upperCase_of_isDigit {c : Char} (h : c.isDigit = true) : upperCase c = [c] :=
  forall_digit (P := fun c => upperCase c = [c]) (by decide) h

theorem flatMap_of_digits {image : Char → List Char} (hcs : ∀ c ∈ cs, c.isDigit = true)
    (himage : ∀ c, c.isDigit = true → image c = [c]) : cs.flatMap image = cs := by
  induction cs with
  | nil => rfl
  | cons c cs ih =>
    obtain ⟨hc, hcs⟩ := List.forall_mem_cons.mp hcs
    rw [List.flatMap_cons, himage c hc, ih hcs, List.singleton_append]

theorem lower_toString (n : Nat) : lower (toString n) = toString n := by
  have hdigits : ∀ c ∈ (toString n).toList, c.isDigit = true := fun c hc =>
    isDigit_of_mem_toString hc
  have hsigma : 'Σ' ∉ (toString n).toList := fun hmem => absurd (hdigits _ hmem) (by decide)
  rw [lower, lowerFrom_eq_flatMap [] hsigma,
    flatMap_of_digits hdigits fun c hc => lowerCase_of_isDigit hc, String.ofList_toList]

theorem upper_toString (n : Nat) : upper (toString n) = toString n := by
  rw [upper, flatMap_of_digits (fun c hc => isDigit_of_mem_toString hc)
    fun c hc => upperCase_of_isDigit hc, String.ofList_toList]

theorem capitalizeChars_of_digits (h : ∀ c ∈ cs, c.isDigit = true) : capitalizeChars cs = cs := by
  cases cs with
  | nil => rfl
  | cons c cs =>
    obtain ⟨hc, hcs⟩ := List.forall_mem_cons.mp h
    rw [capitalizeChars, upperCase_of_isDigit hc,
      flatMap_of_digits hcs fun c hc => lowerCase_of_isDigit hc, List.singleton_append]

theorem capitalize_toString (n : Nat) : capitalize (toString n) = toString n := by
  rw [capitalize, capitalizeChars_of_digits fun c hc => isDigit_of_mem_toString hc,
    String.ofList_toList]

end JsonClasses.Text
