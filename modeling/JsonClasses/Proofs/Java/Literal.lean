import JsonClasses.Proofs.Java.Inputs

/-!
# Literals are read back

A literal is cut up only after the Unicode escapes of the file are replaced. So each character of
its text is followed through both steps: what it is written as holds no Unicode escape, whatever
stands behind, and is then read as that character. Main statement: at the start of any text, what is
written for a text is read as that text, to its last character and no further.
-/
namespace JsonClasses.Java
open Unicode

/-! ## Octal escapes -/

theorem octalDigit_mod (n : Nat) : octalDigit (n % 8) = octalDigit n := by
  rw [octalDigit, Nat.mod_mod, octalDigit]

/-- What holds of the eight digits holds of every digit that is written. -/
theorem forall_octalDigit {P : Char → Prop} (h : ∀ d < 8, P (octalDigit d)) (n : Nat) :
    P (octalDigit n) := by
  rw [← octalDigit_mod]
  exact h _ (Nat.mod_lt n (by decide))

theorem digit?_octalDigit (n : Nat) : Text.digit? 8 (octalDigit n) = some (n % 8) := by
  have hdigit : ∀ d < 8, Text.digit? 8 (octalDigit d) = some d := by decide
  rw [← octalDigit_mod]
  exact hdigit _ (Nat.mod_lt n (by decide))

theorem lookup_octalDigit (n : Nat) : escapeSigns.lookup (octalDigit n) = none :=
  forall_octalDigit (P := fun c => escapeSigns.lookup c = none) (by decide) n

theorem octalDigit_ne (n : Nat) : octalDigit n ≠ '\\' ∧ octalDigit n ≠ 'u' :=
  forall_octalDigit (P := fun c => c ≠ '\\' ∧ c ≠ 'u') (by decide) n

/-- Below four times sixty-four there are always three digits, so one that stands behind is not
taken. -/
theorem octalDigits_eq {n : Nat} (h : n < 256) (rest : List Char) :
    octalDigits (octalDigit (n / 64) :: octalDigit (n / 8) :: octalDigit n :: rest) =
      [octalDigit (n / 64), octalDigit (n / 8), octalDigit n] := by
  have hfirst : ∀ d < 4, octalDigit d ≤ '3' := by decide
  have hthree : octalDigit (n / 64) ≤ '3' := hfirst _ (by omega)
  have hall : ∀ m, (Text.digit? 8 (octalDigit m)).isSome = true := fun m => by
    rw [digit?_octalDigit, Option.isSome_some]
  simp only [octalDigits, List.head?_cons, Option.any_some, hthree, decide_true, if_true,
    List.take_succ_cons, List.take_zero, List.takeWhile_cons, hall, List.takeWhile_nil]

theorem readEscape?_octal {c : Char} (h : c.toNat < 256) (rest : List Char) :
    readEscape? (octalDigit (c.toNat / 64) :: octalDigit (c.toNat / 8) :: octalDigit c.toNat ::
      rest) = some (c, rest) := by
  have hvalue : Text.ofDigits 8 [c.toNat / 64 % 8, c.toNat / 8 % 8, c.toNat % 8] = c.toNat := by
    simp only [Text.ofDigits, List.foldl_cons, List.foldl_nil]
    omega
  rw [readEscape?, lookup_octalDigit, octalDigits_eq h]
  simp only [List.filterMap_cons, digit?_octalDigit, List.filterMap_nil, hvalue, Char.ofNat_toNat,
    List.length_cons, List.length_nil, List.drop_succ_cons, List.drop_zero]

/-! ## One character -/

/-- The two ways to write a character: as itself, or behind a backslash. -/
theorem literalChar_cases (c : Char) :
    (literalChar c = [c] ∧ isControl c = false ∧ c ≠ '"' ∧ c ≠ '\n' ∧ c ≠ '\r' ∧ c ≠ '\\') ∨
      ∃ sign digits, literalChar c = '\\' :: sign :: digits ∧ sign ≠ 'u' ∧ '\\' ∉ digits ∧
        (∀ d ∈ sign :: digits, isControl d = false) ∧
        ∀ rest, readEscape? (sign :: digits ++ rest) = some (c, rest) := by
  -- First the five characters that have a sign of their own.
  by_cases hsigned : c ∈ ['"', '\\', '\n', '\r', '\t']
  · simp only [List.mem_cons, List.not_mem_nil, or_false] at hsigned
    rcases hsigned with rfl | rfl | rfl | rfl | rfl
    all_goals
      exact .inr ⟨_, [], rfl, by decide, List.not_mem_nil,
        List.forall_mem_singleton.mpr (by decide), fun _ => rfl⟩
  simp only [List.mem_cons, List.not_mem_nil, or_false, not_or] at hsigned
  obtain ⟨hquote, hbackslash, hnewline, hreturn, htab⟩ := hsigned
  simp only [literalChar, if_neg hquote, if_neg hbackslash, if_neg hnewline, if_neg hreturn,
    if_neg htab]
  cases hcontrol : isControl c with
  | false => exact .inl ⟨rfl, rfl, hquote, hnewline, hreturn, hbackslash⟩
  | true =>
    have hsmall : c.toNat < 256 := by
      simp only [isControl, covers] at hcontrol
      grind
    have hdigit : ∀ n, isControl (octalDigit n) = false :=
      forall_octalDigit (P := fun d => isControl d = false) (by decide)
    refine .inr ⟨_, [octalDigit (c.toNat / 8), octalDigit c.toNat], rfl,
      (octalDigit_ne _).2, ?_, ?_, readEscape?_octal hsmall⟩
    · simp only [List.mem_cons, List.not_mem_nil, or_false, not_or]
      exact ⟨(octalDigit_ne _).1.symm, (octalDigit_ne _).1.symm⟩
    · simp [hdigit]

theorem inputs_literalChar (c : Char) (rest : List Char) :
    inputs (literalChar c ++ rest) = (literalChar c).map .plain ++ inputs rest := by
  obtain ⟨heq, _, _, _, _, hbackslash⟩ | ⟨sign, digits, heq, hsign, hdigits, _⟩ :=
    literalChar_cases c
  · rw [heq]
    exact inputs_append_of_plain (by simpa using Ne.symm hbackslash) rest
  · rw [heq, List.cons_append, List.cons_append, inputs_of_pair hsign,
      inputs_append_of_plain hdigits]
    rfl

theorem readLiteral?_literalChar (c : Char) (rest : List Char) :
    readLiteral? (literalChar c ++ rest) = (readLiteral? rest).map (Prod.map (c :: ·) id) := by
  obtain ⟨heq, _, hplain⟩ | ⟨sign, digits, heq, _, _, _, hread⟩ := literalChar_cases c
  · rw [heq, List.singleton_append, readLiteral?_of_plain hplain]
  · rw [heq, List.cons_append, readLiteral?_of_escape (hread rest)]

/-! ## Whole literals -/

theorem inputs_flatMap_literalChar (cs rest : List Char) :
    inputs (cs.flatMap literalChar ++ rest) =
      (cs.flatMap literalChar).map .plain ++ inputs rest := by
  induction cs with
  | nil => rfl
  | cons c cs ih =>
    rw [List.flatMap_cons, List.append_assoc, inputs_literalChar, ih, List.map_append,
      List.append_assoc]

theorem unescape?_flatMap_literalChar (cs rest : List Char) :
    unescape? (cs.flatMap literalChar ++ rest) =
      (unescape? rest).map (cs.flatMap literalChar ++ ·) :=
  unescape?_append_of_inputs (inputs_flatMap_literalChar cs rest)

theorem readLiteral?_flatMap_literalChar (cs rest : List Char) :
    readLiteral? (cs.flatMap literalChar ++ '"' :: rest) = some (cs, rest) := by
  induction cs with
  | nil => exact readLiteral?_quote rest
  | cons c cs ih =>
    rw [List.flatMap_cons, List.append_assoc, readLiteral?_literalChar, ih]
    rfl

theorem toList_literalOf (s : String) :
    (literalOf s).toList = '"' :: s.toList.flatMap literalChar ++ ['"'] := String.toList_ofList

/-- A literal tells its text and where it ends. -/
theorem literalOf_append_inj {s t rest rest' : String}
    (h : literalOf s ++ rest = literalOf t ++ rest') : s = t ∧ rest = rest' := by
  have hread : ∀ s rest : String, readLiteral? (literalOf s ++ rest).toList.tail =
      some (s.toList, rest.toList) := by
    intro s rest
    rw [String.toList_append, toList_literalOf, List.cons_append, List.cons_append, List.tail_cons,
      List.append_assoc, List.singleton_append, readLiteral?_flatMap_literalChar]
  have hsame := hread s rest
  rw [h, hread t rest', Option.some.injEq, Prod.mk.injEq] at hsame
  exact ⟨String.toList_inj.mp hsame.1.symm, String.toList_inj.mp hsame.2.symm⟩

/-- Control characters are escaped, line breaks among them. -/
theorem isControl_of_mem_literalOf (s : String) :
    ∀ c ∈ (literalOf s).toList, isControl c = false := by
  have hchar : ∀ c, ∀ d ∈ literalChar c, isControl d = false := by
    intro c
    obtain ⟨heq, hcontrol, _⟩ | ⟨sign, digits, heq, _, _, hcontrol, _⟩ := literalChar_cases c
    · rw [heq, List.forall_mem_singleton]
      exact hcontrol
    · rw [heq, List.forall_mem_cons]
      exact ⟨by decide, hcontrol⟩
  rw [toList_literalOf, List.cons_append, List.forall_mem_cons, List.forall_mem_append,
    List.forall_mem_singleton]
  refine ⟨by decide, fun d hd => ?_, by decide⟩
  obtain ⟨c, _, hmem⟩ := List.mem_flatMap.mp hd
  exact hchar c d hmem

theorem not_mem_literalOf (s : String) : '\n' ∉ (literalOf s).toList := fun hmem =>
  absurd (isControl_of_mem_literalOf s '\n' hmem) (by decide)

theorem literalChar_head (c : Char) : ∃ d rest, literalChar c = d :: rest ∧ d ≠ '"' := by
  obtain ⟨heq, _, hquote, _⟩ | ⟨sign, digits, heq, _⟩ := literalChar_cases c
  · exact ⟨c, [], heq, hquote⟩
  · exact ⟨'\\', sign :: digits, heq, by decide⟩

/-- An empty literal with a quote behind it would be a text block, so another character has to
follow. -/
theorem startsOther_literal (cs : List Char) {c : Char} (h : c ≠ '"') (rest : List Char) :
    startsOther ('"' :: (cs.flatMap literalChar ++ '"' :: c :: rest)) = false := by
  cases cs with
  | nil => simpa [startsOther] using h
  | cons d cs =>
    obtain ⟨first, others, heq, hfirst⟩ := literalChar_head d
    rw [List.flatMap_cons, heq]
    simp [startsOther, hfirst]

/-! ## Literals in front of any text -/

/-- No escape starts in a literal, and all that stand behind it still do. -/
theorem inputs_literalOf (s : String) (rest : List Char) :
    inputs ((literalOf s).toList ++ rest) = (literalOf s).toList.map .plain ++ inputs rest := by
  have hquote : ∀ rest, inputs ('"' :: rest) = .plain '"' :: inputs rest :=
    inputsFrom_of_plain (by decide) false
  rw [toList_literalOf, List.cons_append, List.cons_append, hquote, List.append_assoc,
    inputs_flatMap_literalChar, List.singleton_append, hquote]
  simp

/-- What is written for a text is read as that text. The literal ends where its writing does, each
of its characters stands for itself, and none of them ends a line. -/
theorem leadingLiteral?_literalOf (s t : String) :
    leadingLiteral? (literalOf s ++ t) =
        some ⟨s, (literalOf s).toList.map .plain, inputs t.toList⟩ ∧
      ∀ c ∈ (literalOf s).toList, c ≠ '\n' ∧ c ≠ '\r' := by
  have hinputs : inputs (literalOf s ++ t).toList =
      (literalOf s).toList.map .plain ++ inputs t.toList := by
    rw [String.toList_append, inputs_literalOf]
  have hchars : (inputs (literalOf s ++ t).toList).map Input.char =
      '"' :: (s.toList.flatMap literalChar ++ '"' :: (inputs t.toList).map Input.char) := by
    rw [hinputs, List.map_append, List.map_map, toList_literalOf]
    simp [Function.comp_def, Input.plain]
  have hread := readLiteral?_flatMap_literalChar s.toList ((inputs t.toList).map Input.char)
  refine ⟨?_, fun c hc => ?_⟩
  -- What the literal has taken is what stands before the rest.
  · have hsize : (inputs (literalOf s ++ t).toList).length -
        ((inputs t.toList).map Input.char).length = ((literalOf s).toList.map Input.plain).length := by
      rw [hinputs]
      simp
    simp only [leadingLiteral?, hchars, if_true, hread, Option.map_some, hsize, String.ofList_toList]
    rw [hinputs, List.take_left, List.drop_left]
  · have hcontrol := isControl_of_mem_literalOf s c hc
    constructor <;> rintro rfl <;> exact absurd hcontrol (by decide)

end JsonClasses.Java
