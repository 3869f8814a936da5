import JsonClasses.Proofs.Java.Reading

/-!
# Reading as far as needed

A lexer meets the characters of a text one by one, each as it stands there or given by a Unicode
escape, and an escape that is broken matters only once the lexer gets there. So a literal at the
start of a text is read even where the text behind it cannot be. Where no escape is broken, this
comes to the same as replacing all escapes first.
-/
namespace JsonClasses.Java

/-! ## Inputs -/

/-- A character as the lexer meets it, with what stands in the text for it. -/
structure Input where
  char : Char
  written : List Char
  deriving DecidableEq, Repr

/-- A character that stands in the text itself. -/
def Input.plain (c : Char) : Input := ⟨c, [c]⟩

/-- The Unicode escape whose backslash has been read: its character, what is written for it behind
the backslash, and what follows. An escape for half a surrogate pair stands for no character. -/
def unicodeEscape? : List Char → Option (Char × List Char × List Char)
  | [] => none
  | c :: rest =>
      if c = 'u' then
        (unicodeEscape? rest).map fun (meant, written, behind) => (meant, 'u' :: written, behind)
      else match rest with
        | d :: e :: f :: behind =>
            match Text.hexNumber? [c, d, e, f] with
            | some n => if n.isValidChar then some (Char.ofNat n, [c, d, e, f], behind) else none
            | none => none
        | _ => none

theorem unicodeEscape?_of_mark (rest : List Char) : unicodeEscape? ('u' :: rest) =
    (unicodeEscape? rest).map fun (meant, written, behind) => (meant, 'u' :: written, behind) := by
  rw [unicodeEscape?.eq_def]
  rfl

theorem eq_append_of_unicodeEscape? {cs written behind : List Char} {meant : Char}
    (h : unicodeEscape? cs = some (meant, written, behind)) : cs = written ++ behind := by
  fun_induction unicodeEscape? cs generalizing written with
  | case1 | case4 | case5 | case6 => cases h
  | case2 rest ih =>
    obtain ⟨⟨_, digits, _⟩, hrest, heq⟩ := Option.map_eq_some_iff.mp h
    obtain ⟨rfl, rfl, rfl⟩ : _ ∧ _ ∧ _ := by simpa only [Prod.mk.injEq] using heq
    rw [ih hrest, List.cons_append]
  | case3 c _ d e f others n =>
    obtain ⟨_, rfl, rfl⟩ : _ ∧ _ ∧ _ := by simpa only [Option.some.injEq, Prod.mk.injEq] using h
    rfl

/-- The inputs of a text with an odd or an even number of backslashes right before it, up to an
escape that stands for no character. A backslash behind an odd number of them starts no escape. -/
def inputsFrom (odd : Bool) : List Char → List Input
  | [] => []
  | c :: rest =>
      if c = '\\' ∧ odd = false ∧ rest.head? = some 'u' then
        match _h : unicodeEscape? rest with
        | none => []
        | some (meant, written, behind) => ⟨meant, c :: written⟩ :: inputsFrom false behind
      else .plain c :: inputsFrom (c == '\\' && !odd) rest
termination_by cs => cs.length
decreasing_by
  · rw [eq_append_of_unicodeEscape? _h]
    simp only [List.length_cons, List.length_append]
    omega
  · simp

def inputs (cs : List Char) : List Input := inputsFrom false cs

theorem inputs_nil : inputs [] = [] := by rw [inputs, inputsFrom]

theorem inputsFrom_of_plain {c : Char} (h : c ≠ '\\') (odd : Bool) (rest : List Char) :
    inputsFrom odd (c :: rest) = .plain c :: inputs rest := by
  have heven : (c == '\\' && !odd) = false := by simp [h]
  rw [inputsFrom, if_neg (by simp [h]), heven, inputs]

/-- Behind a backslash that is behind no other, another character stands for itself. -/
theorem inputs_of_pair {d : Char} (h : d ≠ 'u') (rest : List Char) :
    inputs ('\\' :: d :: rest) = .plain '\\' :: .plain d :: inputs rest := by
  have hodd : ('\\' == '\\' && !false) = true := rfl
  rw [inputs, inputsFrom, if_neg (by simp [h]), hodd, inputsFrom, if_neg (by simp), inputs]
  simp

theorem inputs_of_escape {cs written behind : List Char} {meant : Char}
    (hmark : cs.head? = some 'u') (h : unicodeEscape? cs = some (meant, written, behind)) :
    inputs ('\\' :: cs) = ⟨meant, '\\' :: written⟩ :: inputs behind := by
  rw [inputs, inputsFrom, if_pos ⟨rfl, rfl, hmark⟩]
  split
  · rename_i hnone
    rw [h] at hnone
    cases hnone
  · rename_i hsome
    rw [h, Option.some.injEq, Prod.mk.injEq, Prod.mk.injEq] at hsome
    obtain ⟨rfl, rfl, rfl⟩ := hsome
    rfl

theorem inputs_of_broken {cs : List Char} (hmark : cs.head? = some 'u')
    (h : unicodeEscape? cs = none) : inputs ('\\' :: cs) = [] := by
  rw [inputs, inputsFrom, if_pos ⟨rfl, rfl, hmark⟩]
  split
  · rfl
  · rename_i hsome
    rw [h] at hsome
    cases hsome

theorem inputs_append_of_plain {cs : List Char} (h : '\\' ∉ cs) (rest : List Char) :
    inputs (cs ++ rest) = cs.map .plain ++ inputs rest := by
  induction cs with
  | nil => rfl
  | cons c cs ih =>
    rw [List.mem_cons, not_or] at h
    obtain ⟨hc, hcs⟩ := h
    rw [List.cons_append, inputs, inputsFrom_of_plain (Ne.symm hc), ih hcs, List.map_cons,
      List.cons_append]

/-! ## Replacing all escapes first -/

theorem unescapeUnit?_of_mark (rest : List Char) :
    unescapeUnit? ('u' :: rest) = unescapeUnit? rest := by
  cases rest <;> rfl

theorem unescapeUnit?_eq (cs : List Char) : unescapeUnit? cs =
    (unicodeEscape? cs).bind fun (meant, _, behind) => (unescape? behind).map (meant :: ·) := by
  -- The cases: no digits left, one more `u`, a character, no character, no hexadecimal digits, and
  -- too few.
  fun_induction unicodeEscape? cs with
  | case1 => rfl
  | case2 rest ih =>
    rw [unescapeUnit?_of_mark, ih, Option.bind_map]
    rfl
  | case3 c hmark d e f behind n hdigits hvalid =>
    rw [unescapeUnit?, if_neg hmark, hdigits]
    exact if_pos hvalid
  | case4 c hmark d e f behind n hdigits hinvalid =>
    rw [unescapeUnit?, if_neg hmark, hdigits]
    exact if_neg hinvalid
  | case5 c hmark d e f behind hdigits =>
    rw [unescapeUnit?, if_neg hmark, hdigits]
    rfl
  | case6 c rest hmark hshort =>
    rw [unescapeUnit?, if_neg hmark]
    · rfl
    · exact hshort

/-- The characters of the inputs, if the inputs are written with the whole text. -/
def wholly? (cs : List Char) : Option (List Char) :=
  if (inputs cs).flatMap Input.written = cs then some ((inputs cs).map Input.char) else none

theorem wholly?_append (front : List Input) {cs rest : List Char}
    (hcs : cs = front.flatMap Input.written ++ rest) (h : inputs cs = front ++ inputs rest) :
    wholly? cs = (wholly? rest).map (front.map Input.char ++ ·) := by
  have hwhole : (inputs cs).flatMap Input.written = cs ↔
      (inputs rest).flatMap Input.written = rest := by
    rw [h, List.flatMap_append, hcs, List.append_right_inj]
  unfold wholly?
  simp only [hwhole]
  split
  · rw [h, List.map_append, Option.map_some]
  · rfl

theorem wholly?_of_mark (rest : List Char) : wholly? ('\\' :: 'u' :: rest) =
    (unicodeEscape? rest).bind fun (meant, _, behind) => (wholly? behind).map (meant :: ·) := by
  have hmark := unicodeEscape?_of_mark rest
  cases hrest : unicodeEscape? rest with
  | none =>
    rw [hrest, Option.map_none] at hmark
    rw [wholly?, inputs_of_broken rfl hmark]
    rfl
  | some found =>
    -- The escape is one input, which has taken all of its text.
    obtain ⟨meant, written, behind⟩ := found
    rw [hrest, Option.map_some] at hmark
    have hsame := eq_append_of_unicodeEscape? hrest
    exact wholly?_append [⟨meant, '\\' :: 'u' :: written⟩] (by simpa using hsame)
      (inputs_of_escape rfl hmark)

/-- Replacing all escapes first gives the characters of the inputs, or fails where they end early. -/
theorem unescape?_eq_wholly? (cs : List Char) : unescape? cs = wholly? cs := by
  match cs with
  | [] => rw [wholly?, inputs_nil]; rfl
  | [c] =>
    have hinputs : inputs [c] = [.plain c] := by
      rw [inputs, inputsFrom, if_neg (by simp)]
      exact congrArg _ (by rw [inputsFrom])
    rw [wholly?, hinputs]
    exact (if_pos rfl).symm
  | c :: d :: rest =>
    by_cases hc : c = '\\'
    · subst hc
      by_cases hd : d = 'u'
      · subst hd
        rw [unescape?, if_pos rfl, if_pos rfl, unescapeUnit?_eq, wholly?_of_mark]
        cases hrest : unicodeEscape? rest with
        | none => rfl
        | some found =>
          obtain ⟨meant, written, behind⟩ := found
          -- What stands behind an escape is shorter, which the recursion needs.
          have hshorter : behind.length ≤ rest.length := by
            rw [eq_append_of_unicodeEscape? hrest, List.length_append]
            exact Nat.le_add_left _ _
          exact congrArg (Option.map (meant :: ·)) (unescape?_eq_wholly? behind)
      · -- No escape starts right behind this backslash, not even at another one.
        have hfront : wholly? ('\\' :: d :: rest) =
            (wholly? rest).map fun cs => '\\' :: d :: cs :=
          wholly?_append [.plain '\\', .plain d] rfl (inputs_of_pair hd rest)
        rw [unescape?_of_pair hd, unescape?_eq_wholly? rest, hfront]
    · have hfront : wholly? (c :: d :: rest) = (wholly? (d :: rest)).map (c :: ·) :=
        wholly?_append [.plain c] rfl (inputsFrom_of_plain hc false (d :: rest))
      rw [unescape?_of_plain hc, unescape?_eq_wholly? (d :: rest), hfront]
termination_by cs.length

/-- Where each character stands for itself, there is nothing to replace. -/
theorem unescape?_append_of_inputs {cs rest : List Char}
    (h : inputs (cs ++ rest) = cs.map .plain ++ inputs rest) :
    unescape? (cs ++ rest) = (unescape? rest).map (cs ++ ·) := by
  have hwritten : (cs.map Input.plain).flatMap Input.written = cs := by
    rw [List.flatMap_map]
    exact List.flatMap_singleton' cs
  have hchars : (cs.map Input.plain).map Input.char = cs := by
    rw [List.map_map]
    exact List.map_id cs
  rw [unescape?_eq_wholly?, unescape?_eq_wholly?, wholly?_append (cs.map .plain) (by rw [hwritten]) h,
    hchars]

/-! ## Literals -/

/-- A literal at the start of a text: the text that it stands for, the inputs that it is made of,
and the inputs behind it. -/
structure LeadingLiteral where
  text : String
  taken : List Input
  behind : List Input
  deriving DecidableEq, Repr

/-- Reads a string literal on one line, with all its escapes, the one for a space among them. Text
blocks are left out: three quotes give an empty literal and the quote behind it. So are literals of
characters and of numbers. -/
def leadingLiteral? (source : String) : Option LeadingLiteral :=
  let found := inputs source.toList
  match found.map Input.char with
  | [] => none
  | c :: cs =>
      if c = '"' then
        (readLiteral? cs).map fun (text, rest) =>
          let size := found.length - rest.length
          ⟨String.ofList text, found.take size, found.drop size⟩
      else none

/-- The second backslash pairs off with the third, and the escape behind the literal is broken. -/
example : leadingLiteral? "\"\\u0041\\\\u\"\\u0" =
    some ⟨"A\\u", [.plain '"', ⟨'A', ['\\', 'u', '0', '0', '4', '1']⟩, .plain '\\', .plain '\\',
      .plain 'u', .plain '"'], []⟩ := by cbv

end JsonClasses.Java
