import JsonClasses.Java.StringLiteral
import JsonClasses.Text.Digit

/-!
# Reading a source file

A source file is read in two steps. First the Unicode escapes are replaced in the whole text, then
the text is cut into string literals and the characters around them. Sources with comments,
character literals or text blocks are refused, and so is an escape for half a surrogate pair, since
no source written here has any of these.
-/
namespace JsonClasses.Java

/-! ## Unicode escapes -/

mutual

/-- The text with its Unicode escapes replaced. Backslashes pair off from the left, so that only one
with an even number of backslashes right before it starts an escape. -/
def unescape? : List Char → Option (List Char)
  | [] => some []
  | [c] => some [c]
  | c :: d :: rest =>
      if c = '\\' then
        if d = 'u' then unescapeUnit? rest else (unescape? rest).map fun cs => c :: d :: cs
      else (unescape? (d :: rest)).map fun cs => c :: cs

/-- Behind `\u` there may be more of the letter, and then four hexadecimal digits. -/
def unescapeUnit? : List Char → Option (List Char)
  | [] => none
  | c :: rest =>
      if c = 'u' then unescapeUnit? rest
      else match rest with
        | d :: e :: f :: rest =>
            match Text.hexNumber? [c, d, e, f] with
            | some n => if n.isValidChar then (unescape? rest).map (Char.ofNat n :: ·) else none
            | none => none
        | _ => none

end

/-- Only a backslash can begin something longer than one character. -/
theorem unescape?_of_plain {c : Char} (h : c ≠ '\\') (rest : List Char) :
    unescape? (c :: rest) = (unescape? rest).map (c :: ·) := by
  cases rest with
  | nil => rfl
  | cons d rest => rw [unescape?, if_neg h]

theorem unescape?_of_pair {d : Char} (h : d ≠ 'u') (rest : List Char) :
    unescape? ('\\' :: d :: rest) = (unescape? rest).map fun cs => '\\' :: d :: cs := by
  rw [unescape?, if_pos rfl, if_neg h]

/-! ## String literals -/

/-- The signs that may stand behind a backslash, with the characters that they stand for. -/
def escapeSigns : List (Char × Char) :=
  [('b', '\x08'), ('s', ' '), ('t', '\t'), ('n', '\n'), ('f', '\x0c'), ('r', '\r'), ('"', '"'),
   ('\'', '\''), ('\\', '\\')]

/-- The octal digits in front: at most three, and at most two if the first is above `3`. -/
def octalDigits (cs : List Char) : List Char :=
  (cs.take (if cs.head?.any (· ≤ '3') then 3 else 2)).takeWhile fun c => (Text.digit? 8 c).isSome

/-- The character of the escape sequence whose backslash has been read, and what follows. -/
def readEscape? : List Char → Option (Char × List Char)
  | [] => none
  | c :: rest =>
      match escapeSigns.lookup c with
      | some meant => some (meant, rest)
      | none =>
          match octalDigits (c :: rest) with
          | [] => none
          | d :: digits =>
              some (Char.ofNat (Text.ofDigits 8 ((d :: digits).filterMap (Text.digit? 8))),
                (c :: rest).drop (digits.length + 1))

theorem length_of_readEscape? {cs rest : List Char} {c : Char}
    (h : readEscape? cs = some (c, rest)) : rest.length < cs.length := by
  cases cs with
  | nil => cases h
  | cons first others =>
    rw [readEscape?] at h
    split at h
    · obtain ⟨_, rfl⟩ := Prod.mk.inj (Option.some.inj h)
      simp
    · split at h
      · cases h
      · obtain ⟨_, rfl⟩ := Prod.mk.inj (Option.some.inj h)
        simp only [List.length_drop, List.length_cons]
        omega

/-- The text of the literal whose opening quote has been read, and what follows the closing one. A
literal ends on the line on which it starts. -/
def readLiteral? : List Char → Option (List Char × List Char)
  | [] => none
  | c :: rest =>
      if c = '"' then some ([], rest)
      else if c = '\n' ∨ c = '\r' then none
      else if c = '\\' then
        match _h : readEscape? rest with
        | none => none
        | some (meant, rest') => (readLiteral? rest').map (Prod.map (meant :: ·) id)
      else (readLiteral? rest).map (Prod.map (c :: ·) id)
termination_by cs => cs.length
decreasing_by
  · have := length_of_readEscape? _h
    simp only [List.length_cons]
    omega
  · simp

theorem length_of_readLiteral? {cs rest text : List Char}
    (h : readLiteral? cs = some (text, rest)) : rest.length < cs.length := by
  -- Only the cases with a closing quote, an escape or a character leave anything.
  fun_induction readLiteral? cs generalizing text with
  | case1 | case3 | case4 => cases h
  | case2 others =>
    obtain ⟨_, rfl⟩ := Prod.mk.inj (Option.some.inj h)
    simp
  | case5 others meant others' hescape _ _ ih =>
    obtain ⟨⟨behind, rest'⟩, hread, heq⟩ := Option.map_eq_some_iff.mp h
    obtain ⟨_, rfl⟩ := Prod.mk.inj heq
    have hshorter := length_of_readEscape? hescape
    have hread := ih hread
    simp only [id_eq, List.length_cons] at hread ⊢
    omega
  | case6 c others _ _ _ ih =>
    obtain ⟨⟨behind, rest'⟩, hread, heq⟩ := Option.map_eq_some_iff.mp h
    obtain ⟨_, rfl⟩ := Prod.mk.inj heq
    have hread := ih hread
    simp only [id_eq, List.length_cons] at hread ⊢
    omega

theorem readLiteral?_quote (rest : List Char) : readLiteral? ('"' :: rest) = some ([], rest) := by
  rw [readLiteral?, if_pos rfl]

theorem readLiteral?_of_plain {c : Char} (h : c ≠ '"' ∧ c ≠ '\n' ∧ c ≠ '\r' ∧ c ≠ '\\')
    (rest : List Char) :
    readLiteral? (c :: rest) = (readLiteral? rest).map (Prod.map (c :: ·) id) := by
  obtain ⟨hquote, hnewline, hreturn, hbackslash⟩ := h
  rw [readLiteral?, if_neg hquote, if_neg (by simp [hnewline, hreturn]), if_neg hbackslash]

theorem readLiteral?_of_escape {cs rest : List Char} {meant : Char}
    (h : readEscape? cs = some (meant, rest)) :
    readLiteral? ('\\' :: cs) = (readLiteral? rest).map (Prod.map (meant :: ·) id) := by
  rw [readLiteral?, if_neg (by decide), if_neg (by decide), if_pos rfl]
  split
  · rename_i hnone
    rw [h] at hnone
    cases hnone
  · rename_i hsome
    rw [h] at hsome
    obtain ⟨rfl, rfl⟩ := Prod.mk.inj (Option.some.inj hsome)
    rfl

/-! ## Source files -/

/-- A string literal, by the text that it stands for, or a character outside of literals. -/
inductive Piece
  | code (c : Char)
  | literal (text : String)
  deriving DecidableEq, Repr

def Piece.literal? : Piece → Option String
  | code _ => none
  | literal text => some text

/-- Whether a comment, a character literal or a text block starts here. -/
def startsOther : List Char → Bool
  | '\'' :: _ => true
  | '/' :: c :: _ => c == '/' || c == '*'
  | '"' :: '"' :: c :: _ => c == '"'
  | _ => false

/-- The pieces of a text without Unicode escapes. -/
def pieces? : List Char → Option (List Piece)
  | [] => some []
  | c :: rest =>
      if c = '\\' || startsOther (c :: rest) then none
      else if c = '"' then
        match _h : readLiteral? rest with
        | none => none
        | some (text, rest') => (pieces? rest').map (.literal (String.ofList text) :: ·)
      else (pieces? rest).map (.code c :: ·)
termination_by cs => cs.length
decreasing_by
  · have := length_of_readLiteral? _h
    simp only [List.length_cons]
    omega
  · simp

theorem pieces?_of_code {c : Char} {rest : List Char} (hescape : c ≠ '\\') (hquote : c ≠ '"')
    (hother : startsOther (c :: rest) = false) :
    pieces? (c :: rest) = (pieces? rest).map (.code c :: ·) := by
  rw [pieces?, if_neg (by simp [hescape, hother]), if_neg hquote]

theorem pieces?_of_literal {cs text rest : List Char} (hother : startsOther ('"' :: cs) = false)
    (hread : readLiteral? cs = some (text, rest)) :
    pieces? ('"' :: cs) = (pieces? rest).map (.literal (String.ofList text) :: ·) := by
  rw [pieces?, if_neg (by simp [hother]), if_pos rfl]
  split
  · rename_i hnone
    rw [hread] at hnone
    cases hnone
  · rename_i hsome
    rw [hread] at hsome
    obtain ⟨rfl, rfl⟩ := Prod.mk.inj (Option.some.inj hsome)
    rfl

def read? (source : String) : Option (List Piece) := (unescape? source.toList).bind pieces?

/-- The texts of the string literals of a source file, in order. -/
def literals? (source : String) : Option (List String) :=
  (read? source).map fun pieces => pieces.filterMap Piece.literal?

end JsonClasses.Java
