import JsonClasses.Proofs.Java.Literal
import JsonClasses.Proofs.Java.Repair

/-!
# Chunks of a source file

A source file is written chunk by chunk. A chunk is read alike whatever stands behind it, so the
pieces of the file are those of its chunks, one after the other.
-/
namespace JsonClasses.Java

/-- These characters give these pieces, whatever stands behind them. -/
structure Spells (cs : List Char) (pieces : List Piece) : Prop where
  unescaped : ∀ rest, unescape? (cs ++ rest) = (unescape? rest).map (cs ++ ·)
  cut : ∀ rest, pieces? (cs ++ rest) = (pieces? rest).map (pieces ++ ·)

namespace Spells

variable {cs ds : List Char} {ps qs : List Piece}

theorem nil : Spells [] [] where
  unescaped rest := by simp
  cut rest := by simp

theorem append (h : Spells cs ps) (h' : Spells ds qs) : Spells (cs ++ ds) (ps ++ qs) where
  unescaped rest := by
    rw [List.append_assoc, h.unescaped, h'.unescaped, Option.map_map]
    simp only [Function.comp_def, List.append_assoc]
  cut rest := by
    rw [List.append_assoc, h.cut, h'.cut, Option.map_map]
    simp only [Function.comp_def, List.append_assoc]

theorem pieces_eq (h : Spells cs ps) : pieces? cs = some ps := by
  have hcut := h.cut []
  rwa [List.append_nil, pieces?, Option.map_some, List.append_nil] at hcut

theorem unescape_eq (h : Spells cs ps) : unescape? cs = some cs := by
  have hunescaped := h.unescaped []
  rwa [List.append_nil, unescape?, Option.map_some, List.append_nil] at hunescaped

end Spells

/-! ## Code -/

/-- The characters that begin a literal, an escape or a comment. -/
def signs : List Char := ['"', '\'', '\\', '/']

theorem not_mem_signs_of_continues {c : Char} (h : continuesIdentifier c = true) : c ∉ signs :=
  not_mem_of_continues (by decide) h

theorem startsOther_of_code {c : Char} (h : c ∉ signs) (rest : List Char) :
    startsOther (c :: rest) = false := by
  simp only [signs, List.mem_cons, List.not_mem_nil, or_false, not_or] at h
  unfold startsOther
  split <;> grind

theorem Spells.codeChar {c : Char} (h : c ∉ signs) : Spells [c] [.code c] := by
  have hother := startsOther_of_code h
  simp only [signs, List.mem_cons, List.not_mem_nil, or_false, not_or] at h
  obtain ⟨hquote, _, hbackslash, _⟩ := h
  exact ⟨unescape?_of_plain hbackslash,
    fun rest => pieces?_of_code hbackslash hquote (hother rest)⟩

theorem Spells.code {cs : List Char} (h : ∀ c ∈ cs, c ∉ signs) : Spells cs (cs.map .code) := by
  induction cs with
  | nil => exact .nil
  | cons c cs ih =>
    obtain ⟨hc, hcs⟩ := List.forall_mem_cons.mp h
    exact (Spells.codeChar hc).append (ih hcs)

/-! ## Literals -/

/-- Behind a literal another character has to follow: with one more quote behind it an empty literal
would begin a text block. -/
theorem Spells.literal (s : String) {c : Char} (hc : c ∉ signs) :
    Spells ((literalOf s).toList ++ [c]) [.literal s, .code c] := by
  have hquote : c ≠ '"' := by
    rintro rfl
    exact hc (by decide)
  have hbehind := Spells.codeChar hc
  -- The opening quote, the text, and the closing quote with the character behind it, in both steps.
  refine ⟨fun rest => ?_, fun rest => ?_⟩
  · rw [toList_literalOf]
    simp only [List.cons_append, List.append_assoc, List.nil_append]
    rw [unescape?_of_plain (by decide), unescape?_flatMap_literalChar,
      unescape?_of_plain (by decide), ← List.singleton_append, hbehind.unescaped, Option.map_map,
      Option.map_map, Option.map_map]
    rfl
  · rw [toList_literalOf]
    simp only [List.cons_append, List.append_assoc, List.nil_append]
    rw [pieces?_of_literal (startsOther_literal s.toList hquote rest)
      (readLiteral?_flatMap_literalChar s.toList (c :: rest)), ← List.singleton_append,
      hbehind.cut, Option.map_map, String.ofList_toList]
    rfl

end JsonClasses.Java
