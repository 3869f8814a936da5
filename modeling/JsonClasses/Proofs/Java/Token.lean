import JsonClasses.Java.TypeSpelling
import JsonClasses.Proofs.ClassTree.Basic
import JsonClasses.Proofs.Java.Literal
import JsonClasses.Proofs.Java.Repair
import JsonClasses.Proofs.Text.Separated
import JsonClasses.Style

/-!
# Tokens of a source file

Identifiers and types are written without blanks and without the signs that stand around them. So a
text that starts with one tells where it ends.
-/
namespace JsonClasses.Java

/-- Whether a character can stand in an identifier or a type. -/
def isTokenChar (c : Char) : Bool := continuesIdentifier c || c == '<' || c == '>'

def Token (s : String) : Prop := ∀ c ∈ s.toList, isTokenChar c = true

/-- No token goes on here. -/
def Stops (s : String) : Prop := ∀ c ∈ s.toList.head?, isTokenChar c = false

variable {s t rest rest' : String}

/-- Tokens that are given as texts are looked through character by character. -/
theorem token_of_all (h : s.toList.all isTokenChar = true) : Token s := List.all_eq_true.mp h

theorem stops_empty : Stops "" := by
  intro c hc
  cases hc

theorem token_append : Token (s ++ t) ↔ Token s ∧ Token t := by
  rw [Token, String.toList_append, List.forall_mem_append, Token, Token]

theorem token_of_isIdentifier (h : isIdentifier s = true) : Token s := by
  intro c hc
  rw [isTokenChar, continuesIdentifier_of_mem h c hc, Bool.true_or, Bool.true_or]

theorem token_keyword (m : Modifier) : Token m.keyword := by
  cases m <;> exact token_of_all (by decide)

theorem token_inj (hs : Token s) (ht : Token t) (hrest : Stops rest) (hrest' : Stops rest')
    (h : s ++ rest = t ++ rest') : s = t ∧ rest = rest' := by
  have hlist := congrArg String.toList h
  rw [String.toList_append, String.toList_append] at hlist
  obtain ⟨htoken, hbehind⟩ := Text.append_inj_of_run hs ht hrest hrest' hlist
  exact ⟨String.toList_inj.mp htoken, String.toList_inj.mp hbehind⟩

/-! ## Types -/

/-- Whether a class can have this name. -/
def Free (style : Style) (name : String) : Prop :=
  isIdentifier name = true ∧ style.occupies name = false

/-- A class in this type has a name that a class can have. -/
def Refers (style : Style) (type : ValueType) : Prop := ∀ name ∈ type.className?, Free style name

variable {type : ValueType}

theorem token_types (h : ∀ name ∈ type.className?, isIdentifier name = true) :
    Token (plainType type) ∧ Token (boxedType type) := by
  induction type with
  | scalar kind =>
    cases kind <;> exact ⟨token_of_all (by decide), token_of_all (by decide)⟩
  | named name =>
    have hname := token_of_isIdentifier (h name rfl)
    exact ⟨hname, hname⟩
  | list element ih =>
    have hlist : Token "List<" := token_of_all (by decide)
    have hclose : Token ">" := token_of_all (by decide)
    have helement : Token ("List<" ++ boxedType element ++ ">") :=
      token_append.mpr ⟨token_append.mpr ⟨hlist, (ih h).2⟩, hclose⟩
    exact ⟨helement, helement⟩

/-- The two spellings differ only in the scalars, and a list holds boxed types in both. A scalar is
written as a keyword or as a name that no class has. -/
structure IsSpelling (spell : ValueType → String) : Prop where
  named : ∀ name, spell (.named name) = name
  list : ∀ element, spell (.list element) = "List<" ++ boxedType element ++ ">"
  scalar_injective : ∀ kind kind', spell (.scalar kind) = spell (.scalar kind') → kind = kind'
  scalar_not_free : ∀ kind, ¬ Free .model (spell (.scalar kind))
  scalar_continues : ∀ kind, ∀ c ∈ (spell (.scalar kind)).toList, continuesIdentifier c = true

theorem isSpelling_boxedType : IsSpelling boxedType where
  named _ := rfl
  list _ := rfl
  scalar_injective kind kind' := by cases kind <;> cases kind' <;> decide
  scalar_not_free kind := fun h => absurd h.2 (by cases kind <;> decide)
  scalar_continues kind := List.all_eq_true.mp (by cases kind <;> decide)

theorem isSpelling_plainType : IsSpelling plainType where
  named _ := rfl
  list _ := rfl
  scalar_injective kind kind' := by cases kind <;> cases kind' <;> decide
  scalar_not_free kind := by
    cases kind with
    | boolean | integer | decimal => exact fun h => absurd h.1 (by decide)
    | string | object => exact fun h => absurd h.2 (by decide)
  scalar_continues kind := List.all_eq_true.mp (by cases kind <;> decide)

namespace IsSpelling

variable {spell : ValueType → String}

theorem scalar_no_angle (h : IsSpelling spell) (kind : Scalar) :
    '<' ∉ (spell (.scalar kind)).toList := fun hmem =>
  absurd (h.scalar_continues kind '<' hmem) (by decide)

theorem mem_list (h : IsSpelling spell) (element : ValueType) :
    '<' ∈ (spell (.list element)).toList := by
  rw [h.list, String.toList_append, String.toList_append]
  exact List.mem_append_left _ (List.mem_append_left _ (by decide))

theorem ne_named (h : IsSpelling spell) {name : String} (hname : Free .model name)
    (kind : Scalar) : spell (.scalar kind) ≠ spell (.named name) := by
  rw [h.named]
  rintro rfl
  exact h.scalar_not_free kind hname

end IsSpelling
end JsonClasses.Java
