import JsonClasses.Java.Source
import JsonClasses.Proofs.ClassTree.Legal
import JsonClasses.Proofs.Text.Separated

/-!
# The frame of declarations

What is written for a class are its names, in a frame of letters and a few signs, and the literals
of annotations. So a sign that is no part of the frame stands in a declaration only if it stands in
one of the names, but for the angles in the types of lists.
-/
namespace JsonClasses

/-! ## Names -/

/-- All names that belong to the property are such. -/
structure Property.Names (P : String → Prop) (p : Property) : Prop where
  reference : ∀ name ∈ p.type.className?, P name
  field : P p.field
  parameter : P p.parameter
  getter : ∀ name ∈ p.getter, P name
  setter : ∀ name ∈ p.setter, P name
  builderMethod : ∀ name ∈ p.builderMethod, P name

structure ClassTree.Names (P : String → Prop) (c : ClassTree) : Prop where
  name : P c.name
  properties : ∀ p ∈ c.properties, p.Names P

namespace Property

variable {P Q : String → Prop} {p : Property}

theorem Names.imp (h : p.Names P) (himp : ∀ s, P s → Q s) : p.Names Q where
  reference name hname := himp name (h.reference name hname)
  field := himp _ h.field
  parameter := himp _ h.parameter
  getter name hname := himp name (h.getter name hname)
  setter name hname := himp name (h.setter name hname)
  builderMethod name hname := himp name (h.builderMethod name hname)

theorem Legal.names (h : p.Legal) : p.Names fun name => Java.isIdentifier name = true where
  reference := h.reference
  field := h.field
  parameter := h.parameter
  getter := h.getter
  setter := h.setter
  builderMethod := h.builderMethod

end Property

theorem ClassTree.Legal.names {c : ClassTree} (h : c.Legal) :
    c.Names fun name => Java.isIdentifier name = true where
  name := h.name
  properties p hp := (h.properties p hp).names

theorem ClassTree.Names.imp {P Q : String → Prop} {c : ClassTree} (h : c.Names P)
    (himp : ∀ s, P s → Q s) : c.Names Q where
  name := himp _ h.name
  properties p hp := (h.properties p hp).imp himp

namespace Java

/-! ## Characters -/

/-- All characters of the text are such. -/
def Only (allowed : Char → Prop) (s : String) : Prop := ∀ c ∈ s.toList, allowed c

instance (allowed : Char → Prop) [DecidablePred allowed] (s : String) :
    Decidable (Only allowed s) := List.decidableBAll allowed s.toList

/-- The characters that are written around names outside of types. -/
def isFrame (c : Char) : Bool := c.isAlpha || " ().,;=".toList.contains c

def Framed (allowed : Char → Prop) : Prop := ∀ c, isFrame c = true → allowed c

section Only

variable {allowed : Char → Prop} {s t : String}

theorem only_append : Only allowed (s ++ t) ↔ Only allowed s ∧ Only allowed t := by
  rw [Only, String.toList_append, List.forall_mem_append, Only, Only]

theorem only_intercalate {separator : String} {l : List String}
    (hseparator : Only allowed separator) (h : ∀ s ∈ l, Only allowed s) : Only allowed (String.intercalate separator l) := by
  induction l with
  | nil =>
    rw [String.intercalate_nil]
    exact List.forall_mem_nil _
  | cons s l ih =>
    obtain ⟨hs, hl⟩ := List.forall_mem_cons.mp h
    cases l with
    | nil => rwa [String.intercalate_singleton]
    | cons t l =>
      rw [String.intercalate_cons_cons, only_append, only_append]
      exact ⟨⟨hs, hseparator⟩, ih hl⟩

/-- A text of the frame is looked through character by character. -/
theorem Framed.only (h : Framed allowed) (hs : s.toList.all isFrame = true) : Only allowed s :=
  fun c hc => h c (List.all_eq_true.mp hs c hc)

/-- No sign of a list is in the frame. -/
theorem framed_of_all {signs : List Char} (h : signs.all (fun c => !isFrame c) = true) :
    Framed (· ∉ signs) := by
  intro c hc hmem
  have hsign := List.all_eq_true.mp h c hmem
  rw [hc] at hsign
  cases hsign

/-- No sign of a list is in an identifier. -/
theorem only_of_isIdentifier {signs : List Char}
    (h : signs.all (fun c => !continuesIdentifier c) = true) (hs : isIdentifier s = true) :
    Only (· ∉ signs) s :=
  fun c hc => not_mem_of_continues h (continuesIdentifier_of_mem hs c hc)

/-- A package is written in identifiers and dots. -/
theorem only_of_isPackage (hframe : Framed allowed)
    (h : ∀ s, isIdentifier s = true → Only allowed s) (hs : isPackage s = true) :
    Only allowed s := by
  rw [isPackage, Bool.or_eq_true, String.isEmpty_iff, List.all_eq_true] at hs
  obtain rfl | hsegments := hs
  · exact List.forall_mem_nil _
  · rw [← Text.intercalate_separated '.' s]
    exact only_intercalate (hframe.only (by decide)) fun segment hsegment =>
      h segment (hsegments segment hsegment)

end Only

/-! ## Declarations -/

/-- All names of the property are written in such characters, and so is its type. -/
structure Written (allowed : Char → Prop) (p : Property) : Prop
    extends p.Names (Only allowed) where
  angles : p.type.isList = true → allowed '<' ∧ allowed '>'

section Declarations

variable {allowed : Char → Prop} {style : Style} {p : Property} {name : String}

theorem only_modified (hframe : Framed allowed) {modifiers : List Modifier} {declared : String}
    (h : Only allowed declared) : Only allowed (modified modifiers declared) := by
  apply only_intercalate (hframe.only (by decide))
  rw [List.forall_mem_append, List.forall_mem_map]
  refine ⟨fun m _ => hframe.only ?_, List.forall_mem_singleton.mpr h⟩
  cases m <;> decide

/-- Both spellings, since a list changes from one to the other. -/
theorem only_types (hframe : Framed allowed) {type : ValueType}
    (h : ∀ name ∈ type.className?, Only allowed name)
    (hangles : type.isList = true → allowed '<' ∧ allowed '>') :
    Only allowed (plainType type) ∧ Only allowed (boxedType type) := by
  induction type with
  | scalar kind => cases kind <;> exact ⟨hframe.only (by decide), hframe.only (by decide)⟩
  | named name => exact ⟨h name rfl, h name rfl⟩
  | list element ih =>
    obtain ⟨hopen, hclose⟩ := hangles rfl
    have hangle : ∀ {c : Char}, allowed c → Only allowed (String.singleton c) := by
      intro c hc
      rw [Only, String.toList_singleton]
      exact List.forall_mem_singleton.mpr hc
    have hlist : Only allowed ("List" ++ String.singleton '<' ++ boxedType element ++
        String.singleton '>') := by
      simp +decide only [only_append, hframe.only, hangle hopen, hangle hclose,
        (ih h fun _ => ⟨hopen, hclose⟩).2]
    exact ⟨hlist, hlist⟩

theorem only_plainType (hframe : Framed allowed) (h : Written allowed p) :
    Only allowed (plainType p.type) := (only_types hframe h.reference h.angles).1

theorem only_fieldLine (hframe : Framed allowed) (h : Written allowed p) :
    Only allowed (fieldLine style p) := by
  have htype : Only allowed (modified style.fieldModifiers (plainType p.type)) :=
    only_modified hframe (only_plainType hframe h)
  simp +decide only [fieldLine, only_append, htype, h.field, hframe.only]

theorem only_assignment (hframe : Framed allowed) (h : Written allowed p) :
    Only allowed (assignment p) := by
  simp +decide only [assignment, only_append, h.field, h.parameter, hframe.only]

theorem only_builderAssignment (hframe : Framed allowed) (h : Written allowed p) :
    Only allowed (builderAssignment p) := by
  simp +decide only [builderAssignment, only_append, h.field, hframe.only]

theorem only_parameter (hframe : Framed allowed) (h : Written allowed p) :
    Only allowed (parameter p) := by
  simp +decide only [parameter, only_append, only_plainType hframe h, h.parameter, hframe.only]

theorem only_constructorHeader (hframe : Framed allowed) (hname : Only allowed name)
    {parameters : List String} (h : ∀ s ∈ parameters, Only allowed s) :
    Only allowed (constructorHeader name parameters) := by
  have hparameters := only_intercalate (hframe.only (by decide) : Only allowed ", ") h
  simp +decide only [constructorHeader, only_append, hname, hparameters, hframe.only]

end Declarations
end Java
end JsonClasses
