import JsonClasses.Proofs.ClassTree.Members
import JsonClasses.Proofs.ClassTree.Run

/-!
# Legal names

Where every namer makes identifiers, all names in a tree are identifiers: those of the classes, of
the members and in the types. The standard namers make identifiers.
-/
namespace JsonClasses

/-! ## Namers -/

/-- Every name that the namer makes is an identifier. -/
def Namer.Legal (namer : Namer) : Prop :=
  ∀ ⦃raw : String⦄ ⦃type : ValueType⦄ ⦃name : String⦄,
    namer raw type = .ok name → Java.isIdentifier name = true

theorem Namer.standard_legal (role : Role) (spelling : Spelling) :
    (Namer.standard role spelling).Legal := by
  intro raw type name h
  by_cases hraw : Words.split raw = []
  · rw [Namer.standard_eq_error type hraw] at h
    cases h
  · rw [Namer.standard_eq_ok type hraw] at h
    obtain rfl := Except.ok.inj h
    exact Java.isIdentifier_repair (Member.join_words_ne_nil spelling .field type hraw)

structure Namers.Legal (namers : Namers) : Prop where
  className : namers.className.Legal
  field : namers.field.Legal
  method : namers.method.Legal
  parameter : namers.parameter.Legal

theorem Namers.ofSpellings_legal (spellings : Spellings) : (Namers.ofSpellings spellings).Legal where
  className := Namer.standard_legal .className spellings.className
  field := Namer.standard_legal .field spellings.field
  method := Namer.standard_legal .method spellings.method
  parameter := Namer.standard_legal .parameter spellings.parameter

/-! ## Classes -/

structure Property.Legal (p : Property) : Prop where
  reference : ∀ name ∈ p.type.className?, Java.isIdentifier name = true
  field : Java.isIdentifier p.field = true
  parameter : Java.isIdentifier p.parameter = true
  getter : ∀ name ∈ p.getter, Java.isIdentifier name = true
  setter : ∀ name ∈ p.setter, Java.isIdentifier name = true
  builderMethod : ∀ name ∈ p.builderMethod, Java.isIdentifier name = true

structure ClassTree.Legal (c : ClassTree) : Prop where
  name : Java.isIdentifier c.name = true
  properties : ∀ p ∈ c.properties, p.Legal

/-- The same of a class under construction and of the classes inside those nested in it. -/
structure Draft.Legal (draft : Draft) : Prop where
  namers : draft.namers.Legal
  name : Java.isIdentifier draft.name = true
  properties : ∀ p ∈ draft.properties, p.Legal
  inside : ∀ inner ∈ draft.nested, ∀ c ∈ inner.subtrees, c.Legal

namespace Draft

variable {draft : Draft} {key raw : String} {type : ValueType}

theorem nameWhen_legal {wanted : Bool} {namer : Namer} {found : Option String}
    (hnamer : namer.Legal) (h : nameWhen wanted (namer raw type) = .ok found) :
    ∀ name ∈ found, Java.isIdentifier name = true := by
  intro name hname
  cases wanted with
  | false =>
    obtain rfl : none = found := Except.ok.inj h
    cases hname
  | true =>
    cases hmade : namer raw type with
    | error e =>
      rw [hmade] at h
      cases h
    | ok made =>
      rw [hmade] at h
      obtain rfl : some made = found := Except.ok.inj h
      obtain rfl := Option.some.inj hname
      exact hnamer hmade

theorem propertyFrom_legal {property : Property} (hnamers : draft.namers.Legal)
    (htype : ∀ name ∈ type.className?, Java.isIdentifier name = true)
    (h : draft.propertyFrom key type raw = .ok property) : property.Legal := by
  obtain ⟨_, rfl, hfield, hparameter, hgetter, hsetter, hbuilder⟩ := propertyFrom_eq_ok_iff.mp h
  exact ⟨htype, hnamers.field hfield, hnamers.parameter hparameter,
    nameWhen_legal hnamers.method hgetter, nameWhen_legal hnamers.method hsetter,
    nameWhen_legal hnamers.method hbuilder⟩

namespace Legal

theorem subtrees (h : draft.Legal) : ∀ c ∈ draft.toTree.subtrees, c.Legal := by
  intro c hc
  rw [ClassTree.subtrees_eq, List.mem_cons, ClassTree.mem_subtreesOf] at hc
  obtain rfl | ⟨inner, hinner, hc⟩ := hc
  · exact ⟨h.name, h.properties⟩
  · exact h.inside inner hinner c hc

theorem inner (h : draft.Legal) {name : String} (hname : Java.isIdentifier name = true) :
    (draft.inner name).Legal where
  namers := h.namers
  name := hname
  properties := List.forall_mem_nil _
  inside := List.forall_mem_nil _

theorem withNested (h : draft.Legal) {inner : Draft} (hinner : inner.Legal) :
    (draft.withNested inner.toTree).Legal where
  namers := h.namers
  name := h.name
  properties := h.properties
  inside := List.forall_mem_append.mpr ⟨h.inside, List.forall_mem_singleton.mpr hinner.subtrees⟩

theorem of_withProperty (h : draft.Legal) {next : Draft}
    (htype : ∀ name ∈ type.className?, Java.isIdentifier name = true)
    (hnext : draft.withProperty key type = .ok next) : next.Legal := by
  obtain ⟨raw, property, hproperty, _, rfl⟩ := exists_of_withProperty hnext
  have hlegal := propertyFrom_legal h.namers htype hproperty
  exact ⟨h.namers, h.name,
    List.forall_mem_append.mpr ⟨h.properties, List.forall_mem_singleton.mpr hlegal⟩, h.inside⟩

theorem nameForNested (h : draft.Legal) {enclosing : List String} {name : String}
    (hname : draft.nameForNested enclosing key = .ok name) : Java.isIdentifier name = true := by
  obtain ⟨n, hn⟩ := Candidates.exists_derive_of_search hname
  exact h.namers.className hn

end Legal
end Draft

namespace ClassTree
open ValueType

theorem Takes.legal {enclosing : List String} {draft result : Draft}
    {entries : List (String × Json)} (h : Takes enclosing draft entries result)
    (hdraft : draft.Legal) : result.Legal := by
  induction h with
  | done => exact hdraft
  | @leaf _ _ _ _ _ value _ _ hnext _ ih =>
    apply ih
    apply hdraft.of_withProperty _ hnext
    -- The type of a leaf refers to no class.
    intro name hname
    rw [className?, innermost_lists] at hname
    cases hname
  | @object _ _ _ _ _ _ name value _ _ _ hfresh _ hnext _ ihWithin ih =>
    -- The name is made before the entries are looked at, so the inner draft starts legal.
    have hname := hdraft.nameForNested hfresh
    have hinner := ihWithin (hdraft.inner hname)
    apply ih
    apply (hdraft.withNested hinner).of_withProperty _ hnext
    intro other hother
    rw [className?, innermost_lists] at hother
    obtain rfl := Option.some.inj hother
    exact hname

/-- With namers that make identifiers every name in a tree is one. -/
theorem ofSample_legal {namers : Namers} (hnamers : namers.Legal) {style : Style} {name : String}
    {sample : Json} {tree : ClassTree} (h : ofSample namers style name sample = .ok tree) :
    ∀ c ∈ tree.subtrees, c.Legal := by
  obtain ⟨_, hname, _, draft, hdraft, rfl⟩ := ofSample_eq_ok_iff.mp h
  have hroot : (rootDraft namers style name).Legal :=
    ⟨hnamers, hname, List.forall_mem_nil _, List.forall_mem_nil _⟩
  exact (hdraft.legal hroot).subtrees

/-- The standard namers fail on a raw name without a letter or digit and on no other, and what they
make is an identifier. So are all names of a tree that they name, whatever the spellings. -/
theorem standard_identifiers :
    (∀ role spelling raw type,
      match Namer.standard role spelling raw type with
      | .ok name =>
          (∃ c ∈ raw.toList, Unicode.isAlphanumeric c = true) ∧ Java.isIdentifier name = true
      | .error e =>
          (∀ c ∈ raw.toList, Unicode.isAlphanumeric c = false) ∧ e = .unusableName raw role) ∧
      ∀ spellings style name sample tree,
        ofSample (.ofSpellings spellings) style name sample = .ok tree →
          ∀ c ∈ tree.subtrees, c.Legal := by
  constructor
  · intro role spelling raw type
    by_cases hraw : Words.split raw = []
    · rw [Namer.standard_eq_error type hraw]
      exact ⟨Words.split_eq_nil_iff.mp hraw, rfl⟩
    · have hname : Namer.standard role spelling raw type = _ := Namer.standard_eq_ok type hraw
      rw [hname]
      refine ⟨?_, Namer.standard_legal role spelling hname⟩
      rw [Words.split_eq_nil_iff] at hraw
      simpa using hraw
  · intro spellings style name sample tree htree
    exact ofSample_legal (Namers.ofSpellings_legal spellings) htree

/-- The hyphens of `kebab` become underscores, and what then reads like a keyword is none. -/
example : Namer.standard .field .kebab "do-while" .anyObject = .ok "do_while" ∧
    Namer.standard .field .kebab "Do!" .anyObject = .ok "do_" ∧
    Namer.standard .field .kebab "--" .anyObject = .error (.unusableName "--" .field) := by
  decide

end ClassTree
end JsonClasses
