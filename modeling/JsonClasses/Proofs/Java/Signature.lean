import JsonClasses.Proofs.Java.Declaration
import JsonClasses.Proofs.Java.TypeReader

/-!
# What declarations tell

Fields, parameters and methods are declared in one line each. The names and types in it are tokens,
so each of them can be read back.
-/
namespace JsonClasses.Java
open Item

/-! ## Signs -/

theorem stops_of_head {sign : String} {c : Char} (h : sign.toList.head? = some c)
    (hc : isTokenChar c = false) (rest : String) : Stops (sign ++ rest) := by
  obtain ⟨cs, hsign⟩ := List.head?_eq_some_iff.mp h
  rw [Stops, String.toList_append, hsign, List.cons_append, List.head?_cons]
  rintro d ⟨⟩
  exact hc

/-- The signs that stand between tokens. -/
theorem isTokenChar_sign : ∀ c ∈ [' ', '(', ')', ','], isTokenChar c = false := by
  -- Taken apart by hand, so that only these characters are looked at.
  simp only [List.forall_mem_cons]
  exact ⟨by decide, by decide, by decide, by decide, List.forall_mem_nil _⟩

theorem stops_blank (rest : String) : Stops (" " ++ rest) :=
  stops_of_head rfl (isTokenChar_sign ' ' (by decide)) rest

theorem stops_parenthesis (rest : String) : Stops ("(" ++ rest) :=
  stops_of_head rfl (isTokenChar_sign '(' (by decide)) rest

theorem stops_closing (rest : String) : Stops (")" ++ rest) :=
  stops_of_head rfl (isTokenChar_sign ')' (by decide)) rest

theorem stops_comma (rest : String) : Stops (", " ++ rest) :=
  stops_of_head rfl (isTokenChar_sign ',' (by decide)) rest

/-! ## Parameters -/

/-- Whether the two texts are told apart by what they start with, whatever stops them. -/
def ToldApart (s t : String) : Prop :=
  ∀ rest rest', Stops rest → Stops rest' → s ++ rest = t ++ rest' → s = t ∧ rest = rest'

theorem stops_parameters (texts : List String) :
    Stops (String.join (texts.map (", " ++ ·)) ++ ")") := by
  cases texts with
  | nil => exact stops_closing ""
  | cons text texts =>
    rw [List.map_cons, String.join_cons, String.append_assoc, String.append_assoc]
    exact stops_comma _

theorem parameters_inj {texts texts' : List String}
    (h : ∀ s ∈ texts, ∀ t ∈ texts', ToldApart s t) (hlength : texts.length = texts'.length)
    (heq : String.join (texts.map (", " ++ ·)) ++ ")" =
      String.join (texts'.map (", " ++ ·)) ++ ")") : texts = texts' := by
  induction texts generalizing texts' with
  | nil => rw [List.length_eq_zero_iff.mp hlength.symm]
  | cons s texts ih =>
    obtain ⟨t, texts', rfl⟩ := List.exists_cons_of_length_eq_add_one hlength.symm
    simp only [List.map_cons, String.join_cons, String.append_assoc] at heq
    obtain ⟨hfirst, hrest⟩ := h s (.head texts) t (.head texts') _ _ (stops_parameters texts)
      (stops_parameters texts') ((String.append_right_inj _).mp heq)
    rw [hfirst, ih (fun s hs t ht => h s (.tail _ hs) t (.tail _ ht)) (Nat.succ.inj hlength) hrest]

/-- A parameter ends at the comma or the parenthesis behind it. -/
theorem constructorHeader_inj {name : String} {texts texts' : List String}
    (h : ∀ s ∈ texts, ∀ t ∈ texts', ToldApart s t) (hlength : texts.length = texts'.length)
    (heq : constructorHeader name texts = constructorHeader name texts') : texts = texts' := by
  unfold constructorHeader at heq
  simp only [String.append_assoc, String.append_right_inj] at heq
  cases texts with
  | nil => rw [List.length_eq_zero_iff.mp hlength.symm]
  | cons s texts =>
    obtain ⟨t, texts', rfl⟩ := List.exists_cons_of_length_eq_add_one hlength.symm
    rw [Spelling.intercalate_cons, Spelling.intercalate_cons, String.append_assoc,
      String.append_assoc] at heq
    -- The first parameters agree, whatever follows them, and so the rest does.
    obtain ⟨hfirst, hrest⟩ := h s (.head texts) t (.head texts') _ _ (stops_parameters texts)
      (stops_parameters texts') heq
    have hothers := parameters_inj (fun s hs t ht => h s (.tail _ hs) t (.tail _ ht))
      (Nat.succ.inj hlength) hrest
    rw [hfirst, hothers]

/-! ## Modifiers -/

theorem modified_cons (m : Modifier) (modifiers : List Modifier) (declared : String) :
    modified (m :: modifiers) declared = m.keyword ++ (" " ++ modified modifiers declared) := by
  unfold modified
  rw [List.map_cons, List.cons_append]
  cases hrest : modifiers.map Modifier.keyword ++ [declared] with
  | nil => exact absurd hrest (List.concat_ne_nil _ _)
  | cons first others => rw [String.intercalate_cons_cons, String.append_assoc]

theorem modified_nil (declared : String) : modified [] declared = declared :=
  String.intercalate_singleton

theorem class_inj {modifiers modifiers' : List Modifier} {name name' : String}
    (h : modified modifiers ("class " ++ name) = modified modifiers' ("class " ++ name')) :
    modifiers = modifiers' ∧ name = name' := by
  have hclass : Token "class" := token_of_all (by decide +kernel)
  have hapart : ∀ m : Modifier, m.keyword ≠ "class" := fun m => by cases m <;> decide
  have hkeywords : ∀ m m' : Modifier, m.keyword = m'.keyword → m = m' :=
    fun m m' => by cases m <;> cases m' <;> decide
  have hopen : ∀ name, "class " ++ name = "class" ++ (" " ++ name) := fun name => by
    rw [← String.append_assoc]
    rfl
  -- The first token is a modifier, or it is `class` and there are no more modifiers.
  induction modifiers generalizing modifiers' with
  | nil =>
    cases modifiers' with
    | nil =>
      rw [modified_nil, modified_nil] at h
      exact ⟨rfl, (String.append_right_inj _).mp h⟩
    | cons m' modifiers' =>
      rw [modified_nil, modified_cons, hopen] at h
      exact absurd (token_inj hclass (token_keyword m') (stops_blank _) (stops_blank _) h).1.symm
        (hapart m')
  | cons m modifiers ih =>
    cases modifiers' with
    | nil =>
      rw [modified_nil, modified_cons, hopen] at h
      exact absurd (token_inj (token_keyword m) hclass (stops_blank _) (stops_blank _) h).1
        (hapart m)
    | cons m' modifiers' =>
      rw [modified_cons, modified_cons] at h
      obtain ⟨hkeyword, hrest⟩ :=
        token_inj (token_keyword m) (token_keyword m') (stops_blank _) (stops_blank _) h
      obtain ⟨hmodifiers, hname⟩ := ih ((String.append_right_inj _).mp hrest)
      rw [hkeywords m m' hkeyword, hmodifiers]
      exact ⟨rfl, hname⟩

theorem modified_inj (modifiers : List Modifier) {s t rest rest' : String} (hs : Token s)
    (ht : Token t) (hrest : Stops rest) (hrest' : Stops rest')
    (h : modified modifiers s ++ rest = modified modifiers t ++ rest') : s = t ∧ rest = rest' := by
  induction modifiers with
  | nil =>
    rw [modified_nil, modified_nil] at h
    exact token_inj hs ht hrest hrest' h
  | cons m modifiers ih =>
    rw [modified_cons, modified_cons] at h
    simp only [String.append_assoc] at h
    exact ih ((String.append_right_inj _).mp ((String.append_right_inj _).mp h))

/-- A property as a sample gives it: its type refers to classes by names that classes can have, and
it has the members of the style. -/
structure Described (style : Style) (p : Property) : Prop where
  legal : p.Legal
  refers : Refers style p.type
  getter : p.getter.isSome = true
  setter : p.setter.isSome = style.hasSetters
  builderMethod : p.builderMethod.isSome = style.hasBuilder

namespace Described

variable {style : Style} {p p' : Property} {rest rest' : String}

theorem token_type (h : Described style p) : Token (plainType p.type) :=
  (token_types h.legal.reference).1

theorem token_parameter (h : Described style p) : Token p.parameter :=
  token_of_isIdentifier h.legal.parameter

theorem type_inj (h : Described style p) (h' : Described style p')
    (heq : plainType p.type = plainType p'.type) : p.type = p'.type :=
  plainType_injective h.refers h'.refers heq

theorem fieldLine_inj (h : Described style p) (h' : Described style p')
    (heq : fieldLine style p = fieldLine style p') : p.type = p'.type ∧ p.field = p'.field := by
  unfold fieldLine at heq
  simp only [String.append_assoc] at heq
  obtain ⟨htype, hrest⟩ := modified_inj style.fieldModifiers h.token_type h'.token_type
    (stops_blank _) (stops_blank _) heq
  have hfields := (String.append_right_inj _).mp hrest
  exact ⟨h.type_inj h' htype, (String.append_left_inj _).mp hfields⟩

/-- A parameter ends where its name does. -/
theorem parameter_inj (h : Described style p) (h' : Described style p') (hrest : Stops rest)
    (hrest' : Stops rest') (heq : parameter p ++ rest = parameter p' ++ rest') :
    p.parameter = p'.parameter ∧ rest = rest' := by
  unfold parameter at heq
  simp only [String.append_assoc] at heq
  obtain ⟨_, hnames⟩ := token_inj h.token_type h'.token_type (stops_blank _) (stops_blank _) heq
  exact token_inj h.token_parameter h'.token_parameter hrest hrest'
    ((String.append_right_inj _).mp hnames)

/-- An annotation tells the key, too. -/
theorem annotatedParameter_inj (h : Described style p) (h' : Described style p')
    (hrest : Stops rest) (hrest' : Stops rest')
    (heq : annotatedParameter p ++ rest = annotatedParameter p' ++ rest') :
    p.key = p'.key ∧ p.parameter = p'.parameter ∧ rest = rest' := by
  unfold annotatedParameter at heq
  simp only [String.append_assoc] at heq
  obtain ⟨hkey, hbehind⟩ := literalOf_append_inj ((String.append_right_inj _).mp heq)
  exact ⟨hkey, h.parameter_inj h' hrest hrest' ((String.append_right_inj _).mp hbehind)⟩

theorem constructorParameter_inj (h : Described style p) (h' : Described style p')
    (hrest : Stops rest) (hrest' : Stops rest')
    (heq : constructorParameter style p ++ rest = constructorParameter style p' ++ rest') :
    p.parameter = p'.parameter ∧ (style.annotations? = some .jackson → p.key = p'.key) ∧
      rest = rest' := by
  unfold constructorParameter at heq
  split at heq
  · obtain ⟨hkey, hparameter, hbehind⟩ := h.annotatedParameter_inj h' hrest hrest' heq
    exact ⟨hparameter, fun _ => hkey, hbehind⟩
  · rename_i hplain
    obtain ⟨hparameter, hbehind⟩ := h.parameter_inj h' hrest hrest' heq
    exact ⟨hparameter, fun hjackson => absurd hjackson hplain, hbehind⟩

theorem fieldLines_inj (h : Described style p) (h' : Described style p')
    (heq : fieldLines style p = fieldLines style p') :
    p.type = p'.type ∧ p.field = p'.field ∧
      (style.annotations? = some .gson → p.key = p'.key) := by
  unfold fieldLines at heq
  split at heq
  · obtain ⟨hannotated, hrest⟩ := List.cons.inj heq
    simp only [String.append_assoc] at hannotated
    -- The literal tells where it ends, so the key can be read off the annotation.
    obtain ⟨hkey, _⟩ := literalOf_append_inj ((String.append_right_inj _).mp hannotated)
    obtain ⟨htype, hfield⟩ := h.fieldLine_inj h' (List.cons.inj hrest).1
    exact ⟨htype, hfield, fun _ => hkey⟩
  · rename_i hplain
    obtain ⟨htype, hfield⟩ := h.fieldLine_inj h' (List.cons.inj heq).1
    exact ⟨htype, hfield, fun hgson => absurd hgson hplain⟩

/-! ### Methods -/

theorem getter_inj (h : Described style p) (h' : Described style p') {name name' : String}
    (heq : (Method.ofGetter p name).header = (Method.ofGetter p' name').header) :
    name = name' := by
  rw [header_ofGetter, header_ofGetter] at heq
  simp only [String.append_assoc] at heq
  obtain ⟨_, hbehind⟩ := token_inj h.token_type h'.token_type (stops_blank _) (stops_blank _)
    ((String.append_right_inj _).mp heq)
  exact (String.append_left_inj _).mp ((String.append_right_inj _).mp hbehind)

/-- Setters and builder methods are alike but for what they return. -/
theorem method_inj (h : Described style p) (h' : Described style p') {name name' : String}
    (hname : isIdentifier name = true) (hname' : isIdentifier name' = true) {opening : String}
    (heq : opening ++ name ++ "(" ++ parameter p ++ ")" =
      opening ++ name' ++ "(" ++ parameter p' ++ ")") :
    name = name' ∧ p.parameter = p'.parameter := by
  simp only [String.append_assoc] at heq
  obtain ⟨hsame, hbehind⟩ := token_inj (token_of_isIdentifier hname)
    (token_of_isIdentifier hname') (stops_parenthesis _) (stops_parenthesis _)
    ((String.append_right_inj _).mp heq)
  have hend : Stops ")" := stops_closing ""
  obtain ⟨hparameter, _⟩ := h.parameter_inj h' hend hend ((String.append_right_inj _).mp hbehind)
  exact ⟨hsame, hparameter⟩

theorem accessors_inj (h : Described style p) (h' : Described style p')
    (heq : (accessorMethods p).map Method.item = (accessorMethods p').map Method.item) :
    p.getter = p'.getter ∧ p.setter = p'.setter ∧
      (style.hasSetters = true → p.parameter = p'.parameter) := by
  obtain ⟨getter, hgetter⟩ := Option.isSome_iff_exists.mp h.getter
  obtain ⟨getter', hgetter'⟩ := Option.isSome_iff_exists.mp h'.getter
  unfold accessorMethods at heq
  rw [hgetter, hgetter'] at heq
  obtain ⟨hfirst, hrest⟩ := List.cons.inj heq
  have hsame : getter = getter' := h.getter_inj h' (Item.block.inj hfirst).1
  have hsetter := h.setter
  have hsetter' := h'.setter
  refine ⟨by rw [hgetter, hgetter', hsame], ?_⟩
  -- A setter tells the parameter, and without setters nothing is asked of it.
  cases hset : style.hasSetters with
  | false =>
    rw [hset, Option.isSome_eq_false_iff, Option.isNone_iff_eq_none] at hsetter hsetter'
    exact ⟨hsetter.trans hsetter'.symm, fun hwritten => nomatch hwritten⟩
  | true =>
    rw [hset] at hsetter hsetter'
    obtain ⟨setter, hsetter⟩ := Option.isSome_iff_exists.mp hsetter
    obtain ⟨setter', hsetter'⟩ := Option.isSome_iff_exists.mp hsetter'
    rw [hsetter, hsetter'] at hrest
    have hheader := (Item.block.inj (List.cons.inj hrest).1).1
    rw [header_ofSetter, header_ofSetter] at hheader
    obtain ⟨hname, hparameter⟩ := h.method_inj h' (h.legal.setter setter hsetter)
      (h'.legal.setter setter' hsetter') hheader
    exact ⟨by rw [hsetter, hsetter', hname], fun _ => hparameter⟩

theorem length_accessors (h : Described style p) :
    ((accessorMethods p).map Method.item).length = (if style.hasSetters then 1 else 0) + 1 := by
  have hsetter := h.setter
  obtain ⟨getter, hgetter⟩ := Option.isSome_iff_exists.mp h.getter
  unfold accessorMethods
  cases hset : style.hasSetters with
  | false =>
    rw [hset, Option.isSome_eq_false_iff, Option.isNone_iff_eq_none] at hsetter
    rw [hgetter, hsetter]
    rfl
  | true =>
    rw [hset] at hsetter
    obtain ⟨setter, hsetter⟩ := Option.isSome_iff_exists.mp hsetter
    rw [hgetter, hsetter]
    rfl

theorem builderMethods_inj (h : Described style p) (h' : Described style p')
    (hbuilder : style.hasBuilder = true)
    (heq : (buildingMethods p).map Method.item = (buildingMethods p').map Method.item) :
    p.builderMethod = p'.builderMethod ∧ p.parameter = p'.parameter := by
  have hsome := h.builderMethod
  have hsome' := h'.builderMethod
  rw [hbuilder] at hsome hsome'
  obtain ⟨method, hmethod⟩ := Option.isSome_iff_exists.mp hsome
  obtain ⟨method', hmethod'⟩ := Option.isSome_iff_exists.mp hsome'
  unfold buildingMethods at heq
  rw [hmethod, hmethod'] at heq
  have hheader := (Item.block.inj (List.cons.inj heq).1).1
  rw [header_ofBuilderMethod, header_ofBuilderMethod] at hheader
  obtain ⟨hname, hparameter⟩ := h.method_inj h' (h.legal.builderMethod method hmethod)
    (h'.legal.builderMethod method' hmethod') hheader
  exact ⟨by rw [hmethod, hmethod', hname], hparameter⟩

theorem length_builderMethod (h : Described style p) (hbuilder : style.hasBuilder = true) :
    ((buildingMethods p).map Method.item).length = 1 := by
  have hsome := h.builderMethod
  rw [hbuilder] at hsome
  obtain ⟨method, hmethod⟩ := Option.isSome_iff_exists.mp hsome
  rw [buildingMethods, hmethod]
  rfl

theorem length_fieldLines (style : Style) (p : Property) : (fieldLines style p).length =
    (if style.annotations? = some .gson then 1 else 0) + 1 := by
  unfold fieldLines
  split <;> rfl

end Described
end JsonClasses.Java
