import Mathlib
import JsonClasses.Proofs.ClassTree.Numbered
import JsonClasses.Proofs.ClassTree.TypeTree
import JsonClasses.Proofs.Generator.Outcome
import JsonClasses.Proofs.Java.Injective
import JsonClasses.Proofs.Naming.OneWord

/-!
# Methods that every object has

A generated method redeclares one of them if it has the same name and the same parameter types. The
first words of getters and setters leave only `getClass`, and the types of values only
`equals(Object)`; each comes from keys of one word.
-/
namespace JsonClasses

namespace Java

/-- The name of a method and the types of its parameters. -/
def Method.signature (m : Method) : String × List String := (m.name, m.parameters.map (·.1))

@[simp] theorem signature_ofGetter (p : Property) (name : String) :
    (Method.ofGetter p name).signature = (name, []) := rfl

@[simp] theorem signature_ofSetter (p : Property) (name : String) :
    (Method.ofSetter p name).signature = (name, [plainType p.type]) := rfl

@[simp] theorem signature_ofBuilderMethod (p : Property) (name : String) :
    (Method.ofBuilderMethod p name).signature = (name, [plainType p.type]) := rfl

@[simp] theorem signature_build (className : String) :
    (Method.build className).signature = ("build", []) := rfl

/-- The signatures of the methods that every object has. -/
def objectSignatures : List (String × List String) :=
  [("getClass", []), ("hashCode", []), ("toString", []), ("notify", []), ("notifyAll", []),
   ("wait", []), ("clone", []), ("finalize", []), ("equals", ["Object"]), ("wait", ["long"]),
   ("wait", ["long", "int"])]

end Java

/-- The methods that are declared in the class and in its builder. -/
def ClassTree.methods (c : ClassTree) : List Java.Method :=
  c.properties.flatMap Java.accessorMethods ++
    if c.style.hasBuilder then Java.builderMethods c.name c.properties else []

/-- Whether a property with these words is read by `getClass()`. -/
def Settings.readsClass (settings : Settings) (words : List String) (type : ValueType) : Prop :=
  settings.naming.method = .lowerCamel ∧ type.isBoolean = false ∧
    words.map Text.capitalize = ["Class"]

/-- Whether a property with these words is set by `equals(Object)` in a builder. -/
def Settings.buildsEquals (settings : Settings) (words : List String) (type : ValueType) : Prop :=
  settings.style.hasBuilder = true ∧
    settings.naming.method ∈ [Spelling.lowerCamel, .lowerSnake, .kebab] ∧
    type = .anyObject ∧ words.map Text.lower = ["equals"]

/-- Whether a property with these words redeclares a method of every object. -/
def Settings.redeclares (settings : Settings) (words : List String) (type : ValueType) : Prop :=
  settings.readsClass words type ∨ settings.buildsEquals words type

/-! ## Names -/

namespace Spelling

variable {spelling : Spelling} {words : List String} {type : ValueType}

theorem join_following_lowerCamel (words : List String) :
    String.join (words.map lowerCamel.following) = upperCamel.join words := by
  have hfollowing : lowerCamel.following = Text.capitalize := by
    funext word
    rw [following, separator, String.empty_append]
    rfl
  rw [hfollowing, join]

/-- Behind a separator no capital follows, and in other spellings the verb is not small. -/
theorem join_get_eq_iff (hne : words ≠ []) :
    spelling.join ("get" :: words) = "getClass" ↔
      spelling = lowerCamel ∧ upperCamel.join words = "Class" := by
  have hlower : Text.lower "get" = "get" := by decide
  have hcapital : Text.capitalize "get" = "Get" := by decide
  have hupper : Text.upper "get" = "GET" := by decide
  obtain ⟨first, rest, rfl⟩ := List.exists_cons_of_ne_nil hne
  rw [join_cons]
  -- One spelling alone has a capital behind small letters.
  cases spelling with
  | lowerCamel =>
    rw [join_following_lowerCamel, opening, hlower, show "getClass" = "get" ++ "Class" from rfl,
      String.append_right_inj]
    simp
  | upperCamel =>
    rw [opening, hcapital]
    simp [String.ext_iff]
  | upperSnake =>
    rw [opening, hupper]
    simp [String.ext_iff]
  | lowerSnake | kebab =>
    rw [opening, hlower, List.map_cons, String.join_cons, following, separator]
    simp [String.ext_iff]

/-- Capitals start the words, so that the small letters behind one belong to one word. -/
theorem join_upperCamel_eq_iff {c : Char} {cs : List Char} {name : String}
    (hname : name.toList = c :: cs) (hlower : cs.all Char.isLower = true)
    (hwords : ∀ w ∈ words, Words.IsWord w) :
    upperCamel.join words = name ↔ words.map Text.capitalize = [name] := by
  cases words with
  | nil =>
    constructor
    · rintro rfl
      cases hname
    · simp
  | cons first rest =>
    obtain ⟨hfirst, hrest⟩ := List.forall_mem_cons.mp hwords
    have hcs : ∀ d ∈ name.toList.tail, d.isLower = true := by
      rw [hname]
      exact List.all_eq_true.mp hlower
    rw [join_eq_iff hfirst hrest hcs, opening, List.map_cons, List.cons.injEq,
      List.map_eq_nil_iff, and_comm]

theorem join_eq_iff_map_lower {c : Char} {cs : List Char} {name : String}
    (hname : name.toList = c :: cs) (hlower : (c :: cs).all Char.isLower = true)
    (hwords : ∀ w ∈ words, Words.IsWord w) :
    spelling.join words = name ↔
      spelling ∈ [lowerCamel, lowerSnake, kebab] ∧ words.map Text.lower = [name] := by
  cases words with
  | nil =>
    have hnil : spelling.join [] = "" := by cases spelling <;> rfl
    rw [hnil]
    constructor
    · rintro rfl
      cases hname
    · simp
  | cons first rest =>
    obtain ⟨hfirst, hrest⟩ := List.forall_mem_cons.mp hwords
    obtain ⟨hc, htail⟩ := List.forall_mem_cons.mp (List.all_eq_true.mp hlower)
    have hcs : ∀ d ∈ name.toList.tail, d.isLower = true := by
      rw [hname]
      exact htail
    rw [join_eq_iff hfirst hrest hcs, List.map_cons, List.cons.injEq, List.map_eq_nil_iff]
    -- Where a word opens with a capital, no small letter stands in front.
    cases spelling with
    | lowerCamel | lowerSnake | kebab => simp [opening, and_comm]
    | upperCamel =>
      have hne : upperCamel.opening first ≠ name :=
        opening_ne_of_head_isLower hfirst (.inl rfl) hname hc
      simp [hne]
    | upperSnake =>
      have hne : upperSnake.opening first ≠ name :=
        opening_ne_of_head_isLower hfirst (.inr rfl) hname hc
      simp [hne]

end Spelling

/-! ## Members -/

namespace Java

variable {settings : Settings} {spelling : Spelling} {words : List String} {key : String}
  {type : ValueType} {p : Property}

/-- No method of every object starts like `is` or `set`. -/
theorem head?_ne_of_mem_objectSignatures {name : String} {types : List String} {c : Char}
    (h : (name, types) ∈ objectSignatures) (hc : c ∈ ['i', 'I', 's']) :
    name.toList.head? ≠ some c.toLower ∧ name.toList.head? ≠ some c.toUpper := by
  have htable : objectSignatures.all (fun s => ['i', 'I', 's'].all fun c =>
      s.1.toList.head? != some c.toLower && s.1.toList.head? != some c.toUpper) = true := by decide
  simp only [List.all_eq_true, Bool.and_eq_true, bne_iff_ne] at htable
  exact htable _ h c hc

theorem eq_getClass_of_head? {name : String} {types : List String}
    (h : (name, types) ∈ objectSignatures)
    (hhead : name.toList.head? = some 'g' ∨ name.toList.head? = some 'G') : name = "getClass" := by
  have htable : ∀ s ∈ objectSignatures, s.1.toList.head? = some 'g' ∨
      s.1.toList.head? = some 'G' → s.1 = "getClass" := by decide
  exact htable _ h hhead

theorem not_mem_objectSignatures {first : String} {c : Char} {cs : List Char} (rest : List String)
    (types : List String) (hfirst : first.toList = c :: cs) (hc : c ∈ ['i', 'I', 's']) :
    (spelling.identifier (first :: rest), types) ∉ objectSignatures := by
  obtain ⟨head, hhead, hcase⟩ :=
    Member.exists_head_identifier spelling rest hfirst (List.mem_cons_of_mem 'g' hc)
  intro hmem
  obtain ⟨hlower, hupper⟩ := head?_ne_of_mem_objectSignatures hmem hc
  obtain rfl | rfl := hcase
  · exact hlower hhead
  · exact hupper hhead

theorem identifier_getterWords_mem_iff (hne : words ≠ [])
    (hwords : ∀ w ∈ words, Words.IsWord w) :
    (spelling.identifier (Member.getterWords words type), []) ∈ objectSignatures ↔
      spelling = .lowerCamel ∧ type.isBoolean = false ∧
        words.map Text.capitalize = ["Class"] := by
  -- The getter of a boolean starts with `is`, and no method of every object does.
  cases hboolean : type.isBoolean with
  | true =>
    obtain ⟨first, rest, hgetter, c, cs, hfirst, hc⟩ :=
      Member.exists_head_getterWords_of_isBoolean words hboolean
    have hnone : (spelling.identifier (first :: rest), []) ∉ objectSignatures :=
      not_mem_objectSignatures rest [] hfirst (List.mem_append_left ['s'] hc)
    rw [hgetter]
    simp [hnone]
  | false =>
    obtain ⟨head, hhead, hcase⟩ := Member.exists_head_identifier spelling words
      (show "get".toList = 'g' :: ['e', 't'] from rfl) (by decide)
    have hmem : (spelling.identifier ("get" :: words), []) ∈ objectSignatures ↔
        spelling.identifier ("get" :: words) = "getClass" := by
      constructor
      · intro hmem
        apply eq_getClass_of_head? hmem
        obtain rfl | rfl := hcase
        · exact .inl hhead
        · exact .inr hhead
      · intro hname
        rw [hname]
        decide
    rw [Member.getterWords_of_not_isBoolean words hboolean, hmem,
      Spelling.identifier_eq_iff (by decide) (by decide), Spelling.join_get_eq_iff hne,
      Spelling.join_upperCamel_eq_iff (show "Class".toList = 'C' :: ['l', 'a', 's', 's'] from rfl)
        (by decide) hwords]
    simp

/-- No sample has whole numbers, so of the methods with one parameter only `equals` is left. -/
theorem identifier_mem_iff {style : Style} (hwords : ∀ w ∈ words, Words.IsWord w)
    (htype : Refers style type) (hwhole : type ≠ .scalar .integer) :
    (spelling.identifier words, [plainType type]) ∈ objectSignatures ↔
      spelling ∈ [.lowerCamel, .lowerSnake, .kebab] ∧ type = .anyObject ∧
        words.map Text.lower = ["equals"] := by
  have hspelled : ∀ kind, plainType type = plainType (.scalar kind) ↔ type = .scalar kind := by
    intro kind
    constructor
    · intro heq
      exact plainType_injective htype (fun name hname => by cases hname) heq
    · rintro rfl
      rfl
  have hobject : plainType type = "Object" ↔ type = .anyObject := hspelled .object
  have hlong : plainType type ≠ "long" := fun heq => hwhole ((hspelled .integer).mp heq)
  -- What is left of the table with one parameter is `equals(Object)` and `wait(long)`.
  have hmem : (spelling.identifier words, [plainType type]) ∈ objectSignatures ↔
      spelling.identifier words = "equals" ∧ type = .anyObject := by
    rw [← hobject]
    simp [objectSignatures, hlong]
  rw [hmem, Spelling.identifier_eq_iff (by decide) (by decide),
    Spelling.join_eq_iff_map_lower
      (show "equals".toList = 'e' :: ['q', 'u', 'a', 'l', 's'] from rfl) (by decide) hwords,
    and_assoc, and_congr_right_iff]
  exact fun _ => and_comm

/-! ### Methods of a property -/

theorem exists_accessor_iff (hp : p = .ofWords settings.naming settings.style key type words)
    (hne : words ≠ []) (hwords : ∀ w ∈ words, Words.IsWord w) :
    (∃ m ∈ accessorMethods p, m.signature ∈ objectSignatures) ↔
      settings.readsClass words type := by
  subst hp
  -- No method of every object starts with `set`.
  have hsetter (types : List String) :
      (settings.naming.method.identifier ("set" :: words), types) ∉ objectSignatures :=
    not_mem_objectSignatures words types (show "set".toList = 's' :: ['e', 't'] from rfl)
      (by decide)
  unfold Settings.readsClass
  rw [← identifier_getterWords_mem_iff hne hwords]
  constructor
  · rintro ⟨m, hm, hmem⟩
    obtain hm | hm := List.mem_append.mp hm
    · obtain ⟨name, hname, rfl⟩ := List.mem_map.mp hm
      obtain rfl := Option.some.inj (Option.mem_toList.mp hname)
      rwa [signature_ofGetter] at hmem
    · obtain ⟨name, hname, rfl⟩ := List.mem_map.mp hm
      obtain ⟨_, hname⟩ := Option.ite_none_right_eq_some.mp (Option.mem_toList.mp hname)
      obtain rfl := Option.some.inj hname
      rw [signature_ofSetter] at hmem
      exact absurd hmem (hsetter _)
  · intro hmem
    refine ⟨_, List.mem_append_left _ List.mem_cons_self, ?_⟩
    rwa [signature_ofGetter]

theorem exists_building_iff (hp : p = .ofWords settings.naming settings.style key type words)
    (hwords : ∀ w ∈ words, Words.IsWord w) (htype : Refers settings.style type)
    (hwhole : type ≠ .scalar .integer) :
    (∃ m ∈ buildingMethods p, m.signature ∈ objectSignatures) ↔
      settings.buildsEquals words type := by
  subst hp
  unfold Settings.buildsEquals
  rw [← identifier_mem_iff hwords htype hwhole]
  -- The only building method is the one named like the property.
  constructor
  · rintro ⟨m, hm, hmem⟩
    obtain ⟨name, hname, rfl⟩ := List.mem_map.mp hm
    obtain ⟨hbuilder, hname⟩ := Option.ite_none_right_eq_some.mp (Option.mem_toList.mp hname)
    obtain rfl := Option.some.inj hname
    rw [signature_ofBuilderMethod] at hmem
    exact ⟨hbuilder, hmem⟩
  · rintro ⟨hbuilder, hmem⟩
    refine ⟨_, List.mem_map_of_mem (Option.mem_toList.mpr (if_pos hbuilder)), ?_⟩
    rwa [signature_ofBuilderMethod]

end Java

/-! ## Classes -/

variable {settings : Settings} {p : Property}

/-- A number behind the words of the key is one word too many. -/
theorem Settings.redeclares.length_eq_one {words : List String} {type : ValueType}
    (h : settings.redeclares words type) : words.length = 1 := by
  obtain ⟨_, _, hwords⟩ | ⟨_, _, _, hwords⟩ := h
  · simpa using congrArg List.length hwords
  · simpa using congrArg List.length hwords

/-- Whether the property got its names from its key, without a number behind it. -/
def Property.keepsKey (settings : Settings) (p : Property) : Prop :=
  p = .ofWords settings.naming settings.style p.key p.type (Words.split p.key)

theorem Property.Numbered.exists_redeclares_iff (h : p.Numbered settings.naming settings.style)
    (htype : Java.Refers settings.style p.type) (hwhole : p.type ≠ .scalar .integer) :
    (∃ m ∈ Java.accessorMethods p ++ Java.buildingMethods p,
        m.signature ∈ Java.objectSignatures) ↔
      settings.redeclares (Words.split p.key) p.type ∧ p.keepsKey settings := by
  have hmade : ∀ words : List String, words ≠ [] → (∀ w ∈ words, Words.IsWord w) →
      p = .ofWords settings.naming settings.style p.key p.type words →
      ((∃ m ∈ Java.accessorMethods p ++ Java.buildingMethods p,
        m.signature ∈ Java.objectSignatures) ↔ settings.redeclares words p.type) := by
    intro words hne hwords hp
    have haccessor := Java.exists_accessor_iff hp hne hwords
    have hbuilding := Java.exists_building_iff hp hwords htype hwhole
    simp only [List.mem_append, or_and_right, exists_or, Settings.redeclares]
    exact or_congr haccessor hbuilding
  obtain ⟨hkey, n, hp⟩ := h
  constructor
  -- The names are those of some candidate; only the key itself has a single word.
  · intro hredeclares
    have hcandidate : ∀ w ∈ Words.split p.key ++ Words.suffixOf n, Words.IsWord w := by
      rw [← Words.split_nth]
      exact fun w hw => Words.isWord_of_mem_split hw
    have hwords := (hmade _ (List.append_ne_nil_of_left_ne_nil hkey _) hcandidate hp).mp hredeclares
    have hlength := hwords.length_eq_one
    have hsuffix : Words.suffixOf n = [] := by
      have hpositive := List.length_pos_of_ne_nil hkey
      rw [List.length_append] at hlength
      exact List.eq_nil_of_length_eq_zero (by omega)
    rw [hsuffix, List.append_nil] at hwords hp
    exact ⟨hwords, hp⟩
  · rintro ⟨hredeclares, hp⟩
    exact (hmade _ hkey (fun w hw => Words.isWord_of_mem_split hw) hp).mpr hredeclares

/-- No sample tells that a number is whole. -/
theorem ValueType.Fits.ne_integer {type : ValueType} {value : Json} (h : type.Fits value) :
    type ≠ .scalar .integer := by
  rintro rfl
  obtain ⟨_, hinnermost⟩ := h
  revert hinnermost
  cases value.reached? with
  | none => simp [ValueType.innermost]
  | some leaf => cases leaf <;> simp [Json.scalar?, ValueType.innermost]

namespace ClassTree

theorem exists_redeclares_iff {c : ClassTree} (hstyle : c.style = settings.style)
    (hproperties : ∀ p ∈ c.properties, p.Numbered settings.naming settings.style ∧
      Java.Refers settings.style p.type ∧ p.type ≠ .scalar .integer) :
    (∃ m ∈ c.methods, m.signature ∈ Java.objectSignatures) ↔
      ∃ p ∈ c.properties, settings.redeclares (Words.split p.key) p.type ∧
        p.keepsKey settings := by
  have hbuild : (Java.Method.build c.name).signature ∉ Java.objectSignatures := by
    rw [Java.signature_build]
    decide
  constructor
  · rintro ⟨m, hm, hmem⟩
    obtain ⟨p, hp, hm⟩ : ∃ p ∈ c.properties,
        m ∈ Java.accessorMethods p ++ Java.buildingMethods p := by
      obtain hm | hm := List.mem_append.mp hm
      · obtain ⟨p, hp, hm⟩ := List.mem_flatMap.mp hm
        exact ⟨p, hp, List.mem_append_left _ hm⟩
      · split at hm
        · obtain hm | hm := List.mem_append.mp hm
          · obtain ⟨p, hp, hm⟩ := List.mem_flatMap.mp hm
            exact ⟨p, hp, List.mem_append_right _ hm⟩
          · rw [List.mem_singleton.mp hm] at hmem
            exact absurd hmem hbuild
        · cases hm
    obtain ⟨hnumbered, hrefers, hwhole⟩ := hproperties p hp
    exact ⟨p, hp, (hnumbered.exists_redeclares_iff hrefers hwhole).mp ⟨m, hm, hmem⟩⟩
  · rintro ⟨p, hp, hredeclares⟩
    obtain ⟨hnumbered, hrefers, hwhole⟩ := hproperties p hp
    obtain ⟨m, hm, hmem⟩ := (hnumbered.exists_redeclares_iff hrefers hwhole).mpr hredeclares
    refine ⟨m, ?_, hmem⟩
    obtain hm | hm := List.mem_append.mp hm
    · exact List.mem_append_left _ (List.mem_flatMap.mpr ⟨p, hp, hm⟩)
    -- A property has a method in the builder only if there is a builder.
    · have hbuilder : c.style.hasBuilder = true := by
        rw [hstyle]
        obtain ⟨name, hname, _⟩ := List.mem_map.mp hm
        obtain ⟨_, n, hwords⟩ := hnumbered
        rw [hwords] at hname
        exact (Option.ite_none_right_eq_some.mp (Option.mem_toList.mp hname)).1
      apply List.mem_append_right
      rw [if_pos hbuilder]
      exact List.mem_append_left _ (List.mem_flatMap.mpr ⟨p, hp, hm⟩)

end ClassTree

/-! ## Sources -/

open ClassTree

variable {reader : String → Except Json.SyntaxError Json} {package className text source : String}

/-- A source redeclares a method of every object where a key of one word asks for its name, and
nowhere else. -/
theorem generate_redeclares_iff
    (h : (Generator.ofReader reader settings).generate package className text = .ok source) :
    ∃ sample tree,
      reader text = .ok sample ∧
      ofSample (.ofSpellings settings.naming) settings.style className sample = .ok tree ∧
      source = (Java.Page.blank.putItems (Java.fileItems package tree)).text ∧
      ∀ c ∈ tree.subtrees, (∃ m ∈ c.methods, m.signature ∈ Java.objectSignatures) ↔
        ∃ p ∈ c.properties, settings.redeclares (Words.split p.key) p.type ∧
          p.keepsKey settings := by
  obtain ⟨sample, tree, hread, htree, hrender⟩ := exists_of_generate h
  have hlegal := ofSample_legal (Namers.ofSpellings_legal settings.naming) htree
  have hsource := ((Java.render_eq_ok_iff hlegal).mp hrender).2
  refine ⟨sample, tree, hread, htree, hsource, fun c hc => ?_⟩
  obtain ⟨hstyle, hdescribed⟩ := ofSample_described htree c hc
  obtain ⟨entries, hmirrors⟩ := (mirrors_of_ofSample htree).exists_entries_of_subtree c hc
  apply exists_redeclares_iff hstyle
  intro p hp
  obtain ⟨j, hj⟩ := List.mem_iff_getElem?.mp hp
  obtain ⟨entry, _, _, hfits⟩ := hmirrors.fits hj
  exact ⟨ofSample_numbered htree c hc p hp, (hdescribed p hp).refers, hfits.ne_integer⟩

/-- In a builder the key `equals` redeclares the method of that name, since its value is unknown. -/
theorem generate_redeclares_iff_equals :
    ∃ source tree,
      (Generator.ofReader Json.read { style := .builder }).generate "" "Root"
        "\x7b\"equals\": null\x7d" = .ok source ∧
      ofSample (.ofSpellings {}) .builder "Root" (.object [("equals", .null)]) = .ok tree ∧
      ∃ m ∈ tree.methods, m.signature ∈ Java.objectSignatures := by
  have hread : Json.read "\x7b\"equals\": null\x7d" = .ok (.object [("equals", .null)]) := by cbv
  have htree : ofSample (.ofSpellings {}) .builder "Root" (.object [("equals", .null)]) =
      .ok ⟨"Root", [.publicAccess], .builder,
        [⟨"equals", .anyObject, "equals", "equals", some "getEquals", none, some "equals"⟩], []⟩ :=
    rfl
  obtain ⟨source, hgenerate⟩ : ∃ source, (Generator.ofReader Json.read
      { style := .builder }).generate "" "Root" "\x7b\"equals\": null\x7d" = .ok source := by
    have hpackage : Java.isPackage "" = true := by decide +kernel
    rw [generate_of_read hread, htree, Except.bind, Java.render, Java.checkPackage, if_pos hpackage]
    exact ⟨_, rfl⟩
  obtain ⟨sample, tree, hsample, hmade, _, hclasses⟩ := generate_redeclares_iff hgenerate
  obtain rfl := Except.ok.inj (hread.symm.trans hsample)
  obtain rfl := Except.ok.inj (htree.symm.trans hmade)
  refine ⟨source, _, hgenerate, htree, ?_⟩
  rw [hclasses _ (by rw [subtrees_eq]; exact List.mem_cons_self)]
  refine ⟨_, List.mem_singleton_self _, .inr ⟨rfl, by decide, rfl, by decide +kernel⟩, ?_⟩
  unfold Property.keepsKey
  decide +kernel

/-- A key that is a keyword: as a field it is repaired, behind the verb of a getter it is not. -/
theorem generate_getClass :
    ∃ tree,
      (Generator.ofReader Json.read {}).generate "" "Root" "\x7b\"class\": \"x\"\x7d" = .ok
        ("public class Root \x7b\n    private final String class_;\n\n" ++
          "    public Root(String class_) \x7b\n        this.class_ = class_;\n    \x7d\n\n" ++
          "    public String getClass() \x7b\n        return class_;\n    \x7d\n\x7d\n") ∧
      ofSample (.ofSpellings {}) .model "Root" (.object [("class", .text "x")]) = .ok tree ∧
      ∃ m ∈ tree.methods, m.signature ∈ Java.objectSignatures := by
  have hread : Json.read "\x7b\"class\": \"x\"\x7d" = .ok (.object [("class", .text "x")]) := by cbv
  have htree : ofSample (.ofSpellings {}) .model "Root" (.object [("class", .text "x")]) =
      .ok ⟨"Root", [.publicAccess], .model,
        [⟨"class", .scalar .string, "class_", "class_", some "getClass", none, none⟩], []⟩ := rfl
  refine ⟨_, ?_, htree, ?_⟩
  · rw [generate_of_read hread, htree]
    cbv
  · decide

end JsonClasses
